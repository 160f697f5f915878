/-!
# Finding and cutting text

Tests and cuts at a fixed character or a fixed piece of text.  Each works on the list of characters, by
recursion or by the library's list functions, and has a wrapper on `String`.  Searches go from left to
right and matches do not overlap.
-/

namespace ScadManual.Text

/-! ## Tests -/

/-- Does the text begin with `part`? -/
def startsWith (s part : String) : Bool :=
  part.toList.isPrefixOf s.toList

/-- What follows `part`, when the text begins with it. -/
def afterStart? (s part : String) : Option String :=
  (part.toList.isPrefixOf? s.toList).map String.ofList

/-- Does `part` occur somewhere in the characters? -/
def occursIn (part : List Char) : List Char → Bool
  | [] => part.isEmpty
  | c :: cs => part.isPrefixOf (c :: cs) || occursIn part cs

/-- Does the text hold `part`? -/
def contains (s part : String) : Bool :=
  occursIn part.toList s.toList

/-! ## Cuts at a character -/

/-- The pieces between the occurrences of `sep`; there is always at least one. -/
def splitAt (sep : Char) (s : String) : List String :=
  (s.toList.splitOn sep).map String.ofList

/-- What stands before and after the first `sep`, when there is one. -/
def cutChars? (sep : Char) : List Char → Option (List Char × List Char)
  | [] => none
  | c :: cs =>
    if c = sep then some ([], cs)
    else (cutChars? sep cs).map fun (before, after) => (c :: before, after)

/-- A cut loses the separator and nothing else. -/
theorem append_of_cutChars? {sep : Char} {cs before after : List Char}
    (h : cutChars? sep cs = some (before, after)) : before ++ sep :: after = cs := by
  induction cs generalizing before with
  | nil => simp [cutChars?] at h
  | cons c cs ih =>
    unfold cutChars? at h
    split at h
    · next hc => obtain ⟨rfl, rfl⟩ := by simpa using h
                 simp [hc]
    · obtain ⟨⟨b, a⟩, hb, he⟩ := Option.map_eq_some_iff.1 h
      obtain ⟨rfl, rfl⟩ := by simpa using he
      simp [ih hb]

/-- What follows a cut is shorter than what was cut. -/
theorem length_lt_of_cutChars? {sep : Char} {cs before after : List Char}
    (h : cutChars? sep cs = some (before, after)) : after.length < cs.length := by
  rw [← append_of_cutChars? h]
  simp only [List.length_append, List.length_cons]
  omega

/-- What stands before and after the first `sep`, when there is one. -/
def cut? (sep : Char) (s : String) : Option (String × String) :=
  (cutChars? sep s.toList).map fun (before, after) => (String.ofList before, String.ofList after)

/-- The pieces of a cut at the first occurrences of `sep`, at most `count` of them (and at least one); the
last piece keeps the remaining separators. -/
def splitUpToChars (sep : Char) : Nat → List Char → List (List Char)
  | 0, cs => [cs]
  | count + 1, cs =>
    match count, cutChars? sep cs with
    | 0, _ => [cs]
    | _, none => [cs]
    | _ + 1, some (before, after) => before :: splitUpToChars sep count after

/-- `splitUpToChars` on a text. -/
def splitUpTo (sep : Char) (count : Nat) (s : String) : List String :=
  (splitUpToChars sep count s.toList).map String.ofList

/-! ## Cuts at a piece of text -/

/-- The pieces between the occurrences of a non-empty `part`, with `acc` the reversed beginning of the
first piece.  An empty `part` is never found. -/
def splitTextChars (part : List Char) (acc : List Char) (cs : List Char) : List (List Char) :=
  match cs with
  | [] => [acc.reverse]
  | c :: rest =>
    if part ≠ [] ∧ part.isPrefixOf (c :: rest) then
      acc.reverse :: splitTextChars part [] (rest.drop (part.length - 1))
    else splitTextChars part (c :: acc) rest
termination_by cs.length
decreasing_by all_goals grind

/-- The pieces between the occurrences of a non-empty `part`. -/
def splitText (part s : String) : List String :=
  (splitTextChars part.toList [] s.toList).map String.ofList

/-- The text with every occurrence of `part` replaced.  An empty `part` is found before every character
and at the end. -/
def replaceAll (s part new : String) : String :=
  if part.isEmpty then
    new ++ String.join (s.toList.map fun c => c.toString ++ new)
  else String.intercalate new (splitText part s)

/-- The text with every character `a` replaced by `new`. -/
def replaceChar (s : String) (a : Char) (new : String) : String :=
  String.ofList (s.toList.flatMap fun c => if c = a then new.toList else [c])

/-! ## Small measures -/

/-- Number of bytes the characters take in UTF-8. -/
def byteWidth : List Char → Nat
  | [] => 0
  | c :: cs => c.utf8Size + byteWidth cs

/-- A text repeated. -/
def times (n : Nat) (s : String) : String :=
  String.join (List.replicate n s)

/-- The text filled up with spaces on the right to `width` characters. -/
def padRight (width : Nat) (s : String) : String :=
  s ++ String.ofList (List.replicate (width - s.length) ' ')

/-- An ASCII letter or digit. -/
def isAsciiAlnum (c : Char) : Bool :=
  c.isAlphanum

end ScadManual.Text
