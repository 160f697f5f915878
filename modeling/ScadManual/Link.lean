import ScadManual.References

/-!
# Links in text

A name between double braces is a link to the item of that name.  A text is cut into the plain pieces
between its links, found from left to right; links never overlap.  The text that a link puts in is not
looked at again.
-/

namespace ScadManual.Link

/-- Characters of names that can be linked to. -/
def isNameChar (c : Char) : Bool :=
  Text.isAsciiAlnum c || c == '_' || c == '(' || c == ')'

/-- The name of a link that starts here, and what follows the link. -/
def token? (cs : List Char) : Option (List Char × List Char) :=
  match cs with
  | '\x7b' :: '\x7b' :: rest =>
    let name := rest.takeWhile isNameChar
    match name, rest.dropWhile isNameChar with
    | _ :: _, '\x7d' :: '\x7d' :: after => some (name, after)
    | _, _ => none
  | _ => none

/-- What follows a link is shorter than the text it was found in. -/
theorem length_lt_of_token? {cs name rest : List Char} (h : token? cs = some (name, rest)) :
    rest.length < cs.length := by
  unfold token? at h
  split at h
  · next r =>
    have hlen : (r.dropWhile isNameChar).length ≤ r.length :=
      (List.dropWhile_sublist isNameChar).length_le
    simp only at h
    split at h
    · next hd =>
      obtain ⟨_, rfl⟩ := by simpa using h
      rw [hd] at hlen
      simp only [List.length_cons] at hlen ⊢
      omega
    · simp at h
  · simp at h

/-- A text cut at its links: the plain text in front, then for each link its name and the plain text that
follows it. -/
structure Cut where
  head : List Char
  links : List (List Char × List Char)
deriving DecidableEq, Repr

/-- Cuts a text at its links. -/
def cut (cs : List Char) : Cut :=
  match h : token? cs with
  | some (name, rest) =>
    have := length_lt_of_token? h
    let c := cut rest
    ⟨[], (name, c.head) :: c.links⟩
  | none =>
    match cs with
    | [] => ⟨[], []⟩
    | c :: cs =>
      let r := cut cs
      ⟨c :: r.head, r.links⟩
termination_by cs.length

/-- How a link to a name is written, as it stands in a source. -/
def spelled (name : String) : String :=
  "\x7b\x7b" ++ name ++ "\x7d\x7d"

/-- A link written out: the item's link, or the escaped name when it stands for nothing. -/
def renderLink (refs : References) (escape : String → String) (link : NodeId → String)
    (name : String) : String :=
  match refs.get? name with
  | some id => link id
  | none => escape name

/-- The text with its links written out and all else escaped. -/
def render (refs : References) (escape : String → String) (link : NodeId → String) (text : String) :
    String :=
  let c := cut text.toList
  escape (String.ofList c.head) ++
    String.join (c.links.map fun (name, after) =>
      renderLink refs escape link (String.ofList name) ++ escape (String.ofList after))

/-- The names of the links of a text that stand for nothing, in order. -/
def unknown (refs : References) (text : String) : List String :=
  ((cut text.toList).links.map fun l => String.ofList l.1).filter fun name =>
    (refs.get? name).isNone

/-- The error of a link that stands for nothing. -/
def unknownError (name : String) : Error :=
  .reference (spelled name)

/-- The text with its links written out and all else escaped, and the links that stand for nothing. -/
def expand (refs : References) (escape : String → String) (link : NodeId → String) (origin : Origin)
    (text : String) : Noted String :=
  ⟨render refs escape link text, (unknown refs text).map fun name => ⟨origin, unknownError name⟩⟩

end ScadManual.Link
