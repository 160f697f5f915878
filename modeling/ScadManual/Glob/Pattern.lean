import ScadManual.Text.Search

/-!
# Glob patterns

The syntax of file patterns: `?` for a character, `*` for a run of characters, `[...]` and `[!...]` for
characters in or out of a set, `**` as a whole path component for any directories.  A pattern is read from
left to right and a fault is reported with the position, counted in characters, at which it is noticed.
-/

namespace ScadManual.Glob

/-- Why a text is no pattern. -/
inductive FaultKind where
  /-- Three stars or more in a row. -/
  | wildcards
  /-- Two stars that share their path component with something else. -/
  | recursiveWildcards
  /-- A bracket that opens no set. -/
  | range
deriving DecidableEq, Repr

/-- A fault and its position. -/
structure Fault where
  position : Nat
  kind : FaultKind
deriving DecidableEq, Repr

/-- The wording of a fault. -/
def Fault.message (f : Fault) : String :=
  "Pattern syntax error near position " ++ toString f.position ++ ": " ++
    match f.kind with
    | .wildcards => "wildcards are either regular `*` or recursive `**`"
    | .recursiveWildcards => "recursive wildcards must form a single path component"
    | .range => "invalid range pattern"

/-- A member of a set of characters. -/
inductive CharSpec where
  | single (c : Char)
  | range (first last : Char)
deriving DecidableEq, Repr

/-- Does the member hold the character? -/
def CharSpec.has : CharSpec → Char → Bool
  | .single c, d => c == d
  | .range a b, d => a ≤ d && d ≤ b

/-- The members listed between brackets: a dash between two characters makes a range. -/
def charSpecs : List Char → List CharSpec
  | a :: '-' :: b :: rest => .range a b :: charSpecs rest
  | a :: rest => .single a :: charSpecs rest
  | [] => []

/-- A piece of a pattern. -/
inductive Token where
  | char (c : Char)
  | anyChar
  | sequence
  | directories
  | within (set : List CharSpec)
  | without (set : List CharSpec)
deriving DecidableEq, Repr

/-- Does a piece for one character take this one? -/
def Token.takes : Token → Char → Bool
  | .char c, d => c == d
  | .anyChar, _ => true
  | .within set, d => set.any (·.has d)
  | .without set, d => !set.any (·.has d)
  | .sequence, _ => false
  | .directories, _ => false

/-- The character of a piece that is just that. -/
def Token.char? : Token → Option Char
  | .char c => some c
  | _ => none

/-- A pattern, piece by piece. -/
structure Pattern where
  tokens : List Token
deriving DecidableEq, Repr

namespace Pattern

/-- The set after an opening bracket and what follows its closing one.  The first character of a set, after
the mark `!`, may be a closing bracket. -/
def set? : List Char → Option (Token × List Char)
  | '!' :: c :: cs => (Text.cutChars? ']' cs).map fun (b, rest) => (.without (charSpecs (c :: b)), rest)
  | ['!'] => none
  | c :: cs => (Text.cutChars? ']' cs).map fun (b, rest) => (.within (charSpecs (c :: b)), rest)
  | [] => none

/-- What follows a set is shorter than what it was read from. -/
theorem length_lt_of_set? {cs rest : List Char} {t : Token} (h : set? cs = some (t, rest)) :
    rest.length < cs.length := by
  unfold set? at h
  split at h
  · obtain ⟨⟨b, r⟩, hb, he⟩ := Option.map_eq_some_iff.1 h
    obtain ⟨_, rfl⟩ := by simpa using he
    have := Text.length_lt_of_cutChars? hb
    simp only [List.length_cons]; omega
  · simp at h
  · obtain ⟨⟨b, r⟩, hb, he⟩ := Option.map_eq_some_iff.1 h
    obtain ⟨_, rfl⟩ := by simpa using he
    have := Text.length_lt_of_cutChars? hb
    simp only [List.length_cons]; omega
  · simp at h

/-- Reads the pieces of a pattern from position `pos`, where `fresh` says that a path component starts. -/
def tokensFrom (pos : Nat) (fresh : Bool) (cs : List Char) : Except Fault (List Token) :=
  match cs with
  | [] => .ok []
  | '?' :: rest => return .anyChar :: (← tokensFrom (pos + 1) false rest)
  | '*' :: '*' :: '*' :: _ => .error ⟨pos + 2, .wildcards⟩
  | '*' :: '*' :: rest =>
    if fresh then
      match rest with
      | [] => .ok [.directories]
      | '/' :: rest' => return .directories :: (← tokensFrom (pos + 3) true rest')
      | _ => .error ⟨pos + 2, .recursiveWildcards⟩
    else .error ⟨pos - 1, .recursiveWildcards⟩
  | '*' :: rest => return .sequence :: (← tokensFrom (pos + 1) false rest)
  | '[' :: rest =>
    match h : set? rest with
    | some (t, rest') =>
      have := length_lt_of_set? h
      return t :: (← tokensFrom (pos + 1 + (rest.length - rest'.length)) false rest')
    | none => .error ⟨pos, .range⟩
  | c :: rest => return .char c :: (← tokensFrom (pos + 1) (c == '/') rest)
termination_by cs.length
decreasing_by all_goals grind

/-- Reads a pattern. -/
def parse (s : String) : Except Fault Pattern :=
  return ⟨← tokensFrom 0 true s.toList⟩

/-- Does the pattern stand for any directories? -/
def isRecursive (p : Pattern) : Bool :=
  p.tokens.contains .directories

/-- The text of a pattern that holds plain characters only. -/
def literal? (p : Pattern) : Option String :=
  (p.tokens.mapM Token.char?).map String.ofList

/-- Do the pieces take exactly these characters of one name?  A name has no slash, so a piece that stands
for directories takes nothing. -/
def matchTokens (ts : List Token) (cs : List Char) : Bool :=
  match ts, cs with
  | [], cs => cs.isEmpty
  | .sequence :: ts, [] => matchTokens ts []
  | .sequence :: ts, c :: cs => matchTokens ts (c :: cs) || matchTokens (.sequence :: ts) cs
  | .directories :: ts, cs => matchTokens ts cs
  | _ :: _, [] => false
  | t :: ts, c :: cs => t.takes c && matchTokens ts cs
termination_by ts.length + cs.length
decreasing_by all_goals grind

/-- Does the pattern match the name? -/
def matchesName (p : Pattern) (name : String) : Bool :=
  matchTokens p.tokens name.toList

end Pattern

end ScadManual.Glob
