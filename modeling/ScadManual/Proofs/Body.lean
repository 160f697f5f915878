import ScadManual.Body
import ScadManual.Header
import ScadManual.Proofs.Text

/-!
# What a body passes over

Reading a body passes over a run of lines, whether it ends well or at a shallow line.  Every line of that
run starts with the two slashes and two spaces, and no header line does, since in a header a capital follows
the first space.  So no header is ever taken for a line of the body above it.

What is returned is said line by line: the text of a line is what is left of it without the indentation of
the first, and a shallow line has fewer spaces than that has bytes.
-/

namespace ScadManual

namespace Body

/-- Does the line start with two slashes and two spaces? -/
def isBodyLine (line : String) : Bool :=
  (afterSlashes? line).any (indentedBy 2)

/-- The index of the line at which reading a body ends, well or not. -/
def next (start : Nat) (lines : List String) : Nat :=
  match read start lines with
  | .ok body => body.stop
  | .error shallow => shallow

theorem afterSlashes?_eq_some {line : String} {rest : List Char} :
    afterSlashes? line = some rest ↔ line.toList = '/' :: '/' :: rest := by
  unfold afterSlashes?
  split
  · next cs h => simp [h]
  · next h =>
    simp only [reduceCtorEq, false_iff]
    intro hl
    exact h rest hl

theorem indentedBy_two_iff {cs : List Char} :
    indentedBy 2 cs = true ↔ ∃ more, cs = ' ' :: ' ' :: more := by
  unfold indentedBy
  rw [List.isPrefixOf_iff_prefix]
  constructor
  · rintro ⟨more, rfl⟩
    exact ⟨more, rfl⟩
  · rintro ⟨more, rfl⟩
    exact ⟨more, rfl⟩

/-- Two spaces in front make an indentation of at least two bytes. -/
theorem two_le_indent {cs : List Char} (h : indentedBy 2 cs = true) :
    2 ≤ Text.byteWidth (cs.takeWhile Text.isBlank) := by
  obtain ⟨more, rfl⟩ := indentedBy_two_iff.1 h
  have blank : Text.isBlank ' ' = true := by decide
  have width : ' '.utf8Size = 1 := by decide
  rw [List.takeWhile_cons_of_pos blank, List.takeWhile_cons_of_pos blank]
  simp only [Text.byteWidth, width]
  omega

/-- **No line of a body is a header.**  After the slashes and one space a header has a capital. -/
theorem isHeader_eq_false_of_isBodyLine {line : String} (h : isBodyLine line = true) :
    isHeader line = false := by
  obtain ⟨rest, hr, hi⟩ := (Option.any_eq_true _ _).1 h
  obtain ⟨more, rfl⟩ := indentedBy_two_iff.1 hi
  rw [isHeader, Header.parse?, afterSlashes?_eq_some.1 hr]
  rfl

/-! ## Indented lines -/

/-- The line has the two slashes and at least `n` spaces behind them. -/
def Indented (n : Nat) (line : String) : Prop :=
  ∃ more, line.toList = '/' :: '/' :: (List.replicate n ' ' ++ more)

/-- The bytes of white space behind the first two characters of a line. -/
def width (line : String) : Nat :=
  (String.ofList ((line.toList.drop 2).takeWhile Text.isBlank)).utf8ByteSize

/-- The text of the line is what is left behind its slashes without the first `w` bytes, which are whole
characters, and without the blanks at the end. -/
def Dedented (w : Nat) (line text : String) : Prop :=
  ∃ front tail, line.toList = '/' :: '/' :: (front ++ tail) ∧ (String.ofList front).utf8ByteSize = w ∧
    Text.TrimmedEnd tail text.toList

section Lines

variable {n m : Nat} {line : String} {rest : List Char}

theorem indented_iff : Indented n line ↔ (afterSlashes? line).any (indentedBy n) = true := by
  simp only [Option.any_eq_true, indentedBy, List.isPrefixOf_iff_prefix, afterSlashes?_eq_some]
  constructor
  · rintro ⟨more, hline⟩
    exact ⟨_, hline, more, rfl⟩
  · rintro ⟨_, hline, more, rfl⟩
    exact ⟨more, hline⟩

instance (n : Nat) (line : String) : Decidable (Indented n line) :=
  decidable_of_iff _ indented_iff.symm

theorem isBodyLine_iff : isBodyLine line = true ↔ Indented 2 line := indented_iff.symm

theorem indented_of_slashes (hr : afterSlashes? line = some rest) : Indented n line ↔ indentedBy n rest = true := by
  rw [indented_iff, hr, Option.any_some]

theorem not_indented_of_code (hr : afterSlashes? line = none) : ¬Indented n line := by
  rw [indented_iff, hr]
  exact Bool.false_ne_true

theorem Indented.mono (hmn : m ≤ n) (h : Indented n line) : Indented m line := by
  obtain ⟨more, hline⟩ := h
  obtain ⟨k, rfl⟩ := Nat.exists_eq_add_of_le hmn
  rw [← List.replicate_append_replicate, List.append_assoc] at hline
  exact ⟨_, hline⟩

theorem width_eq (hr : afterSlashes? line = some rest) :
    width line = Text.byteWidth (rest.takeWhile Text.isBlank) := by
  rw [width, afterSlashes?_eq_some.1 hr, Text.byteWidth_eq]
  rfl

theorem two_le_width (h : Indented 2 line) : 2 ≤ width line := by
  obtain ⟨rest, hr, hi⟩ := (Option.any_eq_true _ _).1 (indented_iff.1 h)
  rw [width_eq hr]
  exact two_le_indent hi

/-- The first line of a body loses all its white space in front. -/
theorem dedented_first (hr : afterSlashes? line = some rest) :
    Dedented (width line) line (String.ofList (Text.trimChars rest)) := by
  refine ⟨rest.takeWhile Text.isBlank, rest.dropWhile Text.isBlank, ?_, ?_, ?_⟩
  · rw [List.takeWhile_append_dropWhile]
    exact afterSlashes?_eq_some.1 hr
  · rw [width_eq hr, Text.byteWidth_eq]
  · rw [String.toList_ofList]
    exact Text.trimmedEnd_trimEndChars _

/-- A later line loses as many spaces as the first has bytes of white space. -/
theorem dedented_spaces (hr : afterSlashes? line = some rest) (hi : indentedBy n rest = true) :
    Dedented n line (String.ofList (Text.trimEndChars (rest.drop n))) := by
  obtain ⟨more, rfl⟩ := List.isPrefixOf_iff_prefix.1 hi
  refine ⟨List.replicate n ' ', more, afterSlashes?_eq_some.1 hr, ?_, ?_⟩
  · rw [← Text.byteWidth_eq, Text.byteWidth_spaces]
  · rw [String.toList_ofList, List.drop_left' List.length_replicate]
    exact Text.trimmedEnd_trimEndChars more

/-- A line has one text at most. -/
theorem Dedented.unique {w : Nat} {text text' : String} (h : Dedented w line text) (h' : Dedented w line text') :
    text = text' := by
  obtain ⟨front, tail, hline, hwidth, htrim⟩ := h
  obtain ⟨front', tail', hline', hwidth', htrim'⟩ := h'
  rw [hline, List.cons.injEq, List.cons.injEq] at hline'
  rw [← Text.byteWidth_eq] at hwidth hwidth'
  obtain ⟨-, rfl⟩ := Text.eq_of_byteWidth hline'.2.2 (hwidth.trans hwidth'.symm)
  rw [← String.toList_inj, ← Text.trimEndChars_eq_iff.2 htrim, Text.trimEndChars_eq_iff.2 htrim']

end Lines

/-! ## The lines after the first -/

theorem map_cons_eq_ok {x : Except Nat Body} {text : String} {body : Body} (h : x.map (cons text) = .ok body) :
    ∃ more, x = .ok more ∧ body = more.cons text := by
  cases x with
  | error p => cases h
  | ok more => exact ⟨more, rfl, (Except.ok.inj h).symm⟩

theorem map_cons_eq_error {x : Except Nat Body} {text : String} {p : Nat} (h : x.map (cons text) = .error p) :
    x = .error p := by
  cases x with
  | error q => exact h
  | ok more => cases h

/-- A body goes on over indented lines, and what ends it is no line of a body. -/
theorem readMore_ok {indent pos : Nat} {lines : List String} {body : Body}
    (h : readMore indent pos lines = .ok body) :
    body.stop = pos + body.lines.length ∧
      (∀ (k : Nat) text, body.lines[k]? = some text →
        ∃ line, lines[k]? = some line ∧ Indented indent line ∧ Dedented indent line text) ∧
      ∀ line, lines[body.lines.length]? = some line → ¬Indented 2 line := by
  fun_induction readMore indent pos lines generalizing body with
  | case1 =>
    obtain rfl := Except.ok.inj h
    simp
  | case2 pos line lines hr =>
    obtain rfl := Except.ok.inj h
    refine ⟨rfl, by simp, fun _ hl => ?_⟩
    obtain rfl := Option.some.inj hl
    exact not_indented_of_code hr
  | case3 pos line lines rest hr hi ih =>
    obtain ⟨more, hm, rfl⟩ := map_cons_eq_ok h
    obtain ⟨hstop, htexts, hends⟩ := ih hm
    refine ⟨?_, fun k text hk => ?_, hends⟩
    · show more.stop = pos + (more.lines.length + 1)
      omega
    · cases k with
      | zero =>
        obtain rfl := Option.some.inj hk
        exact ⟨line, rfl, (indented_of_slashes hr).2 hi, dedented_spaces hr hi⟩
      | succ k => exact htexts k text hk
  | case4 => cases h
  | case5 pos line lines rest hr hi h2 =>
    obtain rfl := Except.ok.inj h
    refine ⟨rfl, by simp, fun _ hl => ?_⟩
    obtain rfl := Option.some.inj hl
    rw [indented_of_slashes hr]
    exact h2

/-- A fault lies behind indented lines, at a line of a body that is indented less. -/
theorem readMore_error {indent pos p : Nat} {lines : List String} (h : readMore indent pos lines = .error p) :
    ∃ k, p = pos + k ∧ (∀ j < k, ∃ line, lines[j]? = some line ∧ Indented indent line) ∧
      ∃ line, lines[k]? = some line ∧ Indented 2 line ∧ ¬Indented indent line := by
  fun_induction readMore indent pos lines with
  | case1 => cases h
  | case2 => cases h
  | case3 pos line lines rest hr hi ih =>
    obtain ⟨k, rfl, hall, hfault⟩ := ih (map_cons_eq_error h)
    refine ⟨k + 1, by omega, fun j hj => ?_, hfault⟩
    cases j with
    | zero => exact ⟨line, rfl, (indented_of_slashes hr).2 hi⟩
    | succ j => exact hall j (by omega)
  | case4 pos line lines rest hr hi h2 =>
    obtain rfl := Except.error.inj h
    refine ⟨0, rfl, by simp, line, rfl, (indented_of_slashes hr).2 h2, ?_⟩
    rw [indented_of_slashes hr]
    exact hi
  | case5 => cases h

/-! ## The whole run -/

/-- The line can be one of a body with an indentation of `w` bytes, `k` lines below the first. -/
def Continues (w k : Nat) (line : String) : Prop :=
  Indented 2 line ∧ (0 < k → Indented w line)

theorem read_ok {start : Nat} {lines : List String} {body : Body} (h : read start lines = .ok body) :
    body.stop = start + body.lines.length ∧
      (∀ (k : Nat) text, body.lines[k]? = some text →
        ∃ line, lines[k]? = some line ∧ Continues (width (lines.headD "")) k line ∧
          Dedented (width (lines.headD "")) line text) ∧
      ∀ line, lines[body.lines.length]? = some line → ¬Indented 2 line := by
  revert h
  fun_cases read start lines with
  | case1 =>
    intro h
    obtain rfl := Except.ok.inj h
    simp
  | case2 line lines hr =>
    intro h
    obtain rfl := Except.ok.inj h
    refine ⟨rfl, by simp, fun _ hl => ?_⟩
    obtain rfl := Option.some.inj hl
    exact not_indented_of_code hr
  | case3 line lines rest hr hi =>
    intro h
    obtain ⟨more, hm, rfl⟩ := map_cons_eq_ok h
    have htwo : Indented 2 line := (indented_of_slashes hr).2 hi
    rw [← width_eq hr] at hm
    obtain ⟨hstop, htexts, hends⟩ := readMore_ok hm
    refine ⟨?_, fun k text hk => ?_, hends⟩
    · show more.stop = start + (more.lines.length + 1)
      omega
    · cases k with
      | zero =>
        obtain rfl := Option.some.inj hk
        exact ⟨line, rfl, ⟨htwo, fun hk => absurd hk (Nat.lt_irrefl 0)⟩, dedented_first hr⟩
      | succ k =>
        obtain ⟨later, hlater, hindented, htext⟩ := htexts k text hk
        exact ⟨later, hlater, ⟨hindented.mono (two_le_width htwo), fun _ => hindented⟩, htext⟩
  | case4 line lines rest hr hi =>
    intro h
    obtain rfl := Except.ok.inj h
    refine ⟨rfl, by simp, fun _ hl => ?_⟩
    obtain rfl := Option.some.inj hl
    rw [indented_of_slashes hr]
    exact hi

theorem read_error {start p : Nat} {lines : List String} (h : read start lines = .error p) :
    ∃ k, p = start + k ∧ 0 < k ∧
      (∀ j < k, ∃ line, lines[j]? = some line ∧ Continues (width (lines.headD "")) j line) ∧
      ∃ line, lines[k]? = some line ∧ Indented 2 line ∧ ¬Indented (width (lines.headD "")) line := by
  revert h
  fun_cases read start lines with
  | case1 => exact fun h => by cases h
  | case2 => exact fun h => by cases h
  | case3 line lines rest hr hi =>
    intro h
    have hm := map_cons_eq_error h
    have htwo : Indented 2 line := (indented_of_slashes hr).2 hi
    rw [← width_eq hr] at hm
    obtain ⟨k, rfl, hall, hfault⟩ := readMore_error hm
    refine ⟨k + 1, by omega, Nat.succ_pos k, fun j hj => ?_, hfault⟩
    cases j with
    | zero => exact ⟨line, rfl, htwo, fun hk => absurd hk (Nat.lt_irrefl 0)⟩
    | succ j =>
      obtain ⟨later, hlater, hindented⟩ := hall j (Nat.lt_of_succ_lt_succ hj)
      exact ⟨later, hlater, hindented.mono (two_le_width htwo), fun _ => hindented⟩
  | case4 => exact fun h => by cases h

/-- Every line that reading passes over is one of a body. -/
theorem next_spec (start : Nat) (lines : List String) :
    ∃ k, next start lines = start + k ∧
      ∀ j < k, ∃ line, lines[j]? = some line ∧ Continues (width (lines.headD "")) j line := by
  unfold next
  cases hread : read start lines with
  | ok body =>
    obtain ⟨hstop, htexts, -⟩ := read_ok hread
    refine ⟨body.lines.length, hstop, fun j hj => ?_⟩
    obtain ⟨line, hline, hcont, -⟩ := htexts j _ (List.getElem?_eq_getElem hj)
    exact ⟨line, hline, hcont⟩
  | error p =>
    obtain ⟨k, rfl, -, hbefore, -⟩ := read_error hread
    exact ⟨k, rfl, hbefore⟩

theorem le_next (start : Nat) (lines : List String) : start ≤ next start lines := by
  obtain ⟨k, hnext, -⟩ := next_spec start lines
  omega

/-- What is left of lines when a body that starts at one of them has been read. -/
theorem drop_next (lines : List String) (start : Nat) :
    (lines.drop start).drop (next start (lines.drop start) - start) = lines.drop (next start (lines.drop start)) := by
  rw [List.drop_drop, Nat.add_sub_cancel' (le_next start (lines.drop start))]

theorem isBodyLine_of_lt_next {start j : Nat} {lines : List String} (h : start + j < next start lines) :
    ∃ line, lines[j]? = some line ∧ isBodyLine line = true := by
  obtain ⟨k, hnext, hbefore⟩ := next_spec start lines
  obtain ⟨line, hline, hcont⟩ := hbefore j (by omega)
  exact ⟨line, hline, isBodyLine_iff.2 hcont.1⟩

theorem next_le (start : Nat) (lines : List String) : next start lines ≤ start + lines.length := by
  by_contra hlt
  obtain ⟨line, hline, -⟩ := isBodyLine_of_lt_next (Nat.lt_of_not_le hlt)
  simp at hline

end Body

end ScadManual
