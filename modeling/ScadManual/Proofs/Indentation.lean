import ScadManual.Proofs.Body

/-!
# The indentation of bodies

A body is said here by its lines alone: which lines it has, the text of each, and the line behind it.  No other body has
the same first line, and none has it when a shallow line breaks it off, so reading meets the description in one way.

The first line's indentation is measured in bytes of white space and that of the others in spaces.  The two agree on
spaces only: lines that are all indented alike are a body exactly when their indentation is of spaces, or when there is
just one.
-/

namespace ScadManual.Body

/-! ## Bodies by their lines -/

/-- The texts are the body of the lines from `start` on, before `stop`, with an indentation of `w` bytes. -/
structure Complete (lines : List String) (start stop w : Nat) (body : List String) : Prop where
  length : stop = start + body.length
  texts : ∀ (k : Nat) text, body[k]? = some text →
    ∃ line, lines[start + k]? = some line ∧ Continues w k line ∧ Dedented w line text
  /-- No more lines could follow. -/
  stops : ∀ line, lines[stop]? = some line → ¬Indented 2 line

/-- The line at `p` would belong to the body of the lines from `start` on, but is indented by less than `w` spaces. -/
structure BrokenOff (lines : List String) (start p w : Nat) : Prop where
  after : start < p
  before : ∀ k, start + k < p → ∃ line, lines[start + k]? = some line ∧ Continues w k line
  shallow : ∃ line, lines[p]? = some line ∧ Indented 2 line ∧ ¬Indented w line

section Unique

variable {lines body body' : List String} {start stop stop' p p' w : Nat}

theorem Complete.continues (h : Complete lines start stop w body) {k : Nat} (hk : start + k < stop) :
    ∃ line, lines[start + k]? = some line ∧ Continues w k line := by
  have hlt : k < body.length := by
    have hlength := h.length
    omega
  obtain ⟨line, hline, hcont, -⟩ := h.texts k _ (List.getElem?_eq_getElem hlt)
  exact ⟨line, hline, hcont⟩

theorem Complete.stop_le (h : Complete lines start stop w body) (h' : Complete lines start stop' w body') :
    stop' ≤ stop := by
  by_contra hlt
  -- the line behind the shorter body would be one of the longer
  rw [Nat.not_le, h.length] at hlt
  obtain ⟨line, hline, htwo, -⟩ := h'.continues hlt
  rw [← h.length] at hline
  exact h.stops line hline htwo

theorem Complete.unique (h : Complete lines start stop w body) (h' : Complete lines start stop' w body') :
    body = body' := by
  have hlength : body.length = body'.length := by
    have hle := h.stop_le h'
    have hge := h'.stop_le h
    rw [h.length, h'.length] at hle hge
    omega
  refine List.ext_getElem hlength fun k hk hk' => ?_
  obtain ⟨line, hline, -, htext⟩ := h.texts k _ (List.getElem?_eq_getElem hk)
  obtain ⟨_, hline', -, htext'⟩ := h'.texts k _ (List.getElem?_eq_getElem hk')
  obtain rfl := Option.some.inj (hline.symm.trans hline')
  exact htext.unique htext'

theorem Complete.not_brokenOff (h : Complete lines start stop w body) : ¬BrokenOff lines start p w := by
  intro hb
  obtain ⟨line, hline, htwo, hshallow⟩ := hb.shallow
  rcases Nat.lt_trichotomy stop p with hlt | rfl | hgt
  · rw [h.length] at hlt
    obtain ⟨next, hnext, htwo', -⟩ := hb.before _ hlt
    rw [← h.length] at hnext
    exact h.stops next hnext htwo'
  · exact h.stops line hline htwo
  · obtain ⟨k, rfl⟩ := Nat.exists_eq_add_of_lt hb.after
    obtain ⟨_, hline', -, hindented⟩ := h.continues (k := k + 1) hgt
    obtain rfl := Option.some.inj (hline.symm.trans hline')
    exact hshallow (hindented (Nat.succ_pos k))

theorem BrokenOff.le (h : BrokenOff lines start p w) (h' : BrokenOff lines start p' w) : p' ≤ p := by
  by_contra hlt
  obtain ⟨line, hline, -, hshallow⟩ := h.shallow
  obtain ⟨k, rfl⟩ := Nat.exists_eq_add_of_lt h.after
  obtain ⟨_, hline', -, hindented⟩ := h'.before (k + 1) (Nat.lt_of_not_le hlt)
  obtain rfl := Option.some.inj (hline.symm.trans hline')
  exact hshallow (hindented (Nat.succ_pos k))

end Unique

/-! ## Reading -/

section Read

variable {lines : List String} {body : Body} {start p : Nat}

theorem headD_drop (lines : List String) (start : Nat) : (lines.drop start).headD "" = lines[start]?.getD "" := by
  rw [List.headD_eq_head?_getD, List.head?_drop]

theorem complete_of_read (h : read start (lines.drop start) = .ok body) :
    Complete lines start body.stop (width (lines[start]?.getD "")) body.lines := by
  obtain ⟨hstop, htexts, hends⟩ := read_ok h
  simp only [List.getElem?_drop, headD_drop] at htexts hends
  exact ⟨hstop, htexts, by rw [hstop]; exact hends⟩

theorem brokenOff_of_read (h : read start (lines.drop start) = .error p) :
    BrokenOff lines start p (width (lines[start]?.getD "")) := by
  obtain ⟨k, rfl, hpos, hbefore, hshallow⟩ := read_error h
  simp only [List.getElem?_drop, headD_drop] at hbefore hshallow
  exact ⟨Nat.lt_add_of_pos_right hpos, fun j hj => hbefore j (Nat.lt_of_add_lt_add_left hj), hshallow⟩

theorem read_eq_ok_iff : read start (lines.drop start) = .ok body ↔
    Complete lines start body.stop (width (lines[start]?.getD "")) body.lines := by
  refine ⟨complete_of_read, fun h => ?_⟩
  cases hread : read start (lines.drop start) with
  | error p => exact absurd (brokenOff_of_read hread) h.not_brokenOff
  | ok body' =>
    have h' := complete_of_read hread
    have hlines : body'.lines = body.lines := h'.unique h
    have hstop : body'.stop = body.stop := by rw [h'.length, h.length, hlines]
    cases body'
    cases body
    simp_all

theorem read_eq_error_iff : read start (lines.drop start) = .error p ↔
    BrokenOff lines start p (width (lines[start]?.getD "")) := by
  refine ⟨brokenOff_of_read, fun h => ?_⟩
  cases hread : read start (lines.drop start) with
  | ok body => exact absurd h (complete_of_read hread).not_brokenOff
  | error p' =>
    have hle := h.le (brokenOff_of_read hread)
    have hge := (brokenOff_of_read hread).le h
    rw [show p' = p by omega]

end Read

/-- **Reading a body meets its description.**  It returns a body exactly when its lines are those that start at the
line and stop where it says; it returns the index of a line exactly when that line breaks the body off.  There is no
body just when no line is there or it is not indented. -/
theorem read_iff_indented (lines : List String) (start : Nat) :
    let w := width (lines[start]?.getD "")
    (∀ body, read start (lines.drop start) = .ok body ↔ Complete lines start body.stop w body.lines) ∧
      (∀ p, read start (lines.drop start) = .error p ↔ BrokenOff lines start p w) ∧
      (read start (lines.drop start) = .ok ⟨[], start⟩ ↔ ∀ line, lines[start]? = some line → ¬Indented 2 line) := by
  refine ⟨fun body => read_eq_ok_iff, fun p => read_eq_error_iff, ?_⟩
  rw [read_eq_ok_iff]
  exact ⟨fun h => h.stops, fun h => ⟨rfl, by simp, h⟩⟩

example : read 0 ["//     First line.", "//       Nested.", "//     Last line.   ", "module foo() \x7b\x7d"] =
    .ok ⟨["First line.", "  Nested.", "Last line."], 3⟩ := by decide

/-! ## Lines indented alike -/

section Alike

variable {indent text : String}

/-- A comment line with the indentation and the text. -/
def commentLine (indent text : String) : String := "//" ++ indent ++ text

theorem toList_commentLine : (commentLine indent text).toList = '/' :: '/' :: (indent.toList ++ text.toList) := by
  simp [commentLine]

theorem width_commentLine (hblank : ∀ c ∈ indent.toList, Text.isBlank c = true)
    (htext : ∀ c ∈ text.toList.head?, Text.isBlank c = false) :
    width (commentLine indent text) = indent.utf8ByteSize := by
  rw [width, toList_commentLine, List.drop_succ_cons, List.drop_succ_cons, List.drop_zero,
    (Text.span_append hblank htext).1, String.ofList_toList]

theorem indented_two_commentLine (htwo : ∃ more, indent = "  " ++ more) : Indented 2 (commentLine indent text) := by
  obtain ⟨more, rfl⟩ := htwo
  exact ⟨more.toList ++ text.toList, by rw [toList_commentLine, String.toList_append, List.append_assoc]; rfl⟩

/-- A line is indented by as many spaces as its own indentation has bytes only if that is of spaces. -/
theorem indented_commentLine_iff :
    Indented indent.utf8ByteSize (commentLine indent text) ↔ ∀ c ∈ indent.toList, c = ' ' := by
  rw [← Text.byteWidth_toList]
  constructor
  · rintro ⟨more, hline⟩ c hc
    rw [toList_commentLine, List.cons.injEq, List.cons.injEq] at hline
    -- a character takes a byte at least, so the spaces reach over the whole indentation
    have hspaces : indent.toList <+: List.replicate (Text.byteWidth indent.toList) ' ' := by
      refine List.prefix_of_prefix_length_le (List.prefix_append _ text.toList) ⟨more, hline.2.2.symm⟩ ?_
      rw [List.length_replicate]
      exact Text.length_le_byteWidth _
    exact List.eq_of_mem_replicate (hspaces.subset hc)
  · intro hspaces
    have hsame : indent.toList = List.replicate indent.toList.length ' ' := List.eq_replicate_of_mem hspaces
    have hwidth : Text.byteWidth indent.toList = indent.toList.length := by
      rw [hsame, Text.byteWidth_spaces, List.length_replicate]
    rw [hwidth]
    exact ⟨text.toList, by rw [toList_commentLine, ← hsame]⟩

theorem dedented_commentLine : Dedented indent.utf8ByteSize (commentLine indent text) (Text.trimEnd text) := by
  refine ⟨indent.toList, text.toList, toList_commentLine, by rw [String.ofList_toList], ?_⟩
  rw [Text.trimEnd, String.toList_ofList]
  exact Text.trimmedEnd_trimEndChars _

variable {texts : List String}

/-- Lines with one indentation are a body when each is indented by as many spaces as it has bytes. -/
theorem complete_commentLines (htwo : ∃ more, indent = "  " ++ more)
    (hcase : texts.length = 1 ∨ ∀ c ∈ indent.toList, c = ' ') :
    Complete (texts.map (commentLine indent)) 0 texts.length indent.utf8ByteSize (texts.map Text.trimEnd) := by
  refine ⟨by rw [Nat.zero_add, List.length_map], fun k text hk => ?_, fun line hline => ?_⟩
  · rw [List.getElem?_map] at hk
    obtain ⟨t, ht, rfl⟩ := Option.map_eq_some_iff.1 hk
    have hline : (texts.map (commentLine indent))[0 + k]? = some (commentLine indent t) := by
      rw [Nat.zero_add, List.getElem?_map, ht, Option.map_some]
    refine ⟨_, hline, ⟨indented_two_commentLine htwo, fun hpos => ?_⟩, dedented_commentLine⟩
    rw [indented_commentLine_iff]
    rcases hcase with hone | hspaces
    · have hlt := (List.getElem?_eq_some_iff.1 ht).1
      omega
    · exact hspaces
  · simp at hline

/-- Otherwise the second line has fewer spaces than the first has bytes. -/
theorem brokenOff_commentLines (htwo : ∃ more, indent = "  " ++ more) (hmany : 1 < texts.length)
    (hother : ¬∀ c ∈ indent.toList, c = ' ') :
    BrokenOff (texts.map (commentLine indent)) 0 1 indent.utf8ByteSize := by
  have hline (k : Nat) (hk : k < texts.length) :
      (texts.map (commentLine indent))[k]? = some (commentLine indent texts[k]) := by
    rw [List.getElem?_map, List.getElem?_eq_getElem hk, Option.map_some]
  refine ⟨Nat.zero_lt_one, fun k hk => ?_, _, hline 1 hmany, indented_two_commentLine htwo, ?_⟩
  · obtain rfl : k = 0 := by omega
    exact ⟨_, hline 0 (by omega), indented_two_commentLine htwo, fun hpos => absurd hpos (Nat.lt_irrefl 0)⟩
  · rw [indented_commentLine_iff]
    exact hother

end Alike

/-- **Lines indented alike are a body when their indentation is of spaces, or when there is one line only.**  With any
other white space in it, the second line is taken for a shallow one. -/
theorem read_alike_iff (indent : String) (texts : List String)
    (hblank : ∀ c ∈ indent.toList, Text.isBlank c = true) (htwo : ∃ more, indent = "  " ++ more) (hne : texts ≠ [])
    (htexts : ∀ text ∈ texts, ∃ c ∈ text.toList.head?, Text.isBlank c = false) :
    (read 0 (texts.map (commentLine indent)) = .ok ⟨texts.map Text.trimEnd, texts.length⟩ ↔
        texts.length = 1 ∨ ∀ c ∈ indent.toList, c = ' ') ∧
      (¬(texts.length = 1 ∨ ∀ c ∈ indent.toList, c = ' ') →
        read 0 (texts.map (commentLine indent)) = .error 1) := by
  have hwidth : width ((texts.map (commentLine indent))[0]?.getD "") = indent.utf8ByteSize := by
    obtain ⟨first, more, rfl⟩ := List.exists_cons_of_ne_nil hne
    obtain ⟨c, hc, hstart⟩ := htexts first List.mem_cons_self
    refine width_commentLine hblank fun d hd => ?_
    obtain rfl := Option.some.inj (hc.symm.trans hd)
    exact hstart
  have hok := @read_eq_ok_iff (texts.map (commentLine indent)) ⟨texts.map Text.trimEnd, texts.length⟩ 0
  have herror := @read_eq_error_iff (texts.map (commentLine indent)) 0 1
  rw [List.drop_zero, hwidth] at hok herror
  have hshallow : ¬(texts.length = 1 ∨ ∀ c ∈ indent.toList, c = ' ') →
      BrokenOff (texts.map (commentLine indent)) 0 1 indent.utf8ByteSize := by
    intro hcase
    rw [not_or] at hcase
    have hpos := List.length_pos_iff.2 hne
    exact brokenOff_commentLines htwo (by omega) hcase.2
  refine ⟨⟨fun hread => ?_, fun hcase => hok.2 (complete_commentLines htwo hcase)⟩,
    fun hcase => herror.2 (hshallow hcase)⟩
  by_contra hcase
  exact (hok.1 hread).not_brokenOff (hshallow hcase)

/-- Two lines with the same tab behind their two spaces, and two lines with spaces only. -/
theorem read_alike_iff_tab :
    let tab := "  \t"
    let spaces := "   "
    read 0 (["one", "two "].map (commentLine tab)) = .error 1 ∧
      read 0 (["one", "two "].map (commentLine spaces)) = .ok ⟨["one", "two"], 2⟩ := by
  intro tab spaces
  have htexts : ∀ text ∈ ["one", "two "], ∃ c ∈ text.toList.head?, Text.isBlank c = false := by
    intro text hmem
    simp only [List.mem_cons, List.not_mem_nil, or_false] at hmem
    rcases hmem with rfl | rfl
    · exact ⟨'o', rfl, by decide⟩
    · exact ⟨'t', rfl, by decide⟩
  constructor
  · refine (read_alike_iff tab _ (List.all_eq_true.1 (by decide)) ⟨"\t", by decide⟩ (by decide) htexts).2 ?_
    rintro (hone | hspaces)
    · exact absurd hone (by decide)
    · exact absurd (hspaces '\t' (by decide)) (by decide)
  · refine (read_alike_iff spaces _ (List.all_eq_true.1 (by decide)) ⟨" ", by decide⟩ (by decide) htexts).1.2 (.inr ?_)
    have hthree : spaces.toList = List.replicate 3 ' ' := by decide
    intro c hc
    rw [hthree] at hc
    exact List.eq_of_mem_replicate hc

/-- The second line is indented just like the first, and is taken for a shallow one. -/
theorem tab_read_as_shallow : read 0 ["//  \tfirst", "//  \tsecond"] = .error 1 := by decide

end ScadManual.Body
