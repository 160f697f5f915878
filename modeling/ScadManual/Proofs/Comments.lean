import Mathlib.Data.List.Forall2
import ScadManual.Proofs.Attachment

/-!
# Comments and the program between them

A source is read for its comments.  Of a line of the program reading asks one thing only, whether it is a
comment, and the answer is no; so two sources with the same comments on the same lines read the same, whatever
program stands between them.

What such a line does is to end the open item.  Between the header of an item and that of anything below it
there is therefore nothing but comments.  The proof follows the reader along the lines: as long as an item is
open, every line from its header to where the reader stands is a comment.
-/

namespace ScadManual

/-! ## Comment lines -/

theorem isComment_eq_isSome (line : String) : isComment line = (Body.afterSlashes? line).isSome := by
  unfold isComment
  split
  · next rest h => rw [Body.afterSlashes?_eq_some.2 h, Option.isSome_some]
  · next h =>
    cases hs : Body.afterSlashes? line with
    | none => rfl
    | some rest => exact absurd (Body.afterSlashes?_eq_some.1 hs) (h rest)

theorem isComment_of_parse? {line : String} {h : Header} (hh : Header.parse? line = some h) :
    isComment line = true := by
  unfold Header.parse? Header.ofChars? at hh
  split at hh
  · next cs hcs =>
    rw [isComment, hcs]
    rfl
  · simp at hh

theorem isComment_of_isBodyLine {line : String} (h : Body.isBodyLine line = true) : isComment line = true := by
  obtain ⟨rest, hr, -⟩ := (Option.any_eq_true _ _).1 h
  rw [isComment_eq_isSome, hr]
  rfl

/-! ## The program leaves no trace -/

/-- Lines that are equal or both of the program. -/
def SameComment (a b : String) : Prop :=
  a = b ∨ isComment a = false ∧ isComment b = false

namespace SameComment

variable {a b : String}

theorem isComment_eq (h : SameComment a b) : isComment a = isComment b := by
  rcases h with rfl | ⟨ha, hb⟩
  · rfl
  · rw [ha, hb]

theorem afterSlashes?_eq (h : SameComment a b) : Body.afterSlashes? a = Body.afterSlashes? b := by
  rcases h with rfl | ⟨ha, hb⟩
  · rfl
  · rw [isComment_eq_isSome, Option.isSome_eq_false_iff, Option.isNone_iff_eq_none] at ha hb
    rw [ha, hb]

theorem parse?_eq (h : SameComment a b) : Header.parse? a = Header.parse? b := by
  have hnone {line : String} (hl : isComment line = false) : Header.parse? line = none := by
    cases hh : Header.parse? line with
    | none => rfl
    | some hd => simp [isComment_of_parse? hh] at hl
  rcases h with rfl | ⟨ha, hb⟩
  · rfl
  · rw [hnone ha, hnone hb]

end SameComment

section Same

variable {lines lines' : List String}

theorem Body.readMore_same (h : List.Forall₂ SameComment lines lines') (indent pos : Nat) :
    readMore indent pos lines = readMore indent pos lines' := by
  induction h generalizing pos with
  | nil => rfl
  | cons hline _ ih => simp only [readMore, hline.afterSlashes?_eq, ih]

theorem Body.read_same (h : List.Forall₂ SameComment lines lines') (start : Nat) :
    read start lines = read start lines' := by
  cases h with
  | nil => rfl
  | cons hline hrest => simp only [read, hline.afterSlashes?_eq, readMore_same hrest]

/-- Sources with the same comments say the same: a body ends where it ended, and a line between the comments
is a gap whatever it holds. -/
theorem Source.eventsFrom_same (file : String) (line : Nat) (lines : List String) :
    ∀ lines', List.Forall₂ SameComment lines lines' →
      eventsFrom file line lines = eventsFrom file line lines' := by
  induction line, lines using lines_induction with
  | nil line =>
    intro lines' h
    cases h
    rfl
  | header line text rest hd hh ih =>
    intro lines' h
    obtain ⟨text', rest', htext, hrest, rfl⟩ := List.forall₂_cons_left_iff.1 h
    have hh' : Header.parse? text' = some hd := by rw [← htext.parse?_eq, hh]
    have hread : Body.read line rest = Body.read line rest' := Body.read_same hrest line
    have hnext : Body.next line rest = Body.next line rest' := by rw [Body.next, hread, Body.next]
    have hevent : headerEvent file line hd rest = headerEvent file line hd rest' := by
      rw [headerEvent, hread, headerEvent]
    rw [eventsFrom_header hh, eventsFrom_header hh', hevent,
      ih _ (List.forall₂_drop (Body.next line rest - line) hrest), hnext]
  | other line text rest hh ih =>
    intro lines' h
    obtain ⟨text', rest', htext, hrest, rfl⟩ := List.forall₂_cons_left_iff.1 h
    have hh' : Header.parse? text' = none := by rw [← htext.parse?_eq, hh]
    rw [eventsFrom_other hh, eventsFrom_other hh', htext.isComment_eq, ih rest' hrest]

end Same

/-- **The program cannot influence its manual.**  When each line of one source is the same in another or is no
comment in either, reading them leads to the same manual, with its document, its names and its rules, and to
the same log. -/
theorem Manual.readCode_ignores_program (m : Manual) (log : Log) (file : String) {lines lines' : List String}
    (h : List.Forall₂ SameComment lines lines') :
    (m.readCode file lines).1 = (m.readCode file lines').1 ∧
      log.recordAll (m.readCode file lines).2 = log.recordAll (m.readCode file lines').2 := by
  have hevents : Source.events file lines = Source.events file lines' :=
    Source.eventsFrom_same file 1 lines lines' h
  have hread : m.readCode file lines = m.readCode file lines' := by rw [readCode, hevents, readCode]
  rw [hread]
  exact ⟨rfl, rfl⟩

/-- What looks like a header but does not start with the slashes is program text like any other. -/
theorem Manual.readCode_ignores_program_indented :
    let lines := ["// File: a.scad", "// Module: m()", "  // Section: none", "// Usage: m();"]
    let lines' := ["// File: a.scad", "// Module: m()", "module m() cube(1);", "// Usage: m();"]
    List.Forall₂ SameComment lines lines' ∧
      ((new Settings.default).readCode "a.scad" lines).1 = ((new Settings.default).readCode "a.scad" lines').1 ∧
      Log.empty.recordAll ((new Settings.default).readCode "a.scad" lines).2 =
        Log.empty.recordAll ((new Settings.default).readCode "a.scad" lines').2 := by
  intro lines lines'
  have hsame : List.Forall₂ SameComment lines lines' :=
    .cons (.inl rfl) (.cons (.inl rfl) (.cons (.inr (by decide)) (.cons (.inl rfl) .nil)))
  exact ⟨hsame, readCode_ignores_program (new Settings.default) Log.empty "a.scad" hsame⟩

/-! ## Runs of comments -/

/-- The lines with the numbers from `first` to before `stop` are comments.  Numbers count from one. -/
def CommentRun (lines : List String) (first stop : Nat) : Prop :=
  ∀ i, first ≤ i + 1 → i + 1 < stop → ∃ text, lines[i]? = some text ∧ isComment text = true

/-- A header line of the source stands at the origin. -/
def HeaderAt (file : String) (lines : List String) (origin : Origin) : Prop :=
  ∃ i text, origin = ⟨file, i + 1⟩ ∧ lines[i]? = some text ∧ isHeader text = true

section Lines

variable {lines : List String} {first mid stop i : Nat} {text : String}

theorem CommentRun.append (h : CommentRun lines first mid) (h' : CommentRun lines mid stop) :
    CommentRun lines first stop := by
  intro i hfirst hstop
  by_cases hmid : i + 1 < mid
  · exact h i hfirst hmid
  · exact h' i (Nat.le_of_not_lt hmid) hstop

theorem commentRun_line (hl : lines[i]? = some text) (hc : isComment text = true) :
    CommentRun lines (i + 1) (i + 2) := by
  intro j hfirst hstop
  obtain rfl : i = j := by omega
  exact ⟨text, hl, hc⟩

/-- What a body passes over are comments. -/
theorem commentRun_next (lines : List String) (k : Nat) :
    CommentRun lines (k + 1) (Body.next k (lines.drop k) + 1) := by
  intro i hfirst hstop
  obtain ⟨j, rfl⟩ := Nat.exists_eq_add_of_le (Nat.le_of_succ_le_succ hfirst)
  obtain ⟨line, hline, hbody⟩ := Body.isBodyLine_of_lt_next (Nat.lt_of_succ_lt_succ hstop)
  rw [List.getElem?_drop] at hline
  exact ⟨line, hline, isComment_of_isBodyLine hbody⟩

end Lines

/-! ## Along the lines of a source -/

namespace Manual

variable {d : Document} {file : String} {lines : List String} {l stop : Nat} {m : Manual}

/-- The reader of a source stands before the line `stop`: only comments lie between the header of the open
item and that line, and between the headers of items and those of all that the source has put below them.
`d` is the document before the source. -/
abbrev Running (d : Document) (file : String) (lines : List String) (stop : Nat) (m : Manual) : Prop :=
  Attached d (fun o => HeaderAt file lines o ∧ o.line < stop ∧ CommentRun lines o.line stop)
    (fun o o' => HeaderAt file lines o ∧ HeaderAt file lines o' ∧ o.line ≤ o'.line ∧
      CommentRun lines o.line (o'.line + 1)) m

theorem running_start (m : Manual) (file : String) (lines : List String) (stop : Nat) :
    Running m.document file lines stop m.start :=
  attached_start m

/-- The reader passes over comments. -/
theorem Running.pass {stop' : Nat} (h : Running d file lines stop m) (hle : stop ≤ stop')
    (hrun : CommentRun lines stop stop') : Running d file lines stop' m := by
  refine Attached.mono h (fun o ho => ?_) fun o o' ho => ho
  obtain ⟨hheader, hlt, hcomments⟩ := ho
  exact ⟨hheader, Nat.lt_of_lt_of_le hlt hle, hcomments.append hrun⟩

/-- When the open item ends, the reader may pass over anything. -/
theorem Running.close (h : Running d file lines stop m) (stop' : Nat) :
    Running d file lines stop' { m with place := m.place.closeItem } :=
  Attached.close h

/-- The step for the event of a header line.  An item that is opened here has its header on this line, and a node
below an item is added to the one that is open, in the comments that follow its header. -/
theorem Running.step_header (h : Running d file lines (l + 1) m) (hs : Standing file l m)
    (hheader : HeaderAt file lines ⟨file, l⟩) (hd : Header) (below : List String) :
    Running d file lines (l + 1) (m.step .code (Source.headerEvent file l hd below)).1 := by
  unfold Source.headerEvent
  split
  · refine Attached.take h hs ?_ (fun o ho => ?_) rfl
    · obtain ⟨k, text, hk, hl, hhead⟩ := hheader
      obtain rfl : l = k + 1 := congrArg Origin.line hk
      obtain ⟨hd', hparse⟩ := Option.isSome_iff_exists.1 hhead
      exact ⟨⟨k, text, rfl, hl, hhead⟩, Nat.lt_succ_self _, commentRun_line hl (isComment_of_parse? hparse)⟩
    · obtain ⟨hhead, hlt, hrun⟩ := ho
      exact ⟨hhead, hheader, Nat.le_of_lt_succ hlt, hrun⟩
  · exact h

/-- The run: from any line on, the reader goes over the comments and closes the item at every other line. -/
theorem Running.stepAll (d : Document) (file : String) (all : List String) (line : Nat) (lines : List String) :
    ∀ k (m : Manual), line = k + 1 → lines = all.drop k → Standing file line m →
      Running d file all line m →
      ∃ stop, Running d file all stop (m.stepAll .code (Source.eventsFrom file line lines)).1 := by
  induction line, lines using Source.lines_induction with
  | nil line =>
    intro k m _ _ hs h
    rw [Source.eventsFrom]
    exact ⟨line, h.close line⟩
  | header line text rest hd hh ih =>
    rintro k m rfl hk hs h
    have hget : all[k]? = some text := by
      rw [← List.head?_drop, ← hk]; rfl
    have hrest : all.drop (k + 1) = rest := by
      rw [← List.tail_drop, ← hk]; rfl
    have hheader : HeaderAt file all ⟨file, k + 1⟩ :=
      ⟨k, text, rfl, hget, by rw [isHeader, hh]; rfl⟩
    have hline : CommentRun all (k + 1) (k + 2) := commentRun_line hget (isComment_of_parse? hh)
    have hbody : CommentRun all (k + 2) (Body.next (k + 1) rest + 1) := by
      have hrun := commentRun_next all (k + 1)
      rwa [hrest] at hrun
    have hle := Body.le_next (k + 1) rest
    have hlater := Body.drop_next all (k + 1)
    rw [hrest] at hlater
    -- the header is a comment, so the item that is open may take its block; then the body is passed
    have htaken := (h.pass (Nat.le_succ _) hline).step_header hs hheader hd rest
    have hstanding := invariant_standing.step_header .code hd rest hs
    rw [Source.eventsFrom_header hh]
    exact ih (Body.next (k + 1) rest) _ rfl hlater (invariant_standing.later (by omega) hstanding)
      (htaken.pass (by omega) hbody)
  | other line text rest hh ih =>
    rintro k m rfl hk hs h
    have hget : all[k]? = some text := by
      rw [← List.head?_drop, ← hk]; rfl
    have hrest : rest = all.drop (k + 1) := by
      rw [← List.tail_drop, ← hk]; rfl
    rw [Source.eventsFrom_other hh]
    split
    · next hc =>
      exact ih (k + 1) m rfl hrest (invariant_standing.later (by omega) hs)
        (h.pass (by omega) (commentRun_line hget hc))
    · exact ih (k + 1) _ rfl hrest (invariant_standing.later (by omega) (invariant_standing.close hs))
        (h.close (k + 2))

/-- **Nothing after the end of an item's comments becomes its child.**  When a source puts a node below an item,
the item comes from the same source, both have their headers there, that of the item first, and every line
from the one to the other is a comment. -/
theorem child_in_comment_run (settings : Settings) (inputs : List Input) (file : String) (lines : List String) :
    let before := ((new settings).readAll inputs).document
    let after := (((new settings).readAll inputs).readCode file lines).1.document
    ∀ i id item child, id ∈ after.children i → id ∉ before.children i →
      after.node? i = some item → item.isItem = true → after.node? id = some child →
      before.size ≤ i ∧ before.size ≤ id ∧ HeaderAt file lines item.origin ∧ HeaderAt file lines child.origin ∧
        item.origin.line ≤ child.origin.line ∧
        CommentRun lines item.origin.line (child.origin.line + 1) := by
  intro before after i id item child hchild hnew hitem hkind hnode
  have hforest : before.Forest := forest_readAll settings inputs
  have hgrows := grows_readCode ((new settings).readAll inputs) file lines
  obtain ⟨hid, hlt, hparent⟩ := Document.mem_children.1 hchild
  -- a node that was there before would have been a child before
  have hbefore : before.size ≤ id := by
    by_contra hold
    have hold : id < before.size := Nat.lt_of_not_le hold
    exact hnew (Document.mem_children.2 ⟨hold, hlt, (hgrows.document.parent? hold).symm.trans hparent⟩)
  have hstanding : Standing file 1 ((new settings).readAll inputs).start :=
    ⟨hforest, fun hid => absurd hid List.not_mem_nil⟩
  obtain ⟨stop, hrunning⟩ := Running.stepAll before file lines 1 lines 0 _ rfl rfl hstanding
    (running_start _ file lines 1)
  have hrank : item.kind.rank = .item := by
    unfold Node.isItem Node.item? at hkind
    split at hkind
    · next info hk => rw [hk]; rfl
    · simp at hkind
  have hown : child.parent = some i := by
    rw [Document.parent?, hnode] at hparent
    exact hparent
  exact ⟨hgrows.document.apart hbefore hparent, hbefore, hrunning.below hbefore
    (Document.footing?_of_node? hnode) hown (Document.footing?_of_node? hitem) hrank⟩

/-- A usage in the comments of a module is its child; a figure that follows the program is not. -/
theorem child_in_comment_run_usage :
    let lines :=
      ["// File: a.scad", "// Module: m()", "//", "// Usage: m();", "module m() cube(1);", "// Figure: f"]
    let before := ((new Settings.default).readAll []).document
    let after := (((new Settings.default).readAll []).readCode "a.scad" lines).1.document
    ∃ item child, after.node? 2 = some item ∧ item.isItem = true ∧ after.node? 3 = some child ∧
      after.children 2 = [3] ∧ before.children 2 = [] ∧ after.children 1 = [2, 4] ∧
      item.origin.line = 2 ∧ child.origin.line = 4 ∧ before.size ≤ 2 ∧ before.size ≤ 3 ∧
      HeaderAt "a.scad" lines item.origin ∧ HeaderAt "a.scad" lines child.origin ∧
      item.origin.line ≤ child.origin.line ∧
      CommentRun lines item.origin.line (child.origin.line + 1) := by
  intro lines before after
  have hitem : ∃ item, after.node? 2 = some item ∧ item.isItem = true ∧ item.origin.line = 2 := by
    decide +kernel
  have hchild : ∃ child, after.node? 3 = some child ∧ child.origin.line = 4 := by
    decide +kernel
  have hlists : after.children 2 = [3] ∧ before.children 2 = [] ∧ after.children 1 = [2, 4] := by
    decide +kernel
  obtain ⟨item, hi, hkind, hiline⟩ := hitem
  obtain ⟨child, hc, hcline⟩ := hchild
  obtain ⟨hafter, hbefore, hsection⟩ := hlists
  refine ⟨item, child, hi, hkind, hc, hafter, hbefore, hsection, hiline, hcline, ?_⟩
  exact child_in_comment_run Settings.default [] "a.scad" lines 2 3 item child
    (by rw [hafter]; exact List.mem_singleton.2 rfl) (by rw [hbefore]; exact List.not_mem_nil) hi hkind hc

end Manual

end ScadManual
