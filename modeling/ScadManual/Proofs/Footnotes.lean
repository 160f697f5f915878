import ScadManual.Page.Contents
import ScadManual.Page.Sidebar
import ScadManual.Proofs.Lookup

/-!
# Footnotes of all files

Index pages gather the footnotes of all files, group by group.  The first note of a mark holds; a footnote that
gives the mark another note is found, at its own place.
-/

namespace ScadManual.Page.Setting

/-- The note that holds for a mark, when some are seen already and others follow. -/
def noteOf (seen : Dict) (fs : List Footnote) (mark : String) : Option String :=
  (seen.get? mark).or ((fs.find? (·.mark == mark)).map (·.note))

/-- What is found of a footnote when another note holds for its mark. -/
def conflict (f : Footnote) (note : String) : Finding :=
  ⟨f.origin, .structural "FileFootnotes" (.footnoteConflict f.note note)⟩

section Gather

variable {seen : Dict} {f : Footnote} {fs : List Footnote}

theorem noteOf_cons (seen : Dict) (f : Footnote) (fs : List Footnote) (mark : String) :
    noteOf seen (f :: fs) mark =
      (seen.get? mark).or (if mark = f.mark then some f.note else (fs.find? (·.mark == mark)).map (·.note)) := by
  rw [noteOf]
  by_cases hmark : mark = f.mark
  · subst hmark
    rw [if_pos rfl, List.find?_cons_of_pos (by simp), Option.map_some]
  · rw [if_neg hmark, List.find?_cons_of_neg (by simpa using fun h => hmark h.symm)]

theorem noteOf_cons_self (seen : Dict) (f : Footnote) (fs : List Footnote) :
    noteOf seen (f :: fs) f.mark = some ((seen.get? f.mark).getD f.note) := by
  rw [noteOf_cons, if_pos rfl]
  cases seen.get? f.mark <;> rfl

/-- Taking a footnote in does not change which notes hold. -/
theorem noteOf_gatherFootnote (seen : Dict) (f : Footnote) (fs : List Footnote) (mark : String) :
    noteOf (gatherFootnote seen f).value fs mark = noteOf seen (f :: fs) mark := by
  rw [noteOf_cons]
  unfold gatherFootnote
  cases hseen : seen.get? f.mark with
  | none =>
    simp only [Noted.of, noteOf, Dict.get?_insert]
    by_cases hmark : mark = f.mark
    · rw [if_pos hmark, if_pos hmark, hmark, hseen]
      rfl
    · rw [if_neg hmark, if_neg hmark]
  | some previous =>
    have hkept : noteOf seen fs mark = (seen.get? mark).or
        (if mark = f.mark then some f.note else (fs.find? (·.mark == mark)).map (·.note)) := by
      by_cases hmark : mark = f.mark
      · rw [noteOf, hmark, hseen]
        rfl
      · rw [noteOf, if_neg hmark]
    simp only
    split
    · exact hkept
    · exact hkept

theorem findings_gatherFootnote (seen : Dict) (f : Footnote) :
    (gatherFootnote seen f).findings =
      if (seen.get? f.mark).getD f.note = f.note then [] else [conflict f ((seen.get? f.mark).getD f.note)] := by
  unfold gatherFootnote
  cases seen.get? f.mark with
  | none => simp [Noted.of]
  | some previous =>
    simp only [Option.getD_some]
    split
    · rfl
    · rfl

/-- **A footnote is found just when it is not its note that holds for its mark.** -/
theorem mem_findings_gatherFootnotes {e : Finding} (seen : Dict) (fs : List Footnote) :
    e ∈ (gatherFootnotes seen fs).findings ↔
      ∃ f ∈ fs, ∃ note, noteOf seen fs f.mark = some note ∧ note ≠ f.note ∧ e = conflict f note := by
  induction fs generalizing seen with
  | nil => simp [gatherFootnotes, Noted.of]
  | cons f fs ih =>
    have hfirst : e ∈ (gatherFootnote seen f).findings ↔
        ∃ note, noteOf seen (f :: fs) f.mark = some note ∧ note ≠ f.note ∧ e = conflict f note := by
      rw [findings_gatherFootnote, noteOf_cons_self]
      split
      · next hsame => simp [hsame]
      · next hother => simp [hother]
    rw [gatherFootnotes, Noted.bind, List.mem_append, ih, hfirst]
    simp only [noteOf_gatherFootnote, List.mem_cons, or_and_right, exists_or, exists_eq_left]

end Gather

/-- The footnotes of all files in the order in which they are gathered, group by group. -/
def footnotesInOrder (s : Setting) (files : List NodeId) : List Footnote :=
  (s.groups files).flatMap fun group =>
    (s.groupMembers files group).flatMap fun (_, _, info) => info.footnotes

/-- Has the mark of the footnote got another note before? -/
def Overruled (fs : List Footnote) (f : Footnote) : Prop :=
  ∃ first, fs.find? (·.mark == f.mark) = some first ∧ first.note ≠ f.note

theorem mem_findings_allFootnotes {s : Setting} {files : List NodeId} {e : Finding} :
    e ∈ (s.allFootnotes files).findings ↔ ∃ f ∈ s.footnotesInOrder files, ∃ first,
      (s.footnotesInOrder files).find? (·.mark == f.mark) = some first ∧ first.note ≠ f.note ∧
        e = conflict f first.note := by
  have hnote (fs : List Footnote) (mark : String) :
      noteOf Dict.empty fs mark = (fs.find? (·.mark == mark)).map (·.note) := rfl
  rw [allFootnotes, mem_findings_gatherFootnotes]
  simp only [hnote, Option.map_eq_some_iff]
  constructor
  · rintro ⟨f, hf, note, ⟨first, hfirst, rfl⟩, hne, rfl⟩
    exact ⟨f, hf, first, hfirst, hne, rfl⟩
  · rintro ⟨f, hf, first, hfirst, hne, rfl⟩
    exact ⟨f, hf, _, ⟨first, hfirst, rfl⟩, hne, rfl⟩

/-- The files for which a conflict is found are those of the overruled footnotes. -/
theorem exists_finding_iff {s : Setting} {files : List NodeId} {file : String} :
    (∃ e ∈ (s.allFootnotes files).findings, e.error.severity = .error ∧ e.origin.file = file) ↔
      ∃ f ∈ s.footnotesInOrder files, f.origin.file = file ∧ Overruled (s.footnotesInOrder files) f := by
  constructor
  · rintro ⟨e, he, -, rfl⟩
    obtain ⟨f, hf, first, hfirst, hne, rfl⟩ := mem_findings_allFootnotes.1 he
    exact ⟨f, hf, rfl, first, hfirst, hne⟩
  · rintro ⟨f, hf, rfl, first, hfirst, hne⟩
    exact ⟨_, mem_findings_allFootnotes.2 ⟨f, hf, first, hfirst, hne, rfl⟩, rfl, rfl⟩

end ScadManual.Page.Setting
