import ScadManual.Proofs.FileLinks
import ScadManual.Proofs.Footnotes
import ScadManual.Proofs.LogEntries

/-!
# Lists of footnotes

The table of contents and the sidebar list the footnotes of all files below their lists of files.  The files are visited
group by group, and each mark is listed once, where it first comes and with the note that it has there.  A footnote with
another note than that is logged.  Both pages find the same footnotes, and a log does not take an entry twice, so only the
page that is written first adds anything to it.
-/

namespace ScadManual.Page.Setting

/-! ## The first note of each mark -/

/-- Marks with their notes: each mark once, in the order in which they first come, with the note of the first footnote that
has it. -/
structure FirstNotes (fs : List Footnote) (notes : List (String × String)) : Prop where
  marks : notes.map Prod.fst = (fs.map (·.mark)).eraseDups
  first : ∀ mark note, (mark, note) ∈ notes → ∃ f, fs.find? (·.mark == mark) = some f ∧ f.note = note

section Gather

variable (seen : Dict) (f : Footnote) (fs : List Footnote)

/-- The step: a mark goes behind those that are seen unless it is one of them. -/
theorem keys_gatherFootnote : (gatherFootnote seen f).value.keys =
    seen.keys ++ (some f.mark).toList.filter fun mark => !seen.keys.contains mark := by
  cases hnote : seen.get? f.mark with
  | none =>
    have hnew : f.mark ∉ seen.keys := by
      rw [← Dict.isSome_get?_iff, hnote]
      exact Bool.false_ne_true
    have hvalue : (gatherFootnote seen f).value = seen.insert f.mark f.note := by
      simp [gatherFootnote, hnote, Noted.of]
    calc (gatherFootnote seen f).value.keys
      _ = (Dict.put f.mark f.note seen.entries).map Prod.fst := by rw [hvalue]; rfl
      _ = seen.keys ++ [f.mark] := (HashStore.keys_put ..).trans (if_neg hnew)
      _ = _ := by simp [hnew]
  | some previous =>
    have hold : f.mark ∈ seen.keys := by
      rw [← Dict.isSome_get?_iff, hnote]
      rfl
    have hvalue : (gatherFootnote seen f).value = seen := by
      simp only [gatherFootnote, hnote]
      split
      · rfl
      · rfl
    rw [hvalue]
    simp [hold]

theorem value_gatherFootnotes : (gatherFootnotes seen fs).value =
    fs.foldl (fun seen f => (gatherFootnote seen f).value) seen := by
  induction fs generalizing seen with
  | nil => rfl
  | cons f fs ih => exact ih _

theorem get?_gatherFootnotes (mark : String) : (gatherFootnotes seen fs).value.get? mark = noteOf seen fs mark := by
  induction fs generalizing seen with
  | nil => simp [gatherFootnotes, Noted.of, noteOf]
  | cons f fs ih =>
    calc (gatherFootnotes seen (f :: fs)).value.get? mark
      _ = (gatherFootnotes (gatherFootnote seen f).value fs).value.get? mark := rfl
      _ = noteOf (gatherFootnote seen f).value fs mark := ih _
      _ = noteOf seen (f :: fs) mark := noteOf_gatherFootnote seen f fs mark

end Gather

/-- The run: gathering footnotes gives the first note of each mark. -/
theorem firstNotes_gatherFootnotes (fs : List Footnote) :
    FirstNotes fs (gatherFootnotes Dict.empty fs).value.entries := by
  have hmarks : (gatherFootnotes Dict.empty fs).value.keys = (fs.map (·.mark)).eraseDups := by
    rw [value_gatherFootnotes, keys_foldl keys_gatherFootnote]
    simp [Dict.empty, Dict.keys]
  refine ⟨hmarks, fun mark note hmem => ?_⟩
  have hnodup : (gatherFootnotes Dict.empty fs).value.keys.Nodup := by
    rw [hmarks]
    exact nodup_eraseDups _
  have hget : (gatherFootnotes Dict.empty fs).value.get? mark = some note := (lookup_eq_some_iff_mem hnodup).2 hmem
  rw [get?_gatherFootnotes] at hget
  exact Option.map_eq_some_iff.1 hget

/-- Of three notes for a mark, both others are set against the first. -/
example (o : Origin) :
    (gatherFootnotes Dict.empty [⟨"X", "First", o⟩, ⟨"X", "Second", o⟩, ⟨"Y", "First", o⟩, ⟨"X", "Third", o⟩]) =
      ⟨⟨[("X", "First"), ("Y", "First")]⟩,
        [conflict ⟨"X", "Second", o⟩ "First", conflict ⟨"X", "Third", o⟩ "First"]⟩ :=
  rfl

/-! ## The two lists -/

variable {s : Setting} {files : List NodeId}

/-- A list of footnotes under its title, with lines behind it; nothing at all when there are no footnotes. -/
def noteSection (title : String) (notes : List (String × String)) (close : List String) : List String :=
  if notes = [] then []
  else
    [""] ++ Dialect.header title subsectionLevel true ++ notes.map (fun (mark, note) => mark ++ " = " ++ note ++ "  ") ++
      close

/-- The table of contents with the given footnotes, between the list of files and the contents of each. -/
def contentsNoting (s : Setting) (files : List NodeId) (notes : List (String × String)) : List String :=
  Dialect.header "Table of Contents" fileLevel true ++ Dialect.header "List of Files" sectionLevel true ++
    s.listing files (s.docsLines Node.subtitle) ++ noteSection "File Footnotes:" notes [""] ++
    (files.zipIdx 1).flatMap fun (file, number) => s.fileLines (s.dialect.pageFile .contents) file number

/-- The sidebar with the given footnotes, behind the list of files. -/
def sidebarNoting (s : Setting) (files : List NodeId) (notes : List (String × String)) : List String :=
  (sidebarPages.map fun (label, page) =>
      Dialect.lineBreak (s.dialect.link label "" (s.dialect.pageLink page) false)) ++
    [""] ++ Dialect.header "List of Files:" subsectionLevel true ++ s.listing files (s.sidebarLines Node.subtitle) ++
    noteSection "Footnotes:" notes []

theorem value_contentsPage_noting (s : Setting) (files : List NodeId) :
    (s.contentsPage files).value = s.contentsNoting files (s.allFootnotes files).value.entries := by
  rw [value_contentsPage, contentsNaming, contentsNoting, noteSection, ← List.append_assoc]
  simp only [Dict.isEmpty, List.isEmpty_iff]
  rfl

theorem value_sidebarPage_noting (s : Setting) (files : List NodeId) :
    (s.sidebarPage files).value = s.sidebarNoting files (s.allFootnotes files).value.entries := by
  rw [value_sidebarPage, sidebarNaming, sidebarNoting, noteSection, List.append_nil]
  simp only [Dict.isEmpty, List.isEmpty_iff]
  rfl

/-- A footnote is found exactly when another note holds for its mark. -/
theorem conflict_mem_findings_iff {f first : Footnote} (hf : f ∈ s.footnotesInOrder files)
    (hfirst : (s.footnotesInOrder files).find? (·.mark == f.mark) = some first) :
    conflict f first.note ∈ (s.allFootnotes files).findings ↔ first.note ≠ f.note := by
  rw [mem_findings_allFootnotes]
  constructor
  · rintro ⟨f', -, first', -, hother, heq⟩
    -- what is found tells both notes
    obtain ⟨-, hnote, hprevious⟩ : f.origin = f'.origin ∧ f.note = f'.note ∧ first.note = first'.note := by
      simpa [conflict] using heq
    rwa [hnote, hprevious]
  · intro hother
    exact ⟨f, hf, first, hfirst, hother, rfl⟩

/-- **Both pages list the first notes, and a conflict is logged once.**  The table of contents and the sidebar list the same
marks in the same order, each with the note it has where it first comes in the order of the groups.  Either page logs a
footnote, at its own place, exactly when that is not its note; and once the table of contents has been written, neither page
logs anything more. -/
theorem first_notes_listed_and_logged_once (s : Setting) (files : List NodeId) :
    let fs := s.footnotesInOrder files
    ∃ notes : List (String × String),
      FirstNotes fs notes ∧
        (s.contentsPage files).value = s.contentsNoting files notes ∧
        (s.sidebarPage files).value = s.sidebarNoting files notes ∧
        ∀ page ∈ [s.contentsPage files, s.sidebarPage files],
          (∀ f ∈ fs, ∀ first, fs.find? (·.mark == f.mark) = some first →
            (conflict f first.note ∈ page.findings ↔ first.note ≠ f.note)) ∧
          (∀ (log : Log) (e : LogEntry), e ∈ (log.recordAll page.findings).entries ↔
            e ∈ log.entries ∨ ∃ f ∈ fs, ∃ first, fs.find? (·.mark == f.mark) = some first ∧ first.note ≠ f.note ∧
              e = (conflict f first.note).entry) ∧
          ∀ log later : Log, (log.recordAll (s.contentsPage files).findings).entries ⊆ later.entries →
            later.recordAll page.findings = later := by
  intro fs
  have hfound : ∀ page ∈ [s.contentsPage files, s.sidebarPage files],
      page.findings = (s.allFootnotes files).findings := by
    simp [contentsPage, sidebarPage, Noted.map]
  refine ⟨(s.allFootnotes files).value.entries, firstNotes_gatherFootnotes fs, value_contentsPage_noting s files,
    value_sidebarPage_noting s files, fun page hpage => ?_⟩
  rw [hfound page hpage]
  refine ⟨fun f hf first hfirst => conflict_mem_findings_iff hf hfirst, ?_, ?_⟩
  · intro log e
    rw [Log.mem_recordAll]
    refine or_congr_right ?_
    constructor
    · rintro ⟨c, hc, rfl⟩
      obtain ⟨f, hf, first, hfirst, hother, rfl⟩ := mem_findings_allFootnotes.1 hc
      exact ⟨f, hf, first, hfirst, hother, rfl⟩
    · rintro ⟨f, hf, first, hfirst, hother, rfl⟩
      exact ⟨_, mem_findings_allFootnotes.2 ⟨f, hf, first, hfirst, hother, rfl⟩, rfl⟩
  · intro log later hlater
    refine Log.recordAll_of_forall_mem fun c hc => hlater ?_
    exact Log.mem_recordAll.2 (.inr ⟨c, hc, rfl⟩)

end ScadManual.Page.Setting
