import ScadManual.Proofs.Footnotes
import ScadManual.Proofs.StoreFiles

/-!
# Errors that come after the store

A run commits its hash store while it writes the pages of files.  The index pages come later, and two of them
can still find something: footnotes of different files that contradict each other.  The store is not looked at
again, so a source that has only such an error stays recorded; and so does one that is recorded from before and
has no page in this run, whatever is logged for it.
-/

namespace ScadManual

theorem Log.fileHasErrors_recordAll {log : Log} {found : List Finding} {file : String} :
    (log.recordAll found).fileHasErrors file = true ↔ log.fileHasErrors file = true ∨
      ∃ e ∈ found, e.error.severity = .error ∧ e.origin.file = file := by
  simp only [fileHasErrors_iff, mem_recordAll]
  constructor
  · rintro ⟨_, hold | ⟨e, he, rfl⟩, herror, hfile⟩
    · exact .inl ⟨_, hold, herror, hfile⟩
    · exact .inr ⟨e, he, herror, hfile⟩
  · rintro (⟨e, he, herror, hfile⟩ | ⟨e, he, herror, hfile⟩)
    · exact ⟨e, .inl he, herror, hfile⟩
    · exact ⟨e.entry, .inr ⟨e, he, rfl⟩, herror, hfile⟩

namespace Documentation

variable {σ : Type}

/-! ## The store after the pages of files -/

/-- What is known when files from the given sources have been visited one after the other. -/
structure Filed (store : HashStore) (r : Run σ) (p : Render.Pipeline σ) (sources : List String)
    (store' : HashStore) (r' : Run σ) : Prop where
  path : store'.path = store.path
  /-- What is logged is about these sources, and about requests that were waiting before. -/
  adds : r.log.Adds (fun f => f ∈ sources ∨ ∃ q ∈ p.queue, q.origin.file = f) r'.log
  /-- Those of them are recorded that have no error by now. -/
  known : ∀ x, (store'.get? x).isSome =
    if x ∈ sources then !r'.log.fileHasErrors x else (store.get? x).isSome
  recordable : (∀ x ∈ sources, HashStore.Field x) → HashStore.Recordable store.current →
    HashStore.Recordable store'.current
  /-- The last thing done is to commit the store, if anything is done. -/
  committed : sources ≠ [] → ∃ d, store'.commit d = .ok r'.disk
  untouched : sources = [] → store' = store ∧ r' = r

section Filed

variable {store store₁ store' : HashStore} {r r₁ r' : Run σ} {p p₁ : Render.Pipeline σ} {v : Visit σ}
  {sources : List String} {first : Summary}

/-- The run step: a visit in front of others. -/
theorem Filed.cons (hv : v.Ended r first store₁ r₁) (hp : r.pipeline = some p) (hstore : v.store = store)
    (habout : ∀ f ∈ v.found, f.origin.file = v.source) (hours : ∀ q ∈ v.requests, q.origin.file = v.source)
    (hempty : p₁.queue = []) (h : Filed store₁ r₁ p₁ sources store' r') :
    Filed store r p (v.source :: sources) store' r' := by
  -- nothing waits any more, so what follows is about later sources
  have hlater : r₁.log.Adds (· ∈ sources) r'.log := by
    refine h.adds.mono ?_
    rintro f (hf | ⟨q, hq, -⟩)
    · exact hf
    · simp [hempty] at hq
  refine
    { path := ?_
      adds := ?_
      known := ?_
      recordable := ?_
      committed := ?_
      untouched := fun hnil => absurd hnil (List.cons_ne_nil _ _) }
  · rw [h.path, hv.stored, v.stored_keeps.1, hstore]
  · refine ((hv.adds hp habout hours).mono ?_).trans (hlater.mono ?_)
    · rintro f (rfl | hwaiting)
      · exact .inl List.mem_cons_self
      · exact .inr hwaiting
    · intro f hf
      exact .inl (List.mem_cons_of_mem _ hf)
  · intro x
    rw [h.known x]
    by_cases hx : x ∈ sources
    · rw [if_pos hx, if_pos (List.mem_cons_of_mem _ hx)]
    · rw [if_neg hx, hv.stored, v.get?_stored, hlater.fileHasErrors_eq hx, hv.kept.1, hstore]
      by_cases hself : x = v.source
      · subst hself
        rw [if_pos rfl, if_pos List.mem_cons_self]
        cases v.imaged.log.fileHasErrors v.source <;> rfl
      · have hnot : x ∉ v.source :: sources := by simp [hself, hx]
        rw [if_neg hself, if_neg hnot]
  · intro hfields htable
    obtain ⟨hfield, hmore⟩ := List.forall_mem_cons.1 hfields
    refine h.recordable hmore ?_
    rw [hv.stored]
    exact Visit.recordable_stored hfield (by rw [hstore]; exact htable)
  · intro _
    by_cases hnil : sources = []
    · obtain ⟨rfl, rfl⟩ := h.untouched hnil
      exact ⟨v.imaged.disk, by rw [hv.stored]; exact hv.disk⟩
    · exact h.committed hnil

end Filed

/-- The run: visits that get to their end. -/
theorem Visited.filed {settings : Settings} {s : Page.Setting} {store : HashStore} {r r' : Run σ}
    {p : Render.Pipeline σ} {files : List NodeId} {summary : Summary}
    (h : Visited settings s store r p files summary r') (hd : s.doc.Forest) (hr : s.doc.RequestsInPlace) :
    ∃ store', Filed store r p (files.map (sourceOf s.doc)) store' r' := by
  induction h with
  | @nil store r p hp =>
    exact ⟨store,
      { path := rfl
        adds := Log.adds_of_entries_eq rfl
        known := fun x => by simp
        recordable := fun _ htable => htable
        committed := fun hne => absurd rfl hne
        untouched := fun _ => ⟨rfl, rfl⟩ }⟩
  | @cons store store₁ r r₁ r' p p₁ file files first rest hp hfirst hv hempty later ih =>
    obtain ⟨store', hfiled⟩ := ih
    refine ⟨store', Filed.cons hv hp rfl ?_ ?_ hempty hfiled⟩
    · exact Page.Setting.about_nodeLines hd file
    · exact file_of_mem_requestsBelow hd hr file

/-! ## Index pages -/

/-- Only the table of contents and the sidebar find anything: they gather the footnotes. -/
theorem findings_indexLines (m : Manual) (s : Page.Setting) (page : IndexPage) :
    (indexLines m s page).findings =
      if page = .contents ∨ page = .sidebar then (s.allFootnotes m.filesByPriority).findings else [] := by
  cases page <;> rfl

theorem settingOf_eq_ok {m : Manual} {s : Page.Setting} {r r' : Run σ}
    (h : r.exec (settingOf m) = (.ok s, r')) :
    ∃ dialect, Dialect.ofName m.settings.targetProfile = .ok dialect ∧ s = ⟨m.library, dialect⟩ ∧ r' = r := by
  unfold settingOf at h
  cases hdialect : Dialect.ofName m.settings.targetProfile with
  | error e =>
    simp only [hdialect] at h
    exact absurd (congrArg Prod.fst h) (by simp [Run.exec])
  | ok dialect =>
    simp only [hdialect] at h
    obtain ⟨hs, rfl⟩ := Prod.mk.inj h
    exact ⟨dialect, rfl, (Except.ok.inj hs).symm, rfl⟩

/-- What writing index pages leads to: no store is touched, and errors are logged that the pages find. -/
structure Indexed (m : Manual) (dialect : Dialect) (pages : List IndexPage) (r r' : Run σ) : Prop where
  spares : r.disk.Spares IsStoreSpot r'.disk
  errors : ∀ x, r'.log.fileHasErrors x = true ↔ r.log.fileHasErrors x = true ∨
    ∃ page ∈ pages, ∃ e ∈ (indexLines m ⟨m.library, dialect⟩ page).findings,
      e.error.severity = .error ∧ e.origin.file = x

theorem getLast?_pageFile (d : Dialect) (page : IndexPage) :
    (d.pageFile page).toList.getLast? = some 'd' := by
  simp [Dialect.pageFile, Dialect.suffix]

theorem writeIndexPage_indexed {m : Manual} {dialect : Dialect}
    (hdialect : Dialect.ofName m.settings.targetProfile = .ok dialect) {page : IndexPage} {r r' : Run σ}
    {summary : Summary} (h : r.exec (writeIndexPage m page) = (.ok summary, r')) :
    Indexed m dialect [page] r r' := by
  obtain ⟨s, r₀, hsetting, hnext⟩ := Run.exec_bind_eq_ok h
  obtain ⟨dialect', hdialect', rfl, rfl⟩ := settingOf_eq_ok hsetting
  obtain rfl : dialect' = dialect := Except.ok.inj (hdialect'.symm.trans hdialect)
  obtain ⟨lines, noted, hnoted, hnext⟩ := Run.exec_bind_eq_ok hnext
  obtain ⟨-, rfl⟩ := Prod.mk.inj hnoted
  obtain ⟨_, made, hmade, hnext⟩ := Run.exec_bind_eq_ok hnext
  obtain ⟨disk, hdirectories, rfl⟩ := Run.exec_onDisk_eq_ok hmade
  obtain ⟨_, told, htold, hnext⟩ := Run.exec_bind_eq_ok hnext
  obtain ⟨-, rfl⟩ := Prod.mk.inj htold
  obtain ⟨_, written, hwritten, hend⟩ := Run.exec_bind_eq_ok hnext
  obtain ⟨disk', hlines, rfl⟩ := Run.exec_onDisk_eq_ok hwritten
  obtain ⟨-, rfl⟩ := Prod.mk.inj hend
  constructor
  · have hspares : Disk.Spares IsStoreSpot disk disk' := by
      refine Disk.spares_writeLines hlines fun made spot => ?_
      exact not_isStoreSpot_of_locate (Path.getLast?_join _ (getLast?_pageFile dialect' page)) (by decide)
    exact ((Disk.makeDirectories_grown hdirectories).spares IsStoreSpot).trans hspares
  · intro x
    have hprogress (log : Log) (text : String) :
        (log.progress text).fileHasErrors x = log.fileHasErrors x := rfl
    show ((r₀.log.recordAll _).progress _).fileHasErrors x = true ↔ _
    rw [hprogress, Log.fileHasErrors_recordAll]
    simp

theorem writeIndexPages_indexed {m : Manual} {dialect : Dialect}
    (hdialect : Dialect.ofName m.settings.targetProfile = .ok dialect) (pages : List IndexPage) :
    ∀ {r r' : Run σ} {summary : Summary}, r.exec (writeIndexPages m pages) = (.ok summary, r') →
      Indexed m dialect pages r r' := by
  induction pages with
  | nil =>
    intro r r' summary h
    obtain ⟨-, rfl⟩ := Prod.mk.inj h
    exact ⟨(Disk.Grown.refl _).spares _, fun x => by simp⟩
  | cons page pages ih =>
    intro r r' summary h
    obtain ⟨first, r₁, hfirst, hmore⟩ := Run.exec_bind_eq_ok h
    obtain ⟨rest, r₂, hrest, hend⟩ := Run.exec_bind_eq_ok hmore
    obtain ⟨-, rfl⟩ := Prod.mk.inj hend
    have hone := writeIndexPage_indexed hdialect hfirst
    have hothers := ih hrest
    refine ⟨hone.spares.trans hothers.spares, fun x => ?_⟩
    rw [hothers.errors, hone.errors, or_assoc]
    simp only [List.mem_cons, List.not_mem_nil, or_false, exists_eq_left, or_and_right, exists_or]

/-- Does an index page find that a footnote of the source contradicts an earlier one? -/
def Disputed (m : Manual) (dialect : Dialect) (x : String) : Prop :=
  let footnotes := (⟨m.library, dialect⟩ : Page.Setting).footnotesInOrder m.filesByPriority
  (m.settings.pages.contents = true ∨ m.settings.pages.sidebar = true) ∧
    ∃ f ∈ footnotes, f.origin.file = x ∧ Page.Setting.Overruled footnotes f

theorem mem_indexPages {p : PageSet} :
    ((.contents : IndexPage) ∈ indexPages p ↔ p.contents = true) ∧
      ((.sidebar : IndexPage) ∈ indexPages p ↔ p.sidebar = true) := by
  simp [indexPages]

theorem disputed_iff {m : Manual} {dialect : Dialect} {x : String} :
    Disputed m dialect x ↔ ∃ page ∈ indexPages m.settings.pages,
      ∃ e ∈ (indexLines m ⟨m.library, dialect⟩ page).findings,
        e.error.severity = .error ∧ e.origin.file = x := by
  obtain ⟨hcontents, hsidebar⟩ := mem_indexPages (p := m.settings.pages)
  constructor
  · rintro ⟨hpages, hfootnote⟩
    have hpage : ∃ page ∈ indexPages m.settings.pages, page = .contents ∨ page = .sidebar := by
      rcases hpages with hpage | hpage
      · exact ⟨.contents, hcontents.2 hpage, .inl rfl⟩
      · exact ⟨.sidebar, hsidebar.2 hpage, .inr rfl⟩
    obtain ⟨page, hmem, hwhich⟩ := hpage
    refine ⟨page, hmem, ?_⟩
    rw [findings_indexLines, if_pos hwhich]
    exact Page.Setting.exists_finding_iff.2 hfootnote
  · rintro ⟨page, hmem, hfound⟩
    rw [findings_indexLines] at hfound
    split at hfound
    · next hwhich =>
      refine ⟨?_, Page.Setting.exists_finding_iff.1 hfound⟩
      rcases hwhich with rfl | rfl
      · exact .inl (hcontents.1 hmem)
      · exact .inr (hsidebar.1 hmem)
    · simp at hfound

/-! ## Whole runs -/

/-- A run that writes the pages of files, then the index pages and at the end perhaps the report. -/
theorem generate_eq_ok {m : Manual} (hfiles : m.settings.pages.files = true) {r r' : Run σ}
    {summary : Summary} (h : r.exec (generate m) = (.ok summary, r')) :
    ∃ filed mid indexed after, r.exec (writeFilePages m) = (.ok filed, mid) ∧
      mid.exec (writeIndexPages m (indexPages m.settings.pages)) = (.ok indexed, after) ∧
      after.disk.Spares IsStoreSpot r'.disk ∧ r'.log = after.log := by
  unfold generate at h
  simp only [hfiles, Bool.true_or, if_true] at h
  obtain ⟨filed, mid, hfiled, hnext⟩ := Run.exec_bind_eq_ok h
  obtain ⟨indexed, after, hindexed, hend⟩ := Run.exec_bind_eq_ok hnext
  refine ⟨filed, mid, indexed, after, hfiled, hindexed, ?_⟩
  split at hend
  · obtain ⟨_, reported, hreport, hend⟩ := Run.exec_bind_eq_ok hend
    obtain ⟨-, rfl⟩ := Prod.mk.inj hend
    rw [writeReport, Run.exec_get_bind] at hreport
    obtain ⟨disk, hwrite, rfl⟩ := Run.exec_onDisk_eq_ok hreport
    refine ⟨?_, rfl⟩
    obtain ⟨spot, hspot, -, rfl⟩ := Disk.write_eq_ok hwrite
    refine (Disk.sameBut_set _ _ _).spares (Disk.write_target hwrite hspot) ?_
    exact not_isStoreSpot_of_locate (c := 'n') rfl (by decide) hspot
  · obtain ⟨-, rfl⟩ := Prod.mk.inj hend
    exact ⟨(Disk.Grown.refl _).spares _, rfl⟩

/-- The text is the source of one of the files. -/
def IsSource (m : Manual) (x : String) : Prop := ∃ file ∈ m.document.files, sourceOf m.document file = x

theorem mem_sources {m : Manual} {x : String} :
    x ∈ (filesByName m.document).map (sourceOf m.document) ↔ IsSource m x := by
  rw [List.mem_map]
  exact exists_congr fun file => and_congr_left fun _ => (filesByName_perm m.document).mem_iff

/-- In a directory that has been made the store has a place. -/
theorem exists_locate_storePath {m : Manual} {d d' : Disk} (hcurrent : d.get? d.current = some .directory)
    (hmade : d.makeDirectories m.settings.docsDir = .ok d') : ∃ spot, d'.locate (storePath m) = .ok spot := by
  have hgrown := Disk.makeDirectories_grown hmade
  have hthere : d'.get? d'.current = some .directory := by
    rw [hgrown.current]
    exact hgrown.keepsDirectories.directory hcurrent
  refine Disk.exists_locate_store hthere ?_
  cases hempty : m.settings.docsDir.isEmpty with
  | true => exact .inl rfl
  | false => exact .inr (Disk.isDirectory_of_makeDirectories hmade hempty)

/-- The store when the pages of files are written, and where it is. -/
theorem writeFilePages_filed {m : Manual} (hd : m.document.Forest) (hr : m.document.RequestsInPlace)
    (himages : m.settings.makeImages = true) (htest : m.settings.testOnly = false) {r mid : Run σ}
    {p : Render.Pipeline σ} (hp : r.pipeline = some p) {summary : Summary}
    (hcurrent : r.disk.get? r.disk.current = some .directory)
    (hfield : ∀ x, IsSource m x → HashStore.Field x)
    (hrun : r.exec (writeFilePages m) = (.ok summary, mid)) :
    (∃ spot, mid.disk.locate (storePath m) = .ok spot) ∧
      ∀ x, ((HashStore.load mid.disk (storePath m)).1.get? x).isSome = true ↔
        IsSource m x ∧ mid.log.fileHasErrors x = false ∨
          ¬ IsSource m x ∧ ((loaded m r).get? x).isSome = true := by
  obtain ⟨dialect, -, hmade, hopened, hwritten⟩ := writeFilePages_eq_ok htest hrun
  have hready := congrArg Prod.snd (exec_loadHashes m r)
  have hdisk : ((opened m r).exec (Run.loadHashes (storePath m))).2.disk = (opened m r).disk := by rw [hready]
  have hpipeline : ((opened m r).exec (Run.loadHashes (storePath m))).2.pipeline = some p := by
    rw [hready, hopened]
    exact hp
  generalize ((opened m r).exec (Run.loadHashes (storePath m))).2 = ready at hwritten hdisk hpipeline
  obtain ⟨store', hfiled⟩ : ∃ store',
      Filed (loaded m r) ready p ((filesByName m.document).map (sourceOf m.document)) store' mid :=
    (writeFiles_visited (s := ⟨m.library, dialect⟩) himages hpipeline hwritten).filed hd hr
  have hpath : store'.path = storePath m := hfiled.path.trans (HashStore.recordable_load _ _).2.2
  have hknown (x : String) : (store'.get? x).isSome = true ↔
      IsSource m x ∧ mid.log.fileHasErrors x = false ∨
        ¬ IsSource m x ∧ ((loaded m r).get? x).isSome = true := by
    rw [hfiled.known]
    by_cases hx : IsSource m x
    · rw [if_pos (mem_sources.2 hx)]
      simp [hx]
    · rw [if_neg (fun hmem => hx (mem_sources.1 hmem))]
      simp [hx]
  by_cases hnil : (filesByName m.document).map (sourceOf m.document) = []
  · -- without files the store is as it was loaded, in a directory that has been made
    obtain ⟨rfl, rfl⟩ := hfiled.untouched hnil
    rw [hdisk]
    exact ⟨exists_locate_storePath hcurrent hmade, hknown⟩
  · obtain ⟨d, hcommit⟩ := hfiled.committed hnil
    obtain ⟨spot, hcommitted⟩ := HashStore.commit_eq_ok hcommit
    obtain ⟨hload, hcurrent, -⟩ := HashStore.recordable_load (opened m r).disk (storePath m)
    have hrecordable : HashStore.Recordable store'.current := by
      refine hfiled.recordable (fun x hx => hfield x (mem_sources.1 hx)) ?_
      rw [loaded, hcurrent]
      exact hload
    rw [← hpath]
    refine ⟨⟨spot, (hcommitted.sameBut.keepsDirectories hcommitted.target).locate hcommitted.located⟩, fun x => ?_⟩
    rw [(HashStore.load_of_commit hrecordable hcommit x).1, Option.isSome_map, hknown]

/-- **Which sources with errors a run leaves in its store.**  The errors of a run are those that are logged by the
time the pages of files are written, and those of footnotes that contradict earlier ones, when an index page shows
footnotes.  Recorded are the sources without an error of the former kind, and what was recorded before and is not
among the sources; so a source with an error is recorded just when all its errors are of the latter kind, or when
it was recorded before and has no page. -/
theorem recorded_despite_error_iff (settings : Settings) (inputs : List Manual.Input) {r r' : Run σ}
    {p : Render.Pipeline σ} {summary : Summary} :
    let m := (Manual.new settings).readAll inputs
    m.settings.pages.files = true → m.settings.makeImages = true → m.settings.testOnly = false →
    r.pipeline = some p → r.disk.get? r.disk.current = some .directory →
    (∀ x, IsSource m x → HashStore.Field x) → r.exec (generate m) = (.ok summary, r') →
    ∃ dialect filed mid, Dialect.ofName m.settings.targetProfile = .ok dialect ∧
      r.exec (writeFilePages m) = (.ok filed, mid) ∧
      ∀ x, (r'.log.fileHasErrors x = true ↔ mid.log.fileHasErrors x = true ∨ Disputed m dialect x) ∧
        (((HashStore.load r'.disk (storePath m)).1.get? x).isSome = true ↔
          IsSource m x ∧ mid.log.fileHasErrors x = false ∨
            ¬ IsSource m x ∧ ((loaded m r).get? x).isSome = true) ∧
        (r'.log.fileHasErrors x = true →
          (((HashStore.load r'.disk (storePath m)).1.get? x).isSome = true ↔
            IsSource m x ∧ mid.log.fileHasErrors x = false ∧ Disputed m dialect x ∨
              ¬ IsSource m x ∧ ((loaded m r).get? x).isSome = true)) := by
  intro m hfiles himages htest hp hcurrent hfield hrun
  obtain ⟨filed, mid, indexed, after, hfiled, hindexed, hreported, hlog⟩ := generate_eq_ok hfiles hrun
  obtain ⟨dialect, hdialect, -⟩ := writeFilePages_eq_ok htest hfiled
  have hpages := writeIndexPages_indexed hdialect _ hindexed
  obtain ⟨⟨spot, hspot⟩, hstore⟩ := writeFilePages_filed (Manual.forest_readAll settings inputs)
    (Manual.requestsInPlace_readAll settings inputs) himages htest hp hcurrent hfield hfiled
  refine ⟨dialect, filed, mid, hdialect, hfiled, fun x => ?_⟩
  have herrors : r'.log.fileHasErrors x = true ↔
      mid.log.fileHasErrors x = true ∨ Disputed m dialect x := by
    rw [hlog, hpages.errors, disputed_iff]
  have hrecorded : ((HashStore.load r'.disk (storePath m)).1.get? x).isSome = true ↔
      IsSource m x ∧ mid.log.fileHasErrors x = false ∨
        ¬ IsSource m x ∧ ((loaded m r).get? x).isSome = true := by
    have hsame := HashStore.load_of_spares (hpages.spares.trans hreported) hspot
      (Disk.isStoreSpot_of_locate hspot)
    rw [HashStore.get?, hsame]
    exact hstore x
  refine ⟨herrors, hrecorded, fun herror => ?_⟩
  rw [hrecorded]
  -- an error that was not there when the store was committed is one of a footnote
  have hlate : mid.log.fileHasErrors x = false → Disputed m dialect x := by
    intro hnone
    rcases herrors.1 herror with hmid | hdisputed
    · rw [hnone] at hmid
      exact absurd hmid Bool.false_ne_true
    · exact hdisputed
  refine or_congr_left ⟨fun h => ⟨h.1, h.2, hlate h.2⟩, fun h => ⟨h.1, h.2.1⟩⟩

/-- A run with a source whose footnotes contradict each other, after another one could not be read that an earlier
run has recorded: both have errors, and both are recorded in the end. -/
theorem recorded_despite_error_iff_both :
    let m := (Manual.new { Settings.default with
        pages := { PageSet.none with files := true, contents := true } }).readAll
      [.code "a.scad" ["// File: a.scad", "// FileFootnotes: X=First; X=Second"]]
    let p := Render.Pipeline.new
      (.writing (.text "image") (Render.Output.ofStreams [] (some 0) "" "")) ()
    let d : Disk :=
      ⟨[(["work"], .directory), (["work", "docs"], .directory),
        (["work", "docs", ".source_hashes"], .file (.text "b.scad|kept\n"))], ["work"]⟩
    let r : Run Unit := ⟨d, Log.empty.record ⟨⟨"b.scad", 0⟩, .disk .notFound⟩, some p⟩
    ∃ summary r', r.exec (generate m) = (.ok summary, r') ∧
      (IsSource m "a.scad" ∧ r'.log.fileHasErrors "a.scad" = true ∧
        ((HashStore.load r'.disk (storePath m)).1.get? "a.scad").isSome = true) ∧
      (¬ IsSource m "b.scad" ∧ r'.log.fileHasErrors "b.scad" = true ∧
        ((HashStore.load r'.disk (storePath m)).1.get? "b.scad").isSome = true) := by
  intro m p d r
  obtain ⟨hpages, himages, htest, hcurrent, hfiles, hsource, hsummary, hnone, herror, hbefore, hloaded⟩ :
      m.settings.pages.files = true ∧ m.settings.makeImages = true ∧ m.settings.testOnly = false ∧
      r.disk.get? r.disk.current = some .directory ∧
      m.document.files = [0] ∧ sourceOf m.document 0 = "a.scad" ∧
      (r.exec (generate m)).1.toOption = some ⟨["docs/a.scad.md", "docs/TOC.md"], 0, 0, 0, 0⟩ ∧
      (r.exec (writeFilePages m)).2.log.fileHasErrors "a.scad" = false ∧
      (r.exec (generate m)).2.log.fileHasErrors "a.scad" = true ∧
      (r.exec (generate m)).2.log.fileHasErrors "b.scad" = true ∧
      ((loaded m r).get? "b.scad").isSome = true := by
    decide +kernel
  have hall (x : String) : IsSource m x ↔ x = "a.scad" := by
    rw [IsSource, hfiles]
    simp [hsource, eq_comm]
  have hfield : ∀ x, IsSource m x → HashStore.Field x := by
    intro x hx
    rw [(hall x).1 hx]
    decide
  rcases hrun : r.exec (generate m) with ⟨result, r'⟩
  rw [hrun] at hsummary herror hbefore
  obtain rfl := ok_of_toOption hsummary
  obtain ⟨dialect, filed, mid, -, hfiled, hknown⟩ :=
    recorded_despite_error_iff _ _ hpages himages htest rfl hcurrent hfield hrun
  rw [hfiled] at hnone
  have ha : IsSource m "a.scad" := (hall _).2 rfl
  have hb : ¬ IsSource m "b.scad" := fun hb => absurd ((hall _).1 hb) (by decide)
  obtain ⟨-, hrecorded, -⟩ := hknown "a.scad"
  obtain ⟨-, -, hkept⟩ := hknown "b.scad"
  exact ⟨_, r', rfl, ⟨ha, herror, hrecorded.2 (.inl ⟨ha, hnone⟩)⟩,
    hb, hbefore, (hkept hbefore).2 (.inr ⟨hb, hloaded⟩)⟩

/-- A source whose only error is found by the table of contents: the run commits its digest all the same. -/
theorem footnote_error_recorded :
    let m := (Manual.new { Settings.default with
        pages := { PageSet.none with files := true, contents := true } }).readAll
      [.code "a.scad" ["// File: a.scad", "// FileFootnotes: X=First; X=Second"]]
    let p := Render.Pipeline.new
      (.writing (.text "image") (Render.Output.ofStreams [] (some 0) "" "")) ()
    let r := Run.start ⟨[(["work"], .directory)], ["work"]⟩ (some p)
    (r.exec (generate m)).1.toOption = some ⟨["docs/a.scad.md", "docs/TOC.md"], 0, 0, 0, 0⟩ ∧
      (r.exec (generate m)).2.log.entries =
        [⟨"a.scad", 2, "Footnote \"Second\" conflicts with previous definition \"First\", while declaring block: " ++
          "\"FileFootnotes\"", .error⟩] ∧
      (HashStore.load (r.exec (generate m)).2.disk (storePath m)).1.get? "a.scad" =
        some "e3b0c44298fc1c149afbf4c8996fb92427ae41e4649b934ca495991b7852b855" := by
  decide +kernel

end Documentation

end ScadManual
