import ScadManual.Proofs.StoreFiles
import ScadManual.Run.Tutorials

/-!
# Visits to tutorials

A visit converts the text of a tutorial, writes the page, makes or skips the images that it asks for, and commits
the hash store.  Each of these can fail by itself, and what has been done before stays done.
-/

namespace ScadManual

/-! ## Attempts without errors -/

namespace Render

variable {σ : Type}

/-- An attempt that ends well calls the renderer once. -/
theorem Trial.exists_calls_of_ok {t : Trial σ} {status : Status}
    (h : (t.pipeline.attempt t.request t.disk).result = .ok status) : ∃ call, t.calls = [call] := by
  cases t.pipeline.course t.request t.disk with
  | stopped e d' current same ended ended' =>
    rw [ended] at h
    exact nomatch h
  | called script candidate d₂ ready ended ended' =>
    exact ⟨_, by rw [calls, Pipeline.calls, ended']⟩

namespace Pipeline

/-- Where no error is logged for its source, every attempt has ended well. -/
theorem attempts_ok {p : Pipeline σ} (log : Log) {d : Disk} {requests : List Request}
    (h : ∀ r ∈ requests, (p.buildAll log d requests).2.2.1.fileHasErrors r.origin.file = false) :
    ∀ t ∈ p.trials d requests, ∃ status, (t.pipeline.attempt t.request t.disk).result = .ok status := by
  induction requests generalizing p log d with
  | nil => exact fun t ht => absurd ht List.not_mem_nil
  | cons r rs ih =>
    have hpipeline := (p.build_eq r log d).2
    have hdisk := p.build_disk r log d
    have hlogged {e : Error} (he : (p.attempt r d).result = .error e) := (logged_of_error he log).1
    rw [buildAll_cons] at h
    generalize p.build r log d = first at h hpipeline hdisk hlogged
    obtain ⟨hfirst, hrest⟩ := List.forall_mem_cons.1 h
    rw [trials, List.forall_mem_cons]
    constructor
    · cases hresult : (p.attempt r d).result with
      | ok status => exact ⟨status, rfl⟩
      | error e =>
        -- the failure would have been logged, and nothing is ever taken from a log
        obtain ⟨hdealt, -⟩ := first.2.1.dealt_buildAll first.2.2.1 first.2.2.2 rs
        have herror : first.2.2.1.fileHasErrors r.origin.file = true :=
          Log.fileHasErrors_iff.2 ⟨_, hlogged hresult, rfl, rfl⟩
        exact absurd (hdealt.adds.fileHasErrors herror) (by simp [hfirst])
    · rw [← hdisk, ← hpipeline]
      exact ih _ hrest

end Pipeline

end Render

/-! ## Single steps -/

section Exec

variable {σ : Type} (r : Run σ)

theorem Run.exec_announce (path : String) :
    r.exec (announce path) = (.ok (), { r with log := r.log.progress ("Writing " ++ path ++ "...") }) := rfl

theorem Run.exec_setTestOnly (testOnly : Bool) :
    r.exec (setTestOnly testOnly) =
      (.ok (), { r with pipeline := r.pipeline.map fun p => { p with testOnly } }) := rfl

theorem Tutorial.exec_logEntries (entries : List LogEntry) :
    r.exec (logEntries entries) = (.ok (), { r with log := entries.foldl Log.add r.log }) := rfl

end Exec

/-! ## Converted pages -/

namespace Tutorial

variable {σ : Type}

theorem getLast?_imageExtension (metadata : String) (png : Bool) :
    (Render.imageExtension metadata png).toList.getLast? = some 'g' ∨
      (Render.imageExtension metadata png).toList.getLast? = some 'f' := by
  unfold Render.imageExtension
  split
  · exact .inr rfl
  · exact .inl rfl

theorem getLast?_imageUrl (s : Settings) (source : String) (number : Nat) (metadata : String) {c : Char}
    (h : (Render.imageExtension metadata s.pngAnimation).toList.getLast? = some c) (hc : c ≠ '/') :
    (imageUrl s source number metadata).toList.getLast? = some c := by
  refine Path.getLast?_append _ ?_ hc
  rw [String.toList_append, List.getLast?_append, h]
  rfl

/-- A page asks for images on account of its source, under names that images have. -/
theorem requests_convertParts (s : Settings) (source : String) (parts : List Part) :
    ∀ number, ∀ q ∈ (convertParts s source number parts).requests, q.origin.file = source ∧ q.NamesImage := by
  have hfenced (number : Nat) (f : Fenced) :
      ∀ q ∈ (convertFenced s source number f).requests, q.origin.file = source ∧ q.NamesImage := by
    intro q hq
    unfold convertFenced at hq
    extract_lets url lines at hq
    split at hq
    · next r hmade =>
      obtain rfl := List.mem_singleton.1 hq
      obtain ⟨horigin, hfile⟩ := Render.Request.make_eq_ok hmade
      refine ⟨by rw [horigin], ?_⟩
      rw [Render.Request.NamesImage, hfile]
      rcases getLast?_imageExtension f.metadata s.pngAnimation with hlast | hlast
      · exact .inl (Path.getLast?_join _ (getLast?_imageUrl s source number f.metadata hlast (by decide)))
      · exact .inr (Path.getLast?_join _ (getLast?_imageUrl s source number f.metadata hlast (by decide)))
    · simp at hq
  induction parts with
  | nil => exact fun number q hq => absurd hq List.not_mem_nil
  | cons part rest ih =>
    intro number q hq
    cases part with
    | plain line => exact ih number q hq
    | fenced f =>
      rcases List.mem_append.1 hq with hown | hlater
      · exact hfenced number f q hown
      · exact ih (number + 1) q hlater
    | unterminated line => exact ih (number + 1) q hq

/-! ## Visits -/

/-- A visit to a source, when its text has been read. -/
structure Visit (σ : Type) where
  settings : Settings
  source : String
  text : String
  /-- The run and the store as they are. -/
  start : Run σ
  store : HashStore

namespace Visit

/-- The converted page. -/
def page (v : Visit σ) : Page := convert v.settings v.source (Text.lines v.text)

/-- The path that the page is written to. -/
def pagePath (v : Visit σ) : String := outputFile v.settings v.source

/-- The visit when the page has been written and the images are to be made. -/
def paged (v : Visit σ) : Documentation.Visit σ where
  source := v.source
  page := v.pagePath
  found := []
  requests := v.page.requests
  force := v.settings.force || v.settings.testOnly
  run := (v.start.exec (preparePage v.settings v.source v.page)).2
  store := v.store

theorem requests (v : Visit σ) : ∀ q ∈ v.page.requests, q.origin.file = v.source ∧ q.NamesImage :=
  requests_convertParts v.settings v.source _ 1

end Visit

/-- The log when a page has been converted and is to be written. -/
def converted (log : Log) (path : String) (page : Page) : Log :=
  (page.entries.foldl Log.add log).progress ("Writing " ++ path ++ "...")

/-- Unless the page cannot be written, only the disk and the log change and the pipeline really builds. -/
theorem exec_preparePage {s : Settings} (htest : s.testOnly = false) (r : Run σ) (source : String) (page : Page) :
    r.exec (preparePage s source page) =
      match r.disk.writeLines (outputFile s source) page.lines with
      | .ok disk => (.ok (Summary.page (outputFile s source)), ⟨disk, converted r.log (outputFile s source) page,
          r.pipeline.map fun p => { p with testOnly := false }⟩)
      | .error e => (.error (.disk e), { r with log := converted r.log (outputFile s source) page }) := by
  rw [preparePage, writeConverted, htest]
  simp only [Bool.false_eq_true, if_false, Run.exec_bind, exec_logEntries, Run.exec_announce, Run.writePage,
    Run.exec_onDisk]
  cases r.disk.writeLines (outputFile s source) page.lines <;> rfl

/-- The visit is not a test, and it has got as far as to write the page. -/
structure Visit.Written (v : Visit σ) : Prop where
  lasting : v.settings.testOnly = false
  text : v.start.disk.readText v.source = .ok v.text
  page : v.start.disk.writeLines v.pagePath v.page.lines = .ok v.paged.run.disk

/-- What processing a source comes to: its page cannot be written, or the store cannot, or both are. -/
inductive Visit.Processed (v : Visit σ) : Except Error (Summary × Option HashStore) × Run σ → Prop
  | unwritten (e : Error) (r' : Run σ) (disk : r'.disk = v.start.disk) : v.Processed (.error e, r')
  | uncommitted (e : Error) (written : v.Written) : v.Processed (.error e, v.paged.imaged)
  | done (summary : Summary) (disk : Disk) (written : v.Written)
      (commit : v.paged.stored.commit v.paged.imaged.disk = .ok disk) :
      v.Processed (.ok (summary, some v.paged.stored), { v.paged.imaged with disk })

theorem processFile_processed (v : Visit σ) (htest : v.settings.testOnly = false)
    (htext : v.start.disk.readText v.source = .ok v.text) :
    v.Processed (v.start.exec (processFile v.settings v.source (some v.store))) := by
  have hpage : convert v.settings v.source (Text.lines v.text) = v.page := rfl
  have hprepare := exec_preparePage htest v.start v.source v.page
  rw [processFile, Run.exec_get_bind]
  simp only [htext, hpage, Run.exec_bind]
  cases hw : v.start.disk.writeLines (outputFile v.settings v.source) v.page.lines with
  | error e =>
    simp only [hw] at hprepare
    rw [hprepare]
    exact .unwritten _ _ rfl
  | ok disk =>
    simp only [hw] at hprepare
    have hrun : v.paged.run = ⟨disk, converted v.start.log (outputFile v.settings v.source) v.page,
        v.start.pipeline.map fun p => { p with testOnly := false }⟩ := congrArg Prod.snd hprepare
    have hwritten : v.Written := ⟨htest, htext, by rw [hrun]; exact hw⟩
    have hmake : v.paged.run.exec (Run.makeImages v.page.requests (v.settings.force || v.settings.testOnly)
        v.source v.store) = _ := Documentation.exec_makeImages v.paged
    rw [hprepare, ← hrun]
    simp only [hmake]
    cases hc : v.paged.stored.commit v.paged.imaged.disk with
    | error e => exact .uncommitted e hwritten
    | ok disk => exact .done _ disk hwritten hc

end Tutorial

end ScadManual
