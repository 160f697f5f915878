import Mathlib.Algebra.Ring.Nat
import ScadManual.Proofs.Blame
import ScadManual.Proofs.HashStore
import ScadManual.Proofs.Queue

/-!
# What a run records of its sources

A run visits the files one after the other.  On each visit the digest of the source is noted before it is
known how the images will fare, and taken back if an error has been logged for the source by the time the
store is committed.  Pages and images log errors only against the source that they belong to, so what a visit
has decided about its source no later visit to another one can change; and the last table that is committed
is right about all of them.
-/

namespace ScadManual

/-! ## Steps -/

namespace Run

variable {σ α β : Type}

/-- What a step leads to: its value, or the error that stopped it, and the run afterwards. -/
def exec (r : Run σ) (step : Step σ α) : Except Error α × Run σ := Work.exec step r

theorem disk_start (disk : Disk) (pipeline : Option (Render.Pipeline σ)) : (start disk pipeline).disk = disk :=
  rfl

section Steps

variable {r r' : Run σ}

theorem exec_bind (r : Run σ) (step : Step σ α) (next : α → Step σ β) :
    r.exec (step >>= next) =
      match r.exec step with
      | (.ok a, r') => r'.exec (next a)
      | (.error e, r') => (.error e, r') := by
  rw [exec, exec, Work.exec_bind]
  rcases Work.exec step r with ⟨x, r'⟩
  cases x <;> rfl

/-- Steps in a row give a value when each of them does. -/
theorem exec_bind_eq_ok {step : Step σ α} {next : α → Step σ β} {b : β}
    (h : r.exec (step >>= next) = (.ok b, r')) :
    ∃ a mid, r.exec step = (.ok a, mid) ∧ mid.exec (next a) = (.ok b, r') :=
  Work.exec_bind_eq_ok h

theorem exec_get_bind (r : Run σ) (next : Run σ → Step σ β) : r.exec (get >>= next) = r.exec (next r) := rfl

theorem exec_pure (r : Run σ) (a : α) : r.exec (pure a) = (.ok a, r) := rfl

theorem exec_onDisk (r : Run σ) (change : Disk → Except DiskError Disk) :
    r.exec (onDisk change) = match change r.disk with
      | .ok disk => (.ok (), { r with disk })
      | .error e => (.error (.disk e), r) := by
  rw [onDisk, exec_get_bind]
  cases change r.disk <;> rfl

theorem exec_onDisk_eq_ok {change : Disk → Except DiskError Disk} {u : Unit}
    (h : r.exec (onDisk change) = (.ok u, r')) : ∃ disk, change r.disk = .ok disk ∧ r' = { r with disk } := by
  rw [exec_onDisk] at h
  cases hc : change r.disk with
  | error e =>
    rw [hc] at h
    exact absurd (congrArg Prod.fst h) (by simp)
  | ok disk =>
    rw [hc] at h
    exact ⟨disk, rfl, (congrArg Prod.snd h).symm⟩

theorem exec_settle {p : Render.Pipeline σ} (hp : r.pipeline = some p) (requests : List Render.Request)
    (build : Bool) :
    r.exec (settle requests build) =
      if build then
        let out := (p.enqueue requests).flush r.log r.disk
        (.ok out.1, ⟨out.2.2.2, out.2.2.1, some out.2.1⟩)
      else
        let out := (p.enqueue requests).purge
        (.ok out.1, { r with pipeline := some out.2 }) := by
  rw [settle, exec_get_bind]
  simp only [hp]
  cases build with
  | false => rfl
  | true =>
    simp only [if_true]
    generalize (p.enqueue requests).flush r.log r.disk = out
    rfl

/-- Images are made or skipped, or fail one by one, but the run goes on. -/
theorem exists_exec_settle (r : Run σ) (requests : List Render.Request) (build : Bool) :
    ∃ reports, r.exec (settle requests build) = (.ok reports, (r.exec (settle requests build)).2) := by
  cases hp : r.pipeline with
  | none =>
    refine ⟨[], ?_⟩
    rw [settle, exec_get_bind]
    simp only [hp]
    rfl
  | some p =>
    rw [exec_settle hp]
    cases build with
    | false => exact ⟨_, rfl⟩
    | true => exact ⟨_, rfl⟩

/-- Whether images are made or skipped, the digest of the source is noted. -/
theorem exec_buildImages (r : Run σ) (requests : List Render.Request) (all : Bool) (source : String)
    (store : HashStore) :
    r.exec (buildImages requests all source store) =
      let checked := store.check r.disk source
      let settled := r.exec (settle requests (all || checked.1))
      (settled.1.map fun reports => (reports, checked.2), settled.2) := by
  rw [buildImages, exec_get_bind]
  extract_lets checked settled
  obtain ⟨reports, hsettled⟩ := r.exists_exec_settle requests (all || checked.1)
  have hsame : settled = (.ok reports, settled.2) := hsettled
  rw [hsame]
  exact Work.exec_bind_of_ok hsettled _

theorem exec_commitHashes (r : Run σ) (store : HashStore) (source : String) :
    r.exec (commitHashes store source) =
      match (store.forgetBad r.log source).commit r.disk with
      | .ok disk => (.ok (store.forgetBad r.log source), { r with disk })
      | .error e => (.error e, r) := by
  rw [commitHashes, exec_get_bind]
  extract_lets kept
  cases kept.commit r.disk <;> rfl

end Steps

end Run

/-! ## One visit -/

namespace Documentation

variable {σ : Type}

/-- A visit to a file, at the moment when its page has been written. -/
structure Visit (σ : Type) where
  source : String
  /-- The path of the page. -/
  page : String
  /-- What writing the page found. -/
  found : List Finding
  /-- The images that the file asks for. -/
  requests : List Render.Request
  /-- Are all images to be made? -/
  force : Bool
  /-- The run and the store as they are. -/
  run : Run σ
  store : HashStore

namespace Visit

/-- Are the images made, and not skipped? -/
def build (v : Visit σ) : Bool := v.force || (v.store.check v.run.disk v.source).1

/-- What making or skipping the images leads to. -/
def built (v : Visit σ) : Except Error (List Render.Report × HashStore) × Run σ :=
  v.run.exec (Run.buildImages v.requests v.force v.source v.store)

/-- The run after the images. -/
def imaged (v : Visit σ) : Run σ := v.built.2

/-- How the images fared. -/
def reports (v : Visit σ) : List Render.Report := (v.built.1.toOption.map (·.1)).getD []

/-- The store that is committed at the end. -/
def stored (v : Visit σ) : HashStore :=
  ((v.built.1.toOption.map (·.2)).getD v.store).forgetBad v.imaged.log v.source

theorem built_eq (v : Visit σ) :
    v.built = (.ok (v.reports, (v.store.check v.run.disk v.source).2), v.imaged) ∧
      v.run.exec (Run.settle v.requests v.build) = (.ok v.reports, v.imaged) := by
  obtain ⟨reports, hsettled⟩ := v.run.exists_exec_settle v.requests v.build
  have hbuilt : v.built = (.ok (reports, (v.store.check v.run.disk v.source).2),
      (v.run.exec (Run.settle v.requests v.build)).2) := by
    rw [built, Run.exec_buildImages]
    change (_, (v.run.exec (Run.settle v.requests v.build)).2) = _
    rw [show v.run.exec (Run.settle v.requests (v.force || (v.store.check v.run.disk v.source).1)) = _ from hsettled]
    rfl
  have hreports : v.reports = reports := by rw [Visit.reports, hbuilt]; rfl
  have himaged : v.imaged = (v.run.exec (Run.settle v.requests v.build)).2 := by rw [imaged, hbuilt]
  rw [hreports, himaged]
  exact ⟨hbuilt, hsettled⟩

theorem stored_eq (v : Visit σ) :
    v.stored = (v.store.check v.run.disk v.source).2.forgetBad v.imaged.log v.source := by
  rw [stored, v.built_eq.1]
  rfl

/-- The images are made or skipped, and every request is dealt with. -/
theorem imaged_spec (v : Visit σ) {p : Render.Pipeline σ} (hp : v.run.pipeline = some p) :
    Render.Dealt (p.queue ++ v.requests) v.run.log v.reports v.imaged.log ∧
      ∃ p', v.imaged.pipeline = some p' ∧ p'.queue = [] := by
  have hexec := v.built_eq.2.symm.trans (Run.exec_settle hp v.requests v.build)
  cases hb : v.build with
  | true =>
    rw [hb, if_pos rfl] at hexec
    obtain ⟨hdealt, hqueue⟩ := (p.enqueue v.requests).dealt_flush v.run.log v.run.disk
    obtain ⟨hreports, himaged⟩ := Prod.mk.inj hexec
    rw [Except.ok.inj hreports, himaged]
    exact ⟨hdealt, _, rfl, hqueue⟩
  | false =>
    rw [hb, if_neg Bool.false_ne_true] at hexec
    obtain ⟨hdealt, hqueue⟩ := (p.enqueue v.requests).dealt_purge v.run.log
    obtain ⟨hreports, himaged⟩ := Prod.mk.inj hexec
    rw [Except.ok.inj hreports, himaged]
    exact ⟨hdealt, _, rfl, hqueue⟩

/-- A visit decides about its own source and about no other. -/
theorem get?_stored (v : Visit σ) (x : String) :
    v.stored.get? x =
      if x = v.source then
        if v.imaged.log.fileHasErrors v.source then none
        else some (HashStore.digestOf v.run.disk v.source)
      else v.store.get? x := by
  rw [stored_eq, HashStore.forgetBad]
  have hcheck := HashStore.get?_check v.store v.run.disk v.source x
  cases v.imaged.log.fileHasErrors v.source with
  | false => simpa using hcheck
  | true =>
    rw [if_pos rfl, if_pos rfl, HashStore.get?_invalidate, hcheck]
    split <;> rfl

theorem stored_keeps (v : Visit σ) : v.stored.path = v.store.path ∧ v.stored.previous = v.store.previous := by
  rw [stored_eq, HashStore.forgetBad]
  split <;> exact ⟨rfl, rfl⟩

/-- A table that can be rendered and read back stays so. -/
theorem recordable_stored {v : Visit σ} (hsource : HashStore.Field v.source)
    (h : HashStore.Recordable v.store.current) : HashStore.Recordable v.stored.current := by
  have hcheck : HashStore.Recordable (v.store.check v.run.disk v.source).2.current :=
    h.insert hsource (HashStore.field_digestOf v.run.disk v.source)
  rw [stored_eq, HashStore.forgetBad]
  split
  · exact hcheck.erase v.source
  · exact hcheck

/-- What a visit adds to the summary: its page, and how the images fared. -/
def summary (v : Visit σ) : Summary := (Summary.page v.page).add (Summary.tally v.reports)

theorem images_summary (v : Visit σ) : v.summary.images = v.reports.length := by
  rw [summary, Summary.images_add, Summary.images_tally]
  exact Nat.zero_add _

end Visit

/-- The visit to a file that starts with a run and a store. -/
def visitOf (settings : Settings) (s : Page.Setting) (store : HashStore) (r : Run σ) (file : NodeId) :
    Visit σ :=
  { source := sourceOf s.doc file
    page := pageOf settings (sourceOf s.doc file)
    found := (s.filePage file).findings
    requests := requestsBelow s.doc file
    force := settings.force
    run := (r.exec (writePageOf settings s file)).2
    store := store }

/-- What a visit that gets to its end leads to. -/
structure Visit.Ended (v : Visit σ) (r : Run σ) (summary : Summary) (store' : HashStore) (r' : Run σ) :
    Prop where
  /-- The page is written, and what it found is logged. -/
  page : ∃ lines, r.disk.writeLines v.page lines = .ok v.run.disk
  log : ∃ text, v.run.log = (r.log.progress text).recordAll v.found
  pipeline : v.run.pipeline = r.pipeline
  /-- The page and the images are counted. -/
  total : summary = v.summary
  /-- The store is committed. -/
  stored : store' = v.stored
  disk : v.stored.commit v.imaged.disk = .ok r'.disk
  rest : r' = { v.imaged with disk := r'.disk }

theorem Visit.Ended.kept {v : Visit σ} {r r' : Run σ} {summary : Summary} {store' : HashStore}
    (h : v.Ended r summary store' r') : r'.log = v.imaged.log ∧ r'.pipeline = v.imaged.pipeline := by
  rw [h.rest]
  exact ⟨rfl, rfl⟩

/-- When the images have been made or skipped, the store is committed. -/
theorem exec_makeImages (v : Visit σ) :
    v.run.exec (Run.makeImages v.requests v.force v.source v.store) =
      match v.stored.commit v.imaged.disk with
      | .ok disk => (.ok (Summary.tally v.reports, v.stored), { v.imaged with disk })
      | .error e => (.error e, v.imaged) := by
  have hbuilt : v.run.exec (Run.buildImages v.requests v.force v.source v.store) = _ := v.built_eq.1
  have hcommit := v.imaged.exec_commitHashes (v.store.check v.run.disk v.source).2 v.source
  rw [← v.stored_eq] at hcommit
  rw [Run.makeImages, Run.exec_bind, hbuilt]
  simp only [Run.exec_bind, hcommit]
  cases v.stored.commit v.imaged.disk <;> rfl

theorem makeImages_eq_ok {v : Visit σ} {store' : HashStore} {r' : Run σ} {summary : Summary}
    (h : v.run.exec (Run.makeImages v.requests v.force v.source v.store) = (.ok (summary, store'), r')) :
    summary = Summary.tally v.reports ∧ store' = v.stored ∧
      v.stored.commit v.imaged.disk = .ok r'.disk ∧ r' = { v.imaged with disk := r'.disk } := by
  rw [exec_makeImages] at h
  cases hcommit : v.stored.commit v.imaged.disk with
  | error e =>
    rw [hcommit] at h
    exact absurd (congrArg Prod.fst h) (by simp)
  | ok disk =>
    rw [hcommit] at h
    obtain ⟨hvalue, rfl⟩ := Prod.mk.inj h
    obtain ⟨rfl, rfl⟩ := Prod.mk.inj (Except.ok.inj hvalue)
    exact ⟨rfl, rfl, rfl, rfl⟩

/-- The page is written and all else is as it was, but for the log. -/
theorem writePageOf_eq_ok {settings : Settings} {s : Page.Setting} {file : NodeId} {r r' : Run σ} {page : Summary}
    (h : r.exec (writePageOf settings s file) = (.ok page, r')) :
    page = Summary.page (pageOf settings (sourceOf s.doc file)) ∧ r'.pipeline = r.pipeline ∧
      (∃ lines, r.disk.writeLines (pageOf settings (sourceOf s.doc file)) lines = .ok r'.disk) ∧
      ∃ text, r'.log = (r.log.progress text).recordAll (s.filePage file).findings := by
  obtain ⟨_, told, htold, hnext⟩ := Run.exec_bind_eq_ok h
  obtain ⟨lines, noted, hnoted, hpage⟩ := Run.exec_bind_eq_ok hnext
  obtain ⟨_, written, hwritten, hend⟩ := Run.exec_bind_eq_ok hpage
  obtain rfl := (Prod.mk.inj htold).2
  obtain rfl := (Prod.mk.inj hnoted).2
  obtain ⟨hvalue, rfl⟩ := Prod.mk.inj hend
  obtain ⟨disk, hdisk, rfl⟩ := Run.exec_onDisk_eq_ok hwritten
  exact ⟨(Except.ok.inj hvalue).symm, rfl, ⟨lines, hdisk⟩, _, rfl⟩

theorem writeFile_eq_ok {settings : Settings} (himages : settings.makeImages = true) {s : Page.Setting}
    {file : NodeId} {store store' : HashStore} {r r' : Run σ} {p : Render.Pipeline σ}
    (hp : r.pipeline = some p) {summary : Summary}
    (h : r.exec (writeFile settings s file store) = (.ok (summary, store'), r')) :
    (visitOf settings s store r file).Ended r summary store' r' := by
  obtain ⟨page, written, hwritten, himaged⟩ := Run.exec_bind_eq_ok h
  have hrun : (visitOf settings s store r file).run = written := by
    rw [visitOf]
    simp only [hwritten]
  obtain ⟨rfl, hkept, hlines, hlog⟩ := writePageOf_eq_ok hwritten
  have hpipeline : written.pipeline = some p := hkept.trans hp
  -- with a pipeline the images come next
  rw [Run.exec_get_bind, if_pos (by simp [hpipeline, himages])] at himaged
  obtain ⟨⟨images, store₂⟩, mid, hmake, hend⟩ := Run.exec_bind_eq_ok himaged
  obtain ⟨hvalue, rfl⟩ := Prod.mk.inj hend
  obtain ⟨rfl, rfl⟩ := Prod.mk.inj (Except.ok.inj hvalue)
  rw [← hrun] at hmake
  obtain ⟨himage, hstored, hcommit, hrest⟩ := makeImages_eq_ok (v := visitOf settings s store r file) hmake
  exact
    { page := by rw [hrun]; exact hlines
      log := by rw [hrun]; exact hlog
      pipeline := by rw [hrun, hkept]
      total := by rw [himage]; rfl
      stored := hstored
      disk := hcommit
      rest := hrest }

/-! ## All visits -/

/-- The visits to files in order, up to one that does not get to its end. -/
def visits (settings : Settings) (s : Page.Setting) (store : HashStore) (r : Run σ) :
    List NodeId → List (Visit σ)
  | [] => []
  | file :: files =>
    visitOf settings s store r file ::
      match r.exec (writeFile settings s file store) with
      | (.ok (_, store'), r') => visits settings s store' r' files
      | (.error _, _) => []

theorem visits_nil (settings : Settings) (s : Page.Setting) (store : HashStore) (r : Run σ) :
    visits settings s store r [] = [] := rfl

theorem visits_cons {settings : Settings} {s : Page.Setting} {store store' : HashStore} {r r' : Run σ}
    {file : NodeId} {summary : Summary} (files : List NodeId)
    (h : r.exec (writeFile settings s file store) = (.ok (summary, store'), r')) :
    visits settings s store r (file :: files) =
      visitOf settings s store r file :: visits settings s store' r' files := by
  show _ :: (match r.exec (writeFile settings s file store) with
    | (.ok (_, store'), r') => visits settings s store' r' files
    | (.error _, _) => []) = _
  rw [h]

theorem visits_cons_of_error {settings : Settings} {s : Page.Setting} {store : HashStore} {r r' : Run σ}
    {file : NodeId} {e : Error} (files : List NodeId)
    (h : r.exec (writeFile settings s file store) = (.error e, r')) :
    visits settings s store r (file :: files) = [visitOf settings s store r file] := by
  show _ :: (match r.exec (writeFile settings s file store) with
    | (.ok (_, store'), r') => visits settings s store' r' files
    | (.error _, _) => []) = _
  rw [h]

/-- The store that visits lead to. -/
def storeAfter (store : HashStore) (vs : List (Visit σ)) : HashStore :=
  (vs.getLast?.map Visit.stored).getD store

theorem storeAfter_cons (store : HashStore) (v : Visit σ) (vs : List (Visit σ)) :
    storeAfter store (v :: vs) = storeAfter v.stored vs := by
  cases vs with
  | nil => rfl
  | cons w vs => simp only [storeAfter, List.getLast?_cons_cons]; rfl

theorem storeAfter_eq {store : HashStore} {vs : List (Visit σ)} {last : Visit σ} (h : vs.getLast? = some last) :
    storeAfter store vs = last.stored := by
  rw [storeAfter, h]
  rfl

/-- What can be said of visits that all get to their end, when `digest` is what they found the digests of
their sources to be. -/
structure Completed (digest : String → String) (store : HashStore) (r : Run σ) (p : Render.Pipeline σ)
    (vs : List (Visit σ)) (summary : Summary) (r' : Run σ) (p' : Render.Pipeline σ) : Prop where
  pipeline : r'.pipeline = some p'
  /-- What is logged is about the sources that are visited, and about requests that were waiting before. -/
  adds : r.log.Adds (fun f => f ∈ vs.map (·.source) ∨ ∃ q ∈ p.queue, q.origin.file = f) r'.log
  /-- The summary adds up what the visits led to, and no request is lost. -/
  total : summary = Summary.sum (vs.map Visit.summary)
  counted : summary.images + p'.queue.length = p.queue.length + (vs.map (·.requests.length)).sum
  /-- The store is right about the sources that were visited and unchanged elsewhere. -/
  table : ∀ x, (storeAfter store vs).get? x =
    if x ∈ vs.map (·.source) then if r'.log.fileHasErrors x then none else some (digest x)
    else store.get? x
  /-- Pages and images are about their sources, and what they have found is in the log. -/
  about : ∀ v ∈ vs, (∀ f ∈ v.found, f.origin.file = v.source) ∧ ∀ q ∈ v.requests, q.origin.file = v.source
  found : ∀ v ∈ vs, ∀ f ∈ v.found, f.entry ∈ r'.log.entries
  failed : ∀ v ∈ vs, ∀ report ∈ v.reports, report.status = .failed →
    r'.log.fileHasErrors report.origin.file = true
  /-- Every visit compares with what was stored before. -/
  previous : ∀ v ∈ vs, v.store.path = store.path ∧ v.store.previous = store.previous
  /-- Every visit has a pipeline and gets to its end. -/
  ended : ∀ v ∈ vs, ∃ r₀ p₀ summary₀ store₁ r₁, r₀.pipeline = some p₀ ∧ v.Ended r₀ summary₀ store₁ r₁
  /-- Only the first visit finds requests waiting. -/
  waiting : ∀ v ∈ vs, ∀ p₀, v.run.pipeline = some p₀ → ∀ q ∈ p₀.queue, q ∈ p.queue
  /-- A table that can be rendered and read back stays so. -/
  recordable : (∀ v ∈ vs, HashStore.Field v.source) → HashStore.Recordable store.current →
    HashStore.Recordable (storeAfter store vs).current

section Completed

variable {digest : String → String} {store store' : HashStore} {r r₁ r' : Run σ} {p p₁ p' : Render.Pipeline σ}
  {v : Visit σ} {vs : List (Visit σ)} {first rest : Summary}

/-- What a visit logs is about its source and about requests that were waiting before. -/
theorem Visit.Ended.adds (hv : v.Ended r first store' r₁) (hp : r.pipeline = some p)
    (habout : ∀ f ∈ v.found, f.origin.file = v.source)
    (hours : ∀ q ∈ v.requests, q.origin.file = v.source) :
    r.log.Adds (fun f => f = v.source ∨ ∃ q ∈ p.queue, q.origin.file = f) r₁.log := by
  obtain ⟨hdealt, -⟩ := v.imaged_spec (hv.pipeline.trans hp)
  obtain ⟨text, hlog⟩ := hv.log
  have hpage : r.log.Adds (fun f => f = v.source ∨ ∃ q ∈ p.queue, q.origin.file = f) v.run.log := by
    rw [hlog]
    refine (Log.adds_of_entries_eq (Log.entries_progress r.log text)).trans ?_
    exact Log.adds_recordAll _ fun f hf => .inl (habout f hf)
  rw [hv.kept.1]
  refine hpage.trans (hdealt.adds.mono ?_)
  rintro f ⟨q, hq, rfl⟩
  rcases List.mem_append.1 hq with hwaiting | hown
  · exact .inr ⟨q, hwaiting, rfl⟩
  · exact .inl (hours q hown)

/-- The run step: after one visit, what holds of the visits that follow holds of all. -/
theorem Completed.cons (hv : v.Ended r first store' r₁) (hp : r.pipeline = some p)
    (habout : ∀ f ∈ v.found, f.origin.file = v.source)
    (hours : ∀ q ∈ v.requests, q.origin.file = v.source)
    (hdigest : HashStore.digestOf v.run.disk v.source = digest v.source) (hstore : v.store = store)
    (hp₁ : r₁.pipeline = some p₁) (h : Completed digest store' r₁ p₁ vs rest r' p') :
    Completed digest store r p (v :: vs) (first.add rest) r' p' := by
  obtain ⟨hdealt, q, hq, hempty⟩ := v.imaged_spec (hv.pipeline.trans hp)
  obtain ⟨hlog, hkept⟩ := hv.kept
  obtain rfl : p₁ = q := Option.some.inj (hp₁.symm.trans (hkept.trans hq))
  -- the visit has emptied the queue, so what follows is about later sources
  have hlater : r₁.log.Adds (· ∈ vs.map (·.source)) r'.log := by
    refine h.adds.mono ?_
    rintro f (hf | ⟨q, hq, -⟩)
    · exact hf
    · simp [hempty] at hq
  have hpath := h.previous
  obtain ⟨hkeptPath, hkeptPrevious⟩ := v.stored_keeps
  rw [hv.stored, hkeptPath, hkeptPrevious, hstore] at hpath
  refine
    { pipeline := h.pipeline
      adds := ?_
      total := by rw [hv.total, h.total]; rfl
      counted := ?_
      table := fun x => ?_
      about := List.forall_mem_cons.2 ⟨⟨habout, hours⟩, h.about⟩
      found := List.forall_mem_cons.2 ⟨fun f hf => ?_, h.found⟩
      failed := List.forall_mem_cons.2 ⟨fun report hmem hfailed => ?_, h.failed⟩
      previous := List.forall_mem_cons.2 ⟨by rw [hstore]; exact ⟨rfl, rfl⟩, hpath⟩
      ended := List.forall_mem_cons.2 ⟨⟨r, p, first, store', r₁, hp, hv⟩, h.ended⟩
      waiting := List.forall_mem_cons.2 ⟨fun p₀ hp₀ q hq => ?_, fun w hw p₀ hp₀ q hq => ?_⟩
      recordable := fun hfield htable => ?_ }
  · refine ((hv.adds hp habout hours).mono ?_).trans (hlater.mono ?_)
    · rintro f (rfl | hwaiting)
      · exact .inl List.mem_cons_self
      · exact .inr hwaiting
    · exact fun f hf => .inl (List.mem_cons_of_mem _ hf)
  · have hreports : first.images = p.queue.length + v.requests.length := by
      rw [hv.total, v.images_summary, hdealt.length_eq, List.length_append]
    have hcounted := h.counted
    rw [hempty, List.length_nil] at hcounted
    rw [Summary.images_add, List.map_cons, List.sum_cons]
    omega
  · rw [storeAfter_cons, ← hv.stored, h.table x]
    by_cases hx : x ∈ vs.map (·.source)
    · have hmem : x ∈ (v :: vs).map (·.source) := List.mem_cons_of_mem _ hx
      rw [if_pos hx, if_pos hmem]
    · rw [if_neg hx, hv.stored, v.get?_stored, hlater.fileHasErrors_eq hx, hlog, hstore]
      by_cases hself : x = v.source
      · subst hself
        have hmem : v.source ∈ (v :: vs).map (·.source) := List.mem_cons_self
        rw [if_pos rfl, if_pos hmem, hdigest]
      · have hnot : x ∉ (v :: vs).map (·.source) := by simpa [hself] using hx
        rw [if_neg hself, if_neg hnot]
  · obtain ⟨text, hpage⟩ := hv.log
    refine hlater.kept _ (hlog ▸ hdealt.adds.kept _ ?_)
    rw [hpage]
    exact Log.mem_recordAll.2 (.inr ⟨f, hf, rfl⟩)
  · exact hlater.fileHasErrors (hlog ▸ hdealt.failed report hmem hfailed)
  · rw [hv.pipeline, hp] at hp₀
    exact Option.some.inj hp₀ ▸ hq
  · have hnone := h.waiting w hw p₀ hp₀ q hq
    simp [hempty] at hnone
  · obtain ⟨hsource, hsources⟩ := List.forall_mem_cons.1 hfield
    rw [storeAfter_cons, ← hv.stored]
    refine h.recordable hsources ?_
    rw [hv.stored]
    exact Visit.recordable_stored hsource (by rw [hstore]; exact htable)

end Completed

/-! ## Visits to their end -/

/-- The files are visited one after the other, and every visit gets to its end. -/
inductive Visited (settings : Settings) (s : Page.Setting) :
    HashStore → Run σ → Render.Pipeline σ → List NodeId → Summary → Run σ → Prop
  | nil {store : HashStore} {r : Run σ} {p : Render.Pipeline σ} (given : r.pipeline = some p) :
      Visited settings s store r p [] Summary.empty r
  | cons {store store₁ : HashStore} {r r₁ r' : Run σ} {p p₁ : Render.Pipeline σ} {file : NodeId} {files : List NodeId}
      {first rest : Summary} (given : r.pipeline = some p)
      (run : r.exec (writeFile settings s file store) = (.ok (first, store₁), r₁))
      (ended : (visitOf settings s store r file).Ended r first store₁ r₁) (emptied : p₁.queue = [])
      (later : Visited settings s store₁ r₁ p₁ files rest r') :
      Visited settings s store r p (file :: files) (first.add rest) r'

theorem writeFiles_visited {settings : Settings} (himages : settings.makeImages = true) {s : Page.Setting}
    {files : List NodeId} {store : HashStore} {r r' : Run σ} {p : Render.Pipeline σ} {summary : Summary}
    (hp : r.pipeline = some p) (h : r.exec (writeFiles settings s store files) = (.ok summary, r')) :
    Visited settings s store r p files summary r' := by
  induction files generalizing store r p summary with
  | nil =>
    obtain ⟨hsummary, rfl⟩ := Prod.mk.inj h
    obtain rfl := Except.ok.inj hsummary
    exact .nil hp
  | cons file files ih =>
    obtain ⟨⟨first, store₁⟩, r₁, hfirst, hmore⟩ := Run.exec_bind_eq_ok h
    obtain ⟨rest, r₂, hrest, hend⟩ := Run.exec_bind_eq_ok hmore
    obtain ⟨hsummary, rfl⟩ := Prod.mk.inj hend
    obtain rfl := Except.ok.inj hsummary
    have hv := writeFile_eq_ok himages hp hfirst
    obtain ⟨-, p₁, himaged, hempty⟩ := Visit.imaged_spec _ (hv.pipeline.trans hp)
    exact .cons hp hfirst hv hempty (ih (hv.kept.2.trans himaged) hrest)

namespace Visited

variable {settings : Settings} {s : Page.Setting} {store : HashStore} {r r' : Run σ} {p : Render.Pipeline σ}
  {files : List NodeId} {summary : Summary}

theorem given (h : Visited settings s store r p files summary r') : r.pipeline = some p := by
  cases h <;> assumption

theorem eq_of_nil (h : Visited settings s store r p [] summary r') : r' = r := by
  cases h
  rfl

/-- The run: visits that get to their end are completed. -/
theorem completed (h : Visited settings s store r p files summary r') (hd : s.doc.Forest)
    (hr : s.doc.RequestsInPlace) {digest : String → String}
    (hsame : ∀ v ∈ visits settings s store r files, HashStore.digestOf v.run.disk v.source = digest v.source) :
    (visits settings s store r files).map (·.source) = files.map (sourceOf s.doc) ∧
      (visits settings s store r files).map (·.requests) = files.map (requestsBelow s.doc) ∧
      (∀ v ∈ (visits settings s store r files).getLast?, v.stored.commit v.imaged.disk = .ok r'.disk) ∧
      ∃ p', Completed digest store r p (visits settings s store r files) summary r' p' ∧
        (files ≠ [] → p'.queue = []) := by
  induction h with
  | @nil store r p hp =>
    rw [visits_nil]
    refine ⟨rfl, rfl, by simp, p, ?_, by simp⟩
    exact
      { pipeline := hp
        adds := Log.adds_of_entries_eq rfl
        total := rfl
        counted := Nat.zero_add _
        table := fun x => by simp [storeAfter]
        about := by simp
        found := by simp
        failed := by simp
        previous := by simp
        ended := by simp
        waiting := by simp
        recordable := fun _ htable => htable }
  | @cons store store₁ r r₁ r' p p₁ file files first rest hp hfirst hv hempty later ih =>
    rw [visits_cons files hfirst] at hsame ⊢
    obtain ⟨hdigest, hlater⟩ := List.forall_mem_cons.1 hsame
    obtain ⟨hsources, hrequests, hlast, p', hcompleted, hqueue⟩ := ih hlater
    refine ⟨?_, ?_, ?_, p', ?_, fun _ => ?_⟩
    · rw [List.map_cons, List.map_cons, hsources]
      rfl
    · rw [List.map_cons, List.map_cons, hrequests]
      rfl
    · intro w hw
      rw [List.getLast?_cons, Option.mem_some_iff] at hw
      cases hl : (visits settings s store₁ r₁ files).getLast? with
      | some last =>
        rw [hl] at hw
        exact hw ▸ hlast last hl
      | none =>
        obtain rfl : files = [] := by
          rw [List.getLast?_eq_none_iff] at hl
          rw [hl] at hsources
          simpa using hsources.symm
        rw [hl] at hw
        rw [later.eq_of_nil, ← hw]
        exact hv.disk
    · refine hcompleted.cons hv hp ?_ ?_ hdigest rfl later.given
      · exact Page.Setting.about_nodeLines hd file
      · exact file_of_mem_requestsBelow hd hr file
    · by_cases hnil : files = []
      · subst hnil
        have hpipeline := hcompleted.pipeline
        rw [later.eq_of_nil, later.given] at hpipeline
        rw [← Option.some.inj hpipeline, hempty]
      · exact hqueue hnil

end Visited

/-! ## The pages of all files -/

/-- The path of the hash store. -/
def storePath (m : Manual) : String := Path.join m.settings.docsDir HashStore.fileName

/-- The run when the directory of pages is there. -/
def opened (m : Manual) (r : Run σ) : Run σ :=
  (r.exec (Run.onDisk (·.makeDirectories m.settings.docsDir))).2

/-- The store that a run starts with. -/
def loaded (m : Manual) (r : Run σ) : HashStore := (HashStore.load (opened m r).disk (storePath m)).1

/-- The visits of a run that writes the pages of all files. -/
def visitsOf (m : Manual) (r : Run σ) : List (Visit σ) :=
  match Dialect.ofName m.settings.targetProfile with
  | .error _ => []
  | .ok dialect =>
    let ready := ((opened m r).exec (Run.loadHashes (storePath m))).2
    visits m.settings ⟨m.library, dialect⟩ (loaded m r) ready (filesByName m.document)

theorem exec_loadHashes (m : Manual) (r : Run σ) :
    (opened m r).exec (Run.loadHashes (storePath m)) =
      (.ok (loaded m r), { opened m r with
        log := (opened m r).log.recordAll (HashStore.load (opened m r).disk (storePath m)).2 }) := by
  rw [Run.loadHashes, Run.exec_get_bind]
  rfl

/-- A run that writes pages makes their directory, loads the store and visits the files. -/
theorem writeFilePages_eq_ok {m : Manual} (htest : m.settings.testOnly = false) {r r' : Run σ}
    {summary : Summary} (h : r.exec (writeFilePages m) = (.ok summary, r')) :
    ∃ dialect, Dialect.ofName m.settings.targetProfile = .ok dialect ∧
      r.disk.makeDirectories m.settings.docsDir = .ok (opened m r).disk ∧
      opened m r = { r with disk := (opened m r).disk } ∧
      ((opened m r).exec (Run.loadHashes (storePath m))).2.exec
        (writeFiles m.settings ⟨m.library, dialect⟩ (loaded m r) (filesByName m.document)) =
          (.ok summary, r') := by
  obtain ⟨s, r₀, hsetting, hnext⟩ := Run.exec_bind_eq_ok h
  unfold settingOf at hsetting
  cases hdialect : Dialect.ofName m.settings.targetProfile with
  | error e =>
    simp only [hdialect] at hsetting
    exact absurd (congrArg Prod.fst hsetting) (by simp [Run.exec])
  | ok dialect =>
    simp only [hdialect] at hsetting
    obtain ⟨hs, rfl⟩ := Prod.mk.inj hsetting
    obtain rfl := Except.ok.inj hs
    simp only [htest, Bool.false_eq_true, if_false] at hnext
    obtain ⟨_, made, hmade, hload⟩ := Run.exec_bind_eq_ok hnext
    have hopened : opened m r = made := congrArg Prod.snd hmade
    obtain ⟨disk, hdisk, rfl⟩ := Run.exec_onDisk_eq_ok hmade
    obtain ⟨store, ready, hstore, hfiles⟩ := Run.exec_bind_eq_ok hload
    rw [← hopened] at hstore
    change (opened m r).exec (Run.loadHashes (storePath m)) = _ at hstore
    rw [exec_loadHashes] at hstore
    obtain ⟨hvalue, rfl⟩ := Prod.mk.inj hstore
    obtain rfl := Except.ok.inj hvalue
    refine ⟨dialect, rfl, by rw [hopened]; exact hdisk, by rw [hopened], ?_⟩
    rw [exec_loadHashes]
    exact hfiles

theorem filesByName_perm (d : Document) : (filesByName d).Perm d.files := Text.sortBy_perm _

/-- The visits of a run that gets to its end are completed; loading the store may have logged something. -/
theorem writeFilePages_completed {m : Manual} (hd : m.document.Forest) (hr : m.document.RequestsInPlace)
    (himages : m.settings.makeImages = true) (htest : m.settings.testOnly = false) {r r' : Run σ}
    {p : Render.Pipeline σ} (hp : r.pipeline = some p) {summary : Summary}
    (hrun : r.exec (writeFilePages m) = (.ok summary, r')) {digest : String → String}
    (hdigest : ∀ v ∈ visitsOf m r, HashStore.digestOf v.run.disk v.source = digest v.source) :
    (visitsOf m r).map (·.source) = (filesByName m.document).map (sourceOf m.document) ∧
      (visitsOf m r).map (·.requests) = (filesByName m.document).map (requestsBelow m.document) ∧
      (∀ v ∈ (visitsOf m r).getLast?, v.stored.commit v.imaged.disk = .ok r'.disk) ∧
      ∃ ready p', (∀ e ∈ r.log.entries, e ∈ ready.log.entries) ∧
        Completed digest (loaded m r) ready p (visitsOf m r) summary r' p' ∧
        (m.document.files ≠ [] → p'.queue = []) := by
  obtain ⟨dialect, hdialect, -, hopened, hwritten⟩ := writeFilePages_eq_ok htest hrun
  have hready := congrArg Prod.snd (exec_loadHashes m r)
  generalize hr₀ : ((opened m r).exec (Run.loadHashes (storePath m))).2 = ready at hwritten hready
  have hvisits : visitsOf m r =
      visits m.settings ⟨m.library, dialect⟩ (loaded m r) ready (filesByName m.document) := by
    simp only [visitsOf, hdialect, hr₀]
  have hp₀ : ready.pipeline = some p := by rw [hready, hopened]; exact hp
  have hlog : ∀ e ∈ r.log.entries, e ∈ ready.log.entries := by
    intro e he
    rw [hready, hopened]
    exact Log.mem_recordAll.2 (.inl he)
  rw [hvisits] at hdigest
  obtain ⟨hsources, hrequests, hlast, p', hcompleted, hqueue⟩ :=
    (writeFiles_visited (s := ⟨m.library, dialect⟩) himages hp₀ hwritten).completed hd hr hdigest
  rw [hvisits]
  refine ⟨hsources, hrequests, hlast, ready, p', hlog, hcompleted, fun hfiles => hqueue fun hnil => hfiles ?_⟩
  exact ((hnil ▸ filesByName_perm m.document :)).nil_eq.symm

/-- The table of the last visit can be read where the run looked for its store. -/
theorem Completed.readText {m : Manual} {r ready r' : Run σ} {digest : String → String}
    {p p' : Render.Pipeline σ} {vs : List (Visit σ)} {summary : Summary} {last : Visit σ}
    (h : Completed digest (loaded m r) ready p vs summary r' p') (hended : vs.getLast? = some last)
    (hcommit : last.stored.commit last.imaged.disk = .ok r'.disk) :
    r'.disk.readText (storePath m) = .ok (HashStore.render last.stored.current) := by
  have hpath : last.stored.path = storePath m := by
    rw [last.stored_keeps.1, (h.previous last (List.mem_of_getLast? hended)).1]
    exact (HashStore.recordable_load _ _).2.2
  obtain ⟨spot, hcommitted⟩ := HashStore.commit_eq_ok hcommit
  exact hpath ▸ hcommitted.readText

/-- What a run that writes pages and makes images has recorded at its end; `last` is the last of its visits. -/
structure Recorded (m : Manual) (r : Run σ) (p : Render.Pipeline σ) (summary : Summary) (r' : Run σ)
    (last : Visit σ) : Prop where
  /-- There is a visit to every file, in the order of their names. -/
  visited : (visitsOf m r).map (·.source) = (filesByName m.document).map (sourceOf m.document) ∧
    (visitsOf m r).map (·.requests) = (filesByName m.document).map (requestsBelow m.document)
  /-- The store of the last visit is the last to be committed, and its table is on the disk. -/
  ended : (visitsOf m r).getLast? = some last
  committed : last.stored.commit last.imaged.disk = .ok r'.disk
  written : r'.disk.readText (storePath m) = .ok (HashStore.render last.stored.current)
  /-- A source has its digest in the table if no error is logged for it, and otherwise nothing. -/
  sources : ∀ file ∈ m.document.files, last.stored.get? (sourceOf m.document file) =
    if r'.log.fileHasErrors (sourceOf m.document file) then none
    else some (HashStore.digestOf r.disk (sourceOf m.document file))
  /-- What is no source has what was loaded. -/
  others : ∀ x, (∀ file ∈ m.document.files, sourceOf m.document file ≠ x) →
    last.stored.get? x = (loaded m r).get? x
  /-- Errors from reading, from pages and from images are all logged for the source. -/
  read : ∀ x, r.log.fileHasErrors x = true → r'.log.fileHasErrors x = true
  paged : ∀ v ∈ visitsOf m r, ∀ f ∈ v.found, f.error.severity = .error →
    r'.log.fileHasErrors v.source = true
  imaged : ∀ v ∈ visitsOf m r, ∀ report ∈ v.reports, report.status = .failed →
    r'.log.fileHasErrors report.origin.file = true
  asked : ∀ v ∈ visitsOf m r, ∀ q ∈ v.requests, q.origin.file = v.source
  /-- Every request is counted, those that were waiting before the run too. -/
  counted : summary.new + summary.replaced + summary.skipped + summary.failed =
    p.queue.length + (m.document.files.map fun file => (requestsBelow m.document file).length).sum

/-- **The last table that a run commits is right about every source.** -/
theorem writeFilePages_recorded (settings : Settings) (inputs : List Manual.Input) {r r' : Run σ}
    {p : Render.Pipeline σ} {summary : Summary} :
    let m := (Manual.new settings).readAll inputs
    m.document.files ≠ [] → m.settings.makeImages = true → m.settings.testOnly = false →
    r.pipeline = some p → r.exec (writeFilePages m) = (.ok summary, r') →
    (∀ v ∈ visitsOf m r, v.run.disk.read v.source = r.disk.read v.source) →
    ∃ last, Recorded m r p summary r' last := by
  intro m hfiles himages htest hp hrun hsame
  have hdigest : ∀ v ∈ visitsOf m r,
      HashStore.digestOf v.run.disk v.source = HashStore.digestOf r.disk v.source :=
    fun v hv => HashStore.digestOf_congr (hsame v hv)
  obtain ⟨hsources, hrequests, hlast, ready, p', hlog, hcompleted, hqueue⟩ :=
    writeFilePages_completed (Manual.forest_readAll settings inputs)
      (Manual.requestsInPlace_readAll settings inputs) himages htest hp hrun hdigest
  have hperm := filesByName_perm m.document
  have hmem (x : String) : x ∈ (visitsOf m r).map (·.source) ↔
      ∃ file ∈ m.document.files, sourceOf m.document file = x := by
    rw [hsources, List.mem_map]
    exact exists_congr fun file => and_congr_left fun _ => hperm.mem_iff
  obtain ⟨last, hended⟩ : ∃ last, (visitsOf m r).getLast? = some last := by
    cases hl : (visitsOf m r).getLast? with
    | some last => exact ⟨last, rfl⟩
    | none =>
      -- there would be no files
      rw [List.getLast?_eq_none_iff] at hl
      rw [hl, List.map_nil, eq_comm, List.map_eq_nil_iff] at hsources
      exact absurd ((hsources ▸ hperm :)).nil_eq.symm hfiles
  have hstore : storeAfter (loaded m r) (visitsOf m r) = last.stored := storeAfter_eq hended
  have hcommit := hlast last hended
  refine ⟨last,
    { visited := ⟨hsources, hrequests⟩
      ended := hended
      committed := hcommit
      written := hcompleted.readText hended hcommit
      sources := fun file hfile => ?_
      others := fun x hx => ?_
      read := fun x hx => ?_
      paged := fun v hv f hf herror => ?_
      imaged := hcompleted.failed
      asked := fun v hv => (hcompleted.about v hv).2
      counted := ?_ }⟩
  · rw [← hstore, hcompleted.table, if_pos ((hmem _).2 ⟨file, hfile, rfl⟩)]
  · rw [← hstore, hcompleted.table, if_neg]
    rw [hmem]
    rintro ⟨file, hfile, heq⟩
    exact hx file hfile heq
  · obtain ⟨e, he, herror, hname⟩ := Log.fileHasErrors_iff.1 hx
    exact Log.fileHasErrors_iff.2 ⟨e, hcompleted.adds.kept e (hlog e he), herror, hname⟩
  · refine Log.fileHasErrors_iff.2 ⟨f.entry, hcompleted.found v hv f hf, herror, ?_⟩
    exact (hcompleted.about v hv).1 f hf
  · have hcounted := hcompleted.counted
    have hsum : ((visitsOf m r).map (·.requests.length)).sum =
        (m.document.files.map fun file => (requestsBelow m.document file).length).sum := by
      have hlengths := congrArg (List.map List.length) hrequests
      rw [List.map_map, List.map_map] at hlengths
      exact (congrArg List.sum hlengths).trans (hperm.map _).sum_nat
    rw [hqueue hfiles, hsum] at hcounted
    exact hcounted

/-- A run in which two images fail, with a record of another source on the disk. -/
theorem writeFilePages_recorded_failed :
    let m := (Manual.new { Settings.default with force := true }).readAll
      [.code "a.scad" ["// File: a.scad", "// Figure: A cube", "//   cube(1);",
        "// Figure: A ball", "//   sphere(1);"]]
    let p := Render.Pipeline.new
      (.writing (.text "image") (Render.Output.ofStreams [] (some 1) "" "")) ()
    let d : Disk :=
      ⟨[(["work"], .directory), (["work", "docs"], .directory),
        (["work", "docs", ".source_hashes"], .file (.text "b.scad|kept\n")),
        (["work", "a.scad"], .file (.text "a"))], ["work"]⟩
    let r := Run.start d (some p)
    m.document.files ≠ [] ∧ m.settings.makeImages = true ∧ m.settings.testOnly = false ∧
      ∃ summary r' last, r.exec (writeFilePages m) = (.ok summary, r') ∧ summary.failed = 2 ∧
        (∀ v ∈ visitsOf m r, v.run.disk.read v.source = r.disk.read v.source) ∧
        Recorded m r p summary r' last := by
  intro m p d r
  obtain ⟨hfiles, himages, htest, hread, hsummary⟩ : m.document.files ≠ [] ∧
      m.settings.makeImages = true ∧ m.settings.testOnly = false ∧
      (∀ v ∈ visitsOf m r, (v.run.disk.read v.source).toOption = some (.text "a") ∧
        (r.disk.read v.source).toOption = some (.text "a")) ∧
      (r.exec (writeFilePages m)).1.toOption = some ⟨["docs/a.scad.md"], 0, 0, 0, 2⟩ := by
    decide +kernel
  have hsame : ∀ v ∈ visitsOf m r, v.run.disk.read v.source = r.disk.read v.source := by
    intro v hv
    rw [ok_of_toOption (hread v hv).1, ok_of_toOption (hread v hv).2]
  rcases hrun : r.exec (writeFilePages m) with ⟨result, r'⟩
  rw [hrun] at hsummary
  obtain rfl := ok_of_toOption hsummary
  obtain ⟨last, hrecorded⟩ := writeFilePages_recorded _ _ hfiles himages htest rfl hrun hsame
  exact ⟨hfiles, himages, htest, _, r', last, rfl, rfl, hsame, hrecorded⟩

end Documentation

end ScadManual
