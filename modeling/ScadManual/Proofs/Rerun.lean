import ScadManual.Proofs.Inputs
import ScadManual.Proofs.Recording
import ScadManual.Proofs.Spares

/-!
# Running again

The store that a run leaves behind tells the next run what to do.  It has the digest of every source for
which nothing went wrong, and of no other; so as long as the texts stay what they are, the next run leaves the
images of the former alone and tries those of the latter again.

What a run does for a source is said visit by visit: which calls of the renderer there were, how the requests
fared, and what became of the files.  The calls, the summary and the image files of the whole run follow from that, but
for an image file that two sources share: it may change although nothing went wrong for one of them.
-/

namespace ScadManual

/-! ## Names of image files -/

namespace Manual

theorem getLast?_imageFileName (kind : ImageKind) (title subtitle : String) (n : Nat) {extension : String}
    {c : Char} (h : extension.toList.getLast? = some c) :
    (imageFileName kind title subtitle n extension).toList.getLast? = some c := by
  have hending (before : String) : (before ++ ("." ++ extension)).toList.getLast? = some c := by
    simp [List.getLast?_cons, h]
  unfold imageFileName
  extract_lets stem ending figure
  split
  · split
    · exact hending _
    · split
      · simp [figure, ending, List.getLast?_cons, h]
      · simp [figure, ending, List.getLast?_cons, h]
  · exact hending _

theorem getLast?_imageUrl (source : String) {name : String} {c : Char} (h : name.toList.getLast? = some c)
    (hc : c ≠ '/') : (imageUrl source name).toList.getLast? = some c := by
  unfold imageUrl imagePageUrl
  exact Path.getLast?_append _ (Path.getLast?_append _ h hc) hc

theorem namesImage_of_imageInfo {m : Manual} {parent : NodeId} {kind : ImageKind} {number : Nat} {metadata : String}
    {body : List String} {origin : Origin} {info : ImageInfo} {request : Render.Request}
    (h : m.imageInfo parent kind number metadata body origin = .ok info) (hr : info.request = some request) :
    request.NamesImage := by
  have hextension (png : Bool) : ∃ c, (Render.imageExtension metadata png).toList.getLast? = some c ∧
      (c = 'g' ∨ c = 'f') := by
    unfold Render.imageExtension
    split
    · exact ⟨'f', rfl, .inr rfl⟩
    · exact ⟨'g', rfl, .inl rfl⟩
  have hmade := imageInfo_eq_ok h
  obtain ⟨c, hc, hending⟩ := hextension m.settings.pngAnimation
  have hslash : c ≠ '/' := by rcases hending with rfl | rfl <;> decide
  have hurl : info.url.toList.getLast? = some c := by
    rw [hmade.url]
    refine getLast?_imageUrl _ (getLast?_imageFileName _ _ _ _ ?_) hslash
    rw [hmade.metadata_eq]
    exact hc
  have hfile := (Render.Request.make_eq_ok (hmade.request request hr)).2
  rw [Render.Request.NamesImage, hfile, Path.getLast?_join _ hurl, Option.some.injEq, Option.some.injEq]
  exact hending

end Manual

/-! ## What becomes of the requests of a visit -/

namespace Documentation

variable {σ τ : Type}

theorem mem_visits_cons {settings : Settings} {s : Page.Setting} {store : HashStore} {r : Run σ}
    {file : NodeId} {files : List NodeId} {v : Visit σ} (h : v ∈ visits settings s store r (file :: files)) :
    v = visitOf settings s store r file ∨ ∃ store' r', v ∈ visits settings s store' r' files := by
  rcases hexec : r.exec (writeFile settings s file store) with ⟨result, r'⟩
  cases result with
  | ok out =>
    rw [visits_cons files hexec] at h
    exact (List.mem_cons.1 h).imp id fun hlater => ⟨_, _, hlater⟩
  | error e =>
    rw [visits_cons_of_error files hexec] at h
    exact .inl (List.mem_singleton.1 h)

/-- What is known of a visit from the file that it is to. -/
theorem exists_of_mem_visits {settings : Settings} {s : Page.Setting} {files : List NodeId} {v : Visit σ} :
    ∀ {store : HashStore} {r : Run σ}, v ∈ visits settings s store r files →
      ∃ file ∈ files, v.source = sourceOf s.doc file ∧ v.requests = requestsBelow s.doc file ∧
        v.page = pageOf settings v.source ∧ v.force = settings.force := by
  induction files with
  | nil => exact fun h => absurd h List.not_mem_nil
  | cons file files ih =>
    intro store r h
    rcases mem_visits_cons h with hfirst | ⟨store', r', hlater⟩
    · rw [hfirst, visitOf]
      exact ⟨file, List.mem_cons_self, rfl, rfl, rfl, rfl⟩
    · obtain ⟨other, hother, hknown⟩ := ih hlater
      exact ⟨other, List.mem_cons_of_mem _ hother, hknown⟩

theorem exists_of_mem_visitsOf {m : Manual} {r : Run σ} {v : Visit σ} (h : v ∈ visitsOf m r) :
    ∃ file ∈ m.document.files, v.source = sourceOf m.document file ∧
      v.requests = requestsBelow m.document file ∧ v.page = pageOf m.settings v.source ∧
      v.force = m.settings.force := by
  unfold visitsOf at h
  split at h
  · exact absurd h List.not_mem_nil
  · obtain ⟨file, hfile, hknown⟩ := exists_of_mem_visits h
    exact ⟨file, (filesByName_perm m.document).mem_iff.1 hfile, hknown⟩

namespace Visit

/-- The requests that were waiting before. -/
def waiting (v : Visit σ) : List Render.Request :=
  match v.run.pipeline with
  | none => []
  | some p => p.queue

/-- The attempts that are made. -/
def trials (v : Visit σ) : List (Render.Trial σ) :=
  match v.run.pipeline with
  | none => []
  | some p => if v.build then { p with queue := [] }.trials v.run.disk (p.queue ++ v.requests) else []

/-- Nothing is made: the renderer is not called and all requests are skipped. -/
structure Spared (v : Visit σ) : Prop where
  calls : v.calls = []
  reports : v.reports = (v.waiting ++ v.requests).map fun q => ⟨q.origin, q.imageFile, .skipped, none⟩
  summary : v.summary = ⟨[v.page], 0, 0, (v.waiting ++ v.requests).length, 0⟩
  disk : v.imaged.disk = v.run.disk
  /-- Writing the page and the store changes no image file either, and none comes about. -/
  ended : ∃ before summary store after, v.Ended before summary store after
  images : ∀ before summary store after, v.Ended before summary store after → ∀ q ∈ v.requests,
    Disk.SameFile q.imageFile before.disk after.disk

/-- Everything is tried: there is an attempt at each request, and each of them calls the renderer once. -/
structure Retried (v : Visit σ) : Prop where
  requests : v.trials.map (·.request) = v.waiting ++ v.requests
  once : ∀ t ∈ v.trials, ∃ call, t.calls = [call]
  calls : v.calls = v.trials.flatMap (·.calls)

section Build

variable {v : Visit σ} {p : Render.Pipeline σ}

/-- A visit that builds tries every request. -/
theorem retried (hp : v.run.pipeline = some p) (hb : v.build = true)
    (hprepare : ∀ t ∈ v.trials, t.canPrepare = true) : v.Retried := by
  have htrials : v.trials = { p with queue := [] }.trials v.run.disk (p.queue ++ v.requests) := by
    simp only [Visit.trials, hp, hb, if_true]
  refine ⟨?_, fun t ht => Render.Trial.exists_calls_eq (hprepare t ht), ?_⟩
  · rw [htrials, Render.Pipeline.map_request_trials, Visit.waiting, hp]
  · rw [htrials, (v.calls_built hp).1, Run.settledCalls, hp, hb]
    rfl

section Ended

variable {P : Spot → Prop} {r r' : Run σ} {summary : Summary} {store' : HashStore}
  (hv : v.Ended r summary store' r') (hP : ∀ spot, P spot → IsImageSpot spot)
include hv hP

/-- The page does not have the name of an image file. -/
theorem Ended.spares_page {settings : Settings} (hpage : v.page = pageOf settings v.source) :
    r.disk.Spares P v.run.disk := by
  have hend : v.page.toList.getLast? = some 'd' := by
    rw [hpage]
    exact Path.getLast?_join _ (by simp [Dialect.suffix])
  obtain ⟨lines, hlines⟩ := hv.page
  refine Disk.spares_writeLines hlines fun _ spot hspot hmem => ?_
  exact not_isImageSpot_of_locate hend (by decide) hspot (hP spot hmem)

/-- Nor does the store. -/
theorem Ended.spares_store {m : Manual} (hpath : v.store.path = storePath m) :
    v.imaged.disk.Spares P r'.disk := by
  have hend : v.stored.path.toList.getLast? = some 's' := by
    rw [v.stored_keeps.1, hpath]
    exact Path.getLast?_join _ (by decide)
  obtain ⟨spot, hcommitted⟩ := HashStore.commit_eq_ok hv.disk
  refine hcommitted.sameBut.spares hcommitted.target fun hmem => ?_
  exact not_isImageSpot_of_locate hend (by decide) hcommitted.located (hP spot hmem)

/-- A visit changes no image file but those that it makes, and leaves the run ready. -/
theorem Ended.ready (hready : r.Ready) {settings : Settings} (hpage : v.page = pageOf settings v.source)
    {m : Manual} (hpath : v.store.path = storePath m)
    (himages : v.build = true → ∀ q ∈ v.requests, ∀ disk spot, disk.current = r.disk.current →
      Disk.locate disk q.imageFile = .ok spot → ¬ P spot) : r.disk.Spares P r'.disk ∧ r'.Ready := by
  have hwritten := hv.spares_page hP hpage
  have hcommitted := hv.spares_store hP hpath
  have hrun : v.run.Ready := by
    refine hready.congr hwritten.directories fun p hp => ⟨p, ?_, rfl, rfl⟩
    rw [← hv.pipeline, hp]
  rw [← hwritten.directories.current] at himages
  obtain ⟨hbuilt, himaged⟩ := hrun.settle himages
  rw [v.built_eq.2] at hbuilt himaged
  refine ⟨(hwritten.trans hbuilt).trans hcommitted, himaged.congr hcommitted.directories fun p hp => ⟨p, ?_, rfl, rfl⟩⟩
  rw [← hv.kept.2, hp]

end Ended

/-- A visit that does not build leaves the images alone. -/
theorem Ended.spared {r r' : Run σ} {summary : Summary} {store' : HashStore} (hv : v.Ended r summary store' r')
    (hp : v.run.pipeline = some p) (hb : v.build = false) (himages : ∀ q ∈ v.requests, q.NamesImage)
    {settings : Settings} (hpage : v.page = pageOf settings v.source) {m : Manual}
    (hpath : v.store.path = storePath m) : v.Spared := by
  have hsettled := v.built_eq.2.symm.trans (Run.exec_settle hp v.requests v.build)
  rw [hb, if_neg Bool.false_ne_true] at hsettled
  obtain ⟨hvalue, himaged⟩ := Prod.mk.inj hsettled
  have hdisk : v.imaged.disk = v.run.disk := by rw [himaged]
  have hreports : v.reports = (v.waiting ++ v.requests).map fun q => ⟨q.origin, q.imageFile, .skipped, none⟩ := by
    rw [Except.ok.inj hvalue, waiting, hp]
    rfl
  refine
    { calls := ?_
      reports := hreports
      summary := by
        rw [Visit.summary, hreports, Summary.tally_skipped]
        simp [Summary.add, Summary.page, Summary.empty]
      disk := hdisk
      ended := ⟨r, summary, store', r', hv⟩
      images := fun before summary store after hended q hq => ?_ }
  · rw [(v.calls_built hp).1, Run.settledCalls, hp, hb]
    rfl
  · have hbuilt : v.run.disk.Spares IsImageSpot v.imaged.disk := by
      rw [hdisk]
      exact (Disk.Grown.refl _).spares _
    refine (((hended.spares_page (fun _ => id) hpage).trans hbuilt).trans
      (hended.spares_store (fun _ => id) hpath)).sameFile fun disk spot _ hspot => ?_
    exact (himages q hq).isImageSpot hspot

end Build

end Visit

/-! ## Image files of a run -/

section Images

variable {P : Spot → Prop} {settings : Settings} {s : Page.Setting} {m : Manual} {r r' : Run σ}
  {p : Render.Pipeline σ} {summary : Summary}

/-- The run: visits change no image files but those that they make. -/
theorem Visited.spares {store : HashStore} {files : List NodeId}
    (h : Visited settings s store r p files summary r') (hP : ∀ spot, P spot → IsImageSpot spot) (hready : r.Ready)
    (hpath : store.path = storePath m)
    (hmade : ∀ v ∈ visits settings s store r files, v.build = true → ∀ q ∈ v.requests, ∀ disk spot,
      disk.current = r.disk.current → Disk.locate disk q.imageFile = .ok spot → ¬ P spot) :
    r.disk.Spares P r'.disk := by
  induction h with
  | nil => exact (Disk.Grown.refl _).spares P
  | @cons store store₁ r r₁ r' p p₁ file files first rest hp hfirst hv _ _ ih =>
    rw [visits_cons files hfirst, List.forall_mem_cons] at hmade
    obtain ⟨hspared, hready₁⟩ := hv.ready hP hready rfl hpath hmade.1
    refine hspared.trans (ih hready₁ ?_ ?_)
    · rw [hv.stored, (Visit.stored_keeps _).1]
      exact hpath
    · rw [hspared.directories.current]
      exact hmade.2

theorem spares_writeFilePages (himages : m.settings.makeImages = true) (htest : m.settings.testOnly = false)
    (hP : ∀ spot, P spot → IsImageSpot spot) (hp : r.pipeline = some p) (hready : r.Ready)
    (h : r.exec (writeFilePages m) = (.ok summary, r'))
    (hmade : ∀ v ∈ visitsOf m r, v.build = true → ∀ q ∈ v.requests, ∀ disk spot,
      disk.current = r.disk.current → Disk.locate disk q.imageFile = .ok spot → ¬ P spot) :
    r.disk.Spares P r'.disk := by
  obtain ⟨dialect, hdialect, hdirs, hopened, hwritten⟩ := writeFilePages_eq_ok htest h
  have hloaded := congrArg Prod.snd (exec_loadHashes m r)
  simp only [visitsOf, hdialect] at hmade
  generalize ((opened m r).exec (Run.loadHashes (storePath m))).2 = start at hwritten hloaded hmade
  have hdisk : start.disk = (opened m r).disk := by rw [hloaded]
  have hpipeline : start.pipeline = r.pipeline := by rw [hloaded, hopened]
  have hgrown : r.disk.Spares P start.disk := by
    rw [hdisk]
    exact (Disk.makeDirectories_grown hdirs).spares P
  have hstart : start.Ready :=
    hready.congr hgrown.directories fun p hp => ⟨p, hpipeline.symm.trans hp, rfl, rfl⟩
  rw [← hgrown.directories.current] at hmade
  exact hgrown.trans ((writeFiles_visited himages (hpipeline.trans hp) hwritten).spares hP hstart
    (HashStore.recordable_load _ _).2.2 hmade)

end Images

/-! ## Two runs -/

/-- A run that reads its sources, writes their pages and makes their images, all to the end. -/
structure Documented (σ : Type) (settings : Settings) (rc : String) (paths : List String) where
  start : Run σ
  pipeline : Render.Pipeline σ
  given : start.pipeline = some pipeline
  manual : Manual
  /-- The run when all is read. -/
  ready : Run σ
  read : start.exec (readSources settings rc paths) = (.ok manual, ready)
  summary : Summary
  finish : Run σ
  written : ready.exec (writeFilePages manual) = (.ok summary, finish)

/-- The visits of a run that starts so. -/
def visitsFrom (settings : Settings) (rc : String) (paths : List String) (start : Run σ) : List (Visit σ) :=
  visitsOf ((Manual.new settings).readAll (inputsOf start.disk settings rc paths))
    (start.exec (readSources settings rc paths)).2

namespace Documented

variable {settings : Settings} {rc : String} {paths : List String} (run : Documented σ settings rc paths)

/-- The visits of the run. -/
def visits : List (Visit σ) := visitsOf run.manual run.ready

/-- The calls of the renderer in the run. -/
def calls : List (Render.Call σ) := run.ready.callsOf (writeFilePages run.manual)

/-- The store after all visits. -/
def store : HashStore := storeAfter (loaded run.manual run.ready) run.visits

/-- A run from what it starts with, when it gets to its end. -/
theorem exists_of_start {start : Run σ} {pipeline : Render.Pipeline σ}
    (given : start.pipeline = some pipeline)
    (h : (start.exec (readSources settings rc paths >>= writeFilePages)).1.isOk = true) :
    ∃ run : Documented σ settings rc paths, run.start = start ∧
      run.finish = (start.exec (readSources settings rc paths >>= writeFilePages)).2 ∧
      run.visits = visitsFrom settings rc paths start := by
  rcases hended : start.exec (readSources settings rc paths >>= writeFilePages) with ⟨result, finish⟩
  cases result with
  | error e => simp [hended, Except.isOk, Except.toBool] at h
  | ok summary =>
    obtain ⟨manual, ready, read, written⟩ := Run.exec_bind_eq_ok hended
    refine ⟨⟨start, pipeline, given, manual, ready, read, summary, finish, written⟩, rfl, rfl, ?_⟩
    rw [visitsFrom, ← (readSources_eq_ok read).1, read]
    rfl

theorem manual_eq : run.manual = (Manual.new settings).readAll (inputsOf run.start.disk settings rc paths) :=
  (readSources_eq_ok run.read).1

theorem ready_disk : run.ready.disk = run.start.disk := (readSources_eq_ok run.read).2.1

theorem ready_pipeline : run.ready.pipeline = some run.pipeline :=
  (readSources_eq_ok run.read).2.2.trans run.given

theorem flags_eq : run.manual.flags = (settings.makeImages, settings.testOnly, settings.force) := by
  rw [run.manual_eq]
  exact Manual.flags_readAll settings _

theorem namesImage {v : Visit σ} (hv : v ∈ run.visits) : ∀ q ∈ v.requests, q.NamesImage := by
  obtain ⟨file, -, -, hrequests, -⟩ := exists_of_mem_visitsOf hv
  intro q hq
  rw [hrequests] at hq
  obtain ⟨c, n, -, hn, hrequest⟩ := exists_of_mem_requestsBelow hq
  have hall : run.manual.document.Requests fun _ request => request.NamesImage := by
    rw [run.manual_eq]
    exact Manual.requests_readAll Manual.namesImage_of_imageInfo settings _
  exact hall c n q hn hrequest

/-- Sources are among the files that were to be read. -/
theorem field_source (hpaths : ∀ path ∈ paths, HashStore.Field path) {v : Visit σ} (hv : v ∈ run.visits) :
    HashStore.Field v.source := by
  obtain ⟨file, hfile, hsource, -⟩ := exists_of_mem_visitsOf hv
  obtain ⟨n, hn⟩ := Document.exists_node? (Document.mem_files.1 hfile).1
  have hfooting := Document.footing?_of_node? hn
  rw [hsource, sourceOf, Document.originOf_eq hfooting]
  rw [run.manual_eq] at hfooting
  refine Manual.origin_readAll settings (by decide) (fun input hinput => ?_) hfooting
  rcases file_of_mem_inputsOf hinput with hrc | hpath
  · rw [hrc]
    decide
  · exact hpaths _ hpath

section Images

variable (himages : settings.makeImages = true) (htest : settings.testOnly = false)
include himages htest

theorem flags : run.manual.settings.makeImages = true ∧ run.manual.settings.testOnly = false := by
  have hflags := run.flags_eq
  rw [himages, htest] at hflags
  obtain ⟨hmake, hrest⟩ := Prod.mk.inj hflags
  exact ⟨hmake, (Prod.mk.inj hrest).1⟩

theorem completed (digest : String → String)
    (hdigest : ∀ v ∈ run.visits, HashStore.digestOf v.run.disk v.source = digest v.source) :
    run.visits.map (·.source) = (filesByName run.manual.document).map (sourceOf run.manual.document) ∧
      run.visits.map (·.requests) =
        (filesByName run.manual.document).map (requestsBelow run.manual.document) ∧
      (∀ v ∈ run.visits.getLast?, v.stored.commit v.imaged.disk = .ok run.finish.disk) ∧
      ∃ ready p', Completed digest (loaded run.manual run.ready) ready run.pipeline run.visits run.summary
        run.finish p' := by
  have hforest : run.manual.document.Forest := by
    rw [run.manual_eq]
    exact Manual.forest_readAll settings _
  have hplace : run.manual.document.RequestsInPlace := by
    rw [run.manual_eq]
    exact Manual.requestsInPlace_readAll settings _
  obtain ⟨hmake, hlasting⟩ := run.flags himages htest
  obtain ⟨hsources, hrequests, hlast, ready, p', -, hcompleted, -⟩ :=
    writeFilePages_completed hforest hplace hmake hlasting run.ready_pipeline run.written hdigest
  exact ⟨hsources, hrequests, hlast, ready, p', hcompleted⟩

/-- The calls of the run are those of its visits, and the last of them decides on the state of the renderer. -/
theorem calls_eq {p' : Render.Pipeline σ} (hp : run.finish.pipeline = some p') :
    run.calls = run.visits.flatMap Visit.calls ∧
      p'.state = Render.Pipeline.stateAfter run.pipeline.state run.calls := by
  obtain ⟨hmake, hlasting⟩ := run.flags himages htest
  have hcalls := calls_writeFilePages hmake hlasting run.ready_pipeline run.written
  have heq : run.calls = run.visits.flatMap Visit.calls := hcalls.callsOf_eq hp
  refine ⟨heq, ?_⟩
  have hstate := hcalls.state
  rw [hp, run.ready_pipeline] at hstate
  rw [heq]
  exact Option.some.inj hstate

/-- The image file of a request that no request which is built leads to is as it was. -/
theorem sameFile (hready : run.start.Ready) {q : Render.Request} (hq : q.NamesImage)
    (hmade : ∀ v ∈ run.visits, v.build = true → ∀ q' ∈ v.requests,
      run.start.disk.aim? q'.imageFile ≠ run.start.disk.aim? q.imageFile) :
    Disk.SameFile q.imageFile run.start.disk run.finish.disk := by
  obtain ⟨hmake, hlasting⟩ := run.flags himages htest
  have hstart : run.ready.Ready := by
    refine hready.congr ?_ fun p hp => ⟨p, ?_, rfl, rfl⟩
    · rw [run.ready_disk]
      exact (Disk.Grown.refl _).keepsDirectories
    · rw [run.given, ← run.ready_pipeline, hp]
  have hspares := spares_writeFilePages
    (P := fun spot => IsImageSpot spot ∧ run.start.disk.aim? q.imageFile = some spot) hmake hlasting (fun _ h => h.1)
    run.ready_pipeline hstart run.written fun v hv hb q' hq' disk spot hcurrent hspot hmem => ?_
  · rw [run.ready_disk] at hspares
    refine hspares.sameFile fun disk spot hcurrent hspot => ⟨hq.isImageSpot hspot, ?_⟩
    rw [← Disk.aim?_congr hcurrent]
    exact Disk.aim?_of_locate hspot
  · rw [run.ready_disk] at hcurrent
    refine hmade v hv hb q' hq' ?_
    rw [hmem.2, ← Disk.aim?_congr hcurrent]
    exact Disk.aim?_of_locate hspot

end Images

section Completed

variable {digest : String → String} {r : Run σ} {p p' : Render.Pipeline σ}
  (h : Completed digest (loaded run.manual run.ready) r p run.visits run.summary run.finish p')
include h

/-- The table that is left can be rendered and read back. -/
theorem recordable_store (hpaths : ∀ path ∈ paths, HashStore.Field path) :
    HashStore.Recordable run.store.current := by
  obtain ⟨hprevious, hcurrent, -⟩ :=
    HashStore.recordable_load (opened run.manual run.ready).disk (storePath run.manual)
  refine h.recordable (fun v hv => run.field_source hpaths hv) ?_
  rw [loaded, hcurrent]
  exact hprevious

/-- The table that is left is on the disk. -/
theorem readText_store (hne : run.visits ≠ [])
    (hlast : ∀ v ∈ run.visits.getLast?, v.stored.commit v.imaged.disk = .ok run.finish.disk) :
    run.finish.disk.readText (storePath run.manual) = .ok (HashStore.render run.store.current) := by
  obtain ⟨last, hended⟩ : ∃ last, run.visits.getLast? = some last :=
    ⟨_, List.getLast?_eq_some_getLast hne⟩
  rw [store, storeAfter_eq hended]
  exact h.readText hended (hlast last hended)

/-- It has the digests of the sources for which no error was logged, and of no other source. -/
theorem get?_store {v : Visit σ} (hv : v ∈ run.visits) :
    run.store.get? v.source =
      if run.finish.log.fileHasErrors v.source then none else some (digest v.source) := by
  rw [store, h.table, if_pos (List.mem_map_of_mem hv)]

end Completed

/-- A run that follows upon another one, over the same texts. -/
structure Follows (first : Documented σ settings rc paths)
    (second : Documented τ { settings with force := false } rc paths) : Prop where
  disk : second.start.disk = first.finish.disk
  wellFormed : first.start.disk.WellFormed ∧ second.start.disk.WellFormed
  /-- The configuration and the sources are unchanged when they are read again, -/
  rc : second.start.disk.read rc = first.start.disk.read rc
  sources : ∀ path ∈ paths, second.start.disk.read path = first.start.disk.read path
  /-- and the sources are unchanged whenever one is visited. -/
  unchanged : (∀ v ∈ first.visits, v.run.disk.read v.source = first.start.disk.read v.source) ∧
    ∀ v ∈ second.visits, v.run.disk.read v.source = first.start.disk.read v.source

section Follows

variable {first : Documented σ settings rc paths}
  {second : Documented τ { settings with force := false } rc paths}

theorem Follows.digestOf_eq (h : first.Follows second) :
    (∀ v ∈ first.visits,
      HashStore.digestOf v.run.disk v.source = HashStore.digestOf first.start.disk v.source) ∧
      ∀ v ∈ second.visits,
        HashStore.digestOf v.run.disk v.source = HashStore.digestOf first.start.disk v.source :=
  ⟨fun v hv => HashStore.digestOf_congr (h.unchanged.1 v hv),
    fun v hv => HashStore.digestOf_congr (h.unchanged.2 v hv)⟩

/-- The second run comes to the same document and looks for the store in the same place. -/
theorem Follows.same (h : first.Follows second) :
    second.manual.document = first.manual.document ∧ storePath second.manual = storePath first.manual := by
  have halike := manual_alike h.wellFormed.1 h.wellFormed.2 settings false h.rc h.sources
  rw [← first.manual_eq, ← second.manual_eq] at halike
  rw [halike.same]
  exact ⟨rfl, rfl⟩

/-- The second run finds the table that the first one left. -/
theorem Follows.previous (h : first.Follows second) (htest : settings.testOnly = false)
    (hrecordable : HashStore.Recordable first.store.current)
    (hstore : first.finish.disk.readText (storePath first.manual) =
      .ok (HashStore.render first.store.current)) (x : String) :
    (loaded second.manual second.ready).previous.get? x = (first.store.get? x).map HashStore.readBack := by
  have htest' : second.manual.settings.testOnly = false :=
    (congrArg (fun flags => flags.2.1) second.flags_eq).trans htest
  obtain ⟨-, -, hmade, -, -⟩ := writeFilePages_eq_ok htest' second.written
  rw [second.ready_disk, h.disk] at hmade
  have hread : (opened second.manual second.ready).disk.readText (storePath second.manual) =
      .ok (HashStore.render first.store.current) := by
    rw [h.same.2]
    exact (Disk.makeDirectories_grown hmade).readText hstore
  exact (HashStore.load_of_readText hrecordable hread x).1

/-- **A visit of the second run builds if and only if an error was logged for its source in the first.** -/
theorem Follows.build_eq (h : first.Follows second) (himages : settings.makeImages = true)
    (htest : settings.testOnly = false) (hpaths : ∀ path ∈ paths, HashStore.Field path) {v : Visit τ}
    (hv : v ∈ second.visits) : v.build = first.finish.log.fileHasErrors v.source := by
  obtain ⟨hdigest, hdigest'⟩ := h.digestOf_eq
  obtain ⟨hsources, -, hlast, r, p, hc⟩ := first.completed himages htest _ hdigest
  obtain ⟨hsources', -, -, r', p', hc'⟩ := second.completed himages htest _ hdigest'
  -- the source has been visited in the first run
  obtain ⟨w, hw, hwv⟩ : ∃ w ∈ first.visits, w.source = v.source := by
    rw [← List.mem_map, hsources, ← h.same.1, ← hsources']
    exact List.mem_map_of_mem hv
  have hprevious := h.previous htest (first.recordable_store hc hpaths)
    (first.readText_store hc (List.ne_nil_of_mem hw) hlast) v.source
  rw [← hwv, first.get?_store hc hw, hwv] at hprevious
  -- so what was noted then decides
  obtain ⟨-, -, -, -, -, hforce⟩ := exists_of_mem_visitsOf hv
  have hforced : second.manual.settings.force = false := congrArg (fun flags => flags.2.2) second.flags_eq
  have hstale : v.build =
      (v.store.previous.get? v.source != some (HashStore.digestOf v.run.disk v.source)) := by
    rw [Visit.build, hforce, hforced]
    rfl
  rw [hstale, (hc'.previous v hv).2, hprevious, hdigest' v hv]
  cases first.finish.log.fileHasErrors v.source with
  | false => simp [HashStore.readBack_digestOf]
  | true => simp

end Follows

/-- What adds nothing to a list that is put together can be left out. -/
theorem flatMap_filter_of_nil {α β : Type} {f : α → List β} {keep : α → Bool} {l : List α}
    (h : ∀ a ∈ l, keep a = false → f a = []) : l.flatMap f = (l.filter keep).flatMap f := by
  induction l with
  | nil => rfl
  | cons a l ih =>
    obtain ⟨hfirst, hrest⟩ := List.forall_mem_cons.1 h
    cases hkeep : keep a with
    | false => rw [List.flatMap_cons, hfirst hkeep, List.filter_cons_of_neg (by simp [hkeep]), ih hrest]; rfl
    | true => rw [List.flatMap_cons, List.filter_cons_of_pos hkeep, List.flatMap_cons, ih hrest]

/-- What the second of two runs does, on its visits and as a whole. -/
structure Rerun (first : Documented σ settings rc paths)
    (second : Documented τ { settings with force := false } rc paths) : Prop where
  /-- The same sources are visited with the same requests, all of which come from the source. -/
  sources : second.visits.map (·.source) = first.visits.map (·.source)
  requests : second.visits.map (·.requests) = first.visits.map (·.requests)
  own : ∀ v ∈ second.visits, ∀ q ∈ v.requests, q.origin.file = v.source
  /-- What else is dealt with was waiting when the run started. -/
  waiting : ∀ v ∈ second.visits, ∀ q ∈ v.waiting, q ∈ second.pipeline.queue
  /-- Where the first run logged no error, nothing is made again. -/
  spared : ∀ v ∈ second.visits, first.finish.log.fileHasErrors v.source = false → v.Spared
  /-- Where an image failed, everything is tried again, though the source has the digest that it had. -/
  retried : ∀ w ∈ first.visits, ∀ report ∈ w.reports, report.status = .failed →
    ∀ v ∈ second.visits, v.source = report.origin.file →
      v.Retried ∧ HashStore.digestOf v.run.disk v.source = HashStore.digestOf first.start.disk v.source
  /-- The renderer is called for no other sources than those with errors, and is left as its last call leaves it. -/
  calls : second.calls =
    (second.visits.filter fun v => first.finish.log.fileHasErrors v.source).flatMap Visit.calls
  state : second.finish.pipeline.map (·.state) =
    some (Render.Pipeline.stateAfter second.pipeline.state second.calls)
  /-- The summary adds up what became of the sources. -/
  summary : second.summary = Summary.sum (second.visits.map Visit.summary)
  /-- If the renderer writes only what it is told to, then an image file of a source without errors is at the end what
  it was at the start, unless a source with errors asks for an image in the same place. -/
  images : second.start.Ready → ∀ v ∈ second.visits, first.finish.log.fileHasErrors v.source = false →
    ∀ q ∈ v.requests, (∀ w ∈ second.visits, first.finish.log.fileHasErrors w.source = true →
      ∀ q' ∈ w.requests, second.start.disk.aim? q'.imageFile ≠ second.start.disk.aim? q.imageFile) →
    Disk.SameFile q.imageFile second.start.disk second.finish.disk

/-- **A run leaves alone what went well before, and tries again what failed.** -/
theorem spares_or_retries (himages : settings.makeImages = true) (htest : settings.testOnly = false)
    (hpaths : ∀ path ∈ paths, HashStore.Field path) (first : Documented σ settings rc paths)
    (second : Documented τ { settings with force := false } rc paths) (h : first.Follows second)
    (hprepare : ∀ v ∈ second.visits, ∀ t ∈ v.trials, t.canPrepare = true) : first.Rerun second := by
  obtain ⟨hdigest, hdigest'⟩ := h.digestOf_eq
  obtain ⟨hsources, hrequests, -, r, p, hc⟩ := first.completed himages htest _ hdigest
  obtain ⟨hsources', hrequests', -, r', p', hc'⟩ := second.completed himages htest _ hdigest'
  have hbuild {v : Visit τ} (hv : v ∈ second.visits) : v.build = first.finish.log.fileHasErrors v.source :=
    h.build_eq himages htest hpaths hv
  have hpipeline {v : Visit τ} (hv : v ∈ second.visits) : ∃ p₀, v.run.pipeline = some p₀ := by
    obtain ⟨_, p₀, _, _, _, hp₀, hended⟩ := hc'.ended v hv
    exact ⟨p₀, hended.pipeline.trans hp₀⟩
  have hspared : ∀ v ∈ second.visits, first.finish.log.fileHasErrors v.source = false → v.Spared := by
    intro v hv hclean
    obtain ⟨p₀, hp⟩ := hpipeline hv
    obtain ⟨_, _, _, _, _, -, hended⟩ := hc'.ended v hv
    obtain ⟨-, -, -, -, hpage, -⟩ := exists_of_mem_visitsOf hv
    have hpath : v.store.path = storePath second.manual := by
      rw [(hc'.previous v hv).1]
      exact (HashStore.recordable_load _ _).2.2
    exact hended.spared hp ((hbuild hv).trans hclean) (second.namesImage hv) hpage hpath
  obtain ⟨hcalls, hstate⟩ := second.calls_eq himages htest hc'.pipeline
  refine
    { sources := by rw [hsources', hsources, h.same.1]
      requests := by rw [hrequests', hrequests, h.same.1]
      own := fun v hv => (hc'.about v hv).2
      waiting := fun v hv q hq => ?_
      spared := hspared
      retried := fun w hw report hreport hfailed v hv hsource => ⟨?_, hdigest' v hv⟩
      calls := ?_
      state := by rw [hc'.pipeline, ← hstate]; rfl
      summary := hc'.total
      images := fun hready v hv _ q hq hapart => ?_ }
  · obtain ⟨p₀, hp⟩ := hpipeline hv
    rw [Visit.waiting, hp] at hq
    exact hc'.waiting v hv p₀ hp q hq
  · obtain ⟨p₀, hp⟩ := hpipeline hv
    refine Visit.retried hp ?_ (hprepare v hv)
    rw [hbuild hv, hsource, hc.failed w hw report hreport hfailed]
  · rw [hcalls]
    exact flatMap_filter_of_nil fun v hv hclean => (hspared v hv (by simpa using hclean)).calls
  · refine second.sameFile himages htest hready (second.namesImage hv q hq) fun w hw hb => ?_
    exact hapart w hw ((hbuild hw).symm.trans hb)

/-- Two runs from what they start with both get to their end, over texts that stay what they are. -/
abbrev Repeated (settings settings' : Settings) (rc : String) (paths : List String) (r : Run σ) (r' : Run τ) : Prop :=
  (r.exec (readSources settings rc paths >>= writeFilePages)).1.isOk = true ∧
    (r'.exec (readSources settings' rc paths >>= writeFilePages)).1.isOk = true ∧
    (r.disk.WellFormed ∧ r'.disk.WellFormed) ∧ r'.disk.read rc = r.disk.read rc ∧
    (∀ path ∈ paths, r'.disk.read path = r.disk.read path) ∧
    (∀ v ∈ visitsFrom settings rc paths r, v.run.disk.read v.source = r.disk.read v.source) ∧
    ∀ v ∈ visitsFrom settings' rc paths r', v.run.disk.read v.source = r.disk.read v.source

theorem exists_follows {r : Run σ} {r' : Run τ} {p : Render.Pipeline σ} {p' : Render.Pipeline τ}
    (hp : r.pipeline = some p) (hp' : r'.pipeline = some p')
    (hdisk : r'.disk = (r.exec (readSources settings rc paths >>= writeFilePages)).2.disk)
    (h : Repeated settings { settings with force := false } rc paths r r') :
    ∃ (first : Documented σ settings rc paths) (second : Documented τ { settings with force := false } rc paths),
      first.Follows second ∧ second.start = r' ∧
      first.finish = (r.exec (readSources settings rc paths >>= writeFilePages)).2 ∧
      second.finish = (r'.exec (readSources { settings with force := false } rc paths >>= writeFilePages)).2 ∧
      first.visits = visitsFrom settings rc paths r ∧
      second.visits = visitsFrom { settings with force := false } rc paths r' := by
  obtain ⟨hended, hended', hformed, hrc, hsources, hsame⟩ := h
  obtain ⟨first, rfl, hfinish, hfirst⟩ := exists_of_start hp hended
  obtain ⟨second, rfl, hfinish', hsecond⟩ := exists_of_start hp' hended'
  rw [← hfirst, ← hsecond] at hsame
  refine ⟨first, second, ?_, rfl, hfinish, hfinish', hfirst, hsecond⟩
  exact
    { disk := by rw [hfinish, ← hdisk]
      wellFormed := hformed
      rc := hrc
      sources := hsources
      unchanged := hsame }

/-- A run in a directory of its own is ready, if its renderer writes only what it is told to. -/
theorem ready_of_current {r : Run σ} {p : Render.Pipeline σ} (hp : r.pipeline = some p) {name : String}
    (hcurrent : r.disk.current = [name]) (hrenderer : p.renderer.WritesOnlyOutput) (hqueue : p.queue = []) :
    r.Ready := by
  refine ⟨?_, fun q hq => ?_⟩
  · rw [hcurrent]
    exact (Disk.grounded_nil _).concat (Disk.get?_nil _) name
  · obtain rfl := Option.some.inj (hp.symm.trans hq)
    exact ⟨hrenderer, hqueue⟩

/-- Two sources that may ask for images in one place. -/
abbrev sharing : List String := ["a.scad", "a.inc"]

/-- Two runs over two sources.  One of them has an image that fails in the first run, and both ask for an image in one
place. -/
theorem exists_sharing :
    ∃ (first : Documented (List Render.Output) Settings.default rcFile sharing)
      (second : Documented (List Render.Output) { Settings.default with force := false } rcFile sharing),
      first.Follows second ∧ (∀ v ∈ second.visits, ∀ t ∈ v.trials, t.canPrepare = true) ∧ second.start.Ready ∧
        (first.finish.log.fileHasErrors "a.inc" = true ∧ first.finish.log.fileHasErrors "a.scad" = false) ∧
        (∃ w ∈ first.visits, ∃ report ∈ w.reports, report.status = .failed ∧ report.origin.file = "a.inc") ∧
        (∃ v ∈ second.visits, v.source = "a.inc" ∧ v.requests.length = 1) ∧
        ∃ v ∈ second.visits, v.source = "a.scad" ∧
          (∃ q ∈ v.requests, second.start.disk.read q.imageFile = .ok (.text "ONE") ∧
            second.finish.disk.read q.imageFile = .ok (.text "TWO")) ∧
          ∃ q ∈ v.requests, second.start.disk.read q.imageFile = .ok (.text "ONE") ∧
            ∀ w ∈ second.visits, w.source = "a.scad" ∨ ∀ q' ∈ w.requests,
              second.start.disk.aim? q'.imageFile ≠ second.start.disk.aim? q.imageFile := by
  -- the runs are evaluated from what they start with, and not looked into any more
  obtain ⟨r, r', p, p', hp, hp', hdisk, hrenderer, hcurrent, hqueue, hrepeated, hprepare, hlogged, hfailed, hretried,
      hspared⟩ :
      ∃ (r r' : Run (List Render.Output)) (p p' : Render.Pipeline (List Render.Output)),
        r.pipeline = some p ∧ r'.pipeline = some p' ∧
        r'.disk = (r.exec (readSources Settings.default rcFile sharing >>= writeFilePages)).2.disk ∧
        p'.renderer.WritesOnlyOutput ∧ r'.disk.current = ["work"] ∧ p'.queue = [] ∧
        Repeated Settings.default Settings.default rcFile sharing r r' ∧
        (∀ v ∈ visitsFrom Settings.default rcFile sharing r', ∀ t ∈ v.trials, t.canPrepare = true) ∧
        ((r.exec (readSources Settings.default rcFile sharing >>= writeFilePages)).2.log.fileHasErrors "a.inc" = true ∧
          (r.exec (readSources Settings.default rcFile sharing >>= writeFilePages)).2.log.fileHasErrors "a.scad" =
            false) ∧
        (∃ w ∈ visitsFrom Settings.default rcFile sharing r, ∃ report ∈ w.reports,
          report.status = .failed ∧ report.origin.file = "a.inc") ∧
        (∃ v ∈ visitsFrom Settings.default rcFile sharing r', v.source = "a.inc" ∧ v.requests.length = 1) ∧
        ∃ v ∈ visitsFrom Settings.default rcFile sharing r', v.source = "a.scad" ∧
          (∃ q ∈ v.requests, r'.disk.read q.imageFile = .ok (.text "ONE") ∧
            (r'.exec (readSources Settings.default rcFile sharing >>= writeFilePages)).2.disk.read q.imageFile =
              .ok (.text "TWO")) ∧
          ∃ q ∈ v.requests, r'.disk.read q.imageFile = .ok (.text "ONE") ∧
            ∀ w ∈ visitsFrom Settings.default rcFile sharing r', w.source = "a.scad" ∨ ∀ q' ∈ w.requests,
              r'.disk.aim? q'.imageFile ≠ r'.disk.aim? q.imageFile := by
    refine ⟨Run.start
      ⟨[(["work"], .directory),
        (["work", "a.scad"], .file (.text "// File: a.scad\n// Figure: A\n//   a();\n// Figure: B\n//   b();\n")),
        (["work", "a.inc"], .file (.text "// File: a.inc\n// Figure: C\n//   c();\n"))], ["work"]⟩
      (some (.new (.inTurn (.text "ONE") (Render.Output.ofStreams [] (some 0) "" ""))
        [Render.Output.ofStreams [] (some 1) "" ""])),
      Run.start _ (some (.new (.inTurn (.text "TWO") (Render.Output.ofStreams [] (some 0) "" "")) [])), _, _, rfl, rfl,
      Run.disk_start _ _, Render.Renderer.inTurn_writesOnlyOutput _ _, ?_⟩
    decide +kernel
  obtain ⟨first, second, hfollows, rfl, hfinish, hfinish', hfirst, hsecond⟩ := exists_follows hp hp' hdisk hrepeated
  change second.visits = visitsFrom Settings.default rcFile sharing second.start at hsecond
  change second.finish =
    (second.start.exec (readSources Settings.default rcFile sharing >>= writeFilePages)).2 at hfinish'
  rw [← hfinish] at hlogged
  rw [← hfirst] at hfailed
  rw [← hsecond] at hprepare hretried
  rw [← hsecond, ← hfinish'] at hspared
  exact ⟨first, second, hfollows, hprepare, ready_of_current hp' hcurrent hrenderer hqueue, hlogged, hfailed, hretried,
    hspared⟩

/-- Of two sources one has an image that fails: the next run tries it again and leaves the other one alone. -/
theorem spares_or_retries_failed :
    let paths := ["a.scad", "a.inc"]
    Settings.default.makeImages = true ∧ Settings.default.testOnly = false ∧
      (∀ path ∈ paths, HashStore.Field path) ∧
      ∃ (first : Documented (List Render.Output) Settings.default rcFile paths)
        (second : Documented (List Render.Output) { Settings.default with force := false } rcFile paths),
        first.Follows second ∧ (∀ v ∈ second.visits, ∀ t ∈ v.trials, t.canPrepare = true) ∧ second.start.Ready ∧
          first.Rerun second ∧
          (∃ w ∈ first.visits, ∃ report ∈ w.reports, report.status = .failed ∧
            ∃ v ∈ second.visits, v.source = report.origin.file ∧ v.requests.length = 1 ∧ v.Retried) ∧
          ∃ v ∈ second.visits, v.Spared ∧ ∃ q ∈ v.requests,
            second.start.disk.read q.imageFile = .ok (.text "ONE") ∧
              Disk.SameFile q.imageFile second.start.disk second.finish.disk := by
  intro paths
  have hpaths : ∀ path ∈ paths, HashStore.Field path := by decide
  obtain ⟨first, second, hfollows, hprepare, hready, ⟨-, hgood⟩, hfailed, hretried, v, hv, hsource, -, q, hq, hread,
    hapart⟩ := exists_sharing
  have hrerun : first.Rerun second := spares_or_retries rfl rfl hpaths first second hfollows hprepare
  refine ⟨rfl, rfl, hpaths, first, second, hfollows, hprepare, hready, hrerun, ?_, ?_⟩
  · obtain ⟨w, hw, report, hreport, hstatus, horigin⟩ := hfailed
    obtain ⟨v, hv, hsource, hlength⟩ := hretried
    have hsame : v.source = report.origin.file := hsource.trans horigin.symm
    exact ⟨w, hw, report, hreport, hstatus, v, hv, hsame, hlength,
      (hrerun.retried w hw report hreport hstatus v hv hsame).1⟩
  · have hclean : first.finish.log.fileHasErrors v.source = false := by rw [hsource]; exact hgood
    refine ⟨v, hv, hrerun.spared v hv hclean, q, hq, hread, hrerun.images hready v hv hclean q hq fun w hw herrors => ?_⟩
    refine (hapart w hw).resolve_left fun hsame => ?_
    rw [hsame, hgood] at herrors
    exact Bool.false_ne_true herrors

/-- Two sources may ask for images in the same place.  Then the image of the one that went well changes when the other
one is tried again. -/
theorem shared_image_replaced :
    let paths := ["a.scad", "a.inc"]
    Settings.default.makeImages = true ∧ Settings.default.testOnly = false ∧
      (∀ path ∈ paths, HashStore.Field path) ∧
      ∃ (first : Documented (List Render.Output) Settings.default rcFile paths)
        (second : Documented (List Render.Output) { Settings.default with force := false } rcFile paths),
        first.Follows second ∧ (∀ v ∈ second.visits, ∀ t ∈ v.trials, t.canPrepare = true) ∧ second.start.Ready ∧
          ∃ v ∈ second.visits, first.finish.log.fileHasErrors v.source = false ∧ ∃ q ∈ v.requests,
            second.start.disk.read q.imageFile = .ok (.text "ONE") ∧
              second.finish.disk.read q.imageFile = .ok (.text "TWO") := by
  intro paths
  obtain ⟨first, second, hfollows, hprepare, hready, ⟨-, hgood⟩, -, -, v, hv, hsource, hreplaced, -⟩ := exists_sharing
  have hclean : first.finish.log.fileHasErrors v.source = false := by rw [hsource]; exact hgood
  exact ⟨rfl, rfl, by decide, first, second, hfollows, hprepare, hready, v, hv, hclean, hreplaced⟩

end Documented

end Documentation

end ScadManual
