import ScadManual.Proofs.Visits

/-!
# The calls of a run

What a step of a run asks of the renderer shows when the renderer keeps its calls: the step does all else as
before, and the calls pile up in the renderer's state.  Steps that have nothing to do with images make none, and
those of steps in a row follow upon each other; so the calls of a run are the calls of its visits, in order.
-/

namespace ScadManual

namespace Run

variable {σ α β : Type}

/-- The run with a renderer that keeps its calls, some of which are past. -/
def recordedFrom (r : Run σ) (past : List (Render.Call σ)) : Run (σ × List (Render.Call σ)) :=
  ⟨r.disk, r.log, r.pipeline.map (·.recordedFrom past)⟩

/-- The calls of the renderer that a step makes: what a renderer has kept at its end that keeps its calls. -/
def callsOf (r : Run σ) (step : Step (σ × List (Render.Call σ)) α) : List (Render.Call σ) :=
  match ((r.recordedFrom []).exec step).2.pipeline with
  | none => []
  | some p => p.state.2

/-- The step gives a value and leaves a run, with a renderer that keeps its calls as without; `calls` are the ones
it makes, and the last of them decides on the state of the renderer. -/
structure Calls (r : Run σ) (step : Step (σ × List (Render.Call σ)) α) (a : α) (r' : Run σ)
    (calls : List (Render.Call σ)) : Prop where
  kept : ∀ past, (r.recordedFrom past).exec step = (.ok a, r'.recordedFrom (past ++ calls))
  state : r'.pipeline.map (·.state) = r.pipeline.map fun p => Render.Pipeline.stateAfter p.state calls

section Calls

variable {r mid r' : Run σ} {a : α} {b : β} {calls calls' : List (Render.Call σ)}

theorem Calls.callsOf_eq {step : Step (σ × List (Render.Call σ)) α} (h : Calls r step a r' calls)
    {p : Render.Pipeline σ} (hp : r'.pipeline = some p) : r.callsOf step = calls := by
  rw [callsOf, h.kept []]
  simp only [recordedFrom, hp, Option.map_some]
  rfl

/-- The calls of steps in a row. -/
theorem Calls.bind {step : Step (σ × List (Render.Call σ)) α} {next : α → Step (σ × List (Render.Call σ)) β}
    (h : Calls r step a mid calls) (h' : Calls mid (next a) b r' calls') :
    Calls r (step >>= next) b r' (calls ++ calls') := by
  constructor
  · intro past
    rw [exec_bind, h.kept past]
    simp only
    rw [h'.kept (past ++ calls), List.append_assoc]
  · have hstate := congrArg (Option.map fun s => Render.Pipeline.stateAfter s calls') h.state
    rw [Option.map_map, Option.map_map] at hstate
    rw [h'.state]
    refine hstate.trans (congrArg (Option.map · r.pipeline) (funext fun p => ?_))
    exact (Render.Pipeline.stateAfter_append _ _ _).symm

/-- A step that leaves the pipeline alone makes none. -/
theorem Calls.none {step : Step (σ × List (Render.Call σ)) α}
    (h : ∀ past, (r.recordedFrom past).exec step = (.ok a, r'.recordedFrom past))
    (hp : r'.pipeline = r.pipeline) : Calls r step a r' [] := by
  constructor
  · intro past
    rw [List.append_nil]
    exact h past
  · rw [hp]
    rfl

theorem calls_pure (r : Run σ) (a : α) : Calls r (pure a) a r [] :=
  .none (fun _ => rfl) rfl

theorem calls_announce (r : Run σ) (path : String) :
    Calls r (announce path) () { r with log := r.log.progress ("Writing " ++ path ++ "...") } [] :=
  .none (fun _ => rfl) rfl

theorem calls_noted (r : Run σ) (n : Noted α) :
    Calls r (noted n) n.value { r with log := r.log.recordAll n.findings } [] :=
  .none (fun _ => rfl) rfl

theorem calls_onDisk {change : Disk → Except DiskError Disk} {disk : Disk} (h : change r.disk = .ok disk) :
    Calls r (onDisk change) () { r with disk } [] := by
  refine .none (fun past => ?_) rfl
  rw [onDisk, exec_get_bind]
  simp only [recordedFrom, h]
  rfl

theorem calls_loadHashes (r : Run σ) (path : String) :
    Calls r (loadHashes path) (HashStore.load r.disk path).1
      { r with log := r.log.recordAll (HashStore.load r.disk path).2 } [] := by
  refine .none (fun past => ?_) rfl
  rw [loadHashes, exec_get_bind]
  rfl

theorem calls_commitHashes {store : HashStore} {source : String} {disk : Disk}
    (h : (store.forgetBad r.log source).commit r.disk = .ok disk) :
    Calls r (commitHashes store source) (store.forgetBad r.log source) { r with disk } [] := by
  refine .none (fun past => ?_) rfl
  rw [commitHashes, exec_get_bind]
  simp only [recordedFrom, h]
  rfl

/-! ## Images -/

/-- The calls that are made when requests are settled. -/
def settledCalls (r : Run σ) (requests : List Render.Request) (build : Bool) : List (Render.Call σ) :=
  match r.pipeline with
  | none => []
  | some p => if build then { p with queue := [] }.callsAll r.disk (p.queue ++ requests) else []

theorem calls_settle {requests : List Render.Request} {build : Bool} {reports : List Render.Report}
    (h : r.exec (settle requests build) = (.ok reports, r')) :
    Calls r (settle requests build) reports r' (r.settledCalls requests build) := by
  cases hp : r.pipeline with
  | none =>
    rw [settle, exec_get_bind] at h
    simp only [hp] at h
    obtain ⟨hvalue, rfl⟩ := Prod.mk.inj h
    obtain rfl := Except.ok.inj hvalue
    rw [settledCalls, hp]
    refine .none (fun past => ?_) rfl
    rw [settle, exec_get_bind]
    simp only [recordedFrom, hp]
    rfl
  | some p =>
    have hrecorded (past : List (Render.Call σ)) : (r.recordedFrom past).pipeline = some (p.recordedFrom past) := by
      rw [recordedFrom, hp]
      rfl
    rw [exec_settle hp] at h
    rw [settledCalls, hp]
    cases build with
    | false =>
      obtain ⟨hvalue, rfl⟩ := Prod.mk.inj h
      obtain rfl := Except.ok.inj hvalue
      constructor
      · intro past
        rw [exec_settle (hrecorded past)]
        simp only [Bool.false_eq_true, if_false, List.append_nil]
        rfl
      · rw [hp]
        rfl
    | true =>
      obtain ⟨hvalue, rfl⟩ := Prod.mk.inj h
      obtain rfl := Except.ok.inj hvalue
      constructor
      · intro past
        have hflush := { p with queue := [] }.buildAll_recordedFrom past r.log r.disk (p.queue ++ requests)
        rw [exec_settle (hrecorded past)]
        simp only [if_true]
        rw [show ((p.recordedFrom past).enqueue requests).flush (r.recordedFrom past).log (r.recordedFrom past).disk =
          _ from hflush]
        rfl
      · rw [hp]
        exact congrArg some ({ p with queue := [] }.state_buildAll r.log r.disk (p.queue ++ requests))

theorem calls_buildImages {requests : List Render.Request} {all : Bool} {source : String} {store : HashStore}
    {reports : List Render.Report} {store' : HashStore}
    (h : r.exec (buildImages requests all source store) = (.ok (reports, store'), r')) :
    Calls r (buildImages requests all source store) (reports, store') r'
      (r.settledCalls requests (all || (store.check r.disk source).1)) := by
  have hget (past : List (Render.Call σ)) : (r.recordedFrom past).exec (buildImages requests all source store) =
      (r.recordedFrom past).exec (settle requests (all || (store.check r.disk source).1) >>= fun reports =>
        pure (reports, (store.check r.disk source).2)) := by
    rw [buildImages, exec_get_bind]
    rfl
  rw [buildImages, exec_get_bind] at h
  generalize store.check r.disk source = checked at h hget ⊢
  obtain ⟨stale, noted⟩ := checked
  obtain ⟨settled, mid, hsettle, hend⟩ := exec_bind_eq_ok h
  obtain ⟨hvalue, rfl⟩ := Prod.mk.inj hend
  obtain ⟨rfl, rfl⟩ := Prod.mk.inj (Except.ok.inj hvalue)
  have hcalls : Calls r (settle requests (all || stale) >>= fun reports => pure (reports, noted)) _ _ _ :=
    (calls_settle hsettle).bind (calls_pure mid _)
  rw [List.append_nil] at hcalls
  exact ⟨fun past => (hget past).trans (hcalls.kept past), hcalls.state⟩

end Calls

end Run

/-! ## Visits -/

namespace Documentation

variable {σ : Type}

/-- The calls of the renderer on a visit. -/
def Visit.calls (v : Visit σ) : List (Render.Call σ) :=
  v.run.callsOf (Run.buildImages v.requests v.force v.source v.store)

section Calls

variable {settings : Settings} {s : Page.Setting} {file : NodeId} {store store' : HashStore} {r r' : Run σ}
  {p : Render.Pipeline σ} {summary : Summary}

theorem calls_writePageOf {page : Summary} (h : r.exec (writePageOf settings s file) = (.ok page, r')) :
    r.Calls (writePageOf settings s file) page r' [] := by
  unfold writePageOf at h ⊢
  generalize s.filePage file = paged at h ⊢
  generalize pageOf settings (sourceOf s.doc file) = path at h ⊢
  obtain ⟨_, told, htold, hnext⟩ := Run.exec_bind_eq_ok h
  obtain ⟨lines, noted, hnoted, hpage⟩ := Run.exec_bind_eq_ok hnext
  obtain ⟨_, written, hwritten, hend⟩ := Run.exec_bind_eq_ok hpage
  obtain rfl := (Prod.mk.inj htold).2
  obtain ⟨hlines, rfl⟩ := Prod.mk.inj hnoted
  obtain rfl := Except.ok.inj hlines
  obtain ⟨hvalue, rfl⟩ := Prod.mk.inj hend
  obtain rfl := Except.ok.inj hvalue
  obtain ⟨disk, hdisk, rfl⟩ := Run.exec_onDisk_eq_ok hwritten
  exact (r.calls_announce _).bind <| (Run.calls_noted _ _).bind <| (Run.calls_onDisk hdisk).bind <|
    Run.calls_pure _ _

theorem Visit.calls_built (v : Visit σ) (hp : v.run.pipeline = some p) :
    v.calls = v.run.settledCalls v.requests v.build ∧
      v.run.Calls (Run.buildImages v.requests v.force v.source v.store)
        (v.reports, (v.store.check v.run.disk v.source).2) v.imaged v.calls := by
  have hcalls := Run.calls_buildImages v.built_eq.1
  obtain ⟨-, p', hp', -⟩ := v.imaged_spec hp
  have heq : v.calls = v.run.settledCalls v.requests v.build := hcalls.callsOf_eq hp'
  rw [heq]
  exact ⟨rfl, hcalls⟩

theorem Visit.calls_makeImages (v : Visit σ) (hp : v.run.pipeline = some p)
    (h : v.run.exec (Run.makeImages v.requests v.force v.source v.store) = (.ok (summary, store'), r')) :
    v.run.Calls (Run.makeImages v.requests v.force v.source v.store) (summary, store') r' v.calls := by
  obtain ⟨rfl, rfl, hcommit, hrest⟩ := makeImages_eq_ok h
  rw [v.stored_eq] at hcommit ⊢
  have hcalls : v.run.Calls (Run.makeImages v.requests v.force v.source v.store) _ _ (v.calls ++ ([] ++ [])) :=
    (v.calls_built hp).2.bind <| (Run.calls_commitHashes hcommit).bind (Run.calls_pure _ (Summary.tally v.reports, _))
  rw [List.append_nil, List.append_nil, ← hrest] at hcalls
  exact hcalls

theorem calls_writeFile (himages : settings.makeImages = true) (hp : r.pipeline = some p)
    (h : r.exec (writeFile settings s file store) = (.ok (summary, store'), r')) :
    r.Calls (writeFile settings s file store) (summary, store') r' (visitOf settings s store r file).calls := by
  obtain ⟨page, written, hwritten, himaged⟩ := Run.exec_bind_eq_ok h
  have hrun : (visitOf settings s store r file).run = written := by
    rw [visitOf]
    simp only [hwritten]
  have hpipeline : written.pipeline = some p := (writePageOf_eq_ok hwritten).2.1.trans hp
  rw [Run.exec_get_bind, if_pos (by simp [hpipeline, himages])] at himaged
  obtain ⟨⟨images, store₂⟩, mid, hmake, hend⟩ := Run.exec_bind_eq_ok himaged
  obtain ⟨hvalue, rfl⟩ := Prod.mk.inj hend
  obtain ⟨rfl, rfl⟩ := Prod.mk.inj (Except.ok.inj hvalue)
  rw [← hrun] at hmake
  have hcalls : written.Calls
      (Run.makeImages (requestsBelow s.doc file) settings.force (sourceOf s.doc file) store) (images, store₂) mid
      (visitOf settings s store r file).calls := by
    rw [← hrun] at hpipeline
    have hmade := (visitOf settings s store r file).calls_makeImages hpipeline hmake
    rw [hrun] at hmade
    exact hmade
  generalize (visitOf settings s store r file).calls = calls at hcalls
  have hall : r.Calls (writeFile settings s file store) (page.add images, store₂) mid ([] ++ calls) := by
    refine (calls_writePageOf hwritten).bind ⟨fun past => ?_, hcalls.state⟩
    rw [Run.exec_get_bind, if_pos (by simp [Run.recordedFrom, hpipeline, himages]), Run.exec_bind, hcalls.kept past]
    rfl
  exact hall

/-- The run: the calls of all visits, in order. -/
theorem Visited.calls {files : List NodeId} (h : Visited settings s store r p files summary r')
    (himages : settings.makeImages = true) :
    r.Calls (writeFiles settings s store files) summary r'
      ((visits settings s store r files).flatMap Visit.calls) := by
  induction h with
  | @nil store r p _ => exact r.calls_pure _
  | @cons store store₁ r r₁ r' p p₁ file files first rest hp hfirst _ _ _ ih =>
    rw [visits_cons files hfirst, List.flatMap_cons, ← List.append_nil (List.flatMap _ _)]
    exact (calls_writeFile himages hp hfirst).bind <| ih.bind (Run.calls_pure _ _)

end Calls

/-- **The calls of a run that writes pages are those of its visits.** -/
theorem calls_writeFilePages {m : Manual} (himages : m.settings.makeImages = true)
    (htest : m.settings.testOnly = false) {r r' : Run σ} {p : Render.Pipeline σ} (hp : r.pipeline = some p)
    {summary : Summary} (h : r.exec (writeFilePages m) = (.ok summary, r')) :
    r.Calls (writeFilePages m) summary r' ((visitsOf m r).flatMap Visit.calls) := by
  obtain ⟨dialect, hdialect, hmade, hopened, hwritten⟩ := writeFilePages_eq_ok htest h
  have hready := congrArg Prod.snd (exec_loadHashes m r)
  have hload : (opened m r).Calls (Run.loadHashes (storePath m)) (loaded m r)
      ((opened m r).exec (Run.loadHashes (storePath m))).2 [] := by
    rw [hready]
    exact (opened m r).calls_loadHashes (storePath m)
  have hp₀ : ((opened m r).exec (Run.loadHashes (storePath m))).2.pipeline = some p := by
    rw [hready, hopened]
    exact hp
  have hfiles := (writeFiles_visited himages hp₀ hwritten).calls himages
  have hvisits : visitsOf m r = visits m.settings ⟨m.library, dialect⟩ (loaded m r)
      ((opened m r).exec (Run.loadHashes (storePath m))).2 (filesByName m.document) := by
    simp only [visitsOf, hdialect]
  have hsetting : r.Calls (settingOf m) ⟨m.library, dialect⟩ r [] := by
    rw [settingOf, hdialect]
    exact r.calls_pure _
  have hopen : r.Calls (Run.onDisk (·.makeDirectories m.settings.docsDir)) () (opened m r) [] := by
    rw [hopened]
    exact Run.calls_onDisk hmade
  rw [hvisits]
  generalize (visits m.settings _ (loaded m r) _ (filesByName m.document)).flatMap Visit.calls = calls at hfiles
  have hall : r.Calls (writeFilePages m) summary r' ([] ++ ([] ++ ([] ++ calls))) := by
    refine hsetting.bind ?_
    simp only [htest, Bool.false_eq_true, if_false]
    exact hopen.bind (hload.bind hfiles)
  exact hall

end Documentation

end ScadManual
