import ScadManual.Proofs.TutorialVisits

/-!
# What the store of tutorials tells

Tutorials are converted in calls that may differ in all their settings, and the hash store on the disk is what one
call knows of those before.  Whatever it has recorded goes back to a visit of some call: the source had that
digest, no error was logged for it, and either every image it asks for was rendered then, or there was nothing to
render with.
-/

namespace ScadManual.Tutorial

variable {σ : Type}

/-! ## What a visit accounts for -/

/-- Every image that the page asks for has been rendered: there was an attempt at each, which called the renderer
once and ended well. -/
structure Visit.Rendered (v : Visit σ) : Prop where
  requests : v.paged.trials.map (·.request) = v.page.requests
  called : ∀ t ∈ v.paged.trials, ∃ call, t.calls = [call]
  succeeded : ∀ t ∈ v.paged.trials, ∃ status, (t.pipeline.attempt t.request t.disk).result = .ok status

/-- The visit accounts for a record. -/
structure Visit.Backs (v : Visit σ) (x digest : String) : Prop where
  source : v.source = x
  read : v.start.disk.readText x = .ok v.text
  /-- The source had the digest when the page was written; -/
  noted : HashStore.digestOf v.paged.run.disk x = digest
  /-- the text had it too, unless the page was written over the source. -/
  hashed : HashStore.digestOf v.start.disk x = digest ∨
    v.paged.run.disk.locate v.pagePath = v.paged.run.disk.locate x
  /-- No error was logged, -/
  quiet : v.paged.imaged.log.fileHasErrors x = false
  /-- and all images were rendered if there was anything to render them with. -/
  images : v.start.pipeline = none ∨ v.Rendered

section Backs

variable {v : Visit σ}

theorem getLast?_pagePath (v : Visit σ) : v.pagePath.toList.getLast? = some 'd' := by
  refine Path.getLast?_join _ ?_
  rw [String.toList_append, List.getLast?_append]
  rfl

/-- The page is written and all else is as it was. -/
theorem run_paged (h : v.Written) :
    v.paged.run = ⟨v.paged.run.disk, converted v.start.log v.pagePath v.page,
      v.start.pipeline.map fun p => { p with testOnly := false }⟩ := by
  have hprepare := congrArg Prod.snd (exec_preparePage h.lasting v.start v.source v.page)
  have hpage : v.start.disk.writeLines (outputFile v.settings v.source) v.page.lines = _ := h.page
  rw [hpage] at hprepare
  exact hprepare

/-- The source is as it was read unless the page is written over it. -/
theorem digestOf_paged (h : v.Written) :
    HashStore.digestOf v.paged.run.disk v.source = HashStore.digestOf v.start.disk v.source ∨
      v.paged.run.disk.locate v.pagePath = v.paged.run.disk.locate v.source := by
  obtain ⟨content, hread⟩ : ∃ content, v.start.disk.read v.source = .ok content := by
    have htext := h.text
    unfold Disk.readText at htext
    cases hread : v.start.disk.read v.source with
    | error e => simp [hread] at htext
    | ok content => exact ⟨content, rfl⟩
  obtain ⟨made, hgrown, hwrite⟩ := Disk.writeLines_eq_ok h.page
  obtain ⟨target, htarget, -, hset⟩ := Disk.write_eq_ok hwrite
  have hkept : made.KeepsDirectories v.paged.run.disk := by
    rw [hset]
    exact (Disk.sameBut_set made target _).keepsDirectories (Disk.write_target hwrite htarget)
  obtain ⟨spot, hspot, hget, hfile⟩ := Disk.read_eq_ok.1 hread
  have hlocated := hkept.locate (hgrown.keepsDirectories.locate hspot)
  by_cases hsame : spot = target
  · right
    rw [hkept.locate htarget, hlocated, hsame]
  · left
    apply HashStore.digestOf_congr
    rw [hread, Disk.read_eq_ok]
    refine ⟨spot, hlocated, ?_, hfile⟩
    rw [hset, Disk.get?_set_of_ne hsame]
    exact hgrown.get?_file_iff.2 hget

/-- A visit that builds and logs no error renders all. -/
theorem rendered {p : Render.Pipeline σ} (hp : v.paged.run.pipeline = some p) (hqueue : p.queue = [])
    (hbuild : v.paged.build = true) (hquiet : v.paged.imaged.log.fileHasErrors v.source = false) :
    v.Rendered := by
  have htrials : v.paged.trials = { p with queue := [] }.trials v.paged.run.disk v.page.requests := by
    simp only [Documentation.Visit.trials, hp, hbuild, if_true, hqueue]
    rfl
  have hlog : v.paged.imaged.log =
      ({ p with queue := [] }.buildAll v.paged.run.log v.paged.run.disk v.page.requests).2.2.1 := by
    have hsettled := v.paged.built_eq.2.symm.trans (Run.exec_settle hp _ _)
    rw [hbuild, if_pos rfl] at hsettled
    rw [(Prod.mk.inj hsettled).2]
    simp only [Render.Pipeline.flush, Render.Pipeline.enqueue, hqueue]
    rfl
  have hsucceeded : ∀ t ∈ v.paged.trials,
      ∃ status, (t.pipeline.attempt t.request t.disk).result = .ok status := by
    rw [htrials]
    refine Render.Pipeline.attempts_ok v.paged.run.log fun q hq => ?_
    rw [← hlog, (v.requests q hq).1]
    exact hquiet
  refine ⟨?_, fun t ht => ?_, hsucceeded⟩
  · rw [htrials, Render.Pipeline.map_request_trials]
  · obtain ⟨status, hstatus⟩ := hsucceeded t ht
    exact Render.Trial.exists_calls_of_ok hstatus

end Backs

/-! ## Tables that are accounted for -/

/-- Each record of the table goes back to one of the visits. -/
def Backed (vs : List (Visit σ)) (table : Dict) : Prop :=
  ∀ x digest, table.get? x = some digest → ∃ v ∈ vs, v.Backs x digest

/-- So does each record in the file at a place, if there is one. -/
def BackedAt (vs : List (Visit σ)) (spot : Spot) (d : Disk) : Prop :=
  ∀ content, d.get? spot = some (.file content) → Backed vs (HashStore.tableIn content)

section Backed

variable {vs vs' : List (Visit σ)} {table : Dict} {spot : Spot} {d d' : Disk}

theorem backed_empty (vs : List (Visit σ)) : Backed vs Dict.empty :=
  fun _ _ h => nomatch h

theorem Backed.mono (h : Backed vs table) (hvs : vs ⊆ vs') : Backed vs' table := by
  intro x digest hget
  obtain ⟨v, hv, hbacks⟩ := h x digest hget
  exact ⟨v, hvs hv, hbacks⟩

theorem BackedAt.mono (h : BackedAt vs spot d) (hvs : vs ⊆ vs') : BackedAt vs' spot d :=
  fun content hget => (h content hget).mono hvs

theorem BackedAt.spares (h : BackedAt vs spot d) (hd : d.Spares IsStoreSpot d') (hspot : IsStoreSpot spot) :
    BackedAt vs spot d' :=
  fun content hget => h content ((hd.files spot content hspot).1 hget)

/-- A store that is committed is accounted for as its table is: digests that were noted come back unchanged. -/
theorem Backed.tableIn {s : HashStore} (h : Backed vs s.current) (hs : HashStore.Recordable s.current)
    (hcommit : s.commit d = .ok d') : Backed vs (HashStore.tableIn (.text (HashStore.render s.current))) := by
  intro x digest hget
  rw [HashStore.get?_tableIn hs hcommit] at hget
  obtain ⟨noted, hnoted, rfl⟩ := Option.map_eq_some_iff.1 hget
  obtain ⟨v, hv, hbacks⟩ := h x noted hnoted
  rw [← hbacks.noted, HashStore.readBack_digestOf, hbacks.noted]
  exact ⟨v, hv, hbacks⟩

/-- So is the file at a place when a store is committed, whether it is written there or elsewhere. -/
theorem BackedAt.commit {s : HashStore} (h : BackedAt vs spot d) (hs : HashStore.Recordable s.current)
    (htable : d.locate s.path = .ok spot → Backed vs s.current) (hcommit : s.commit d = .ok d') :
    BackedAt vs spot d' := by
  intro content hget
  obtain ⟨target, hcommitted⟩ := HashStore.commit_eq_ok hcommit
  by_cases hsame : spot = target
  · subst hsame
    rw [hcommitted.written] at hget
    obtain rfl := Entry.file.inj (Option.some.inj hget)
    exact (htable hcommitted.located).tableIn hs hcommit
  · rw [hcommitted.others spot hsame] at hget
    exact h content hget

/-- A store that is loaded from the place is accounted for. -/
theorem BackedAt.load (h : BackedAt vs spot d) {path : String}
    (hpath : ∀ other, d.locate path = .ok other → other = spot) :
    Backed vs (HashStore.load d path).1.current := by
  rw [HashStore.current_load]
  cases hread : d.read path with
  | error e => exact backed_empty vs
  | ok content =>
    obtain ⟨other, hother, hget, -⟩ := Disk.read_eq_ok.1 hread
    obtain rfl := hpath other hother
    exact h content hget

end Backed

/-- What is noted at the end of a visit goes back to the visit itself if it has built the images, and else to the
visit that the store had the digest from. -/
theorem backs_noted {vs : List (Visit σ)} {v : Visit σ} (h : v.Written) (hready : v.start.Ready)
    (hprevious : Backed vs v.store.previous) (hquiet : v.paged.imaged.log.fileHasErrors v.source = false) :
    ∃ u ∈ vs ++ [v], u.Backs v.source (HashStore.digestOf v.paged.run.disk v.source) := by
  cases hbuild : v.paged.build with
  | false =>
    obtain ⟨-, hcheck⟩ := Bool.or_eq_false_iff.1 hbuild
    have hsame : v.paged.store.previous.get? v.paged.source =
        some (HashStore.digestOf v.paged.run.disk v.paged.source) := by
      simpa [HashStore.check] using hcheck
    obtain ⟨u, hu, hbacks⟩ := hprevious _ _ hsame
    exact ⟨u, List.mem_append_left _ hu, hbacks⟩
  | true =>
    refine ⟨v, by simp, rfl, h.text, rfl, ?_, hquiet, ?_⟩
    · exact (digestOf_paged h).imp_left Eq.symm
    · cases hp : v.start.pipeline with
      | none => exact .inl rfl
      | some p =>
        right
        refine rendered (p := { p with testOnly := false }) ?_ (hready.pipeline p hp).2 hbuild hquiet
        rw [run_paged h, hp]
        rfl

theorem Backed.stored {vs : List (Visit σ)} {v : Visit σ} (h : v.Written) (hready : v.start.Ready)
    (hprevious : Backed vs v.store.previous) (hcurrent : Backed vs v.store.current) :
    Backed (vs ++ [v]) v.paged.stored.current := by
  intro x digest hget
  change v.paged.stored.get? x = some digest at hget
  rw [v.paged.get?_stored x] at hget
  split at hget
  · next hx =>
    obtain rfl : x = v.source := hx
    split at hget
    · exact nomatch hget
    · next hquiet =>
      obtain rfl := Option.some.inj hget
      exact backs_noted h hready hprevious (Bool.eq_false_iff.2 hquiet)
  · exact hcurrent.mono (List.subset_append_left _ _) x digest hget

/-- What is known of a store file while a call goes on: all that it records goes back to visits, and so does all
that the call's own store has, unless that one is kept elsewhere. -/
structure Account (vs : List (Visit σ)) (spot : Spot) (store : HashStore) (r : Run σ) : Prop where
  ready : r.Ready
  file : BackedAt vs spot r.disk
  table : (∃ other, other ≠ spot ∧ r.disk.locate store.path = .ok other) ∨
    Backed vs store.previous ∧ Backed vs store.current
  recordable : HashStore.Recordable store.current

section Account

variable {vs : List (Visit σ)} {v : Visit σ} {spot : Spot}

/-- Between the page and the store, a visit leaves the stores alone and the run ready. -/
theorem ready_imaged (h : v.Written) (hready : v.start.Ready) :
    v.start.disk.Spares IsStoreSpot v.paged.imaged.disk ∧ v.paged.imaged.Ready := by
  have hspares : v.start.disk.Spares IsStoreSpot v.paged.run.disk :=
    Disk.spares_writeLines h.page fun made target htarget =>
      not_isStoreSpot_of_locate (getLast?_pagePath v) (by decide) htarget
  have hrun : v.paged.run.Ready := by
    refine hready.congr hspares.directories fun p' hp' => ?_
    rw [run_paged h] at hp'
    obtain ⟨p, hp, rfl⟩ := Option.map_eq_some_iff.1 hp'
    exact ⟨p, hp, rfl, rfl⟩
  obtain ⟨himages, himaged⟩ := hrun.spares_stores (fun q hq => (v.requests q hq).2) v.paged.build
  rw [show v.paged.run.exec (Run.settle v.page.requests v.paged.build) = _ from v.paged.built_eq.2] at himages himaged
  exact ⟨hspares.trans himages, himaged⟩

/-- The step: a visit that commits its store. -/
theorem Account.committed (h : Account vs spot v.store v.start) (hspot : IsStoreSpot spot)
    (hfield : HashStore.Field v.source) (hwritten : v.Written) {d : Disk}
    (hcommit : v.paged.stored.commit v.paged.imaged.disk = .ok d) :
    Account (vs ++ [v]) spot v.paged.stored { v.paged.imaged with disk := d } := by
  obtain ⟨hspares, hready⟩ := ready_imaged hwritten h.ready
  obtain ⟨target, hcommitted⟩ := HashStore.commit_eq_ok hcommit
  have hkept := hcommitted.sameBut.keepsDirectories hcommitted.target
  have hmono : vs ⊆ vs ++ [v] := List.subset_append_left _ _
  have hfile := (h.file.mono hmono).spares hspares hspot
  have hrecordable : HashStore.Recordable v.paged.stored.current :=
    Documentation.Visit.recordable_stored (v := v.paged) hfield h.recordable
  have hready' : Run.Ready { v.paged.imaged with disk := d } :=
    hready.congr hkept fun p hp => ⟨p, hp, rfl, rfl⟩
  obtain ⟨hpath, hprevious⟩ : v.paged.stored.path = v.store.path ∧ v.paged.stored.previous = v.store.previous :=
    v.paged.stored_keeps
  rcases h.table with ⟨other, hother, hlocated⟩ | ⟨hold, hnew⟩
  · -- the call's store is elsewhere, and stays there
    have hthere : v.paged.imaged.disk.locate v.paged.stored.path = .ok other := by
      rw [hpath]
      exact hspares.directories.locate hlocated
    refine ⟨hready', hfile.commit hrecordable (fun hspot' => ?_) hcommit, .inl ⟨other, hother, ?_⟩, hrecordable⟩
    · exact absurd (Except.ok.inj (hthere.symm.trans hspot')) hother
    · exact hkept.locate hthere
  · have hstored := Backed.stored hwritten h.ready hold hnew
    refine ⟨hready', hfile.commit hrecordable (fun _ => hstored) hcommit, .inr ⟨?_, hstored⟩, hrecordable⟩
    rw [hprevious]
    exact hold.mono hmono

/-- The step: what a visit leaves behind, whichever way it ends. -/
theorem Account.visit (h : Account vs spot v.store v.start) (hspot : IsStoreSpot spot)
    (hfield : HashStore.Field v.source) {result : Except Error (Summary × Option HashStore)} {r' : Run σ}
    (hv : v.Processed (result, r')) :
    BackedAt (vs ++ [v]) spot r'.disk ∧
      ∀ summary store', result = .ok (summary, store') →
        ∃ store, store' = some store ∧ Account (vs ++ [v]) spot store r' := by
  have hfile := h.file.mono (List.subset_append_left vs [v])
  cases hv with
  | unwritten e r' disk =>
    refine ⟨?_, fun _ _ he => nomatch he⟩
    rw [disk]
    exact hfile
  | uncommitted e written =>
    exact ⟨hfile.spares (ready_imaged written h.ready).1 hspot, fun _ _ he => nomatch he⟩
  | done summary disk written commit =>
    have hnext := h.committed hspot hfield written commit
    refine ⟨hnext.file, fun summary' store' hok => ?_⟩
    obtain ⟨-, rfl⟩ := Prod.mk.inj (Except.ok.inj hok)
    exact ⟨_, rfl, hnext⟩

end Account

/-! ## Visits one after the other -/

/-- The visits to sources, as far as they get. -/
def visits (s : Settings) (store : HashStore) (r : Run σ) : List String → List (Visit σ)
  | [] => []
  | source :: sources =>
    match r.disk.readText source with
    | .error _ => []
    | .ok text =>
      ⟨s, source, text, r, store⟩ ::
        match r.exec (processFile s source (some store)) with
        | (.ok (_, some store'), r') => visits s store' r' sources
        | _ => []

section Visits

variable {s : Settings} {store store' : HashStore} {r r' : Run σ} {source text : String} {sources : List String}

theorem visits_cons {summary : Summary} (htext : r.disk.readText source = .ok text)
    (hdone : r.exec (processFile s source (some store)) = (.ok (summary, some store'), r')) :
    visits s store r (source :: sources) = ⟨s, source, text, r, store⟩ :: visits s store' r' sources := by
  rw [visits]
  simp only [htext, hdone]

theorem visits_cons_of_error {e : Error} (htext : r.disk.readText source = .ok text)
    (hfailed : r.exec (processFile s source (some store)) = (.error e, r')) :
    visits s store r (source :: sources) = [⟨s, source, text, r, store⟩] := by
  rw [visits]
  simp only [htext, hfailed]

theorem exec_processFile_of_error {e : DiskError} (htext : r.disk.readText source = .error e)
    (store : Option HashStore) : r.exec (processFile s source store) = (.error (.disk e), r) := by
  rw [processFile, Run.exec_get_bind]
  simp only [htext]
  rfl

theorem exec_processAll_of_error {e : Error} {store : Option HashStore}
    (hfailed : r.exec (processFile s source store) = (.error e, r')) :
    r.exec (processAll s store (source :: sources)) = (.error e, r') := by
  rw [processAll, Run.exec_bind, hfailed]

theorem exec_processAll_of_ok {first : Summary} {store store' : Option HashStore}
    (hdone : r.exec (processFile s source store) = (.ok (first, store'), r')) :
    r.exec (processAll s store (source :: sources)) =
      match r'.exec (processAll s store' sources) with
      | (.ok rest, r'') => (.ok (first.add rest), r'')
      | (.error e, r'') => (.error e, r'') := by
  rw [processAll, Run.exec_bind, hdone]
  simp only [Run.exec_bind, Run.exec_pure]
  rcases r'.exec (processAll s store' sources) with ⟨rest, r''⟩
  cases rest <;> rfl

theorem disk_processAll_of_ok {first : Summary} {store store' : Option HashStore}
    (hdone : r.exec (processFile s source store) = (.ok (first, store'), r')) :
    (r.exec (processAll s store (source :: sources))).2 = (r'.exec (processAll s store' sources)).2 := by
  rw [exec_processAll_of_ok hdone]
  split <;> simp_all

/-- The run: wherever a call that is not a test stops, the store is accounted for. -/
theorem Account.processAll {spot : Spot} (hspot : IsStoreSpot spot) (htest : s.testOnly = false) :
    ∀ {sources : List String} {vs : List (Visit σ)} {store : HashStore} {r : Run σ},
      (∀ x ∈ sources, HashStore.Field x) → Account vs spot store r →
      BackedAt (vs ++ visits s store r sources) spot (r.exec (processAll s (some store) sources)).2.disk := by
  intro sources
  induction sources with
  | nil =>
    intro vs store r _ h
    rw [visits, List.append_nil]
    exact h.file
  | cons source sources ih =>
    intro vs store r hfields h
    obtain ⟨hfield, hrest⟩ := List.forall_mem_cons.1 hfields
    cases htext : r.disk.readText source with
    | error e =>
      rw [exec_processAll_of_error (exec_processFile_of_error htext _)]
      exact h.file.mono (List.subset_append_left _ _)
    | ok text =>
      have hprocessed := processFile_processed ⟨s, source, text, r, store⟩ htest htext
      rcases hresult : r.exec (processFile s source (some store)) with ⟨result, r'⟩
      rw [hresult] at hprocessed
      obtain ⟨hfile, hnext⟩ := h.visit hspot hfield hprocessed
      cases result with
      | error e =>
        rw [exec_processAll_of_error hresult, visits_cons_of_error htext hresult]
        exact hfile
      | ok value =>
        obtain ⟨store', hstore', haccount⟩ := hnext value.1 value.2 rfl
        obtain ⟨summary, kept⟩ := value
        obtain rfl : kept = some store' := hstore'
        rw [disk_processAll_of_ok hresult, visits_cons htext hresult, List.append_cons]
        exact ih hrest haccount

end Visits

/-! ## Tests -/

/-- A test leaves the stores alone and the run ready, and it has no store to go on with. -/
theorem spares_processFile_test {s : Settings} (htest : s.testOnly = true) {r : Run σ} (hready : r.Ready)
    (source : String) :
    ∃ result r', r.exec (processFile s source none) = (result, r') ∧
      r.disk.Spares IsStoreSpot r'.disk ∧ r'.Ready ∧ ∀ value, result = .ok value → value.2 = none := by
  cases htext : r.disk.readText source with
  | error e =>
    exact ⟨_, _, exec_processFile_of_error htext none, (Disk.Grown.refl _).spares _, hready,
      fun _ h => nomatch h⟩
  | ok text =>
    generalize hpage : convert s source (Text.lines text) = page
    -- nothing is written before the images are made
    obtain ⟨tested, hdisk, hpipeline, hexec⟩ : ∃ tested : Run σ, tested.disk = r.disk ∧
        tested.pipeline = r.pipeline.map (fun p => { p with testOnly := true }) ∧
        ∀ reports r', tested.exec (Run.settle page.requests true) = (.ok reports, r') →
          r.exec (processFile s source none) = (.ok (Summary.empty.add (Summary.tally reports), none), r') := by
      refine ⟨⟨r.disk, page.entries.foldl Log.add r.log, r.pipeline.map fun p => { p with testOnly := true }⟩,
        rfl, rfl, fun reports r' hsettle => ?_⟩
      rw [processFile, Run.exec_get_bind]
      simp only [htext, hpage, preparePage, Run.exec_bind, exec_logEntries, writeConverted, htest, if_true,
        Run.exec_pure, Run.exec_setTestOnly, hsettle]
    have htested : tested.Ready := by
      refine hready.congr ?_ fun p' hp' => ?_
      · rw [hdisk]
        exact (Disk.Grown.refl _).keepsDirectories
      · rw [hpipeline] at hp'
        obtain ⟨p, hp, rfl⟩ := Option.map_eq_some_iff.1 hp'
        exact ⟨p, hp, rfl, rfl⟩
    obtain ⟨reports, hsettle⟩ := tested.exists_exec_settle page.requests true
    have himages : ∀ q ∈ page.requests, q.NamesImage := by
      rw [← hpage]
      exact fun q hq => (requests_convertParts s source _ 1 q hq).2
    obtain ⟨hspares, hended⟩ := htested.spares_stores himages true
    rw [hdisk] at hspares
    refine ⟨_, _, hexec _ _ hsettle, hspares, hended, fun value hvalue => ?_⟩
    rw [← Except.ok.inj hvalue]

theorem spares_processAll_test {s : Settings} (htest : s.testOnly = true) :
    ∀ {sources : List String} {r : Run σ}, r.Ready →
      r.disk.Spares IsStoreSpot (r.exec (processAll s none sources)).2.disk := by
  intro sources
  induction sources with
  | nil => exact fun _ => (Disk.Grown.refl _).spares _
  | cons source sources ih =>
    intro r hready
    obtain ⟨result, r', hexec, hspares, hready', hnone⟩ := spares_processFile_test htest hready source
    cases result with
    | error e =>
      rw [exec_processAll_of_error hexec]
      exact hspares
    | ok value =>
      obtain ⟨summary, store'⟩ := value
      obtain rfl : store' = none := hnone _ rfl
      rw [disk_processAll_of_ok hexec]
      exact hspares.trans (ih hready')

/-! ## What the last visits decide -/

/-- What a visit leaves in the store of its source. -/
def Visit.record (v : Visit σ) : Option String :=
  if v.paged.imaged.log.fileHasErrors v.source then none
  else some (HashStore.digestOf v.paged.run.disk v.source)

theorem Visit.map_readBack_record (v : Visit σ) : v.record.map HashStore.readBack = v.record := by
  unfold record
  split
  · rfl
  · exact congrArg some (HashStore.readBack_digestOf _ _)

/-- What visits make of a store: each source has what the last visit to it has left, and all others are kept. -/
structure Decided (vs : List (Visit σ)) (store last : HashStore) : Prop where
  path : last.path = store.path
  recordable : HashStore.Recordable last.current
  kept : ∀ x, (∀ u ∈ vs, u.source ≠ x) → last.get? x = store.get? x
  visited : ∀ before v after, vs = before ++ v :: after → (∀ u ∈ after, u.source ≠ v.source) →
    last.get? v.source = v.record

theorem decided_nil {store : HashStore} (h : HashStore.Recordable store.current) :
    Decided ([] : List (Visit σ)) store store where
  path := rfl
  recordable := h
  kept _ _ := rfl
  visited before v after hnil := by simp at hnil

theorem Decided.cons {v : Visit σ} {vs : List (Visit σ)} {last : HashStore}
    (h : Decided vs v.paged.stored last) : Decided (v :: vs) v.store last where
  path := h.path.trans v.paged.stored_keeps.1
  recordable := h.recordable
  kept x hx := by
    obtain ⟨hsource, hrest⟩ := List.forall_mem_cons.1 hx
    rw [h.kept x hrest, v.paged.get?_stored x]
    exact if_neg fun heq => hsource heq.symm
  visited before u after hsplit hafter := by
    cases before with
    | nil =>
      obtain ⟨rfl, rfl⟩ := List.cons.inj hsplit
      rw [h.kept v.source hafter, v.paged.get?_stored v.source]
      exact if_pos rfl
    | cons first before => exact h.visited before u after (List.cons.inj hsplit).2 hafter

/-- A call that gets to its end visits every source, and the last store is on the disk. -/
theorem processAll_decided {s : Settings} (htest : s.testOnly = false) :
    ∀ {sources : List String} {store : HashStore} {r r' : Run σ} {summary : Summary},
      (∀ x ∈ sources, HashStore.Field x) → HashStore.Recordable store.current →
      r.exec (processAll s (some store) sources) = (.ok summary, r') →
      (visits s store r sources).map (·.source) = sources ∧
        ∃ last, Decided (visits s store r sources) store last ∧
          (sources = [] ∧ last = store ∧ r' = r ∨ ∃ d, last.commit d = .ok r'.disk) := by
  intro sources
  induction sources with
  | nil =>
    intro store r r' summary _ hstore h
    exact ⟨rfl, store, decided_nil hstore, .inl ⟨rfl, rfl, (congrArg Prod.snd h).symm⟩⟩
  | cons source sources ih =>
    intro store r r' summary hfields hstore h
    obtain ⟨hfield, hrest⟩ := List.forall_mem_cons.1 hfields
    cases htext : r.disk.readText source with
    | error e =>
      rw [exec_processAll_of_error (exec_processFile_of_error htext _)] at h
      exact nomatch h
    | ok text =>
      have hprocessed := processFile_processed ⟨s, source, text, r, store⟩ htest htext
      rcases hresult : r.exec (processFile s source (some store)) with ⟨result, mid⟩
      rw [hresult] at hprocessed
      cases hprocessed with
      | unwritten e r' disk =>
        rw [exec_processAll_of_error hresult] at h
        exact nomatch h
      | uncommitted e written =>
        rw [exec_processAll_of_error hresult] at h
        exact nomatch h
      | done first disk written commit =>
        rw [exec_processAll_of_ok hresult] at h
        split at h
        · next rest r'' hrun =>
          obtain ⟨-, rfl⟩ := Prod.mk.inj h
          have hstored := Documentation.Visit.recordable_stored
            (v := Visit.paged ⟨s, source, text, r, store⟩) hfield hstore
          obtain ⟨hsources, last, hdecided, hcommitted⟩ := ih hrest hstored hrun
          rw [visits_cons htext hresult]
          refine ⟨by rw [List.map_cons, hsources], last, hdecided.cons, .inr ?_⟩
          rcases hcommitted with ⟨-, rfl, rfl⟩ | hcommitted
          · exact ⟨_, commit⟩
          · exact hcommitted
        · exact nomatch h

/-! ## Calls -/

/-- A call that converts files. -/
structure Call (σ : Type) where
  settings : Settings
  sources : List String
  start : Run σ

namespace Call

variable (c : Call σ)

/-- The path of the store. -/
def path : String := Path.join c.settings.docsDir HashStore.fileName

/-- The store that the call starts with, unless it is a test. -/
def loaded : HashStore := (HashStore.load c.start.disk c.path).1

/-- The run when the store has been loaded. -/
def ready : Run σ := { c.start with log := c.start.log.recordAll (HashStore.load c.start.disk c.path).2 }

/-- What the call gives. -/
def result : Except Error Summary := (c.start.exec (process c.settings c.sources)).1

/-- The run when the call has ended, well or not. -/
def finish : Run σ := (c.start.exec (process c.settings c.sources)).2

/-- The visits of the call that count: those of a test do not. -/
def visits : List (Visit σ) :=
  if c.settings.testOnly then [] else Tutorial.visits c.settings c.loaded c.ready c.sources

/-- The run is ready, and no path has a bar or a line feed. -/
structure Proper : Prop where
  ready : c.start.Ready
  sources : ∀ x ∈ c.sources, HashStore.Field x

variable {c}

theorem exec_process (htest : c.settings.testOnly = false) :
    c.start.exec (process c.settings c.sources) =
      c.ready.exec (processAll c.settings (some c.loaded) c.sources) := by
  rw [process, htest]
  simp only [Bool.false_eq_true, if_false, Run.exec_bind, Run.loadHashes]
  rfl

theorem exec_process_test (htest : c.settings.testOnly = true) :
    c.start.exec (process c.settings c.sources) = c.start.exec (processAll c.settings none c.sources) := by
  rw [process, htest]
  simp only [if_true, Run.exec_bind, Run.exec_pure]

theorem path_loaded (c : Call σ) : c.loaded.path = c.path := (HashStore.recordable_load _ _).2.2

theorem current_loaded (c : Call σ) : c.loaded.current = c.loaded.previous := (HashStore.recordable_load _ _).2.1

theorem recordable_loaded (c : Call σ) : HashStore.Recordable c.loaded.current := by
  rw [current_loaded]
  exact (HashStore.recordable_load _ _).1

/-- The step of a history: a call keeps a store accounted for, with its own visits besides. -/
theorem backedAt_finish {vs : List (Visit σ)} {spot : Spot} (hspot : IsStoreSpot spot) (hc : c.Proper)
    (h : BackedAt vs spot c.start.disk) : BackedAt (vs ++ c.visits) spot c.finish.disk := by
  rw [finish, visits]
  cases htest : c.settings.testOnly with
  | true =>
    rw [exec_process_test htest, if_pos rfl, List.append_nil]
    exact h.spares (spares_processAll_test htest hc.ready) hspot
  | false =>
    rw [exec_process htest, if_neg (by decide)]
    refine Account.processAll hspot htest hc.sources ⟨?_, h, ?_, c.recordable_loaded⟩
    · exact hc.ready.congr (Disk.Grown.refl _).keepsDirectories fun p hp => ⟨p, hp, rfl, rfl⟩
    · by_cases helsewhere : ∃ other, other ≠ spot ∧ c.start.disk.locate c.path = .ok other
      · left
        rw [path_loaded]
        exact helsewhere
      · right
        have hload : Backed vs c.loaded.current := by
          refine h.load fun other hother => ?_
          by_contra hne
          exact helsewhere ⟨other, hne, hother⟩
        refine ⟨?_, hload⟩
        rw [← current_loaded]
        exact hload

/-- After a call that ends well, a source has the record that the last visit to it has left. -/
theorem get?_finish {summary : Summary} (hc : c.Proper) (htest : c.settings.testOnly = false)
    (hok : c.result = .ok summary) :
    c.visits.map (·.source) = c.sources ∧
      ∀ before v after, c.visits = before ++ v :: after → (∀ u ∈ after, u.source ≠ v.source) →
        (HashStore.load c.finish.disk c.path).1.get? v.source = v.record := by
  have hexec : c.ready.exec (processAll c.settings (some c.loaded) c.sources) = (.ok summary, c.finish) := by
    rw [← exec_process htest, ← hok]
    rfl
  have hvisits : c.visits = Tutorial.visits c.settings c.loaded c.ready c.sources := by
    rw [visits, htest, if_neg (by decide)]
  obtain ⟨hsources, last, hdecided, hcommitted⟩ := processAll_decided htest hc.sources c.recordable_loaded hexec
  rw [← hvisits] at hsources hdecided
  refine ⟨hsources, fun before v after hsplit hafter => ?_⟩
  have hvisited := hdecided.visited before v after hsplit hafter
  rcases hcommitted with ⟨hnil, -⟩ | ⟨d, hcommit⟩
  · rw [hnil, List.map_eq_nil_iff, hsplit] at hsources
    simp at hsources
  · have hload := (HashStore.load_of_commit hdecided.recordable hcommit v.source).1
    rw [hdecided.path, path_loaded, hvisited, v.map_readBack_record] at hload
    exact hload

end Call

/-! ## Histories -/

/-- Calls one after the other, beginning where there is no store at a place.  Between them anything may be done to
the disk but to change the store: it may only be removed. -/
inductive History (spot : Spot) : List (Call σ) → Disk → Prop
  | begin {d : Disk} (fresh : ∀ content, d.get? spot ≠ some (.file content)) : History spot [] d
  | call {calls : List (Call σ)} {d : Disk} (past : History spot calls d) (c : Call σ) (proper : c.Proper)
      (left : ∀ content, c.start.disk.get? spot = some (.file content) → d.get? spot = some (.file content)) :
      History spot (calls ++ [c]) c.finish.disk

/-- Throughout a history, all that the store records goes back to visits. -/
theorem History.backedAt {spot : Spot} {calls : List (Call σ)} {d : Disk} (hspot : IsStoreSpot spot)
    (h : History spot calls d) : BackedAt (calls.flatMap Call.visits) spot d := by
  induction h with
  | begin fresh => exact fun content hget => absurd hget (fresh content)
  | call past c proper left ih =>
    rw [List.flatMap_append, List.flatMap_singleton]
    exact Call.backedAt_finish hspot proper fun content hget => ih content (left content hget)

/-- **Whatever the store records goes back to a visit that rendered all images, or that had nothing to render them
with.**  This is so after any calls, with whatever settings, however they ended.  After a call that was not a test
and ended well, each of its sources has just what the last visit to it has left. -/
theorem record_backed_by_visit {spot : Spot} {calls : List (Call σ)} {d : Disk} (h : History spot calls d)
    {dir : String} (hdir : d.locate (Path.join dir HashStore.fileName) = .ok spot) :
    let store := (HashStore.load d (Path.join dir HashStore.fileName)).1
    (∀ x digest, store.get? x = some digest → ∃ c ∈ calls, ∃ v ∈ c.visits, v.Backs x digest) ∧
      ∀ c summary, calls.getLast? = some c → c.settings.docsDir = dir → c.settings.testOnly = false →
        c.result = .ok summary →
        c.visits.map (·.source) = c.sources ∧
          ∀ before v after, c.visits = before ++ v :: after → (∀ u ∈ after, u.source ≠ v.source) →
            store.get? v.source = v.record := by
  intro store
  constructor
  · intro x digest hget
    have hbacked := h.backedAt (Disk.isStoreSpot_of_locate hdir)
    have hload : Backed (calls.flatMap Call.visits) store.current :=
      hbacked.load fun other hother => Except.ok.inj (hother.symm.trans hdir)
    obtain ⟨v, hv, hbacks⟩ := hload x digest hget
    obtain ⟨c, hc, hvisit⟩ := List.mem_flatMap.1 hv
    exact ⟨c, hc, v, hvisit, hbacks⟩
  · intro c summary hlast hsame htest hok
    cases h with
    | begin fresh => exact nomatch hlast
    | call past c' proper left =>
      obtain rfl : c' = c := by simpa using hlast
      subst hsame
      exact Call.get?_finish proper htest hok

/-- A call that renders is followed by one that has nothing to render with and leaves the record as it is: it goes
back to a visit of one of the two, and it is what the only visit of the second has left. -/
theorem record_backed_by_visit_twice :
    ∃ (first second : Call Unit) (digest : String) (v : Visit Unit),
      History ["work", "docs", ".source_hashes"] [first, second] second.finish.disk ∧
        (first.start.pipeline.isSome = true ∧ second.start.pipeline.isSome = false) ∧
        (HashStore.load second.finish.disk "docs/.source_hashes").1.get? "a.md" = some digest ∧
        ((v ∈ first.visits ∨ v ∈ second.visits) ∧ v.Backs "a.md" digest) ∧
        ∃ last, second.visits = [last] ∧ last.source = "a.md" ∧ last.record = some digest := by
  -- the calls are evaluated from what they start with, and not looked into any more
  obtain ⟨first, second, p, digest, hp, hdisk, hnone, hrenderer, hqueue, hcurrent, hfresh, hsources, hlocate, hget,
      hdir, htest, hended⟩ :
      ∃ (first second : Call Unit) (p : Render.Pipeline Unit) (digest : String),
        first.start.pipeline = some p ∧ second.start.disk = first.finish.disk ∧ second.start.pipeline = none ∧
        p.renderer.WritesOnlyOutput ∧ p.queue = [] ∧
        (first.start.disk.current = ["work"] ∧ first.finish.disk.current = ["work"]) ∧
        first.start.disk.get? ["work", "docs", ".source_hashes"] = none ∧
        (first.sources = ["a.md"] ∧ second.sources = ["a.md"]) ∧
        second.finish.disk.locate (Path.join "docs" HashStore.fileName) =
          .ok ["work", "docs", ".source_hashes"] ∧
        (HashStore.load second.finish.disk (Path.join "docs" HashStore.fileName)).1.get? "a.md" =
          some digest ∧
        second.settings.docsDir = "docs" ∧ second.settings.testOnly = false ∧
        second.result.toOption = some ⟨["docs/a.md"], 0, 0, 0, 0⟩ := by
    refine ⟨⟨Settings.default, ["a.md"], Run.start
      ⟨[(["work"], .directory), (["work", "docs"], .directory),
        (["work", "a.md"], .file (.text "```openscad\ncube(1);\n```\n"))], ["work"]⟩
      (some (.new (.writing (.text "image") (Render.Output.ofStreams [] (some 0) "" "")) ()))⟩,
      ⟨Settings.default, ["a.md"], Run.start _ none⟩, _,
      "61371fa244992ff6ad5ab47e2d98b30830c1ff0047789b1ec3f8d21ffab98d3d", rfl, Run.disk_start _ _, rfl,
      Render.Renderer.writing_writesOnlyOutput _ _, ?_⟩
    decide +kernel
  have hgrounded {d : Disk} (hd : d.current = ["work"]) : d.Grounded d.current := by
    rw [hd]
    exact (Disk.grounded_nil d).concat (Disk.get?_nil d) "work"
  have hproper : first.Proper := by
    refine ⟨⟨hgrounded hcurrent.1, fun q hq => ?_⟩, ?_⟩
    · obtain rfl := Option.some.inj (hp.symm.trans hq)
      exact ⟨hrenderer, hqueue⟩
    · rw [hsources.1]
      decide
  have hproper' : second.Proper := by
    refine ⟨⟨?_, fun q hq => nomatch hnone.symm.trans hq⟩, ?_⟩
    · rw [hdisk]
      exact hgrounded hcurrent.2
    · rw [hsources.2]
      decide
  have hhistory : History ["work", "docs", ".source_hashes"] [first, second] second.finish.disk := by
    refine .call (.call (.begin ?_) first hproper fun _ => id) second hproper' ?_
    · intro content hfile
      exact nomatch hfresh.symm.trans hfile
    · rw [hdisk]
      exact fun _ => id
  obtain ⟨hbacked, hlast⟩ := record_backed_by_visit hhistory hlocate
  obtain ⟨c, hc, v, hv, hbacks⟩ := hbacked "a.md" digest hget
  obtain ⟨hvisited, hrecord⟩ := hlast second _ rfl hdir htest (ok_of_toOption hended)
  rw [hsources.2] at hvisited
  obtain ⟨last, hvisits, hsource⟩ := List.map_eq_singleton_iff.1 hvisited
  have hleft := hrecord [] last [] hvisits (fun u hu => absurd hu List.not_mem_nil)
  rw [hsource, hget] at hleft
  refine ⟨first, second, digest, v, hhistory, by simp [hp, hnone], hget, ⟨?_, hbacks⟩, last, hvisits, hsource,
    hleft.symm⟩
  rcases List.mem_pair.1 hc with rfl | rfl
  · exact .inl hv
  · exact .inr hv

/-- A call without a renderer records a source whose image was never rendered, so the next call, with one, does not
render it either. -/
theorem unrendered_source_recorded :
    let d : Disk := ⟨[(["work"], .directory), (["work", "docs"], .directory),
      (["work", "a.md"], .file (.text "```openscad\ncube(1);\n```\n"))], ["work"]⟩
    let p := Render.Pipeline.new (.writing (.text "image") (Render.Output.ofStreams [] (some 0) "" "")) ()
    let first : Call Unit := ⟨Settings.default, ["a.md"], Run.start d none⟩
    let second : Call Unit := ⟨Settings.default, ["a.md"], Run.start first.finish.disk (some p)⟩
    (HashStore.load first.finish.disk "docs/.source_hashes").1.get? "a.md" =
        some "61371fa244992ff6ad5ab47e2d98b30830c1ff0047789b1ec3f8d21ffab98d3d" ∧
      first.finish.log.hasErrors = false ∧
      second.result.toOption = some ⟨["docs/a.md"], 0, 0, 1, 0⟩ ∧
      second.finish.disk.isFile "docs/images/a_1.png" = false := by
  decide +kernel

end ScadManual.Tutorial
