import ScadManual.Proofs.Commit
import ScadManual.Run.Basic

/-!
# What becomes of a queue

Every request of a queue gets one report, in order, whether the queue is built or only emptied.  Building
adds entries to the log where requests come from and nowhere else, and a request that failed marks its source
as bad.
-/

namespace ScadManual

namespace Render

variable {σ : Type}

/-- What is said of requests once they are built or skipped: there is a report for each, what was logged is
about the sources of the requests, and a failure is logged. -/
structure Dealt (requests : List Request) (log : Log) (reports : List Report) (log' : Log) : Prop where
  origins : reports.map (·.origin) = requests.map (·.origin)
  adds : log.Adds (fun f => ∃ r ∈ requests, r.origin.file = f) log'
  failed : ∀ report ∈ reports, report.status = .failed → log'.fileHasErrors report.origin.file = true

theorem Dealt.length_eq {requests : List Request} {log log' : Log} {reports : List Report}
    (h : Dealt requests log reports log') : reports.length = requests.length := by
  simpa using congrArg List.length h.origins

namespace Pipeline

/-! ## One request -/

section Build

variable (p : Pipeline σ) (r : Request) (log : Log) (d : Disk)

theorem build_eq : (p.build r log d).1.origin = r.origin ∧
    (p.build r log d).2.1 = { p with state := (p.attempt r d).state } := by
  unfold build
  generalize p.attempt r d = a
  cases a.result <;> exact ⟨rfl, rfl⟩

theorem adds_build : log.Adds (· = r.origin.file) (p.build r log d).2.2.1 := by
  cases h : (p.attempt r d).result with
  | ok status => exact Log.adds_of_entries_eq (build_of_ok h log).2
  | error e =>
    have hadd : log.Adds (· = r.origin.file) (log.add (failureEntry r (p.attempt r d).output e)) :=
      Log.adds_add log rfl
    exact hadd.trans (Log.adds_of_entries_eq (build_of_error h log).2)

/-- An attempt that ended well did not fail. -/
theorem ne_failed_of_attempt {status : Status} (h : (p.attempt r d).result = .ok status) :
    status ≠ .failed := by
  cases p.course r d with
  | stopped e d' current same ended ended' =>
    rw [ended] at h
    simp at h
  | called script candidate d₂ ready ended ended' =>
    rw [ended] at h
    rcases p.settle_cases r candidate (p.call r script candidate d₂).reply.result
      (p.call r script candidate d₂).reply.disk with
      ⟨-, hskipped⟩ | ⟨-, output, moved, content, spot, -, -, -, hstatus, hm⟩
    · rw [hskipped status h]
      decide
    · obtain rfl : moved = status := Except.ok.inj (hstatus.symm.trans h)
      have hwrote := hm.wroteImage
      rintro rfl
      simp [Status.wroteImage] at hwrote

theorem fileHasErrors_of_failed (h : (p.build r log d).1.status = .failed) :
    (p.build r log d).2.2.1.fileHasErrors r.origin.file = true := by
  cases hresult : (p.attempt r d).result with
  | ok status =>
    rw [(build_of_ok hresult log).1] at h
    exact absurd h (p.ne_failed_of_attempt r d hresult)
  | error e => exact Log.fileHasErrors_iff.2 ⟨_, (logged_of_error hresult log).1, rfl, rfl⟩

end Build

/-! ## All requests -/

theorem buildAll_cons (p : Pipeline σ) (log : Log) (d : Disk) (r : Request) (rs : List Request) :
    p.buildAll log d (r :: rs) =
      let first := p.build r log d
      let rest := first.2.1.buildAll first.2.2.1 first.2.2.2 rs
      (first.1 :: rest.1, rest.2) := by
  rw [buildAll]

theorem dealt_buildAll (p : Pipeline σ) (log : Log) (d : Disk) (rs : List Request) :
    Dealt rs log (p.buildAll log d rs).1 (p.buildAll log d rs).2.2.1 ∧
      (p.buildAll log d rs).2.1.queue = p.queue := by
  induction rs generalizing p log d with
  | nil => exact ⟨⟨rfl, Log.adds_of_entries_eq rfl, fun report h => absurd h List.not_mem_nil⟩, rfl⟩
  | cons r rs ih =>
    obtain ⟨horigin, hpipeline⟩ := p.build_eq r log d
    have hadds := p.adds_build r log d
    have hmarked := p.fileHasErrors_of_failed r log d
    rw [buildAll_cons]
    -- what a build leads to is known by now
    generalize p.build r log d = first at horigin hpipeline hadds hmarked ⊢
    obtain ⟨hrest, hqueue⟩ := ih first.2.1 first.2.2.1 first.2.2.2
    refine ⟨⟨?_, ?_, fun report hmem hfailed => ?_⟩, by rw [hqueue, hpipeline]⟩
    · rw [List.map_cons, List.map_cons, horigin, hrest.origins]
    · refine (hadds.mono ?_).trans (hrest.adds.mono ?_)
      · rintro f rfl
        exact ⟨r, List.mem_cons_self, rfl⟩
      · rintro f ⟨q, hq, rfl⟩
        exact ⟨q, List.mem_cons_of_mem r hq, rfl⟩
    · rcases List.mem_cons.1 hmem with rfl | hmem
      · rw [horigin]
        exact hrest.adds.fileHasErrors (hmarked hfailed)
      · exact hrest.failed report hmem hfailed

/-- Flushing deals with the queue and leaves it empty. -/
theorem dealt_flush (p : Pipeline σ) (log : Log) (d : Disk) :
    Dealt p.queue log (p.flush log d).1 (p.flush log d).2.2.1 ∧ (p.flush log d).2.1.queue = [] :=
  { p with queue := [] }.dealt_buildAll log d p.queue

/-- Purging deals with the queue and leaves it empty, and logs nothing. -/
theorem dealt_purge (p : Pipeline σ) (log : Log) : Dealt p.queue log p.purge.1 log ∧ p.purge.2.queue = [] := by
  refine ⟨⟨?_, Log.adds_of_entries_eq rfl, fun report hmem hfailed => ?_⟩, rfl⟩
  · rw [purge, List.map_map]
    rfl
  · obtain ⟨r, -, rfl⟩ := List.mem_map.1 hmem
    simp at hfailed

end Pipeline

/-! ## Attempts and calls -/

/-- An attempt at a request: what it is made with, and the disk before it. -/
structure Trial (σ : Type) where
  pipeline : Pipeline σ
  request : Request
  disk : Disk

namespace Trial

/-- The calls of the renderer that the attempt makes. -/
def calls (t : Trial σ) : List (Call σ) := t.pipeline.calls t.request t.disk

/-- Can the temporary files of the attempt be made? -/
def canPrepare (t : Trial σ) : Bool :=
  match t.disk.makeTemporary t.pipeline.workDir Pipeline.temporaryStart ".scad" [t.request.imageName] with
  | .error _ => false
  | .ok (script, _) =>
    (t.pipeline.makeCandidate t.request (Pipeline.withScript t.disk script t.request.script)).isOk

/-- With its temporary files an attempt calls the renderer once. -/
theorem exists_calls_eq {t : Trial σ} (h : t.canPrepare = true) : ∃ call, t.calls = [call] := by
  unfold canPrepare at h
  cases hs : t.disk.makeTemporary t.pipeline.workDir Pipeline.temporaryStart ".scad"
      [t.request.imageName] with
  | error e => simp [hs] at h
  | ok made =>
    obtain ⟨script, d₁⟩ := made
    obtain ⟨-, rfl⟩ := Pipeline.temporary_spec (by decide) hs
    cases hc : t.pipeline.makeCandidate t.request
        (Pipeline.withScript t.disk script t.request.script) with
    | error e => simp [hs, hc, Except.isOk, Except.toBool] at h
    | ok made =>
      refine ⟨t.pipeline.call t.request script made.1 made.2, ?_⟩
      have hended := Pipeline.attempt_of_call (p := t.pipeline.recorded) hs hc
      rw [calls, Pipeline.calls, hended]
      rfl

end Trial

namespace Pipeline

/-- The attempts that building requests makes. -/
def trials (p : Pipeline σ) (d : Disk) : List Request → List (Trial σ)
  | [] => []
  | r :: rs =>
    let a := p.attempt r d
    ⟨p, r, d⟩ :: { p with state := a.state }.trials a.disk rs

/-- There is an attempt at each request. -/
theorem map_request_trials (p : Pipeline σ) (d : Disk) (rs : List Request) :
    (p.trials d rs).map (·.request) = rs := by
  induction rs generalizing p d with
  | nil => rfl
  | cons r rs ih => rw [trials, List.map_cons, ih]

/-- The pipeline with a renderer that keeps its calls, some of which are past. -/
def recordedFrom (p : Pipeline σ) (past : List (Call σ)) : Pipeline (σ × List (Call σ)) :=
  { p.recorded with state := (p.state, past) }

/-- A renderer that keeps its calls does all else as before. -/
theorem attempt_recordedFrom (p : Pipeline σ) (past : List (Call σ)) (r : Request) (d : Disk) :
    (p.recordedFrom past).attempt r d =
      ⟨(p.attempt r d).result, (p.attempt r d).output, ((p.attempt r d).state, past ++ p.calls r d),
        (p.attempt r d).disk⟩ := by
  cases hs : d.makeTemporary p.workDir temporaryStart ".scad" [r.imageName] with
  | error e =>
    rw [calls, attempt_of_no_script (p := p.recorded) hs, attempt_of_no_script (p := p) hs,
      attempt_of_no_script (p := p.recordedFrom past) hs]
    simp [recorded, recordedFrom]
  | ok made =>
    obtain ⟨script, d₁⟩ := made
    obtain ⟨-, rfl⟩ := temporary_spec (by decide) hs
    cases hc : p.makeCandidate r (withScript d script r.script) with
    | error e =>
      rw [calls, attempt_of_no_candidate (p := p.recorded) hs hc, attempt_of_no_candidate (p := p) hs hc,
        attempt_of_no_candidate (p := p.recordedFrom past) hs hc]
      simp [recorded, recordedFrom]
    | ok made =>
      rw [calls, attempt_of_call (p := p.recorded) hs hc, attempt_of_call (p := p) hs hc,
        attempt_of_call (p := p.recordedFrom past) hs hc]
      rfl

/-- The state that calls leave the renderer in. -/
def stateAfter (state : σ) (calls : List (Call σ)) : σ := calls.foldl (fun _ call => call.reply.state) state

theorem stateAfter_append (state : σ) (calls calls' : List (Call σ)) :
    stateAfter state (calls ++ calls') = stateAfter (stateAfter state calls) calls' :=
  List.foldl_append

/-- An attempt leaves the renderer as its call does. -/
theorem state_attempt (p : Pipeline σ) (r : Request) (d : Disk) :
    (p.attempt r d).state = stateAfter p.state (p.calls r d) := by
  cases p.course r d with
  | stopped e d' current same ended ended' =>
    rw [calls, ended, ended']
    rfl
  | called script candidate d₂ ready ended ended' =>
    rw [calls, ended, ended']
    rfl

theorem build_recordedFrom (p : Pipeline σ) (past : List (Call σ)) (r : Request) (log : Log) (d : Disk) :
    (p.recordedFrom past).build r log d =
      ((p.build r log d).1, (p.build r log d).2.1.recordedFrom (past ++ p.calls r d), (p.build r log d).2.2) := by
  unfold build
  rw [attempt_recordedFrom]
  rcases p.attempt r d with ⟨result, output, state, disk⟩
  cases result <;> rfl

/-- The calls of the attempts that building requests makes. -/
def callsAll (p : Pipeline σ) (d : Disk) (rs : List Request) : List (Call σ) := (p.trials d rs).flatMap Trial.calls

theorem callsAll_cons (p : Pipeline σ) (log : Log) (d : Disk) (r : Request) (rs : List Request) :
    p.callsAll d (r :: rs) =
      p.calls r d ++ (p.build r log d).2.1.callsAll (p.build r log d).2.2.2 rs := by
  rw [(p.build_eq r log d).2, p.build_disk r log d]
  exact List.flatMap_cons

/-- **A queue that is built with a renderer that keeps its calls fares as before**, and the calls are those of the
attempts. -/
theorem buildAll_recordedFrom (p : Pipeline σ) (past : List (Call σ)) (log : Log) (d : Disk) (rs : List Request) :
    (p.recordedFrom past).buildAll log d rs =
      ((p.buildAll log d rs).1, (p.buildAll log d rs).2.1.recordedFrom (past ++ p.callsAll d rs),
        (p.buildAll log d rs).2.2) := by
  induction rs generalizing p past log d with
  | nil =>
    show _ = (_, p.recordedFrom (past ++ []), _)
    rw [List.append_nil]
    rfl
  | cons r rs ih =>
    rw [buildAll_cons, buildAll_cons, build_recordedFrom, p.callsAll_cons log, ← List.append_assoc]
    simp only [ih]

/-- The renderer is left as its last call leaves it. -/
theorem state_buildAll (p : Pipeline σ) (log : Log) (d : Disk) (rs : List Request) :
    (p.buildAll log d rs).2.1.state = stateAfter p.state (p.callsAll d rs) := by
  induction rs generalizing p log d with
  | nil => rfl
  | cons r rs ih =>
    have hstate : (p.build r log d).2.1.state = (p.attempt r d).state := by rw [(p.build_eq r log d).2]
    rw [buildAll_cons, p.callsAll_cons log, stateAfter_append, ← state_attempt, ← hstate]
    exact ih _ _ _

end Pipeline

end Render

/-! ## Counting -/

namespace Summary

/-- The number of images that a summary is about. -/
def images (s : Summary) : Nat := s.new + s.replaced + s.skipped + s.failed

theorem images_add (s t : Summary) : (s.add t).images = s.images + t.images := by
  simp only [images, add]
  omega

/-- Several together. -/
def sum (parts : List Summary) : Summary := parts.foldr add empty

/-- Every report is counted once. -/
theorem images_tally (reports : List Render.Report) : (tally reports).images = reports.length := by
  induction reports with
  | nil => rfl
  | cons report reports ih =>
    simp only [images, tally, countOf, List.filter_cons, List.length_cons] at ih ⊢
    cases report.status <;> simp <;> omega

theorem tally_skipped (requests : List Render.Request) :
    tally (requests.map fun q => ⟨q.origin, q.imageFile, .skipped, none⟩) = ⟨[], 0, 0, requests.length, 0⟩ := by
  simp [tally, countOf, List.filter_map, Function.comp_def]

end Summary

end ScadManual
