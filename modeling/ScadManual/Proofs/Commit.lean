import ScadManual.Proofs.Log
import ScadManual.Proofs.Temporary
import ScadManual.Render.Pipeline

/-!
# An image is committed in one step or not at all

Building a request calls the renderer at most once.  Either the image file ends up with just what the
renderer put into the new file, and then the renderer ended well, or no file on the disk has changed.  The
temporary files are gone in either case, and the log has a new entry only when the build failed.

The argument follows the disk: the two temporary files are made where nothing was, the renderer changes one
of them, and the image file is neither of them, since its name is reserved.
-/

namespace ScadManual

namespace Render

variable {σ : Type}

/-! ## Calls -/

/-- A call of a renderer: what it was asked, the disk it found and what it led to. -/
structure Call (σ : Type) where
  invocation : Invocation
  disk : Disk
  reply : Reply σ

/-- A renderer that also keeps its calls. -/
def Renderer.recorded (renderer : Renderer σ) : Renderer (σ × List (Call σ)) where
  render inv state d :=
    let reply := renderer.render inv state.1 d
    ⟨reply.result, (reply.state, state.2 ++ [⟨inv, d, reply⟩]), reply.disk⟩

/-- A renderer that changes nothing but the file it is to write. -/
structure Renderer.WritesOnlyOutput (renderer : Renderer σ) : Prop where
  current : ∀ inv state d, (renderer.render inv state d).disk.current = d.current
  get? : ∀ inv state d spot, d.locate inv.outputFile ≠ .ok spot →
    (renderer.render inv state d).disk.get? spot = d.get? spot

/-- A renderer that writes the same content at every call. -/
def Renderer.writing (content : Content) (output : Output) : Renderer Unit where
  render inv state d :=
    match d.write inv.outputFile content with
    | .ok d' => ⟨.ok output, state, d'⟩
    | .error e => ⟨.error (.disk e), state, d⟩

/-- A renderer that does nothing to a disk but write its output. -/
theorem Renderer.writesOnlyOutput_of_write {renderer : Renderer σ} (content : Content)
    (h : ∀ inv state d, (renderer.render inv state d).disk = d ∨
      d.write inv.outputFile content = .ok (renderer.render inv state d).disk) : renderer.WritesOnlyOutput := by
  have hsame (inv : Invocation) (state : σ) (d : Disk) : (renderer.render inv state d).disk = d ∨
      ∃ spot, d.locate inv.outputFile = .ok spot ∧
        (renderer.render inv state d).disk = d.set spot (.file content) := by
    refine (h inv state d).imp_right fun hwrite => ?_
    obtain ⟨spot, hspot, -, hset⟩ := Disk.write_eq_ok hwrite
    exact ⟨spot, hspot, hset⟩
  constructor
  · intro inv state d
    rcases hsame inv state d with heq | ⟨spot, -, heq⟩ <;> rw [heq]
    rfl
  · intro inv state d x hx
    rcases hsame inv state d with heq | ⟨spot, hspot, heq⟩
    · rw [heq]
    · rw [heq, Disk.get?_set_of_ne]
      rintro rfl
      exact hx hspot

theorem Renderer.writing_writesOnlyOutput (content : Content) (output : Output) :
    (Renderer.writing content output).WritesOnlyOutput := by
  refine writesOnlyOutput_of_write content fun inv state d => ?_
  simp only [writing]
  cases hwrite : d.write inv.outputFile content with
  | error e => exact .inl rfl
  | ok d' => exact .inr rfl

/-- A renderer that writes the same content at every call and ends as its outputs say, one after the other. -/
def Renderer.inTurn (content : Content) (last : Output) : Renderer (List Output) where
  render inv state d :=
    match d.write inv.outputFile content with
    | .ok d' => ⟨.ok (state.headD last), state.tail, d'⟩
    | .error e => ⟨.error (.disk e), state, d⟩

theorem Renderer.inTurn_writesOnlyOutput (content : Content) (last : Output) :
    (Renderer.inTurn content last).WritesOnlyOutput := by
  refine writesOnlyOutput_of_write content fun inv state d => ?_
  simp only [inTurn]
  cases hwrite : d.write inv.outputFile content with
  | error e => exact .inl rfl
  | ok d' => exact .inr rfl

/-- The renderer ended well and had nothing to complain of, notices apart. -/
structure Output.Faultless (o : Output) : Prop where
  success : o.success = true
  code : o.code = some 0
  errors : o.errors = []
  warnings : ∀ w ∈ o.warnings, Text.contains w Pipeline.viewAllNotice = true

theorem Output.faultless_of_isClean {o : Output}
    (h : Pipeline.isClean (Pipeline.withoutNotices o) = true) : o.Faultless := by
  simp only [Pipeline.isClean, Pipeline.withoutNotices, Output.good, Bool.and_eq_true,
    List.isEmpty_iff, beq_iff_eq, List.filter_eq_nil_iff] at h
  obtain ⟨⟨⟨hsuccess, hcode⟩, hwarnings⟩, herrors⟩ := h
  refine ⟨hsuccess, hcode, herrors, fun w hw => ?_⟩
  simpa using hwarnings w hw

namespace Pipeline

/-- The pipeline with a renderer that keeps its calls. -/
def recorded (p : Pipeline σ) : Pipeline (σ × List (Call σ)) :=
  { renderer := p.renderer.recorded
    state := (p.state, [])
    workDir := p.workDir
    tolerance := p.tolerance
    testOnly := p.testOnly
    queue := p.queue }

/-- The calls that building a request makes. -/
def calls (p : Pipeline σ) (r : Request) (d : Disk) : List (Call σ) :=
  (p.recorded.attempt r d).state.2

/-- The entry about a failure: an error where the request comes from, with the report of it. -/
def failureEntry (r : Request) (output : Option Output) (e : Error) : LogEntry :=
  ⟨r.origin.file, r.origin.line, failureReport r output (some e), .error⟩

/-- The disk without the two temporary files. -/
def cleared (d : Disk) (script candidate : Disk.Temporary) : Disk :=
  (d.erase candidate.spot).erase script.spot

/-- A place under another name than that of the image. -/
def NotImage (r : Request) (spot : Spot) : Prop :=
  ∃ dir name, spot = dir ++ [name] ∧ name ≠ r.imageName

section Cleared

variable {r : Request} {d d' : Disk} {script candidate : Disk.Temporary} {spot x : Spot}

theorem NotImage.ne_nil (h : NotImage r spot) : spot ≠ [] := by
  obtain ⟨dir, name, rfl, -⟩ := h
  simp

theorem NotImage.ne_concat (h : NotImage r spot) (dir : Spot) : dir ++ [r.imageName] ≠ spot := by
  obtain ⟨dir', name, rfl, hname⟩ := h
  intro heq
  obtain ⟨-, hlast⟩ := List.append_inj' heq rfl
  exact hname (List.singleton_inj.1 hlast).symm

theorem get?_cleared_of_ne (hs : x ≠ script.spot) (hc : x ≠ candidate.spot) :
    (cleared d script candidate).get? x = d.get? x := by
  rw [cleared, Disk.get?_erase_of_ne hs, Disk.get?_erase_of_ne hc]

theorem get?_cleared_script (hs : script.spot ≠ []) :
    (cleared d script candidate).get? script.spot = none := by
  rw [cleared, Disk.get?_erase_self hs]

theorem get?_cleared_candidate (hc : candidate.spot ≠ []) :
    (cleared d script candidate).get? candidate.spot = none := by
  by_cases heq : candidate.spot = script.spot
  · rw [heq, get?_cleared_script (heq ▸ hc)]
  · rw [cleared, Disk.get?_erase_of_ne heq, Disk.get?_erase_self hc]

/-- What was in the candidate does not matter once it is cleared away. -/
theorem get?_cleared_of_sameBut (hs : script.spot ≠ []) (hc : candidate.spot ≠ [])
    (h : Disk.SameBut candidate.spot d d') (x : Spot) :
    (cleared d' script candidate).get? x = (cleared d script candidate).get? x := by
  by_cases hxs : x = script.spot
  · rw [hxs, get?_cleared_script hs, get?_cleared_script hs]
  · by_cases hxc : x = candidate.spot
    · rw [hxc, get?_cleared_candidate hc, get?_cleared_candidate hc]
    · rw [get?_cleared_of_ne hxs hxc, get?_cleared_of_ne hxs hxc, h.get? hxc]

end Cleared

/-- The disk that the renderer is called with: two temporary files stand on it that were not there, none of
them under the name of the image. -/
structure Prepared (p : Pipeline σ) (r : Request) (d : Disk) (script candidate : Disk.Temporary)
    (d₂ : Disk) : Prop where
  script_named : NotImage r script.spot
  candidate_named : NotImage r candidate.spot
  script_file : ∃ content, d₂.get? script.spot = some (.file content)
  candidate_file : ∃ content, d₂.get? candidate.spot = some (.file content)
  located : d₂.locate candidate.path = .ok candidate.spot
  isDirPath : Disk.isDirPath candidate.path = false
  grown : d.Grown (cleared d₂ script candidate)
  tested : p.testOnly = true → ∀ x, (cleared d₂ script candidate).get? x = d.get? x

theorem notImage_of_fresh {r : Request} {d : Disk} {t : Disk.Temporary} (h : t.Fresh d [r.imageName]) :
    NotImage r t.spot := by
  obtain ⟨dir, name, hspot, hname⟩ := h.named
  exact ⟨dir, name, hspot, by simpa using hname⟩

/-- A temporary file of the pipeline, whose name has no slash. -/
theorem temporary_spec {r : Request} {d d' : Disk} {dir ending : String} {t : Disk.Temporary}
    (hending : '/' ∉ ending.toList)
    (h : d.makeTemporary dir temporaryStart ending [r.imageName] = .ok (t, d')) :
    t.Fresh d [r.imageName] ∧ d' = d.set t.spot (.file .empty) :=
  Disk.makeTemporary_spec (by decide) hending h

theorem slash_not_mem_extension (r : Request) : '/' ∉ ("." ++ r.extension).toList := by
  have hext : '/' ∉ r.extension.toList := by
    unfold Request.extension
    cases he : Path.extension? r.imageFile with
    | none => decide
    | some ending => exact Path.slash_not_mem_extension he
  rw [String.toList_append, List.mem_append]
  rintro (hdot | hmem)
  · exact absurd hdot (by decide)
  · exact hext hmem

/-- The candidate is fresh on a disk with more directories, or on the same disk when only testing. -/
theorem makeCandidate_spec {p : Pipeline σ} {r : Request} {d d' : Disk} {candidate : Disk.Temporary}
    (h : p.makeCandidate r d = .ok (candidate, d')) :
    ∃ dm, d.Grown dm ∧ (p.testOnly = true → dm = d) ∧ candidate.Fresh dm [r.imageName] ∧
      d' = dm.set candidate.spot (.file .empty) := by
  unfold makeCandidate at h
  split at h
  · next htest =>
    obtain ⟨hfresh, hd'⟩ := temporary_spec (by decide) h
    exact ⟨d, .refl d, fun _ => rfl, hfresh, hd'⟩
  · next htest =>
    cases hm : d.makeDirectories (imageDir r) with
    | error e => simp [hm, bind, Except.bind] at h
    | ok dm =>
      simp only [hm, bind, Except.bind] at h
      obtain ⟨hfresh, hd'⟩ := temporary_spec (slash_not_mem_extension r) h
      exact ⟨dm, Disk.makeDirectories_grown hm, fun ht => absurd ht htest, hfresh, hd'⟩

/-- The disk after the script has been written. -/
def withScript (d : Disk) (script : Disk.Temporary) (lines : List String) : Disk :=
  (d.set script.spot (.file .empty)).set script.spot (.file (.text (Text.unlines lines)))

theorem get?_withScript_of_ne (d : Disk) (lines : List String) {script : Disk.Temporary} {x : Spot}
    (h : x ≠ script.spot) : (withScript d script lines).get? x = d.get? x := by
  rw [withScript, Disk.get?_set_of_ne h, Disk.get?_set_of_ne h]

theorem prepared {p : Pipeline σ} {r : Request} {d d₂ : Disk} {script candidate : Disk.Temporary}
    (hscript : script.Fresh d [r.imageName])
    (h : p.makeCandidate r (withScript d script r.script) = .ok (candidate, d₂)) :
    p.Prepared r d script candidate d₂ := by
  obtain ⟨dm, hgrown, htest, hcandidate, rfl⟩ := makeCandidate_spec h
  have hfile : dm.get? script.spot = some (.file (.text (Text.unlines r.script))) :=
    hgrown.get?_file_iff.2 (Disk.get?_set_self hscript.ne_nil)
  -- the script is there when the candidate is made, so they are two files
  have hne : candidate.spot ≠ script.spot := by
    intro heq
    rw [← heq, hcandidate.absent] at hfile
    simp at hfile
  have hcleared {x : Spot} (hs : x ≠ script.spot) (hc : x ≠ candidate.spot) :
      (cleared (dm.set candidate.spot (.file .empty)) script candidate).get? x = dm.get? x := by
    rw [get?_cleared_of_ne hs hc, Disk.get?_set_of_ne hc]
  have habsent : d.get? candidate.spot = none := by
    rw [← get?_withScript_of_ne d r.script hne, ← hgrown.eq_of_ne_directory (by simp [hcandidate.absent]),
      hcandidate.absent]
  refine
    { script_named := notImage_of_fresh hscript
      candidate_named := notImage_of_fresh hcandidate
      script_file := ⟨_, by rw [Disk.get?_set_of_ne hne.symm, hfile]⟩
      candidate_file := ⟨_, Disk.get?_set_self hcandidate.ne_nil⟩
      located := ((Disk.sameBut_set dm candidate.spot _).keepsDirectories
        (by simp [hcandidate.absent])).locate hcandidate.located
      isDirPath := hcandidate.isDirPath
      grown := ⟨hgrown.current, fun x => ?_⟩
      tested := fun ht x => ?_ }
  -- off the two files the disk has grown, and when only testing not even that
  · by_cases hs : x = script.spot
    · rw [hs, get?_cleared_script hscript.ne_nil, hscript.absent]
      exact .inl rfl
    · by_cases hc : x = candidate.spot
      · rw [hc, get?_cleared_candidate hcandidate.ne_nil, habsent]
        exact .inl rfl
      · rw [hcleared hs hc, ← get?_withScript_of_ne d r.script hs]
        exact hgrown.get? x
  · by_cases hs : x = script.spot
    · rw [hs, get?_cleared_script hscript.ne_nil, hscript.absent]
    · by_cases hc : x = candidate.spot
      · rw [hc, get?_cleared_candidate hcandidate.ne_nil, habsent]
      · rw [hcleared hs hc, htest ht, get?_withScript_of_ne d r.script hs]

/-- The script can be written: its file was just made. -/
theorem write_script {r : Request} {d : Disk} {script : Disk.Temporary}
    (hscript : script.Fresh d [r.imageName]) :
    (d.set script.spot (.file .empty)).write script.path (.text (Text.unlines r.script)) =
      .ok (withScript d script r.script) :=
  hscript.write _

/-! ## The course of a build -/

/-- The call that a build makes once its files are prepared. -/
def call (p : Pipeline σ) (r : Request) (script candidate : Disk.Temporary) (d : Disk) : Call σ :=
  let inv := p.invocation r script.path candidate.path
  ⟨inv, d, p.renderer.render inv p.state d⟩

section Attempt

variable {p : Pipeline σ} {r : Request} {d d₁ d₂ : Disk} {script candidate : Disk.Temporary} {e : DiskError}

theorem attempt_of_no_script
    (hs : d.makeTemporary p.workDir temporaryStart ".scad" [r.imageName] = .error e) :
    p.attempt r d = ⟨.error (.disk e), none, p.state, d⟩ := by
  unfold attempt
  simp only [hs]

theorem attempt_of_no_candidate
    (hs : d.makeTemporary p.workDir temporaryStart ".scad" [r.imageName] =
      .ok (script, d.set script.spot (.file .empty)))
    (hc : p.makeCandidate r (withScript d script r.script) = .error e) :
    p.attempt r d =
      ⟨.error (.disk e), none, p.state, (withScript d script r.script).erase script.spot⟩ := by
  have hscript := (temporary_spec (by decide) hs).1
  unfold attempt
  simp only [hs, write_script hscript, hc]

theorem attempt_of_call
    (hs : d.makeTemporary p.workDir temporaryStart ".scad" [r.imageName] =
      .ok (script, d.set script.spot (.file .empty)))
    (hc : p.makeCandidate r (withScript d script r.script) = .ok (candidate, d₂)) :
    p.attempt r d =
      let reply := (p.call r script candidate d₂).reply
      let settled := p.settle r candidate reply.result reply.disk
      ⟨settled.1, settled.2.1, reply.state, cleared settled.2.2 script candidate⟩ := by
  have hscript := (temporary_spec (by decide) hs).1
  unfold attempt
  simp only [hs, write_script hscript, hc]
  rfl

end Attempt

/-- All that can happen: the files cannot be prepared and the renderer is not called, or it is called once
and what it led to is settled. -/
inductive Course (p : Pipeline σ) (r : Request) (d : Disk) : Prop
  | stopped (e : DiskError) (d' : Disk) (current : d'.current = d.current)
      (same : ∀ x, d'.get? x = d.get? x)
      (ended : p.attempt r d = ⟨.error (.disk e), none, p.state, d'⟩)
      (ended' : p.recorded.attempt r d = ⟨.error (.disk e), none, (p.state, []), d'⟩)
  | called (script candidate : Disk.Temporary) (d₂ : Disk) (ready : p.Prepared r d script candidate d₂)
      (ended : p.attempt r d =
        let reply := (p.call r script candidate d₂).reply
        let settled := p.settle r candidate reply.result reply.disk
        ⟨settled.1, settled.2.1, reply.state, cleared settled.2.2 script candidate⟩)
      (ended' : p.recorded.attempt r d =
        let reply := (p.call r script candidate d₂).reply
        let settled := p.settle r candidate reply.result reply.disk
        ⟨settled.1, settled.2.1, (reply.state, [p.call r script candidate d₂]),
          cleared settled.2.2 script candidate⟩)

theorem course (p : Pipeline σ) (r : Request) (d : Disk) : p.Course r d := by
  cases hs : d.makeTemporary p.workDir temporaryStart ".scad" [r.imageName] with
  | error e =>
    exact .stopped e d rfl (fun _ => rfl) (attempt_of_no_script hs) (attempt_of_no_script hs)
  | ok made =>
    obtain ⟨script, d₁⟩ := made
    obtain ⟨hscript, rfl⟩ := temporary_spec (by decide) hs
    cases hc : p.makeCandidate r (withScript d script r.script) with
    | error e =>
      refine .stopped e ((withScript d script r.script).erase script.spot) rfl (fun x => ?_)
        (attempt_of_no_candidate hs hc) (attempt_of_no_candidate hs hc)
      by_cases hx : x = script.spot
      · rw [hx, Disk.get?_erase_self hscript.ne_nil, hscript.absent]
      · rw [Disk.get?_erase_of_ne hx, get?_withScript_of_ne d r.script hx]
    | ok made =>
      obtain ⟨candidate, d₂⟩ := made
      exact .called script candidate d₂ (prepared hscript hc) (attempt_of_call hs hc)
        (attempt_of_call hs hc)

/-! ## Settling -/

/-- The new image has been moved to its place, which held nothing or a file. -/
structure Moved (r : Request) (candidate : Disk.Temporary) (d d' : Disk) (status : Status)
    (content : Content) (spot : Spot) : Prop where
  source : d.get? candidate.spot = some (.file content)
  located : d.locate r.imageFile = .ok spot
  isDirPath : Disk.isDirPath r.imageFile = false
  target : status = .new ∧ d.get? spot = none ∨
    status = .replaced ∧ ∃ old, d.get? spot = some (.file old)
  disk : d' = (d.erase candidate.spot).set spot (.file content)

section Moved

variable {r : Request} {candidate : Disk.Temporary} {d d' : Disk} {status : Status} {content : Content}
  {spot : Spot}

theorem Moved.wroteImage (h : Moved r candidate d d' status content spot) :
    status.wroteImage = true := by
  rcases h.target with ⟨rfl, -⟩ | ⟨rfl, -⟩ <;> rfl

theorem Moved.ne_directory (h : Moved r candidate d d' status content spot) :
    d.get? spot ≠ some .directory := by
  rcases h.target with ⟨-, hnone⟩ | ⟨-, old, hold⟩
  · simp [hnone]
  · simp [hold]

theorem Moved.ne_nil (h : Moved r candidate d d' status content spot) : spot ≠ [] := by
  rintro rfl
  exact h.ne_directory (Disk.get?_nil d)

end Moved

/-- Nothing has been moved, so the most that was reached is that nothing was to be done. -/
def Left (d : Disk) (result : Except Error Status) (d' : Disk) : Prop :=
  d' = d ∧ ∀ status, result = .ok status → status = .skipped

theorem place_cases (p : Pipeline σ) (r : Request) (candidate : Disk.Temporary) (d : Disk) :
    Left d (p.place r candidate d).1 (p.place r candidate d).2 ∨
      ∃ status content spot, (p.place r candidate d).1 = .ok status ∧
        Moved r candidate d (p.place r candidate d).2 status content spot := by
  unfold place
  cases hm : d.move candidate.spot r.imageFile with
  | error e =>
    -- whether or not there is an image, it stays
    left
    simp only
    split
    · split
      · exact ⟨rfl, by simp⟩
      · exact ⟨rfl, by simp [eq_comm]⟩
      · exact ⟨rfl, by simp⟩
    · exact ⟨rfl, by simp⟩
  | ok d' =>
    obtain ⟨content, spot, hsource, hspot, hpath, hdirectory, hd'⟩ := Disk.move_eq_ok hm
    have hexists := Disk.exists?_of_locate hspot hpath
    simp only [hexists]
    -- what is at the place decides between a new image and a replaced one
    match hget : d.get? spot with
    | none =>
      right
      exact ⟨.new, content, spot, rfl, hsource, hspot, hpath, .inl ⟨rfl, hget⟩, hd'⟩
    | some .directory => exact absurd hget hdirectory
    | some (.file old) =>
      simp only [Option.isSome_some, if_true]
      split
      · exact .inl ⟨rfl, by simp⟩
      · exact .inl ⟨rfl, by simp [eq_comm]⟩
      · right
        exact ⟨.replaced, content, spot, rfl, hsource, hspot, hpath, .inr ⟨rfl, old, hget⟩, hd'⟩

/-- What the renderer led to is left, or it was good and has been moved. -/
theorem settle_cases (p : Pipeline σ) (r : Request) (candidate : Disk.Temporary)
    (result : Except Error Output) (d : Disk) :
    Left d (p.settle r candidate result d).1 (p.settle r candidate result d).2.2 ∨
      p.testOnly = false ∧ ∃ output status content spot, result = .ok output ∧ output.Faultless ∧
        content.isEmpty = false ∧ (p.settle r candidate result d).1 = .ok status ∧
        Moved r candidate d (p.settle r candidate result d).2.2 status content spot := by
  unfold settle
  cases result with
  | error e => exact .inl ⟨rfl, by simp⟩
  | ok output =>
    simp only
    split
    · exact .inl ⟨rfl, by simp⟩
    · next hclean =>
      split
      · exact .inl ⟨rfl, by simp [eq_comm]⟩
      · next htest =>
        split
        · exact .inl ⟨rfl, by simp⟩
        · next hproduced =>
          rcases p.place_cases r candidate d with hleft | ⟨status, content, spot, hstatus, hmoved⟩
          · exact .inl hleft
          · refine .inr ⟨by simpa using htest, output, status, content, spot, rfl, ?_, ?_, hstatus, hmoved⟩
            · exact Output.faultless_of_isClean (by simpa using hclean)
            · simpa [isProduced, hmoved.source] using hproduced

/-! ## The disk after the call -/

/-- The renderer changes the candidate and nothing else. -/
theorem sameBut_call {p : Pipeline σ} (hr : p.renderer.WritesOnlyOutput) (r : Request)
    (script : Disk.Temporary) {candidate : Disk.Temporary} {d : Disk}
    (h : d.locate candidate.path = .ok candidate.spot) :
    Disk.SameBut candidate.spot d (p.call r script candidate d).reply.disk := by
  refine ⟨hr.current _ _ _, fun {x} hx => hr.get? _ _ _ _ ?_⟩
  show d.locate candidate.path ≠ .ok x
  rw [h]
  exact fun heq => hx (Except.ok.inj heq).symm

namespace Prepared

variable {p : Pipeline σ} {r : Request} {d d₂ d₃ d₄ : Disk} {script candidate : Disk.Temporary}
  {status : Status} {content : Content} {spot : Spot}

/-- Whatever the renderer wrote, without the temporary files nothing has changed. -/
theorem get?_cleared (h : p.Prepared r d script candidate d₂)
    (h₃ : Disk.SameBut candidate.spot d₂ d₃) (x : Spot) :
    (cleared d₃ script candidate).get? x = (cleared d₂ script candidate).get? x :=
  get?_cleared_of_sameBut h.script_named.ne_nil h.candidate_named.ne_nil h₃ x

theorem grown_cleared (h : p.Prepared r d script candidate d₂)
    (h₃ : Disk.SameBut candidate.spot d₂ d₃) : d.Grown (cleared d₃ script candidate) :=
  h.grown.congr h₃.current (h.get?_cleared h₃)

theorem keepsDirectories (h : p.Prepared r d script candidate d₂)
    (h₃ : Disk.SameBut candidate.spot d₂ d₃) : d.KeepsDirectories d₃ := by
  have hgrown := h.grown_cleared h₃
  refine ⟨hgrown.current, fun {x} hx => ?_⟩
  -- a directory outlives the clearing, so it is none of the files that are cleared away
  have hcleared := hgrown.keepsDirectories.directory hx
  have hs : x ≠ script.spot := by
    rintro rfl
    rw [get?_cleared_script h.script_named.ne_nil] at hcleared
    simp at hcleared
  have hc : x ≠ candidate.spot := by
    rintro rfl
    rw [get?_cleared_candidate h.candidate_named.ne_nil] at hcleared
    simp at hcleared
  rwa [get?_cleared_of_ne hs hc] at hcleared

/-- The image is none of the temporary files, since its name is reserved. -/
theorem image_ne (h : p.Prepared r d script candidate d₂) (h₃ : Disk.SameBut candidate.spot d₂ d₃)
    (hd : d.Grounded d.current) (hm : Moved r candidate d₃ d₄ status content spot) :
    spot ≠ script.spot ∧ spot ≠ candidate.spot := by
  have hkeeps := h.keepsDirectories h₃
  have hgrounded : d₃.Grounded d₃.current := by
    rw [hkeeps.current]
    exact hkeeps.grounded hd
  obtain ⟨dir, name, rfl, hname⟩ := Disk.fileName?_of_locate hgrounded hm.located hm.ne_directory
  obtain rfl : name = r.imageName := by
    rw [Request.imageName, hname]
    rfl
  exact ⟨h.script_named.ne_concat dir, h.candidate_named.ne_concat dir⟩

/-- The image holds what was moved, and elsewhere the move shows nowhere. -/
theorem get?_moved (h : p.Prepared r d script candidate d₂) (h₃ : Disk.SameBut candidate.spot d₂ d₃)
    (hd : d.Grounded d.current) (hm : Moved r candidate d₃ d₄ status content spot) :
    (cleared d₄ script candidate).get? spot = some (.file content) ∧
      ∀ x, x ≠ spot →
        (cleared d₄ script candidate).get? x = (cleared d₃ script candidate).get? x := by
  obtain ⟨hs, hc⟩ := h.image_ne h₃ hd hm
  constructor
  · rw [get?_cleared_of_ne hs hc, hm.disk, Disk.get?_set_self hm.ne_nil]
  · intro x hx
    by_cases hxs : x = script.spot
    · rw [hxs, get?_cleared_script h.script_named.ne_nil, get?_cleared_script h.script_named.ne_nil]
    · by_cases hxc : x = candidate.spot
      · rw [hxc, get?_cleared_candidate h.candidate_named.ne_nil,
          get?_cleared_candidate h.candidate_named.ne_nil]
      · rw [get?_cleared_of_ne hxs hxc, get?_cleared_of_ne hxs hxc, hm.disk, Disk.get?_set_of_ne hx,
          Disk.get?_erase_of_ne hxc]

/-- At the place of the image, the disk of the call is the disk at the start. -/
theorem get?_spot (h : p.Prepared r d script candidate d₂) (h₃ : Disk.SameBut candidate.spot d₂ d₃)
    (hd : d.Grounded d.current) (hm : Moved r candidate d₃ d₄ status content spot) :
    d₃.get? spot = d.get? spot := by
  obtain ⟨hs, hc⟩ := h.image_ne h₃ hd hm
  have hcleared := get?_cleared_of_ne (d := d₃) hs hc
  rw [← hcleared]
  refine (h.grown_cleared h₃).eq_of_ne_directory ?_
  rw [hcleared]
  exact hm.ne_directory

end Prepared

/-! ## Builds -/

section Build

variable {p : Pipeline σ} {r : Request} {log : Log} {d : Disk}

theorem build_of_ok {status : Status} (h : (p.attempt r d).result = .ok status) (log : Log) :
    (p.build r log d).1 = ⟨r.origin, r.imageFile, status, (p.attempt r d).output⟩ ∧
      (p.build r log d).2.2.1.entries = log.entries := by
  unfold build
  simp only [h, true_and]
  split
  · rfl
  · rw [Log.entries_progress]

theorem build_of_error {e : Error} (h : (p.attempt r d).result = .error e) (log : Log) :
    (p.build r log d).1 = ⟨r.origin, r.imageFile, .failed, (p.attempt r d).output⟩ ∧
      (p.build r log d).2.2.1.entries =
        (log.add (failureEntry r (p.attempt r d).output e)).entries := by
  unfold build
  simp only [h, true_and]
  rw [if_neg (by decide), Log.entries_progress, failureEntry]

theorem logged_of_error {e : Error} (h : (p.attempt r d).result = .error e) (log : Log) :
    failureEntry r (p.build r log d).1.output e ∈ (p.build r log d).2.2.1.entries ∧
      (p.build r log d).2.2.1.entries =
        (log.add (failureEntry r (p.build r log d).1.output e)).entries := by
  obtain ⟨hreport, hlog⟩ := build_of_error h log
  have houtput : (p.build r log d).1.output = (p.attempt r d).output := by rw [hreport]
  rw [hlog, houtput]
  exact ⟨Log.mem_entries_add log _, rfl⟩

theorem build_disk (p : Pipeline σ) (r : Request) (log : Log) (d : Disk) :
    (p.build r log d).2.2.2 = (p.attempt r d).disk := by
  unfold build
  generalize p.attempt r d = a
  cases a.result <;> rfl

/-- Attempts that show the same lead to the same builds. -/
structure SameAttempt {τ : Type} (a : Attempt τ) (b : Attempt σ) : Prop where
  result : a.result = b.result
  output : a.output = b.output
  disk : a.disk = b.disk

theorem SameAttempt.build {τ : Type} {q : Pipeline τ} (h : SameAttempt (q.attempt r d) (p.attempt r d)) :
    (q.build r log d).1 = (p.build r log d).1 ∧ (q.build r log d).2.2.1 = (p.build r log d).2.2.1 ∧
      (q.build r log d).2.2.2 = (p.build r log d).2.2.2 := by
  unfold Pipeline.build
  simp only [h.result, h.output, h.disk, and_self]

end Build

end Pipeline

end Render

end ScadManual
