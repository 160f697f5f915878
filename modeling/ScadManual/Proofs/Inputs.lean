import ScadManual.Proofs.Globs
import ScadManual.Proofs.Stance
import ScadManual.Proofs.Visits

/-!
# What a run reads

A run reads the project's configuration and then its sources, all from the disk that it starts with.  So what
it reads is a list of inputs that the disk alone decides on, and two runs over the same texts read alike: the
patterns of the configuration may find other files on the second disk, but none of them is a source.
-/

namespace ScadManual

namespace Manual

/-! ## Flags -/

theorem Edit.settings_eq {b : Block} {m m' : Manual} (h : Edit b m m') : m'.settings = m.settings := by
  cases h <;> rfl

/-- The flags of a run that no input can change. -/
def flags (m : Manual) : Bool × Bool × Bool :=
  (m.settings.makeImages, m.settings.testOnly, m.settings.force)

theorem kept_flags (flags : Bool × Bool × Bool) : Kept fun m => m.flags = flags where
  directive := by
    intro m m' hfixed h
    have himages : m'.settings.makeImages = m.settings.makeImages := congrArg Fixed.makeImages hfixed
    have htest : m'.settings.testOnly = m.settings.testOnly := congrArg Fixed.testOnly hfixed
    have hforce : m'.settings.force = m.settings.force := congrArg Fixed.force hfixed
    rw [← h, Manual.flags, himages, htest, hforce, Manual.flags]
  edit := by
    intro m m' b he h
    rw [← h, Manual.flags, he.settings_eq, Manual.flags]
  close h := h
  start h := h
  rebase h := h

theorem flags_readAll (settings : Settings) (inputs : List Input) :
    ((new settings).readAll inputs).flags = (settings.makeImages, settings.testOnly, settings.force) :=
  (kept_flags _).reached settings rfl inputs

/-! ## Where nodes come from -/

/-- The name under which an input is read. -/
def Input.file : Input → String
  | .configuration _ file _ => file
  | .code file _ => file

/-- All nodes come from files of a kind, or from the one that is being read. -/
def ComesFrom (S : String → Prop) (file : String) (_ : Nat) (m : Manual) : Prop :=
  ∀ id x, m.document.footing? id = some x → S x.origin.file ∨ x.origin.file = file

theorem ComesFrom.add {S : String → Prop} {file : String} {l : Nat} {m : Manual} (h : ComesFrom S file l m)
    {n : Node} (hn : n.origin = ⟨file, l⟩) : ComesFrom S file l (m.addNode n) := by
  intro id x hx
  change (m.document.add n).footing? id = some x at hx
  rw [Document.footing?_add] at hx
  split at hx
  · obtain rfl := Option.some.inj hx
    exact .inr (congrArg Origin.file hn)
  · exact h id x hx

theorem ComesFrom.congr {S : String → Prop} {file : String} {l : Nat} {m m' : Manual} (h : ComesFrom S file l m)
    (hf : ∀ id, m'.document.footing? id = m.document.footing? id) : ComesFrom S file l m' := by
  intro id x hx
  rw [hf] at hx
  exact h id x hx

theorem invariant_comesFrom (S : String → Prop) : Invariant (ComesFrom S) where
  later _ h := h
  frame := by
    intro file l m m' hsame h
    rw [ComesFrom, document, hsame.1]
    exact h
  close h := h
  edit := by
    intro file l m m' b hb he h
    cases he with
    | rules _ => exact h
    | openFile _ => exact h.add hb
    | openSection _ _ _ _ => exact h.add hb
    | openSubsection _ _ => exact h.add hb
    | openItem _ _ _ => exact h.add hb
    | describeFile _ change => exact h.congr fun id => footing?_modifyFile m _ id change
    | describeItem _ change _ => exact h.congr fun id => footing?_modifyItem m _ id change
    | addAlias _ _ => exact h.congr fun id => footing?_modifyItem _ _ id _
    | @image parent info n _ _ _ ho =>
      exact ComesFrom.add (h.congr fun id => footing?_countImage m parent id info.kind) (ho.trans hb)
    | child n _ _ ho _ => exact h.add (ho.trans hb)

/-- Every node comes from an input. -/
theorem origin_readAll {S : String → Prop} (settings : Settings) {inputs : List Input}
    (hdefaults : S "Defaults") (h : ∀ input ∈ inputs, S input.file) {id : NodeId} {x : Footing}
    (hx : ((new settings).readAll inputs).document.footing? id = some x) : S x.origin.file := by
  -- an input keeps it true that all nodes come from files of the kind
  have hinput : ∀ {m : Manual} (input : Input), S input.file →
      (∀ id x, m.document.footing? id = some x → S x.origin.file) →
      ∀ id x, (m.readInput input).1.document.footing? id = some x → S x.origin.file := by
    intro m input hfile hm id x hx
    have hstart (file : String) : ComesFrom S file 1 m.start := fun id x hx => .inl (hm id x hx)
    have hlast : S x.origin.file ∨ x.origin.file = input.file := by
      cases input with
      | configuration find file lines =>
        obtain ⟨l, hl⟩ :=
          (invariant_comesFrom S).stepAll (.configuration find) 1 lines (hstart file)
        exact hl id x hx
      | code file lines =>
        obtain ⟨l, hl⟩ := (invariant_comesFrom S).stepAll .code 1 lines (hstart file)
        exact hl id x hx
    rcases hlast with hS | heq
    · exact hS
    · exact heq ▸ hfile
  have hall : ∀ {inputs : List Input} {m : Manual}, (∀ input ∈ inputs, S input.file) →
      (∀ id x, m.document.footing? id = some x → S x.origin.file) →
      ∀ id x, (m.readAll inputs).document.footing? id = some x → S x.origin.file := by
    intro inputs
    induction inputs with
    | nil => intro m _ hm; exact hm
    | cons input inputs ih =>
      intro m hfiles hm
      obtain ⟨hfile, hrest⟩ := List.forall_mem_cons.1 hfiles
      exact ih hrest (hinput input hfile hm)
  refine hall h (hinput (.configuration (fun _ => .ok []) "Defaults" defaultRules) hdefaults ?_) id x hx
  intro id x hx
  simp [document, blank, Document.empty, Document.footing?, Document.node?] at hx

end Manual

/-! ## Inputs on a disk -/

namespace Documentation

variable {σ : Type}

/-- Reads the project's configuration and then source files. -/
def readSources (settings : Settings) (rc : String) (paths : List String) : Step σ Manual := do
  let (m, _) ← readRc (Manual.new settings) rc
  readFiles m paths

/-- The configuration that is on a disk. -/
def rcInputs (d : Disk) (rc : String) : List Manual.Input :=
  match d.readText rc with
  | .ok text => [.configuration (Glob.expand d) rcFile (Manual.configurationLines text)]
  | .error _ => []

/-- The source that is on a disk, unless it is to be left out. -/
def fileInputs (d : Disk) (m : Manual) (path : String) : List Manual.Input :=
  if m.isIgnored path then []
  else
    match d.readText path with
    | .ok text => [.code path (Text.lines text)]
    | .error _ => []

/-- The sources that are on a disk, read one after the other. -/
def filesInputs (d : Disk) (m : Manual) : List String → List Manual.Input
  | [] => []
  | path :: paths =>
    fileInputs d m path ++ filesInputs d (m.readAll (fileInputs d m path)) paths

/-- All that a run reads from a disk. -/
def inputsOf (d : Disk) (settings : Settings) (rc : String) (paths : List String) : List Manual.Input :=
  rcInputs d rc ++ filesInputs d ((Manual.new settings).readAll (rcInputs d rc)) paths

section Read

variable {r r' : Run σ} {m m' : Manual}

theorem readRc_eq_ok {rc : String} {found : Bool} (h : r.exec (readRc m rc) = (.ok (m', found), r')) :
    m' = m.readAll (rcInputs r.disk rc) ∧ r'.disk = r.disk ∧ r'.pipeline = r.pipeline := by
  rw [readRc, Run.exec_get_bind] at h
  by_cases hexists : r.disk.exists? rc = true
  · rw [if_pos hexists] at h
    cases ht : r.disk.readText rc with
    | error e =>
      simp only [ht] at h
      exact absurd (congrArg Prod.fst h) (by simp [Run.exec])
    | ok text =>
      simp only [ht] at h
      obtain ⟨hvalue, rfl⟩ := Prod.mk.inj h
      obtain ⟨rfl, -⟩ := Prod.mk.inj (Except.ok.inj hvalue)
      rw [rcInputs, ht]
      exact ⟨rfl, rfl, rfl⟩
  · rw [if_neg hexists] at h
    obtain ⟨hvalue, rfl⟩ := Prod.mk.inj h
    obtain ⟨rfl, -⟩ := Prod.mk.inj (Except.ok.inj hvalue)
    have hmissing : ∃ e, r.disk.readText rc = .error e := by
      unfold Disk.exists? at hexists
      cases hstat : r.disk.stat rc with
      | ok found => simp [hstat, Except.toOption] at hexists
      | error e => exact ⟨e, by simp [Disk.readText, Disk.read, hstat]⟩
    obtain ⟨e, he⟩ := hmissing
    rw [rcInputs, he]
    exact ⟨rfl, rfl, rfl⟩

theorem readFile_eq_ok {path : String} (h : r.exec (readFile m path) = (.ok m', r')) :
    m' = m.readAll (fileInputs r.disk m path) ∧ r'.disk = r.disk ∧ r'.pipeline = r.pipeline := by
  unfold readFile at h
  unfold fileInputs
  by_cases hignored : m.isIgnored path = true
  · rw [if_pos hignored] at h ⊢
    obtain ⟨hvalue, rfl⟩ := Prod.mk.inj h
    obtain rfl := Except.ok.inj hvalue
    exact ⟨rfl, rfl, rfl⟩
  · rw [if_neg hignored] at h ⊢
    obtain ⟨_, told, htold, hnext⟩ := Run.exec_bind_eq_ok h
    obtain ⟨_, rfl⟩ := Prod.mk.inj htold
    rw [Run.exec_get_bind] at hnext
    cases ht : r.disk.readText path with
    | error e =>
      simp only [ht] at hnext
      obtain ⟨hvalue, rfl⟩ := Prod.mk.inj hnext
      obtain rfl := Except.ok.inj hvalue
      exact ⟨rfl, rfl, rfl⟩
    | ok text =>
      simp only [ht] at hnext
      obtain ⟨hvalue, rfl⟩ := Prod.mk.inj hnext
      obtain rfl := Except.ok.inj hvalue
      exact ⟨rfl, rfl, rfl⟩

/-- The run: sources are read one after the other, all from the same disk. -/
theorem foldlM_readFile_eq_ok {paths : List String} (h : r.exec (paths.foldlM readFile m) = (.ok m', r')) :
    m' = m.readAll (filesInputs r.disk m paths) ∧ r'.disk = r.disk ∧ r'.pipeline = r.pipeline := by
  induction paths generalizing m r with
  | nil =>
    obtain ⟨hvalue, rfl⟩ := Prod.mk.inj h
    obtain rfl := Except.ok.inj hvalue
    exact ⟨rfl, rfl, rfl⟩
  | cons path paths ih =>
    rw [List.foldlM_cons] at h
    obtain ⟨m₁, r₁, hfirst, hrest⟩ := Run.exec_bind_eq_ok h
    obtain ⟨rfl, hdisk, hpipeline⟩ := readFile_eq_ok hfirst
    obtain ⟨rfl, hdisk', hpipeline'⟩ := ih hrest
    rw [hdisk, filesInputs, Manual.readAll_append]
    exact ⟨rfl, hdisk'.trans hdisk, hpipeline'.trans hpipeline⟩

theorem readSources_eq_ok {settings : Settings} {rc : String} {paths : List String}
    (h : r.exec (readSources settings rc paths) = (.ok m, r')) :
    m = (Manual.new settings).readAll (inputsOf r.disk settings rc paths) ∧ r'.disk = r.disk ∧
      r'.pipeline = r.pipeline := by
  obtain ⟨⟨m₁, found⟩, r₁, hrc, hfiles⟩ := Run.exec_bind_eq_ok h
  obtain ⟨rfl, hdisk, hpipeline⟩ := readRc_eq_ok hrc
  obtain ⟨_, told, htold, hfold⟩ := Run.exec_bind_eq_ok hfiles
  obtain ⟨_, rfl⟩ := Prod.mk.inj htold
  obtain ⟨rfl, hdisk', hpipeline'⟩ := foldlM_readFile_eq_ok hfold
  refine ⟨?_, hdisk'.trans hdisk, hpipeline'.trans hpipeline⟩
  rw [inputsOf, Manual.readAll_append]
  exact congrArg (fun d => Manual.readAll _ (filesInputs d _ paths)) hdisk

end Read

theorem file_of_mem_filesInputs {d : Disk} {m : Manual} {paths : List String} {input : Manual.Input}
    (h : input ∈ filesInputs d m paths) : input.file ∈ paths := by
  induction paths generalizing m with
  | nil => exact absurd h List.not_mem_nil
  | cons path paths ih =>
    rcases List.mem_append.1 h with hfirst | hrest
    · refine List.mem_cons.2 (.inl ?_)
      unfold fileInputs at hfirst
      split at hfirst
      · exact absurd hfirst List.not_mem_nil
      · split at hfirst
        · obtain rfl := List.mem_singleton.1 hfirst
          rfl
        · exact absurd hfirst List.not_mem_nil
    · exact List.mem_cons_of_mem _ (ih hrest)

/-- What is read is the configuration or one of the sources. -/
theorem file_of_mem_inputsOf {d : Disk} {settings : Settings} {rc : String} {paths : List String}
    {input : Manual.Input} (h : input ∈ inputsOf d settings rc paths) :
    input.file = rcFile ∨ input.file ∈ paths := by
  rcases List.mem_append.1 h with hrc | hfiles
  · left
    unfold rcInputs at hrc
    split at hrc
    · obtain rfl := List.mem_singleton.1 hrc
      rfl
    · exact absurd hrc List.not_mem_nil
  · exact .inr (file_of_mem_filesInputs hfiles)

/-! ## The same texts on two disks -/

section Alike

variable {d d' : Disk}

theorem readText_congr {path : String} (h : d'.read path = d.read path) :
    d'.readText path = d.readText path := by
  rw [Disk.readText, h, Disk.readText]

theorem rcInputs_alike (hd : d.WellFormed) (hd' : d'.WellFormed) {rc : String}
    (hrc : d'.read rc = d.read rc) :
    List.Forall₂ (Manual.Input.Alike (Glob.Agree d d')) (rcInputs d rc) (rcInputs d' rc) := by
  unfold rcInputs
  rw [readText_congr hrc]
  cases d.readText rc with
  | error e => exact .nil
  | ok text => exact .cons (.configuration (Glob.expand_alike hd hd') _ _) .nil

/-- A source that can be read is left out in both runs or in neither; one that cannot gives nothing. -/
theorem fileInputs_alike {m m' : Manual} (hm : m.Alike (Glob.Agree d d') m') {path : String}
    (hpath : d'.read path = d.read path) :
    List.Forall₂ (Manual.Input.Alike (Glob.Agree d d')) (fileInputs d m path) (fileInputs d' m' path) := by
  unfold fileInputs
  rw [readText_congr hpath]
  cases ht : d.readText path with
  | error e =>
    simp only [ite_self]
    exact .nil
  | ok text =>
    have hread : ∃ content, d.read path = .ok content := by
      cases hr : d.read path with
      | error e => simp [Disk.readText, hr] at ht
      | ok content => exact ⟨content, rfl⟩
    obtain ⟨content, hcontent⟩ := hread
    have hignored : m.isIgnored path = m'.isIgnored path := 
      hm.ignored path content content hcontent (hpath.trans hcontent)
    rw [hignored]
    split
    · exact .nil
    · exact .cons (.code path _) .nil

theorem filesInputs_alike {m m' : Manual} (hm : m.Alike (Glob.Agree d d') m') {paths : List String}
    (hpaths : ∀ path ∈ paths, d'.read path = d.read path) :
    List.Forall₂ (Manual.Input.Alike (Glob.Agree d d')) (filesInputs d m paths)
      (filesInputs d' m' paths) := by
  induction paths generalizing m m' with
  | nil => exact .nil
  | cons path paths ih =>
    obtain ⟨hpath, hrest⟩ := List.forall_mem_cons.1 hpaths
    have hfirst := fileInputs_alike hm hpath
    rw [filesInputs, filesInputs]
    exact List.rel_append hfirst (ih (hm.readAll hfirst).1 hrest)

/-- **Two runs over the same texts come to the same manual**, but for what they leave out or put first. -/
theorem manual_alike (hd : d.WellFormed) (hd' : d'.WellFormed) (settings : Settings) (force : Bool)
    {rc : String} {paths : List String} (hrc : d'.read rc = d.read rc)
    (hpaths : ∀ path ∈ paths, d'.read path = d.read path) :
    ((Manual.new settings).readAll (inputsOf d settings rc paths)).Alike (Glob.Agree d d')
      ((Manual.new { settings with force }).readAll (inputsOf d' { settings with force } rc paths)) := by
  have hnothing : Glob.Agree d d' [] [] := fun _ _ _ _ _ => rfl
  have hnew : (Manual.new settings).Alike (Glob.Agree d d') (Manual.new { settings with force }) :=
    Manual.alike_new hnothing settings id force
  have hconfigured := rcInputs_alike hd hd' hrc
  have hsources := filesInputs_alike (hnew.readAll hconfigured).1 hpaths
  exact (hnew.readAll (List.rel_append hconfigured hsources)).1

end Alike

end Documentation

end ScadManual
