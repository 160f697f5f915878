import ScadManual.Manual.Read
import ScadManual.Proofs.Edits
import ScadManual.Proofs.Source

/-!
# What reading keeps

The manuals that can come about are those that reading any inputs leads to, in any order, from the manual
before anything is read.  To show that something holds of all of them it is enough to look at single edits:
`Invariant` asks what every edit keeps while a source is being read, and from that the theorems below
go on to events, to a whole source and to any number of inputs.
-/

namespace ScadManual.Manual

/-- Something to be read: lines of the project's configuration or of a source file. -/
inductive Input where
  | configuration (find : Finder) (file : String) (lines : List String)
  | code (file : String) (lines : List String)

/-- Reads an input. -/
def readInput (m : Manual) : Input → Manual × List Finding
  | .configuration find file lines => m.readConfiguration find file lines
  | .code file lines => m.readCode file lines

/-- The manual after reading inputs in order. -/
def readAll (m : Manual) : List Input → Manual
  | [] => m
  | input :: inputs => (m.readInput input).1.readAll inputs

theorem readAll_append (m : Manual) (inputs more : List Input) :
    m.readAll (inputs ++ more) = (m.readAll inputs).readAll more := by
  induction inputs generalizing m with
  | nil => rfl
  | cons input inputs ih => exact ih (m.readInput input).1

/-! ## Directives -/

/-- What no directive can change. -/
structure Fixed where
  library : Library
  place : Place
  baseRules : Registry
  rules : Registry
  strict : Bool
  force : Bool
  testOnly : Bool
  makeImages : Bool

/-- The part of a manual that no directive can change. -/
def fixed (m : Manual) : Fixed :=
  { library := m.library
    place := m.place
    baseRules := m.baseRules
    rules := m.rules
    strict := m.settings.strict
    force := m.settings.force
    testOnly := m.settings.testOnly
    makeImages := m.settings.makeImages }

/-- What following a directive can make of a manual, unless it leaves files out: it sets what directives may set, and
nothing else. -/
inductive Adjusted (m : Manual) : Manual → Prop
  | settings {s : Settings} (strict : s.strict = m.settings.strict) (force : s.force = m.settings.force)
      (testOnly : s.testOnly = m.settings.testOnly) (makeImages : s.makeImages = m.settings.makeImages) :
      Adjusted m { m with settings := s }
  | tags (tags : Dict) : Adjusted m { m with tags }
  | priorityFiles (files : List String) : Adjusted m { m with priorityFiles := files }

section Adjusted

variable {b : Block}

theorem Adjusted.refl (m : Manual) : Adjusted m m := .settings rfl rfl rfl rfl

/-- A check that fails leaves the manual as it was. -/
theorem adjusted_lift_bind {α : Type} {m : Manual} {x : Except Error α} {f : α → Building Unit}
    (hf : ∀ a, x = .ok a → Adjusted m ((f a).exec m).2) :
    Adjusted m (((liftM x : Building α) >>= f).exec m).2 := by
  rw [Work.exec_lift_bind]
  cases x with
  | error e => exact .refl m
  | ok a => exact hf a rfl

theorem setting_adjusted (m : Manual) {change : Settings → Settings}
    (hc : ∀ s, (change s).strict = s.strict ∧ (change s).force = s.force ∧ (change s).testOnly = s.testOnly ∧
      (change s).makeImages = s.makeImages) : Adjusted m ((setting b change).exec m).2 := by
  refine adjusted_lift_bind fun _ _ => ?_
  obtain ⟨strict, force, testOnly, makeImages⟩ := hc m.settings
  exact .settings strict force testOnly makeImages

theorem chooseProfile_adjusted (m : Manual) (profile : String) : Adjusted m ((chooseProfile b profile).exec m).2 := by
  refine adjusted_lift_bind fun _ _ => ?_
  rw [Work.exec_ite]
  split
  · exact .settings rfl rfl rfl rfl
  · exact .refl m

theorem exists_pages (m : Manual) (title : String) (names : List String) :
    ∃ pages, ((enablePages title names).exec m).2 = { m with settings := { m.settings with pages } } := by
  induction names generalizing m with
  | nil => exact ⟨m.settings.pages, rfl⟩
  | cons name names ih =>
    rw [enablePages, Work.exec_read_bind, Work.exec_lift_bind]
    cases enabledPage m.settings.pages title name with
    | ok pages => exact ih _
    | error e => exact ⟨m.settings.pages, rfl⟩

theorem generatePages_adjusted (m : Manual) : Adjusted m ((generatePages b).exec m).2 := by
  refine adjusted_lift_bind fun _ _ => ?_
  rw [Work.exec_read_bind, Work.exec_ite]
  split
  · exact .refl m
  · obtain ⟨pages, hpages⟩ := exists_pages m b.title
      ((Text.splitAt ',' b.subtitle).filter fun part => !(Text.trim part).isEmpty)
    rw [hpages]
    exact .settings rfl rfl rfl rfl

theorem exists_tags (m : Manual) (title : String) (lines : List String) :
    ∃ tags, ((defineTags title lines).exec m).2 = { m with tags } := by
  induction lines generalizing m with
  | nil => exact ⟨m.tags, rfl⟩
  | cons line lines ih =>
    rw [defineTags]
    cases Text.cut? '=' line with
    | some parts => exact ih _
    | none => exact ⟨m.tags, rfl⟩

/-- What the other directives do. -/
theorem follow_adjusted (m : Manual) (find : Finder) {directive : Directive} (h : directive ≠ .ignoreFiles)
    (b : Block) : Adjusted m ((follow find directive b).exec m).2 := by
  unfold follow
  extract_lets text
  clear_value text
  cases directive with
  | ignoreFiles => exact absurd rfl h
  | prioritizeFiles => exact adjusted_lift_bind fun files _ => .priorityFiles files
  | docsDirectory => exact setting_adjusted m fun _ => ⟨rfl, rfl, rfl, rfl⟩
  | usePngAnimations => exact setting_adjusted m fun _ => ⟨rfl, rfl, rfl, rfl⟩
  | projectName => exact setting_adjusted m fun _ => ⟨rfl, rfl, rfl, rfl⟩
  | targetProfile => exact chooseProfile_adjusted m text
  | generateDocs => exact generatePages_adjusted m
  | defineTags =>
    simp only [Work.exec_ite]
    split
    · obtain ⟨tags, htags⟩ := exists_tags m b.title b.body
      rw [htags]
      exact .tags tags
    · exact .refl m

theorem ignoreFiles_fixed (m : Manual) (find : Finder) (b : Block) :
    ((ignoreFiles find b).exec m).2.fixed = m.fixed := by
  rw [ignoreFiles, Work.exec_update_bind, Work.exec_read_bind, Work.exec_lift_bind]
  split <;> rfl

theorem follow_fixed (m : Manual) (find : Finder) (directive : Directive) (b : Block) :
    ((follow find directive b).exec m).2.fixed = m.fixed := by
  by_cases hdirective : directive = .ignoreFiles
  · subst hdirective
    exact ignoreFiles_fixed m find b
  · have hadjusted := follow_adjusted m find hdirective b
    generalize ((follow find directive b).exec m).2 = after at hadjusted
    cases hadjusted with
    | settings strict force testOnly makeImages => simp only [fixed, strict, force, testOnly, makeImages]
    | tags | priorityFiles => rfl

end Adjusted

/-- The document, the names and the place are as they were. -/
def SameStand (m m' : Manual) : Prop := m'.library = m.library ∧ m'.place = m.place

/-- A directive touches neither the document nor the names nor the place. -/
theorem follow_sameStand (m : Manual) (find : Finder) (directive : Directive) (b : Block) :
    m.SameStand ((follow find directive b).exec m).2 :=
  have h := m.follow_fixed find directive b
  ⟨congrArg Fixed.library h, congrArg Fixed.place h⟩

/-! ## From edits to sources -/

/-- What holds all along a source: of the manual after the line with a number has been taken. -/
structure Invariant (I : String → Nat → Manual → Prop) : Prop where
  /-- It holds at later lines too. -/
  later : ∀ {file l l' m}, l ≤ l' → I file l m → I file l' m
  /-- It is about the document, the names and the place. -/
  frame : ∀ {file l m m'}, m.SameStand m' → I file l m → I file l m'
  /-- It stays when an item ends. -/
  close : ∀ {file l m}, I file l m → I file l { m with place := m.place.closeItem }
  /-- It stays when a block on this line makes an edit. -/
  edit : ∀ {file l m m' b}, b.origin = ⟨file, l⟩ → Edit b m m' → I file l m → I file l m'

namespace Invariant

variable {I : String → Nat → Manual → Prop}

theorem edits (hI : Invariant I) {file : String} {l : Nat} {m m' : Manual} {b : Block}
    (hb : b.origin = ⟨file, l⟩) (he : Edits b m m') (h : I file l m) : I file l m' := by
  induction he with
  | refl => exact h
  | tail _ hstep ih => exact hI.edit hb hstep ih

theorem take (hI : Invariant I) {file : String} {l : Nat} {m : Manual} {b : Block} (role : Role)
    (hb : b.origin = ⟨file, l⟩) (h : I file l m) : I file l (m.take role b).manual := by
  rw [Manual.take, manual_build, accept]
  split
  · cases role with
    | configuration find => exact hI.frame (follow_sameStand m find _ b) h
    | code => exact h
  · exact hI.edits hb (addBlock_edits m b) h

/-- The step of the run: the event of a header line. -/
theorem step_header (hI : Invariant I) {file : String} {l : Nat} {m : Manual} (role : Role) (hd : Header)
    (below : List String) (h : I file l m) :
    I file l (m.step role (Source.headerEvent file l hd below)).1 := by
  unfold Source.headerEvent
  split
  · exact hI.take role rfl h
  · exact h

/-- The run: whatever holds at a line still holds at some line when any number of the events that follow
has been taken. -/
theorem stepAll_take (hI : Invariant I) {file : String} (role : Role) (l : Nat) (lines : List String) :
    ∀ {m} (k : Nat), I file l m →
      ∃ l', I file l' (m.stepAll role ((Source.eventsFrom file l lines).take k)).1 := by
  induction l, lines using Source.lines_induction with
  | nil l =>
    intro m k h
    rw [Source.eventsFrom]
    cases k with
    | zero => exact ⟨l, h⟩
    | succ k =>
      rw [List.take_succ_cons, List.take_nil]
      exact ⟨l, hI.close h⟩
  | header l text rest hd hh ih =>
    -- the event is taken at the line of its header, and the run goes on behind the body
    intro m k h
    have hle := Body.le_next l rest
    rw [Source.eventsFrom_header hh]
    cases k with
    | zero => exact ⟨l, h⟩
    | succ k => exact ih k (hI.later (by omega) (hI.step_header role hd rest h))
  | other l text rest hh ih =>
    intro m k h
    rw [Source.eventsFrom_other hh]
    split
    · exact ih k (hI.later (by omega) h)
    · cases k with
      | zero => exact ⟨l, h⟩
      | succ k => exact ih k (hI.later (by omega) (hI.close h))

theorem stepAll (hI : Invariant I) {file : String} (role : Role) (l : Nat) (lines : List String) {m : Manual}
    (h : I file l m) : ∃ l', I file l' (m.stepAll role (Source.eventsFrom file l lines)).1 := by
  have htake := hI.stepAll_take role l lines (Source.eventsFrom file l lines).length h
  rwa [List.take_length] at htake

/-! ## From sources to all inputs -/

variable {P : Manual → Prop}

theorem readInput (hI : Invariant I) (start : ∀ {m} (file), P m → I file 1 m.start)
    (finish : ∀ {file l m m'}, I file l m → m'.library = m.library → P m') {m : Manual} (h : P m)
    (input : Input) : P (m.readInput input).1 := by
  cases input with
  | configuration find file lines =>
    obtain ⟨l, hl⟩ := hI.stepAll (.configuration find) 1 lines (start file h)
    exact finish hl rfl
  | code file lines =>
    obtain ⟨l, hl⟩ := hI.stepAll .code 1 lines (start file h)
    exact finish hl rfl

theorem readAll (hI : Invariant I) (start : ∀ {m} (file), P m → I file 1 m.start)
    (finish : ∀ {file l m m'}, I file l m → m'.library = m.library → P m') {m : Manual} (h : P m)
    (inputs : List Input) : P (m.readAll inputs) := by
  induction inputs generalizing m with
  | nil => exact h
  | cons input inputs ih => exact ih (hI.readInput start finish h input)

/-- What the empty manual has, and what reading keeps, every manual has that comes about. -/
theorem reached (hI : Invariant I) (start : ∀ {m} (file), P m → I file 1 m.start)
    (finish : ∀ {file l m m'}, I file l m → m'.library = m.library → P m') (settings : Settings)
    (h : P (blank settings)) (inputs : List Input) : P ((new settings).readAll inputs) :=
  hI.readAll start finish
    (hI.readInput start finish h (.configuration (fun _ => .ok []) "Defaults" defaultRules)) inputs

end Invariant

/-! ## What holds at every line -/

/-- What single edits of a block keep, any number of them keeps. -/
theorem edits_keep {P : Manual → Prop} {b : Block} (edit : ∀ {m m'}, Edit b m m' → P m → P m') {m m' : Manual}
    (he : Edits b m m') (h : P m) : P m' := by
  induction he with
  | refl => exact h
  | tail _ hedit ih => exact edit hedit ih

/-- What no line of any input can undo. -/
structure Kept (P : Manual → Prop) : Prop where
  directive : ∀ {m m'}, m'.fixed = m.fixed → P m → P m'
  edit : ∀ {m m' b}, Edit b m m' → P m → P m'
  close : ∀ {m}, P m → P { m with place := m.place.closeItem }
  start : ∀ {m}, P m → P m.start
  rebase : ∀ {m}, P m → P { m with baseRules := m.rules }

namespace Kept

variable {P : Manual → Prop} {m : Manual}

theorem edits (hP : Kept P) {m' : Manual} {b : Block} (he : Edits b m m') (h : P m) : P m' :=
  edits_keep hP.edit he h

theorem take (hP : Kept P) (role : Role) (b : Block) (h : P m) : P (m.take role b).manual := by
  rw [Manual.take, manual_build, accept]
  split
  · cases role with
    | configuration find => exact hP.directive (follow_fixed m find _ b) h
    | code => exact h
  · exact hP.edits (addBlock_edits m b) h

theorem stepAll (hP : Kept P) (role : Role) (events : List Event) (h : P m) :
    P (m.stepAll role events).1 := by
  induction events generalizing m with
  | nil => exact h
  | cons event events ih =>
    refine ih ?_
    cases event with
    | gap => exact hP.close h
    | shallow title origin => exact h
    | block b => exact hP.take role b h

theorem readInput (hP : Kept P) (input : Input) (h : P m) : P (m.readInput input).1 := by
  cases input with
  | configuration find file lines => exact hP.rebase (hP.stepAll _ _ (hP.start h))
  | code file lines => exact hP.stepAll _ _ (hP.start h)

theorem readAll (hP : Kept P) (inputs : List Input) (h : P m) : P (m.readAll inputs) := by
  induction inputs generalizing m with
  | nil => exact h
  | cons input inputs ih => exact ih (hP.readInput input h)

theorem reached (hP : Kept P) (settings : Settings) (h : P (blank settings)) (inputs : List Input) :
    P ((new settings).readAll inputs) :=
  hP.readAll inputs (hP.readInput (.configuration (fun _ => .ok []) "Defaults" defaultRules) h)

end Kept

end ScadManual.Manual
