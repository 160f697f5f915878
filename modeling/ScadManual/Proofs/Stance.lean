import Mathlib.Data.List.Forall2
import ScadManual.Proofs.Building
import ScadManual.Proofs.Log
import ScadManual.Proofs.Runs

/-!
# What reading does not depend on

A manual has a stance: how strict it is, whether it makes all images again, and which files it leaves out or
puts first.  Blocks are read past all of this.  Under another stance a block leads to the same manual, stance
apart, since being strict only turns a block that would be passed over in silence into an error; what a strict
manual refuses, a lenient one would have left out or refused too.

So two readings of the same inputs stay together from block to block, and the stricter one reports at every
line at which the other one does.
-/

namespace ScadManual

/-- What may differ between manuals that read the same. -/
structure Stance where
  strict : Bool
  force : Bool
  ignoredFiles : List String
  priorityFiles : List String

theorem Place.eq_outside {p : Place} (h : p.file? = none) : p = .outside := by
  cases p <;> simp_all [Place.file?]

namespace Manual

/-- The manual with another stance. -/
def under (m : Manual) (s : Stance) : Manual :=
  { m with
    settings := { m.settings with strict := s.strict, force := s.force }
    ignoredFiles := s.ignoredFiles
    priorityFiles := s.priorityFiles }

/-- The stance of a manual. -/
def stance (m : Manual) : Stance :=
  ⟨m.settings.strict, m.settings.force, m.ignoredFiles, m.priorityFiles⟩

end Manual

/-- An error that is reported where another one is, and no less serious. -/
def Error.Covers (e' e : Error) : Prop := e.severity = .error → e'.severity = .error

namespace Manual

variable {α β : Type} {m : Manual} {s : Stance}

/-! ## Steps that no stance matters to -/

/-- The step gives the same under every stance, and leaves the stance that it finds. -/
def Indifferent (x : Building α) : Prop :=
  ∀ m s, x.exec (m.under s) = ((x.exec m).1, (x.exec m).2.under s)

namespace Indifferent

theorem lift (x : Except Error α) : Indifferent (liftM x) := fun _ _ => rfl

theorem result (a : α) : Indifferent (pure a) := fun _ _ => rfl

theorem refusal (e : Error) : Indifferent (throw e : Building α) := fun _ _ => rfl

theorem read {f : Manual → α} (hf : ∀ m s, f (m.under s) = f m) : Indifferent (Work.read f) := by
  intro m s
  rw [Work.exec_read, Work.exec_read, hf]

theorem update {f : Manual → Manual} (hf : ∀ m s, f (m.under s) = (f m).under s) : Indifferent (Work.update f) := by
  intro m s
  rw [Work.exec_update, Work.exec_update, hf]

theorem bind {x : Building α} {f : α → Building β} (hx : Indifferent x) (hf : ∀ a, Indifferent (f a)) :
    Indifferent (x >>= f) := by
  intro m s
  rw [Work.exec_bind, Work.exec_bind, hx m s]
  rcases x.exec m with ⟨r, m₁⟩
  cases r with
  | error e => rfl
  | ok a => exact hf a m₁ s

theorem branch {c : Prop} [Decidable c] {x y : Building α} (hx : Indifferent x) (hy : Indifferent y) :
    Indifferent (if c then x else y) := by
  split
  · exact hx
  · exact hy

theorem attempt {x : Building α} (hx : Indifferent x) : Indifferent (Work.attempt x) := by
  intro m s
  rw [Work.exec_attempt, Work.exec_attempt, hx m s]

end Indifferent

open Indifferent

theorem requireFile_indifferent (title : String) : Indifferent (requireFile title) := by
  refine bind (read fun _ _ => rfl) fun file => ?_
  cases file with
  | some file => exact result file
  | none => exact lift _

theorem append_indifferent (n : Node) : Indifferent (append n) :=
  bind (read fun _ _ => rfl) fun id => bind (update fun _ _ => rfl) fun _ => result id

theorem moveTo_indifferent (place : Place) : Indifferent (moveTo place) :=
  update fun _ _ => rfl

theorem changeFile_indifferent (id : NodeId) (f : FileInfo → FileInfo) : Indifferent (changeFile id f) :=
  bind (read fun _ _ => rfl) fun _ => branch (update fun _ _ => rfl) (bind (read fun _ _ => rfl) fun _ => lift _)

theorem requireItem_indifferent (id : NodeId) : Indifferent (requireItem id) :=
  bind (read fun _ _ => rfl) fun _ => branch (result ()) (bind (read fun _ _ => rfl) fun _ => lift _)

theorem changeItem_indifferent (id : NodeId) (f : ItemInfo → ItemInfo) : Indifferent (changeItem id f) :=
  bind (requireItem_indifferent id) fun _ => update fun _ _ => rfl

/-! ## Files and sections -/

theorem openFile_indifferent (b : Block) : Indifferent (openFile b) := by
  refine bind (read fun _ _ => rfl) fun file => ?_
  cases file with
  | some _ => exact lift _
  | none => exact bind (append_indifferent _) fun file => moveTo_indifferent (.file file)

theorem openSection_indifferent (b : Block) : Indifferent (openSection b) :=
  bind (requireFile_indifferent b.title) fun file =>
    bind (append_indifferent _) fun sect => moveTo_indifferent (.section file sect)

theorem openSubsection_indifferent (b : Block) : Indifferent (openSubsection b) := by
  refine bind (read fun _ _ => rfl) fun found => ?_
  rcases found with ⟨_ | file, _ | sect⟩
  · exact lift _
  · exact lift _
  · exact lift _
  · exact branch (lift _) (bind (append_indifferent _) fun sub => moveTo_indifferent (.subsection file sect sub))

theorem addIncludes_indifferent (b : Block) : Indifferent (addIncludes b) :=
  bind (requireFile_indifferent b.title) fun file =>
    bind (changeFile_indifferent file _) fun _ => bind (append_indifferent _) fun _ => result ()

theorem addCommonCode_indifferent (b : Block) : Indifferent (addCommonCode b) :=
  bind (requireFile_indifferent b.title) fun file => changeFile_indifferent file _

theorem describeFile_indifferent (b : Block) (change : FileInfo → FileInfo) : Indifferent (describeFile b change) :=
  branch (lift _) (bind (requireFile_indifferent b.title) fun file => changeFile_indifferent file change)

/-! ## Items and images -/

theorem itemSection_indifferent (file : NodeId) (origin : Origin) : Indifferent (itemSection file origin) := by
  refine bind (read fun _ _ => rfl) fun sect => ?_
  cases sect with
  | some sect => exact result sect
  | none => exact bind (append_indifferent _) fun sect => bind (moveTo_indifferent _) fun _ => result sect

theorem declare_indifferent (title name : String) (item : NodeId) : Indifferent (declare title name item) :=
  bind (read fun _ _ => rfl) fun _ => bind (lift _) fun _ => update fun _ _ => rfl

theorem declareItem_indifferent (b : Block) : Indifferent (declareItem b) :=
  bind (requireFile_indifferent b.title) fun file =>
    bind (read fun _ _ => rfl) fun _ => bind (lift _) fun _ => bind (lift _) fun _ =>
      bind (itemSection_indifferent file b.origin) fun sect => bind (append_indifferent _) fun item =>
        bind (declare_indifferent b.title b.subtitle item) fun _ => moveTo_indifferent (.item file sect item)

theorem labelItem_indifferent (item : NodeId) (label : Label) (b : Block) : Indifferent (labelItem item label b) :=
  bind (lift _) fun _ => bind (read fun _ _ => rfl) fun _ => bind (lift _) fun change =>
    bind (changeItem_indifferent item change) fun _ => bind (append_indifferent _) fun _ => result ()

theorem declareAlias_indifferent (title : String) (item : NodeId) (name : String) :
    Indifferent (declareAlias title item name) :=
  bind (declare_indifferent title name item) fun _ => update fun _ _ => rfl

theorem declareAliases_indifferent (title : String) (item : NodeId) (names : List String) :
    Indifferent (declareAliases title item names) := by
  induction names with
  | nil => exact result ()
  | cons name names ih =>
    refine bind (attempt (declareAlias_indifferent title item name)) fun r => ?_
    cases r with
    | ok _ => exact ih
    | error e => exact bind (attempt ih) fun _ => refusal e

theorem applyEffect_indifferent (effect : Effect) (title subtitle : String) :
    Indifferent (applyEffect effect title subtitle) := by
  refine bind (read fun _ _ => rfl) fun item => ?_
  cases item with
  | none => exact result ()
  | some item =>
    cases effect with
    | status => exact update fun _ _ => rfl
    | aliases => exact declareAliases_indifferent title item _

theorem nextNumber_indifferent (parent : NodeId) (kind : ImageKind) : Indifferent (nextNumber parent kind) := by
  refine bind ?_ fun _ => bind (read fun _ _ => rfl) fun n => bind (update fun _ _ => rfl) fun _ => result n
  match kind with
  | .figure => exact result ()
  | .example => exact requireItem_indifferent parent

theorem addImage_indifferent (parent : NodeId) (kind : ImageKind) (label subtitle metadata : String)
    (body : List String) (origin : Origin) :
    Indifferent (addImage parent kind label subtitle metadata body origin) :=
  bind (read fun _ _ => rfl) fun _ => bind (nextNumber_indifferent parent kind) fun _ =>
    bind (lift _) fun _ => bind (append_indifferent _) fun _ => result ()

theorem addImageLines_indifferent (parent : NodeId) (kind : ImageKind) (label subtitle metadata : String)
    (origin : Origin) (lines : List String) :
    Indifferent (addImageLines parent kind label subtitle metadata origin lines) := by
  induction lines generalizing subtitle with
  | nil => exact result ()
  | cons line lines ih =>
    exact bind (addImage_indifferent parent kind label subtitle metadata [line] origin) fun _ => ih ""

theorem addImages_indifferent (kind : ImageKind) (label : String) (each : Bool) (b : Block) :
    Indifferent (addImages kind label each b) := by
  refine bind (read fun _ _ => rfl) fun parent => ?_
  cases parent with
  | none => exact lift _
  | some parent =>
    exact branch (addImageLines_indifferent parent kind label _ _ _ _) (addImage_indifferent parent kind label _ _ _ _)

theorem addShaped_indifferent (rule : Rule) (parent : NodeId) (b : Block) :
    Indifferent (addShaped rule parent b) := by
  refine bind (lift _) fun made => bind (append_indifferent _) fun _ => ?_
  cases rule.effect with
  | none => exact result ()
  | some effect => exact applyEffect_indifferent effect b.title made.2.1

/-! ## Outside of all files -/

theorem requireFile_outside (h : m.place = .outside) (title : String) (f : NodeId → Building Unit) :
    ((requireFile title >>= f).exec m).2 = m := by
  rw [Work.exec_bind, exec_requireFile, h]
  rfl

theorem withItem_outside (h : m.place = .outside) (title : String) (take : NodeId → Building Unit) :
    ((withItem title take).exec m).2 = m := by
  rw [exec_withItem, h]
  show (if m.settings.strict then _ else _ : Except Error Unit × Manual).2 = m
  split <;> rfl

theorem addTitled_outside (h : m.place = .outside) (b : Block) : ((addTitled b).exec m).2 = m := by
  rw [addTitled, Work.exec_read_bind]
  cases m.rules.get? b.title with
  | some rule =>
    simp only [addRuled]
    split
    · exact withItem_outside h b.title _
    · rw [addByShape, Work.exec_read_bind, h]
      rfl
  | none =>
    simp only [Work.exec_ite]
    split
    · exact requireFile_outside h b.title _
    · cases Label.ofTitle? b.title with
      | some label => exact withItem_outside h b.title _
      | none => rfl

/-- Without an open file, none of the blocks that belong inside one does anything. -/
theorem addInside_outside (h : m.place = .outside) (b : Block) : ((addInside b).exec m).2 = m := by
  have hdescribe (change : FileInfo → FileInfo) : ((describeFile b change).exec m).2 = m := by
    rw [describeFile, Work.exec_ite]
    split
    · rfl
    · exact requireFile_outside h b.title _
  unfold addInside
  split
  · exact requireFile_outside h b.title _
  · rw [openSubsection, Work.exec_read_bind, h]
    rfl
  · exact requireFile_outside h b.title _
  · exact requireFile_outside h b.title _
  · exact hdescribe _
  · exact hdescribe _
  · exact hdescribe _
  · exact requireFile_outside h b.title _
  · exact requireFile_outside h b.title _
  · exact withItem_outside h b.title _
  · exact withItem_outside h b.title _
  · exact addTitled_outside h b

/-! ## Steps that a stricter stance stops -/

/-- The second result is the first under a stance, and an error whenever the first is one. -/
structure Tightens (s : Stance) (o o' : Except Error Unit × Manual) : Prop where
  manual : o'.2 = o.2.under s
  reported : ∀ e, o.1 = .error e → ∃ e', o'.1 = .error e' ∧ e'.Covers e

theorem Indifferent.tightens {x : Building Unit} (h : Indifferent x) (m : Manual) (s : Stance) :
    Tightens s (x.exec m) (x.exec (m.under s)) := by
  rw [h m s]
  exact ⟨rfl, fun e he => ⟨e, he, id⟩⟩

/-- Nothing was done, and the stricter manual refuses the block. -/
theorem tightens_of_unchanged {o : Except Error Unit × Manual} {title : String} {misuse : Misuse} (h : o.2 = m) :
    Tightens s o (.error (.structural title misuse), m.under s) := by
  refine ⟨?_, fun e _ => ⟨_, rfl, fun _ => rfl⟩⟩
  rw [h]

section Stricter

variable (hs : m.settings.strict = true → s.strict = true)
include hs

/-- A stricter manual sees the same open item, or complains where the other one passes over the block. -/
theorem withItem_tightens (title : String) {take : NodeId → Building Unit}
    (ht : ∀ item, Tightens s ((take item).exec m) ((take item).exec (m.under s))) :
    Tightens s ((withItem title take).exec m) ((withItem title take).exec (m.under s)) := by
  have hplace : (m.under s).place = m.place := rfl
  have hstrict : (m.under s).settings.strict = s.strict := rfl
  rw [exec_withItem, exec_withItem, hplace, hstrict]
  cases m.place.item? with
  | some item => exact ht item
  | none =>
    cases hm : m.settings.strict with
    | true =>
      rw [hs hm]
      exact ⟨rfl, fun e he => ⟨e, he, id⟩⟩
    | false =>
      cases s.strict with
      | true => exact tightens_of_unchanged rfl
      | false => exact ⟨rfl, fun e he => ⟨e, he, id⟩⟩

theorem addByShape_tightens (rule : Rule) (b : Block) :
    Tightens s ((addByShape rule b).exec m) ((addByShape rule b).exec (m.under s)) := by
  have hplace : (m.under s).place = m.place := rfl
  rw [addByShape, Work.exec_read_bind, Work.exec_read_bind, hplace]
  cases m.place.parent? with
  | none => exact (lift _).tightens m s
  | some parent =>
    simp only
    split
    · exact (addImages_indifferent .figure b.title false b).tightens m s
    · exact withItem_tightens hs b.title fun _ => (addImages_indifferent .example b.title false b).tightens m s
    · exact (addShaped_indifferent rule parent b).tightens m s

theorem addRuled_tightens (rule : Rule) (b : Block) :
    Tightens s ((addRuled rule b).exec m) ((addRuled rule b).exec (m.under s)) := by
  unfold addRuled
  split
  · exact withItem_tightens hs b.title fun _ => addByShape_tightens hs rule b
  · exact addByShape_tightens hs rule b

theorem addTitled_tightens (b : Block) :
    Tightens s ((addTitled b).exec m) ((addTitled b).exec (m.under s)) := by
  have hrules : (m.under s).rules = m.rules := rfl
  rw [addTitled, Work.exec_read_bind, Work.exec_read_bind, hrules]
  cases m.rules.get? b.title with
  | some rule => exact addRuled_tightens hs rule b
  | none =>
    simp only
    split
    · exact (declareItem_indifferent b).tightens m s
    · cases Label.ofTitle? b.title with
      | some label => exact withItem_tightens hs b.title fun item => (labelItem_indifferent item label b).tightens m s
      | none => exact (lift _).tightens m s

theorem addInside_tightens (b : Block) :
    Tightens s ((addInside b).exec m) ((addInside b).exec (m.under s)) := by
  have hfigures (each : Bool) : Indifferent (addFigures each b) :=
    bind (requireFile_indifferent b.title) fun _ => addImages_indifferent .figure "Figure" each b
  unfold addInside
  split
  · exact (openSection_indifferent b).tightens m s
  · exact (openSubsection_indifferent b).tightens m s
  · exact (addIncludes_indifferent b).tightens m s
  · exact (addCommonCode_indifferent b).tightens m s
  · exact (describeFile_indifferent b _).tightens m s
  · exact (describeFile_indifferent b _).tightens m s
  · exact (describeFile_indifferent b _).tightens m s
  · exact (hfigures false).tightens m s
  · exact (hfigures true).tightens m s
  · exact withItem_tightens hs b.title fun _ => (addImages_indifferent .example "Example" false b).tightens m s
  · exact withItem_tightens hs b.title fun _ => (addImages_indifferent .example "Example" true b).tightens m s
  · exact addTitled_tightens hs b

/-! ## Any block -/

/-- **A block does the same under a stricter stance, apart from the stance, and is refused there if it is
refused here.**  Only outside of all files does being strict keep a block from being looked at, and there
nothing but a file can be opened anyway. -/
theorem addBlock_tightens (b : Block) : Tightens s ((addBlock b).exec m) ((addBlock b).exec (m.under s)) := by
  unfold addBlock
  split
  · refine Indifferent.tightens ?_ m s
    exact bind (read fun _ _ => rfl) fun _ => bind (lift _) fun _ => update fun _ _ => rfl
  · exact (openFile_indifferent b).tightens m s
  · exact (openFile_indifferent b).tightens m s
  · have hplace : (m.under s).place = m.place := rfl
    have hstrict : (m.under s).settings.strict = s.strict := rfl
    rw [Work.exec_read_bind, Work.exec_read_bind, hplace, hstrict, Work.exec_ite, Work.exec_ite]
    cases hout : m.place.file?.isNone with
    | false => exact addInside_tightens hs b
    | true =>
      have houtside : m.place = .outside := Place.eq_outside (Option.isNone_iff_eq_none.1 hout)
      rw [Bool.true_and, Bool.true_and]
      cases hm : m.settings.strict with
      | true =>
        rw [hs hm]
        exact (lift (refuse b.title .fileMissing)).tightens m s
      | false =>
        cases s.strict with
        | true => exact tightens_of_unchanged (addInside_outside houtside b)
        | false => exact addInside_tightens hs b

end Stricter

/-! ## Directives -/

theorem setting_indifferent (b : Block) {change : Settings → Settings}
    (hc : ∀ x strict force, change { x with strict, force } = { change x with strict, force }) :
    Indifferent (setting b change) := by
  refine bind (lift _) fun _ => update fun m s => ?_
  show { m.under s with settings := change { m.settings with strict := s.strict, force := s.force } } = _
  rw [hc]
  rfl

theorem enablePages_indifferent (title : String) (names : List String) : Indifferent (enablePages title names) := by
  induction names with
  | nil => exact result ()
  | cons name names ih =>
    exact bind (read fun _ _ => rfl) fun _ => bind (lift _) fun _ => bind (update fun _ _ => rfl) fun _ => ih

theorem defineTags_indifferent (title : String) (lines : List String) : Indifferent (defineTags title lines) := by
  induction lines with
  | nil => exact result ()
  | cons line lines ih =>
    unfold defineTags
    cases Text.cut? '=' line with
    | none => exact lift _
    | some parts => exact bind (update fun _ _ => rfl) fun _ => ih

/-- A directive that looks for no files does the same under every stance. -/
theorem follow_indifferent (find : Finder) {directive : Directive} (hi : directive ≠ .ignoreFiles)
    (hp : directive ≠ .prioritizeFiles) (b : Block) : Indifferent (follow find directive b) := by
  unfold follow
  extract_lets text
  clear_value text
  cases directive with
  | ignoreFiles => exact absurd rfl hi
  | prioritizeFiles => exact absurd rfl hp
  | docsDirectory => exact setting_indifferent b fun _ _ _ => rfl
  | usePngAnimations =>
    generalize Settings.flag b.subtitle = png
    exact setting_indifferent b fun _ _ _ => rfl
  | projectName => exact setting_indifferent b fun _ _ _ => rfl
  | targetProfile => exact bind (lift _) fun _ => branch (update fun _ _ => rfl) (lift _)
  | generateDocs =>
    exact bind (lift _) fun _ => bind (read fun _ _ => rfl) fun _ =>
      branch (result ()) (enablePages_indifferent b.title _)
  | defineTags => exact branch (defineTags_indifferent b.title b.body) (lift _)

/-! ## Two readings side by side -/

/-- Manuals that differ in their stance alone, the second no less strict, with a relation between the files
that they found. -/
structure Alike (A : List String → List String → Prop) (m m' : Manual) : Prop where
  same : m' = m.under m'.stance
  strict : m.settings.strict = true → m'.settings.strict = true
  ignored : A m.ignoredFiles m'.ignoredFiles
  priority : A m.priorityFiles m'.priorityFiles

/-- The second reading reports at every place at which the first one does. -/
def Covered (found found' : List Finding) : Prop :=
  ∀ f ∈ found, ∃ f' ∈ found', f'.origin = f.origin ∧ f'.error.Covers f.error

theorem Covered.refl (found : List Finding) : Covered found found :=
  fun f hf => ⟨f, hf, rfl, id⟩

theorem Covered.append {found found' more more' : List Finding} (h : Covered found found')
    (hmore : Covered more more') : Covered (found ++ more) (found' ++ more') := by
  intro f hf
  rcases List.mem_append.1 hf with hf | hf
  · obtain ⟨f', hf', hcovers⟩ := h f hf
    exact ⟨f', List.mem_append_left _ hf', hcovers⟩
  · obtain ⟨f', hf', hcovers⟩ := hmore f hf
    exact ⟨f', List.mem_append_right _ hf', hcovers⟩

end Manual

variable {A : List String → List String → Prop}

/-- Finders that fail alike and otherwise find related files. -/
def Finder.Alike (A : List String → List String → Prop) (find find' : Finder) : Prop :=
  ∀ patterns, (∃ e, find patterns = .error e ∧ find' patterns = .error e) ∨
    ∃ files files', find patterns = .ok files ∧ find' patterns = .ok files' ∧ A files files'

theorem Finder.Alike.refl (find : Finder) : find.Alike Eq find := by
  intro patterns
  cases h : find patterns with
  | error e => exact .inl ⟨e, rfl, rfl⟩
  | ok files => exact .inr ⟨files, files, rfl, rfl, rfl⟩

namespace Manual

/-- Results of two readings side by side. -/
structure AlikeAfter (A : List String → List String → Prop) (o o' : Except Error Unit × Manual) : Prop where
  manual : o.2.Alike A o'.2
  reported : ∀ e, o.1 = .error e → ∃ e', o'.1 = .error e' ∧ e'.Covers e

inductive Role.Alike (A : List String → List String → Prop) : Role → Role → Prop
  | configuration {find find' : Finder} (h : find.Alike A find') :
      Alike A (.configuration find) (.configuration find')
  | code : Alike A .code .code

/-- Inputs with the same lines, with files found alike. -/
inductive Input.Alike (A : List String → List String → Prop) : Input → Input → Prop
  | configuration {find find' : Finder} (h : find.Alike A find') (file : String) (lines : List String) :
      Alike A (.configuration find file lines) (.configuration find' file lines)
  | code (file : String) (lines : List String) : Alike A (.code file lines) (.code file lines)

theorem Input.Alike.refl (input : Input) : input.Alike Eq input := by
  cases input with
  | configuration find file lines => exact .configuration (.refl find) file lines
  | code file lines => exact .code file lines

section Alike

variable {m m' : Manual}

/-- Whatever does the same under every stricter stance keeps two readings together; the stance itself it
cannot change, as it does nothing else under the stance that is there. -/
theorem Alike.after {x : Building Unit}
    (hx : ∀ m s, (m.settings.strict = true → s.strict = true) → Tightens s (x.exec m) (x.exec (m.under s)))
    (h : m.Alike A m') : AlikeAfter A (x.exec m) (x.exec m') := by
  have hkept : (x.exec m).2 = (x.exec m).2.under m.stance := (hx m m.stance id).manual
  obtain ⟨hmanual, hreported⟩ := hx m m'.stance h.strict
  rw [← h.same] at hmanual hreported
  refine ⟨⟨by rw [hmanual]; rfl, ?_, ?_, ?_⟩, hreported⟩
  · rw [hmanual, hkept]
    exact h.strict
  · rw [hmanual, hkept]
    exact h.ignored
  · rw [hmanual, hkept]
    exact h.priority

theorem Alike.ignoreFiles {find find' : Finder} (h : m.Alike A m') (hf : find.Alike A find') (b : Block) :
    AlikeAfter A ((ignoreFiles find b).exec m) ((Manual.ignoreFiles find' b).exec m') := by
  obtain ⟨s, rfl⟩ : ∃ s, m' = m.under s := ⟨_, h.same⟩
  have hpatterns : (m.under s).ignoredPatterns = m.ignoredPatterns := rfl
  simp only [Manual.ignoreFiles, Work.exec_update_bind, Work.exec_read_bind, Work.exec_lift_bind, hpatterns]
  rcases hf (m.ignoredPatterns ++ ((patternsOf b).map Text.trim).filter (!·.isEmpty)) with
    ⟨e, hfind, hfind'⟩ | ⟨files, files', hfind, hfind', hA⟩
  · rw [hfind, hfind']
    exact ⟨⟨rfl, h.strict, h.ignored, h.priority⟩, fun e' he => ⟨e', he, id⟩⟩
  · rw [hfind, hfind']
    exact ⟨⟨rfl, h.strict, hA, h.priority⟩, fun e' he => absurd he (by simp)⟩

theorem Alike.prioritizeFiles {find find' : Finder} (h : m.Alike A m') (hf : find.Alike A find') (b : Block) :
    AlikeAfter A ((prioritizeFiles find b).exec m) ((Manual.prioritizeFiles find' b).exec m') := by
  obtain ⟨s, rfl⟩ : ∃ s, m' = m.under s := ⟨_, h.same⟩
  simp only [Manual.prioritizeFiles, Work.exec_lift_bind]
  rcases hf (patternsOf b) with ⟨e, hfind, hfind'⟩ | ⟨files, files', hfind, hfind', hA⟩
  · rw [hfind, hfind']
    exact ⟨h, fun e' he => ⟨e', he, id⟩⟩
  · rw [hfind, hfind']
    exact ⟨⟨rfl, h.strict, h.ignored, hA⟩, fun e' he => absurd he (by simp)⟩

theorem Alike.follow {find find' : Finder} (h : m.Alike A m') (hf : find.Alike A find')
    (directive : Directive) (b : Block) :
    AlikeAfter A ((follow find directive b).exec m) ((Manual.follow find' directive b).exec m') := by
  by_cases hi : directive = .ignoreFiles
  · subst hi
    exact h.ignoreFiles hf b
  · by_cases hp : directive = .prioritizeFiles
    · subst hp
      exact h.prioritizeFiles hf b
    · have hfind : Manual.follow find' directive b = Manual.follow find directive b := by
        cases directive <;> first | contradiction | rfl
      rw [hfind]
      exact h.after fun m s _ => (follow_indifferent find hi hp b).tightens m s

/-! ## From blocks to inputs -/

theorem Alike.accept {role role' : Role} (h : m.Alike A m') (hr : role.Alike A role') (b : Block) :
    AlikeAfter A ((accept role b).exec m) ((Manual.accept role' b).exec m') := by
  unfold Manual.accept
  cases Directive.ofTitle? b.title with
  | none => exact h.after fun m s hs => addBlock_tightens hs b
  | some directive =>
    cases hr with
    | configuration hf => exact h.follow hf directive b
    | code => exact ⟨h, fun e he => ⟨e, he, id⟩⟩

/-- The step: an event keeps two readings together. -/
theorem Alike.step {role role' : Role} (h : m.Alike A m') (hr : role.Alike A role') (event : Event) :
    (m.step role event).1.Alike A (m'.step role' event).1 ∧
      Covered (m.step role event).2 (m'.step role' event).2 := by
  cases event with
  | gap =>
    obtain ⟨s, rfl⟩ : ∃ s, m' = m.under s := ⟨_, h.same⟩
    exact ⟨⟨rfl, h.strict, h.ignored, h.priority⟩, .refl []⟩
  | shallow title origin => exact ⟨h, .refl _⟩
  | block b =>
    obtain ⟨hmanual, hreported⟩ := h.accept hr b
    simp only [Manual.step, Manual.take, manual_build]
    refine ⟨hmanual, fun f hf => ?_⟩
    simp only [Option.mem_toList, Option.map_eq_some_iff] at hf
    obtain ⟨e, he, rfl⟩ := hf
    obtain ⟨e', he', hcovers⟩ := hreported e (error_build_eq_some_iff.1 he)
    exact ⟨⟨b.origin, e'⟩, by simp [error_build_eq_some_iff.2 he'], rfl, hcovers⟩

/-- The run: events keep two readings together. -/
theorem Alike.stepAll {role role' : Role} (h : m.Alike A m') (hr : role.Alike A role')
    (events : List Event) :
    (m.stepAll role events).1.Alike A (m'.stepAll role' events).1 ∧
      Covered (m.stepAll role events).2 (m'.stepAll role' events).2 := by
  induction events generalizing m m' with
  | nil => exact ⟨h, .refl []⟩
  | cons event events ih =>
    obtain ⟨hstep, hfound⟩ := h.step hr event
    obtain ⟨hrest, hmore⟩ := ih hstep
    exact ⟨hrest, hfound.append hmore⟩

theorem Alike.start (h : m.Alike A m') : m.start.Alike A m'.start := by
  obtain ⟨s, rfl⟩ : ∃ s, m' = m.under s := ⟨_, h.same⟩
  exact ⟨rfl, h.strict, h.ignored, h.priority⟩

theorem Alike.readInput {input input' : Input} (h : m.Alike A m') (hi : input.Alike A input') :
    (m.readInput input).1.Alike A (m'.readInput input').1 ∧
      Covered (m.readInput input).2 (m'.readInput input').2 := by
  cases hi with
  | code file lines => exact h.start.stepAll .code _
  | configuration hf file lines =>
    obtain ⟨hrun, hfound⟩ := h.start.stepAll (.configuration hf) (Source.events file lines)
    refine ⟨?_, hfound⟩
    simp only [Manual.readInput, readConfiguration]
    -- the rules after the lines are alike and become those for every source
    generalize (m.start.stepAll _ _).1 = m₁ at hrun ⊢
    generalize (m'.start.stepAll _ _).1 = m₂ at hrun ⊢
    obtain ⟨s, rfl⟩ : ∃ s, m₂ = m₁.under s := ⟨_, hrun.same⟩
    exact ⟨rfl, hrun.strict, hrun.ignored, hrun.priority⟩

end Alike

/-- What reading inputs in order finds. -/
def foundAll (m : Manual) : List Input → List Finding
  | [] => []
  | input :: inputs => (m.readInput input).2 ++ (m.readInput input).1.foundAll inputs

theorem Alike.readAll {m m' : Manual} {inputs inputs' : List Input} (h : m.Alike A m')
    (hi : List.Forall₂ (Input.Alike A) inputs inputs') :
    (m.readAll inputs).Alike A (m'.readAll inputs') ∧ Covered (m.foundAll inputs) (m'.foundAll inputs') := by
  induction hi generalizing m m' with
  | nil => exact ⟨h, .refl []⟩
  | cons hinput _ ih =>
    obtain ⟨hread, hfound⟩ := h.readInput hinput
    obtain ⟨hrest, hmore⟩ := ih hread
    exact ⟨hrest, hfound.append hmore⟩

/-- The manuals before anything is read, with the same settings but for the stance. -/
theorem alike_new (hA : A [] []) (settings : Settings) {strict strict' : Bool}
    (hs : strict = true → strict' = true) (force' : Bool) :
    (new { settings with strict }).Alike A (new { settings with strict := strict', force := force' }) := by
  have hblank : (blank { settings with strict }).Alike A
      (blank { settings with strict := strict', force := force' }) := ⟨rfl, hs, hA, hA⟩
  exact (hblank.readInput (.configuration (fun _ => .inr ⟨[], [], rfl, rfl, hA⟩) "Defaults"
    defaultRules)).1

/-- **Being strict changes what is reported and nothing else.**  Whatever inputs are read, the document, the
names of its items, the place and the rules are the same with strict and with lenient settings, and at every
line at which the lenient reading has recorded an error the strict one has recorded one too. -/
theorem strict_reports_more (settings : Settings) (log : Log) (inputs : List Input) :
    let lenient := new { settings with strict := false }
    let strict := new { settings with strict := true }
    (strict.readAll inputs).document = (lenient.readAll inputs).document ∧
      (strict.readAll inputs).references = (lenient.readAll inputs).references ∧
      (strict.readAll inputs).place = (lenient.readAll inputs).place ∧
      (strict.readAll inputs).rules = (lenient.readAll inputs).rules ∧
      (strict.readAll inputs).baseRules = (lenient.readAll inputs).baseRules ∧
      ∀ e ∈ (log.recordAll (lenient.foundAll inputs)).entries, e.severity = .error →
        ∃ e' ∈ (log.recordAll (strict.foundAll inputs)).entries,
          e'.severity = .error ∧ e'.file = e.file ∧ e'.line = e.line := by
  intro lenient strict
  have hnew : lenient.Alike Eq strict := alike_new rfl settings (by simp) settings.force
  obtain ⟨hread, hfound⟩ := hnew.readAll (List.forall₂_same.2 fun input _ => .refl input)
  have hsame := hread.same
  refine ⟨by rw [hsame]; rfl, by rw [hsame]; rfl, by rw [hsame]; rfl, by rw [hsame]; rfl,
    by rw [hsame]; rfl, ?_⟩
  intro e he herror
  rcases Log.mem_recordAll.1 he with hlog | ⟨f, hf, rfl⟩
  · exact ⟨e, Log.mem_recordAll.2 (.inl hlog), herror, rfl, rfl⟩
  · obtain ⟨f', hf', horigin, hcovers⟩ := hfound f hf
    refine ⟨f'.entry, Log.mem_recordAll.2 (.inr ⟨f', hf', rfl⟩), hcovers herror, ?_, ?_⟩
    · exact congrArg Origin.file horigin
    · exact congrArg Origin.line horigin

end Manual

end ScadManual
