import ScadManual.Proofs.Numbering

/-!
# Blocks of several images

The titles `Figures` and `Examples` stand for one image for each line of the body.  Such a block is no more than
the blocks of one image that one could have written instead, all at its line and with its metadata, the first of
them with its subtitle.  Since no image is refused on the way, this holds of everything that reading keeps: the
document with the numbers of the images, the names, the rules, the settings and the place.
-/

namespace ScadManual

/-- The title of blocks of one image. -/
def ImageKind.title : ImageKind → String
  | .figure => "Figure"
  | .example => "Example"

/-- The title of blocks with one image for each line. -/
def ImageKind.plural : ImageKind → String
  | .figure => "Figures"
  | .example => "Examples"

/-- The blocks of one image each, for the lines of a body.  Only the first has the subtitle. -/
def ImageKind.singles (kind : ImageKind) (metadata subtitle : String) (origin : Origin) : List String → List Block
  | [] => []
  | line :: lines =>
    ⟨kind.title, metadata, subtitle, [line], origin⟩ ::
      lines.map fun line => ⟨kind.title, metadata, "", [line], origin⟩

theorem ImageKind.singles_cons (kind : ImageKind) (metadata subtitle : String) (origin : Origin) (line : String)
    (lines : List String) :
    kind.singles metadata subtitle origin (line :: lines) =
      ⟨kind.title, metadata, subtitle, [line], origin⟩ :: kind.singles metadata "" origin lines := by
  cases lines <;> rfl

namespace Manual

variable {m m' : Manual} {kind : ImageKind} {parent : NodeId}

theorem exists_takesImage (hfile : m.place.file?.isSome = true)
    (hitem : kind = .example → m.place.item?.isSome = true) : ∃ parent, m.TakesImage kind parent := by
  match kind with
  | .figure =>
    rw [← Place.isSome_parent?] at hfile
    obtain ⟨parent, hparent⟩ := Option.isSome_iff_exists.1 hfile
    exact ⟨parent, hparent, fun h => nomatch h⟩
  | .example =>
    obtain ⟨item, hi⟩ := Option.isSome_iff_exists.1 (hitem rfl)
    exact ⟨item, Place.parent?_of_item? hi, fun _ => hi⟩

/-- A block with one of the titles of images is taken as such wherever something takes it. -/
theorem take_images {b : Block} {each : Bool} (h : m.TakesImage kind parent) (role : Role)
    (ht : b.title = if each then kind.plural else kind.title) :
    m.take role b = m.build (addImages kind kind.title each b) := by
  have hopen : m.place.file?.isSome = true := by rw [← Place.isSome_parent?, h.1]; rfl
  obtain ⟨file, hfile⟩ := Option.isSome_iff_exists.1 hopen
  have hother : b.title ∉ ["DefineHeader", "File", "LibFile"] := by
    rw [ht]
    cases kind <;> cases each <;> decide
  have hadd : accept role b = addBlock b := by
    rw [accept, ht]
    cases kind <;> cases each <;> rfl
  have hexec : (accept role b).exec m = (addImages kind kind.title each b).exec m := by
    rw [hadd, exec_addBlock_of_file hfile hother]
    cases hkind : kind with
    | figure =>
      rw [hkind] at ht
      have hinside : addInside b = addFigures each b := by
        rw [addInside, ht]
        cases each <;> rfl
      rw [hinside, addFigures, Work.exec_bind, exec_requireFile, hfile]
      rfl
    | _ =>
      rw [hkind] at ht
      have hinside : addInside b = addExamples each b := by
        rw [addInside, ht]
        cases each <;> rfl
      rw [hinside, addExamples, exec_withItem, h.2 hkind]
      rfl
  rw [take, build, hexec, build]

/-- The step of the run: a block of one image is taken, and the place stays. -/
theorem step_single (h : m.TakesImage kind parent) (hcounts : m.Counts parent kind) (role : Role)
    (metadata subtitle line : String) (origin : Origin) :
    ∃ m', (addImage parent kind kind.title subtitle metadata [line] origin).exec m = (.ok (), m') ∧
      m.step role (.block ⟨kind.title, metadata, subtitle, [line], origin⟩) = (m', []) ∧
      m'.TakesImage kind parent ∧ m'.Counts parent kind ∧ m'.document.size = m.document.size + 1 := by
  obtain ⟨info, -, hadd⟩ := exec_addImage_of_counts hcounts kind.title subtitle metadata [line] origin
  have hsize : (m.countImage parent kind).document.size = m.document.size :=
    Document.size_modify _ _ _ (·.parent_counting kind)
  refine ⟨_, hadd, ?_, h, hcounts.addImage _, (Document.size_add _ _).trans (congrArg (· + 1) hsize)⟩
  have htake : m.take role ⟨kind.title, metadata, subtitle, [line], origin⟩ =
      m.build (addImages kind kind.title false ⟨kind.title, metadata, subtitle, [line], origin⟩) :=
    take_images h role rfl
  rw [step, htake, build, addImages, Work.exec_read_bind, h.1]
  simp only [Bool.false_eq_true, if_false, hadd]
  rfl

/-- The run: the lines of a body one after the other. -/
theorem stepAll_singles (h : m.TakesImage kind parent) (hcounts : m.Counts parent kind) (role : Role)
    (metadata subtitle : String) (origin : Origin) (lines : List String) :
    ∃ m', (addImageLines parent kind kind.title subtitle metadata origin lines).exec m = (.ok (), m') ∧
      m.stepAll role ((kind.singles metadata subtitle origin lines).map .block) = (m', []) ∧
      m'.document.size = m.document.size + lines.length := by
  induction lines generalizing m subtitle with
  | nil => exact ⟨m, rfl, rfl, rfl⟩
  | cons line lines ih =>
    obtain ⟨m₁, hadd, hstep, hplace, hcounts₁, hsize⟩ := step_single h hcounts role metadata subtitle line origin
    obtain ⟨m', hlines, hrest, hsize'⟩ := ih hplace hcounts₁ ""
    refine ⟨m', ?_, ?_, ?_⟩
    · rw [addImageLines, Work.exec_bind_of_ok hadd]
      exact hlines
    · rw [ImageKind.singles_cons, List.map_cons, stepAll, hstep]
      simp only [hrest, List.append_nil]
    · rw [hsize', hsize, List.length_cons]
      omega

/-- **A block of several images is the blocks of its single images.**  Wherever reading is in a source, with a file
open, and for examples an item too, taking the block leads to the same manual and finds the same as taking a block of
one image for each line of its body, at the same origin and with the same metadata, of which the first has the
subtitle.  Nothing is found, one node is added for each line, and a block without a body changes nothing. -/
theorem several_images_as_single_blocks (settings : Settings) (inputs : List Input) (reading role : Role)
    (file : String) (lines : List String) (k : Nat) (kind : ImageKind) (metadata subtitle : String)
    (body : List String) (origin : Origin) :
    let m := (((new settings).readAll inputs).start.stepAll reading ((Source.events file lines).take k)).1
    let taken := m.step role (.block ⟨kind.plural, metadata, subtitle, body, origin⟩)
    m.place.file?.isSome = true → (kind = .example → m.place.item?.isSome = true) →
      taken = m.stepAll role ((kind.singles metadata subtitle origin body).map .block) ∧
        taken.2 = [] ∧ taken.1.document.size = m.document.size + body.length ∧ (body = [] → taken.1 = m) := by
  intro m taken hfile hitem
  obtain ⟨parent, hparent⟩ := exists_takesImage hfile hitem
  obtain ⟨line, hstanding⟩ := exists_standing settings inputs reading file lines k
  obtain ⟨m', hlines, hsingles, hsize⟩ :=
    stepAll_singles hparent (hstanding.counts hparent) role metadata subtitle origin body
  have htaken : taken = (m', []) := by
    have htake : m.take role ⟨kind.plural, metadata, subtitle, body, origin⟩ =
        m.build (addImages kind kind.title true ⟨kind.plural, metadata, subtitle, body, origin⟩) :=
      take_images hparent role rfl
    show m.step role (.block ⟨kind.plural, metadata, subtitle, body, origin⟩) = (m', [])
    rw [step, htake, build, addImages, Work.exec_read_bind, hparent.1]
    simp only [if_true, hlines]
    rfl
  refine ⟨htaken.trans hsingles.symm, congrArg Prod.snd htaken, ?_, fun hbody => ?_⟩
  · rw [htaken]
    exact hsize
  · subst hbody
    rw [htaken]
    exact (congrArg Prod.fst hsingles).symm

/-- Two lines of examples below a module that is open. -/
theorem several_images_as_single_blocks_module :
    let m := (((new Settings.default).readAll []).start.stepAll .code
      ((Source.events "a.scad" ["// File: a.scad", "// Module: m()"]).take 2)).1
    let taken := m.step .code (.block ⟨"Examples", "3D", "Both", ["m(1);", "m(2);"], ⟨"a.scad", 3⟩⟩)
    m.place = .item 0 1 2 ∧
      taken = m.stepAll .code [.block ⟨"Example", "3D", "Both", ["m(1);"], ⟨"a.scad", 3⟩⟩,
        .block ⟨"Example", "3D", "", ["m(2);"], ⟨"a.scad", 3⟩⟩] ∧
      taken.1.document.size = m.document.size + 2 := by
  intro m taken
  have hplace : m.place = .item 0 1 2 := by decide +kernel
  have hfile : m.place.file?.isSome = true := by rw [hplace]; rfl
  have hitem : m.place.item?.isSome = true := by rw [hplace]; rfl
  have h := several_images_as_single_blocks Settings.default [] .code .code "a.scad"
    ["// File: a.scad", "// Module: m()"] 2 .example "3D" "Both" ["m(1);", "m(2);"] ⟨"a.scad", 3⟩ hfile fun _ => hitem
  exact ⟨hplace, h.1, h.2.2.1⟩

end Manual

end ScadManual
