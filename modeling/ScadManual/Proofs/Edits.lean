import Mathlib.Logic.Relation
import ScadManual.Proofs.Building

/-!
# What a block does to a manual

A block is taken by one of many functions, but what any of them does to the document and the names is a run
of small edits: something is opened, a node is put below an open one, an image is counted and put there, an open
file or item is described further, or a name is registered.  `Edit` lists them with all that holds when they are
made.  Whatever every edit keeps, every block keeps, so what follows never looks at the blocks one by one again.
-/

namespace ScadManual

/-- Does a node of the kind hold nothing? -/
def Kind.isLeaf : Kind → Bool
  | .file _ | .section | .subsection | .item _ => false
  | _ => true

/-- The node below which a block of a kind stands; none for the kinds that are opened. -/
def Place.taker? (p : Place) : Kind → Option NodeId
  | .file _ | .section | .subsection | .item _ => none
  | .includes => p.file?
  | .synopsis | .tags | .topics | .seeAlso => p.item?
  | .image info =>
    match info.kind with
    | .example => p.item?
    | .figure => p.parent?
  | .generic | .label | .text | .headerless | .bulletList | .numberedList | .table _ => p.parent?

theorem Place.parent?_of_item? {p : Place} {i : NodeId} (h : p.item? = some i) : p.parent? = some i := by
  cases p <;> simp_all [Place.item?, Place.parent?]

namespace Manual

/-- The titles of blocks that open a file. -/
def fileTitles : List String := ["File", "LibFile"]

/-- One small change that a block makes. -/
inductive Edit (b : Block) (m : Manual) : Manual → Prop
  | rules {rules : Registry} (h : m.rules.define b.subtitle b.metadata = .ok rules) :
      Edit b m { m with rules }
  | openFile (h : m.place.file? = none) (titled : b.title ∈ fileTitles) :
      Edit b m { m.addNode (b.node (.file FileInfo.empty) none) with place := .file m.document.size }
  | openSection {file : NodeId} (h : m.place.file? = some file) (title subtitle : String)
      (body : List String) :
      Edit b m { m.addNode ⟨.section, title, subtitle, body, b.origin, 0, some file⟩ with
        place := .section file m.document.size }
  | openSubsection {file sect : NodeId} (hf : m.place.file? = some file)
      (hs : m.place.section? = some sect) :
      Edit b m { m.addNode (b.node .subsection (some sect)) with
        place := .subsection file sect m.document.size }
  | openItem {file sect : NodeId} (hf : m.place.file? = some file) (hs : m.place.section? = some sect)
      (fresh : m.references.get? b.subtitle = none) (titled : b.title ∈ itemTitles) :
      Edit b m { (m.addNode (b.node (.item ItemInfo.empty) (some sect))).register b.subtitle
          m.document.size with place := .item file sect m.document.size }
  | describeFile {file : NodeId} (h : m.place.file? = some file) (change : FileInfo → FileInfo)
      (hc : ∀ info, (b.title ≠ "Includes" → (change info).includes = info.includes) ∧
        (b.title ≠ "CommonCode" → (change info).common = info.common)) :
      Edit b m (m.modifyFile file change)
  | describeItem {item : NodeId} (h : m.place.item? = some item) (change : ItemInfo → ItemInfo)
      (hc : ∀ info, (change info).aliases = info.aliases ∧ (change info).examples = info.examples) :
      Edit b m (m.modifyItem item change)
  | addAlias {item : NodeId} (h : m.place.item? = some item) {name : String}
      (fresh : m.references.get? name = none) :
      Edit b m ((m.register name item).modifyItem item fun info =>
        { info with aliases := info.aliases ++ [name] })
  | image {parent : NodeId} {info : ImageInfo} {n : Node} (hk : n.kind = .image info)
      (h : m.place.taker? n.kind = some parent) (hp : n.parent = some parent) (ho : n.origin = b.origin)
      (hn : n.figures = 0) (counts : m.Counts parent info.kind)
      (himage : m.imageInfo parent info.kind (m.document.counted parent info.kind + 1) info.metadata n.body
        n.origin = .ok info) :
      Edit b m ((m.countImage parent info.kind).addNode n)
  | child {parent : NodeId} (n : Node) (h : m.place.taker? n.kind = some parent)
      (hp : n.parent = some parent) (ho : n.origin = b.origin) (hn : n.figures = 0)
      (himage : ∀ info, n.kind ≠ .image info)
      (htable : ∀ info, n.kind = .table info → ∃ headerSets, Table.parse? headerSets n.body = some info) :
      Edit b m (m.addNode n)

/-- A run of edits of one block. -/
abbrev Edits (b : Block) : Manual → Manual → Prop := Relation.ReflTransGen (Edit b)

section Blocks

variable {α β : Type} {m m' : Manual} {b : Block}

/-- What is done in a row makes edits in a row, and an error ends them. -/
theorem edits_bind {x : Building α} {f : α → Building β} (hx : Edits b m (x.exec m).2)
    (hf : ∀ a m', x.exec m = (.ok a, m') → Edits b m' ((f a).exec m').2) : Edits b m ((x >>= f).exec m).2 := by
  rw [Work.exec_bind]
  rcases hexec : x.exec m with ⟨r, m'⟩
  rw [hexec] at hx
  cases r with
  | error e => exact hx
  | ok a => exact hx.trans (hf a m' hexec)

/-- A check that stands alone makes no edits. -/
theorem edits_lift_bind {x : Except Error α} {f : α → Building β}
    (hf : ∀ a, x = .ok a → Edits b m ((f a).exec m).2) : Edits b m (((liftM x : Building α) >>= f).exec m).2 := by
  rw [Work.exec_lift_bind]
  cases x with
  | error e => exact .refl
  | ok a => exact hf a rfl

theorem edits_requireFile_bind {title : String} {f : NodeId → Building α}
    (hf : ∀ file, m.place.file? = some file → Edits b m ((f file).exec m).2) :
    Edits b m ((requireFile title >>= f).exec m).2 := by
  rw [Work.exec_bind, exec_requireFile]
  cases hfile : m.place.file? with
  | none => exact .refl
  | some file => exact hf file hfile

theorem edits_withItem {title : String} {take : NodeId → Building Unit}
    (ht : ∀ item, m.place.item? = some item → Edits b m ((take item).exec m).2) :
    Edits b m ((withItem title take).exec m).2 := by
  rw [exec_withItem]
  cases hitem : m.place.item? with
  | some item => exact ht item hitem
  | none =>
    simp only
    split <;> exact .refl

/-! ## Blocks with a title of their own -/

theorem openFile_edits (titled : b.title ∈ fileTitles) : Edits b m ((openFile b).exec m).2 := by
  rw [openFile, Work.exec_read_bind]
  cases hf : m.place.file? with
  | some file => exact .refl
  | none => exact .single (.openFile hf titled)

theorem openSection_edits : Edits b m ((openSection b).exec m).2 :=
  edits_requireFile_bind fun _ hf => .single (.openSection hf b.title b.subtitle b.body)

theorem openSubsection_edits : Edits b m ((openSubsection b).exec m).2 := by
  rw [openSubsection, Work.exec_read_bind]
  split
  · next hplace =>
    obtain ⟨hf, hs⟩ := Prod.mk.inj hplace
    rw [Work.exec_ite]
    split
    · exact .refl
    · exact .single (.openSubsection hf hs)
  · exact .refl

/-- Describing the open file is one edit, unless it is refused. -/
theorem changeFile_edits {file : NodeId} (hf : m.place.file? = some file) {change : FileInfo → FileInfo}
    (hc : ∀ info, (b.title ≠ "Includes" → (change info).includes = info.includes) ∧
      (b.title ≠ "CommonCode" → (change info).common = info.common)) :
    Edits b m ((changeFile file change).exec m).2 := by
  rw [exec_changeFile]
  split
  · exact .single (.describeFile hf change hc)
  · exact .refl

theorem place_changeFile (file : NodeId) (change : FileInfo → FileInfo) (m : Manual) :
    ((changeFile file change).exec m).2.place = m.place := by
  rw [exec_changeFile]
  split <;> rfl

theorem addIncludes_edits (ht : b.title = "Includes") : Edits b m ((addIncludes b).exec m).2 := by
  refine edits_requireFile_bind fun file hf => edits_bind (changeFile_edits hf fun info => ?_) ?_
  · exact ⟨fun hne => absurd ht hne, fun _ => rfl⟩
  · intro _ m' hexec
    have hplace := place_changeFile file (fun info => { info with includes := info.includes ++ b.body }) m
    rw [hexec] at hplace
    refine .single (.child (b.node .includes (some file)) ?_ rfl rfl rfl (by simp [Block.node]) (by simp [Block.node]))
    exact (congrArg Place.file? hplace).trans hf

theorem addCommonCode_edits (ht : b.title = "CommonCode") : Edits b m ((addCommonCode b).exec m).2 :=
  edits_requireFile_bind fun _ hf => changeFile_edits hf fun _ => ⟨fun _ => rfl, fun hne => absurd ht hne⟩

theorem describeFile_edits {change : FileInfo → FileInfo}
    (hc : ∀ info, (change info).includes = info.includes ∧ (change info).common = info.common) :
    Edits b m ((describeFile b change).exec m).2 := by
  rw [describeFile, Work.exec_ite]
  split
  · exact .refl
  · exact edits_requireFile_bind fun _ hf =>
      changeFile_edits hf fun info => ⟨fun _ => (hc info).1, fun _ => (hc info).2⟩

/-! ## Items -/

/-- The section of a new item is open: without one a section is opened first. -/
theorem itemSection_edits {file : NodeId} (hf : m.place.file? = some file) :
    Edits b m ((itemSection file b.origin).exec m).2 ∧
      ∀ sect m', (itemSection file b.origin).exec m = (.ok sect, m') →
        m'.place.file? = some file ∧ m'.place.section? = some sect ∧ m'.references = m.references := by
  rw [itemSection, Work.exec_read_bind]
  cases hs : m.place.section? with
  | some sect =>
    refine ⟨.refl, fun sect' m' hexec => ?_⟩
    obtain ⟨hsect, rfl⟩ := Prod.mk.inj hexec
    obtain rfl := Except.ok.inj hsect
    exact ⟨hf, hs, rfl⟩
  | none =>
    refine ⟨.single (.openSection hf "Section" "" []), fun sect' m' hexec => ?_⟩
    obtain ⟨hsect, rfl⟩ := Prod.mk.inj hexec
    obtain rfl := Except.ok.inj hsect
    exact ⟨rfl, rfl, rfl⟩

/-- The name of a new item was found to be free, so declaring it cannot fail. -/
theorem exec_openItem {file sect : NodeId} (fresh : m.references.get? b.subtitle = none) :
    (do let item ← append (b.node (.item ItemInfo.empty) (some sect))
        declare b.title b.subtitle item
        moveTo (.item file sect item) : Building Unit).exec m =
      (.ok (), { (m.addNode (b.node (.item ItemInfo.empty) (some sect))).register b.subtitle m.document.size with
        place := .item file sect m.document.size }) := by
  have hfresh : (m.addNode (b.node (.item ItemInfo.empty) (some sect))).references.get? b.subtitle = none := fresh
  rw [Work.exec_bind_of_ok (exec_append _ _), Work.exec_bind, exec_declare, hfresh]
  rfl

theorem declareItem_edits (titled : b.title ∈ itemTitles) : Edits b m ((declareItem b).exec m).2 := by
  refine edits_requireFile_bind fun file hf => ?_
  rw [Work.exec_read_bind]
  refine edits_lift_bind fun _ hfree => edits_lift_bind fun _ _ => ?_
  obtain ⟨hedits, hopened⟩ := itemSection_edits (b := b) hf
  refine edits_bind hedits fun sect m' hexec => ?_
  obtain ⟨hfile, hsect, hreferences⟩ := hopened sect m' hexec
  have fresh : m'.references.get? b.subtitle = none := by rw [hreferences, requireFree_eq_ok_iff.1 hfree]
  rw [exec_openItem fresh]
  exact .single (.openItem hfile hsect fresh titled)

theorem labelled_keeps {tags : Dict} {label : Label} {change : ItemInfo → ItemInfo}
    (h : labelled tags label b = .ok change) (info : ItemInfo) :
    (change info).aliases = info.aliases ∧ (change info).examples = info.examples := by
  cases label with
  | tags =>
    obtain ⟨named, _, hc⟩ := bind_eq_ok h
    obtain rfl := Except.ok.inj hc
    exact ⟨rfl, rfl⟩
  | _ =>
    obtain rfl := Except.ok.inj h
    exact ⟨rfl, rfl⟩

theorem taker?_label (p : Place) (label : Label) : p.taker? label.kind = p.item? := by
  cases label <;> rfl

theorem labelItem_edits {item : NodeId} {label : Label} (hi : m.place.item? = some item) :
    Edits b m ((labelItem item label b).exec m).2 := by
  refine edits_lift_bind fun _ _ => ?_
  rw [Work.exec_read_bind]
  refine edits_lift_bind fun change hc => ?_
  rw [Work.exec_bind, exec_changeItem]
  by_cases hitem : m.IsItem item
  · rw [if_pos hitem]
    -- a label is kept in the item and shown as a node of its own
    refine .head (.describeItem hi change (labelled_keeps hc)) (.single ?_)
    refine .child (b.node label.kind (some item)) ((taker?_label _ label).trans hi) rfl rfl rfl ?_ ?_
    · intro info hk
      cases label <;> simp [Block.node, Label.kind] at hk
    · intro info hk
      cases label <;> simp [Block.node, Label.kind] at hk
  · rw [if_neg hitem]

theorem declareAlias_edits {item : NodeId} (hi : m.place.item? = some item) (title name : String) :
    Edits b m ((declareAlias title item name).exec m).2 ∧
      ((declareAlias title item name).exec m).2.place = m.place := by
  rw [exec_declareAlias]
  cases fresh : m.references.get? name with
  | some owner => exact ⟨.refl, rfl⟩
  | none => exact ⟨.single (.addAlias hi fresh), rfl⟩

theorem declareAliases_edits {item : NodeId} (hi : m.place.item? = some item) (title : String)
    (names : List String) : Edits b m ((declareAliases title item names).exec m).2 := by
  induction names generalizing m with
  | nil => exact .refl
  | cons name names ih =>
    obtain ⟨hfirst, hplace⟩ := declareAlias_edits (b := b) hi title name
    rcases hexec : (declareAlias title item name).exec m with ⟨r, m'⟩
    rw [hexec] at hfirst hplace
    have hmore := hfirst.trans (ih (by rw [hplace, hi]))
    cases r with
    | ok _ =>
      rw [exec_declareAliases_of_ok hexec]
      exact hmore
    | error e =>
      rw [exec_declareAliases_of_error hexec]
      exact hmore

theorem applyEffect_edits (m : Manual) (b : Block) (effect : Effect) (title subtitle : String) :
    Edits b m ((applyEffect effect title subtitle).exec m).2 := by
  rw [applyEffect, Work.exec_read_bind]
  cases hi : m.place.item? with
  | none => exact .refl
  | some item =>
    cases effect with
    | status => exact .single (.describeItem hi _ fun _ => ⟨rfl, rfl⟩)
    | aliases => exact declareAliases_edits hi title _

/-! ## Images -/

/-- The node that takes an image: examples need an open item. -/
def TakesImage (m : Manual) (kind : ImageKind) (parent : NodeId) : Prop :=
  m.place.parent? = some parent ∧ (kind = .example → m.place.item? = some parent)

theorem addImage_edits {parent : NodeId} {kind : ImageKind} (hp : m.TakesImage kind parent)
    (label subtitle metadata : String) (body : List String) :
    Edits b m ((addImage parent kind label subtitle metadata body b.origin).exec m).2 ∧
      ((addImage parent kind label subtitle metadata body b.origin).exec m).2.place = m.place := by
  by_cases hcounts : m.Counts parent kind
  · obtain ⟨info, hinfo, hexec⟩ := exec_addImage_of_counts hcounts label subtitle metadata body b.origin
    obtain rfl := (imageInfo_eq_ok hinfo).kind_eq
    obtain rfl := (imageInfo_eq_ok hinfo).metadata_eq
    rw [hexec]
    refine ⟨.single (.image (n := imageNode parent info label subtitle body b.origin) rfl ?_ rfl rfl rfl hcounts
      hinfo), rfl⟩
    show m.place.taker? (.image info) = some parent
    rw [Place.taker?]
    split
    · next he => exact hp.2 he
    · exact hp.1
  · rw [exec_addImage_of_not_counts hcounts]
    exact ⟨.refl, rfl⟩

theorem addImageLines_edits {parent : NodeId} {kind : ImageKind} (hp : m.TakesImage kind parent)
    (label subtitle metadata : String) (lines : List String) :
    Edits b m ((addImageLines parent kind label subtitle metadata b.origin lines).exec m).2 := by
  induction lines generalizing m subtitle with
  | nil => exact .refl
  | cons line lines ih =>
    obtain ⟨hedits, hplace⟩ := addImage_edits (b := b) hp label subtitle metadata [line]
    refine edits_bind hedits fun _ m' hexec => ih ?_ ""
    rw [hexec] at hplace
    rw [TakesImage, hplace]
    exact hp

theorem addImages_edits {kind : ImageKind} {label : String} {each : Bool}
    (hi : kind = .example → m.place.item?.isSome) : Edits b m ((addImages kind label each b).exec m).2 := by
  rw [addImages, Work.exec_read_bind]
  cases hp : m.place.parent? with
  | none => exact .refl
  | some parent =>
    have htakes : m.TakesImage kind parent := by
      refine ⟨hp, fun he => ?_⟩
      obtain ⟨item, hitem⟩ := Option.isSome_iff_exists.1 (hi he)
      rw [hitem, ← hp, Place.parent?_of_item? hitem]
    simp only [Work.exec_ite]
    split
    · exact addImageLines_edits htakes label b.subtitle b.metadata b.body
    · exact (addImage_edits htakes label b.subtitle b.metadata b.body).1

/-! ## Blocks with a rule -/

/-- A shaped block is of a kind that stands below whatever is open; it is no image, and its tables are those of its
body. -/
theorem taker?_of_shaped {shape : Shape} {kind : Kind} {subtitle : String} {body : List String}
    (h : shaped shape b = .ok (kind, subtitle, body)) (p : Place) :
    p.taker? kind = p.parent? ∧ (∀ info, kind ≠ .image info) ∧
      ∀ info, kind = .table info → ∃ headerSets, Table.parse? headerSets body = some info := by
  unfold shaped at h
  extract_lets at h
  cases shape with
  | label =>
    obtain ⟨_, _, hk⟩ := bind_eq_ok h
    obtain ⟨rfl, _⟩ := Prod.mk.inj (Except.ok.inj hk)
    exact ⟨rfl, by simp, by simp⟩
  | table headerSets =>
    simp only at h
    split at h
    · next hparse =>
      obtain ⟨rfl, hrest⟩ := Prod.mk.inj (Except.ok.inj h)
      obtain ⟨-, rfl⟩ := Prod.mk.inj hrest
      refine ⟨rfl, by simp, fun info hk => ⟨headerSets, ?_⟩⟩
      rw [← Kind.table.inj hk, hparse]
    · simp [refuse] at h
  | _ =>
    obtain ⟨rfl, _⟩ := Prod.mk.inj (Except.ok.inj h)
    exact ⟨rfl, by simp, by simp⟩

theorem addShaped_edits {rule : Rule} {parent : NodeId} (hp : m.place.parent? = some parent) :
    Edits b m ((addShaped rule parent b).exec m).2 := by
  refine edits_lift_bind fun ⟨kind, subtitle, body⟩ hs => ?_
  obtain ⟨htaker, himage, htable⟩ := taker?_of_shaped hs m.place
  have hchild : Edit b m (m.addNode ⟨kind, b.title, subtitle, body, b.origin, 0, some parent⟩) :=
    .child _ (htaker.trans hp) rfl rfl rfl himage htable
  rw [Work.exec_bind_of_ok (exec_append _ _)]
  cases rule.effect with
  | some effect => exact .head hchild (applyEffect_edits _ b _ _ _)
  | none => exact .single hchild

theorem addByShape_edits (m : Manual) (rule : Rule) (b : Block) : Edits b m ((addByShape rule b).exec m).2 := by
  rw [addByShape, Work.exec_read_bind]
  cases hp : m.place.parent? with
  | none => exact .refl
  | some parent =>
    simp only
    split
    · exact addImages_edits (by simp)
    · exact edits_withItem fun item hi => addImages_edits fun _ => by rw [hi]; rfl
    · exact addShaped_edits hp

theorem addRuled_edits (m : Manual) (rule : Rule) (b : Block) : Edits b m ((addRuled rule b).exec m).2 := by
  rw [addRuled]
  split
  · exact edits_withItem fun _ _ => addByShape_edits m rule b
  · exact addByShape_edits m rule b

/-! ## Any block -/

theorem defineRule_edits : Edits b m ((defineRule b).exec m).2 := by
  rw [defineRule, Work.exec_read_bind]
  exact edits_lift_bind fun rules hrules => .single (.rules hrules)

theorem addTitled_edits (m : Manual) (b : Block) : Edits b m ((addTitled b).exec m).2 := by
  rw [addTitled, Work.exec_read_bind]
  split
  · exact addRuled_edits m _ b
  · rw [Work.exec_ite]
    split
    · next htitle => exact declareItem_edits (List.contains_iff_mem.1 htitle)
    · split
      · exact edits_withItem fun item hi => labelItem_edits hi
      · exact .refl

theorem addFigures_edits {each : Bool} : Edits b m ((addFigures each b).exec m).2 :=
  edits_requireFile_bind fun _ _ => addImages_edits (by simp)

theorem addExamples_edits {each : Bool} : Edits b m ((addExamples each b).exec m).2 :=
  edits_withItem fun item hi => addImages_edits fun _ => by rw [hi]; rfl

theorem addInside_edits (m : Manual) (b : Block) : Edits b m ((addInside b).exec m).2 := by
  unfold addInside
  split
  · exact openSection_edits
  · exact openSubsection_edits
  · next ht => exact addIncludes_edits ht
  · next ht => exact addCommonCode_edits ht
  · exact describeFile_edits fun _ => ⟨rfl, rfl⟩
  · exact describeFile_edits fun _ => ⟨rfl, rfl⟩
  · exact describeFile_edits fun _ => ⟨rfl, rfl⟩
  · exact addFigures_edits
  · exact addFigures_edits
  · exact addExamples_edits
  · exact addExamples_edits
  · exact addTitled_edits m b

end Blocks

/-- **Whatever a block does to a manual is a run of edits**, also when an error ends it. -/
theorem addBlock_edits (m : Manual) (b : Block) : Edits b m ((addBlock b).exec m).2 := by
  unfold addBlock
  split
  · exact defineRule_edits
  · next ht => exact openFile_edits (by simp [fileTitles, ht])
  · next ht => exact openFile_edits (by simp [fileTitles, ht])
  · rw [Work.exec_read_bind, Work.exec_ite]
    split
    · exact .refl
    · exact addInside_edits m b

end Manual

end ScadManual
