import ScadManual.Manual.Read
import ScadManual.Proofs.Results

/-!
# What the steps of building lead to

Each step as an equation: what it gives or which error stops it, and the manual afterwards.  Demands leave the
manual alone; changes never fail, and where one of them could, the conditions under which it does not are
those that hold once the demands are met.  Everything about blocks is put together from these.
-/

namespace ScadManual.Manual

variable {α : Type} {m m' : Manual}

/-- Building leaves the manual that was reached. -/
theorem manual_build (m : Manual) (x : Building Unit) : (m.build x).manual = (x.exec m).2 := by
  unfold build
  rcases x.exec m with ⟨r, m'⟩
  cases r <;> rfl

theorem error_build_congr {x x' : Building Unit} (h : (x'.exec m').1 = (x.exec m).1) :
    (m'.build x').error = (m.build x).error := by
  unfold build
  rcases hx : x.exec m with ⟨r, m₁⟩
  rcases hx' : x'.exec m' with ⟨r', m₁'⟩
  rw [hx, hx'] at h
  obtain rfl : r' = r := h
  cases r' <;> rfl

theorem error_build_eq_some_iff {x : Building Unit} {e : Error} :
    (m.build x).error = some e ↔ (x.exec m).1 = .error e := by
  unfold build
  rcases x.exec m with ⟨r, m'⟩
  cases r <;> simp

theorem error_build_eq_none_iff {x : Building Unit} : (m.build x).error = none ↔ (x.exec m).1 = .ok () := by
  unfold build
  rcases x.exec m with ⟨r, m'⟩
  cases r <;> simp

/-! ## Demands -/

theorem exec_requireFile (title : String) (m : Manual) :
    (requireFile title).exec m =
      match m.place.file? with
      | some file => (.ok file, m)
      | none => (.error (.structural title .fileMissing), m) := by
  rw [requireFile, Work.exec_read_bind]
  cases m.place.file? <;> rfl

theorem exec_requireFile_eq_ok {title : String} {file : NodeId} (h : (requireFile title).exec m = (.ok file, m')) :
    m.place.file? = some file ∧ m' = m := by
  rw [exec_requireFile] at h
  cases hf : m.place.file? with
  | none => simp [hf] at h
  | some f =>
    obtain ⟨hvalue, hstate⟩ := Prod.mk.inj (by simpa only [hf] using h)
    exact ⟨congrArg some (Except.ok.inj hvalue), hstate.symm⟩

theorem exec_openItem? (title : String) (m : Manual) :
    (openItem? title).exec m =
      match m.place.item? with
      | some item => (.ok (some item), m)
      | none => if m.settings.strict then (.error (.structural title .itemMissing), m) else (.ok none, m) := by
  rw [openItem?, Work.exec_read_bind]
  cases m.place.item? with
  | some item => rfl
  | none =>
    simp only [Work.exec_read_bind]
    split <;> rfl

theorem exec_withItem (title : String) (take : NodeId → Building Unit) (m : Manual) :
    (withItem title take).exec m =
      match m.place.item? with
      | some item => (take item).exec m
      | none => if m.settings.strict then (.error (.structural title .itemMissing), m) else (.ok (), m) := by
  rw [withItem, Work.exec_bind, exec_openItem?]
  cases m.place.item? with
  | some item => rfl
  | none => cases m.settings.strict <;> rfl

/-- Is a node of the number an item? -/
def IsItem (m : Manual) (id : NodeId) : Prop := (m.document.node? id).any Node.isItem

instance (m : Manual) (id : NodeId) : Decidable (m.IsItem id) := inferInstanceAs (Decidable (_ = true))

theorem isItem_iff {id : NodeId} : m.IsItem id ↔ ∃ n, m.document.node? id = some n ∧ n.isItem = true :=
  Option.any_eq_true _ _

theorem exec_requireItem (id : NodeId) (m : Manual) :
    (requireItem id).exec m =
      if m.IsItem id then (.ok (), m) else (.error (.structural (m.document.title id) .itemMissing), m) := by
  rw [requireItem, Work.exec_read_bind, Work.exec_ite]
  rfl

theorem requireFree_eq_ok_iff {r : References} {d : Document} {block name : String} {u : Unit} :
    r.requireFree d block name = .ok u ↔ r.get? name = none := by
  unfold References.requireFree
  cases r.get? name <;> simp

theorem requireNoBody_eq_ok_iff {title : String} {body : List String} {u : Unit} :
    requireNoBody title body = .ok u ↔ body = [] := by
  unfold requireNoBody
  cases body <;> simp [refuse]

/-! ## Changes -/

theorem exec_append (n : Node) (m : Manual) : (append n).exec m = (.ok m.document.size, m.addNode n) := rfl

theorem exec_changeFile (id : NodeId) (f : FileInfo → FileInfo) (m : Manual) :
    (changeFile id f).exec m =
      if (m.document.node? id).any Node.isFile then (.ok (), m.modifyFile id f)
      else (.error (.structural (m.document.title id) .fileExpected), m) := by
  rw [changeFile, Work.exec_read_bind, Work.exec_ite]
  rfl

theorem exec_changeItem (id : NodeId) (f : ItemInfo → ItemInfo) (m : Manual) :
    (changeItem id f).exec m =
      if m.IsItem id then (.ok (), m.modifyItem id f)
      else (.error (.structural (m.document.title id) .itemMissing), m) := by
  rw [changeItem, Work.exec_bind, exec_requireItem]
  by_cases h : m.IsItem id
  · rw [if_pos h, if_pos h]
    rfl
  · rw [if_neg h, if_neg h]

/-- Registers a name for an item. -/
def register (m : Manual) (name : String) (item : NodeId) : Manual :=
  { m with library := { m.library with references := ⟨m.references.entries ++ [(name, item)]⟩ } }

theorem exec_declare (title name : String) (item : NodeId) (m : Manual) :
    (declare title name item).exec m =
      match m.references.get? name with
      | some owner => (.error (.duplicate title name (References.originOf m.document owner)), m)
      | none => (.ok (), m.register name item) := by
  rw [declare, Work.exec_read_bind, Work.exec_lift_bind, References.declare, References.requireFree]
  cases m.references.get? name <;> rfl

theorem exec_declareAlias (title : String) (item : NodeId) (name : String) (m : Manual) :
    (declareAlias title item name).exec m =
      match m.references.get? name with
      | some owner => (.error (.duplicate title name (References.originOf m.document owner)), m)
      | none =>
        (.ok (), (m.register name item).modifyItem item fun info =>
          { info with aliases := info.aliases ++ [name] }) := by
  rw [declareAlias, Work.exec_bind, exec_declare]
  cases m.references.get? name <;> rfl

section Aliases

variable {title name : String} {item : NodeId}

theorem exec_declareAliases_of_ok {u : Unit} (h : (declareAlias title item name).exec m = (.ok u, m'))
    (rest : List String) :
    (declareAliases title item (name :: rest)).exec m = (declareAliases title item rest).exec m' := by
  rw [declareAliases, Work.exec_bind, Work.exec_attempt, h]

/-- After a name that is taken the others are declared all the same, and its error is the one that counts. -/
theorem exec_declareAliases_of_error {e : Error} (h : (declareAlias title item name).exec m = (.error e, m'))
    (rest : List String) :
    (declareAliases title item (name :: rest)).exec m =
      (.error e, ((declareAliases title item rest).exec m').2) := by
  rw [declareAliases, Work.exec_bind, Work.exec_attempt, h]
  rfl

end Aliases

/-! ## Images -/

/-- A block that wants an image is not marked against it, so it gets its request. -/
theorem imageInfo_ok (m : Manual) (parent : NodeId) (kind : ImageKind) (number : Nat) (metadata : String)
    (body : List String) (origin : Origin) :
    ∃ info, m.imageInfo parent kind number metadata body origin = .ok info := by
  unfold imageInfo
  extract_lets d file source title name script url render info
  split
  · next hrender =>
    have hmark : Text.contains metadata "NORENDER" = false := by
      have hwants : Render.wantsImage metadata title = true := (Bool.and_eq_true_iff.1 hrender).1
      simpa using (Bool.and_eq_true_iff.1 hwants).1
    rw [Render.Request.make, if_neg (by simp [hmark])]
    exact ⟨_, rfl⟩
  · exact ⟨info, rfl⟩

/-- The source of the file that a node stands in. -/
abbrev sourceAt (m : Manual) (id : NodeId) : String := (References.originOf m.document (m.document.fileOf id)).file

/-- The name of the file of an image below a node. -/
abbrev imageNameAt (m : Manual) (parent : NodeId) (info : ImageInfo) : String :=
  imageFileName info.kind (m.document.title parent) (m.document.subtitle parent) info.number
    (Render.imageExtension info.metadata m.settings.pngAnimation)

/-- All that is known of an image when it is made. -/
structure ImageMade (m : Manual) (parent : NodeId) (kind : ImageKind) (number : Nat) (metadata : String)
    (body : List String) (origin : Origin) (info : ImageInfo) : Prop where
  kind_eq : info.kind = kind
  number_eq : info.number = number
  metadata_eq : info.metadata = metadata
  script : info.script =
    Render.script (m.document.fileInfoOf parent).includes (m.document.fileInfoOf parent).common body
  code : info.code = Render.shownCode (m.document.fileInfoOf parent).includes body
  pageUrl : info.pageUrl = imagePageUrl (m.sourceAt parent) (m.imageNameAt parent info)
  url : info.url = imageUrl (m.sourceAt parent) (m.imageNameAt parent info)
  render : info.render = Render.wantsImage info.metadata (m.document.title parent)
  asked : info.request.isSome = (info.render && !info.isHidden)
  request : ∀ request, info.request = some request →
    Render.Request.make origin (Path.join m.settings.docsDir info.url) info.script info.metadata = .ok request

theorem imageInfo_eq_ok {parent : NodeId} {kind : ImageKind} {number : Nat} {metadata : String}
    {body : List String} {origin : Origin} {info : ImageInfo}
    (h : m.imageInfo parent kind number metadata body origin = .ok info) :
    m.ImageMade parent kind number metadata body origin info := by
  unfold imageInfo at h
  dsimp only at h
  split at h
  · next hasked =>
    obtain ⟨request, hrequest, hinfo⟩ := bind_eq_ok h
    rw [← Except.ok.inj hinfo]
    refine ⟨rfl, rfl, rfl, rfl, rfl, by with_reducible rfl, by with_reducible rfl, rfl, hasked.symm, fun r hr => ?_⟩
    obtain rfl := Option.some.inj hr
    with_reducible exact hrequest
  · next hasked =>
    rw [← Except.ok.inj h]
    exact ⟨rfl, rfl, rfl, rfl, rfl, by with_reducible rfl, by with_reducible rfl, rfl,
      (Bool.eq_false_iff.2 hasked).symm, fun r hr => nomatch hr⟩

/-- Does a node count images of the kind?  Only items count examples. -/
def Counts (m : Manual) (parent : NodeId) (kind : ImageKind) : Prop := kind = .example → m.IsItem parent

theorem exec_nextNumber_of_counts {parent : NodeId} {kind : ImageKind} (h : m.Counts parent kind) :
    (nextNumber parent kind).exec m =
      (.ok (m.document.counted parent kind + 1), m.countImage parent kind) := by
  have hcounter : (requireCounter parent kind).exec m = (.ok (), m) := by
    cases hk : kind with
    | figure => rfl
    | _ =>
      rw [requireCounter, exec_requireItem, if_pos (h hk)]
  rw [nextNumber, Work.exec_bind_of_ok hcounter]
  rfl

/-- The node of an image. -/
def imageNode (parent : NodeId) (info : ImageInfo) (label subtitle : String) (body : List String)
    (origin : Origin) : Node :=
  ⟨.image info, label ++ " " ++ toString info.number, subtitle, body, origin, 0, some parent⟩

variable {parent : NodeId} {kind : ImageKind}

/-- **An image below a node that counts it is added, whatever it asks for.** -/
theorem exec_addImage_of_counts (h : m.Counts parent kind) (label subtitle metadata : String) (body : List String)
    (origin : Origin) :
    ∃ info, m.imageInfo parent kind (m.document.counted parent kind + 1) metadata body origin = .ok info ∧
      (addImage parent kind label subtitle metadata body origin).exec m =
        (.ok (), (m.countImage parent kind).addNode (imageNode parent info label subtitle body origin)) := by
  obtain ⟨info, hinfo⟩ := m.imageInfo_ok parent kind (m.document.counted parent kind + 1) metadata body origin
  refine ⟨info, hinfo, ?_⟩
  rw [addImage, Work.exec_read_bind, Work.exec_bind_of_ok (exec_nextNumber_of_counts h), Work.exec_lift_bind, imageNode,
    (imageInfo_eq_ok hinfo).number_eq]
  simp only [hinfo]
  rfl

/-- An example below a node that is no item is refused, and the manual is as it was. -/
theorem exec_addImage_of_not_counts (h : ¬m.Counts parent kind) (label subtitle metadata : String)
    (body : List String) (origin : Origin) :
    (addImage parent kind label subtitle metadata body origin).exec m =
      (.error (.structural (m.document.title parent) .itemMissing), m) := by
  obtain ⟨rfl, hitem⟩ := Classical.not_imp.1 h
  have hcounter : (requireCounter parent .example).exec m =
      (.error (.structural (m.document.title parent) .itemMissing), m) := by
    rw [requireCounter, exec_requireItem, if_neg hitem]
  rw [addImage, Work.exec_read_bind, nextNumber]
  exact Work.exec_bind_of_error (Work.exec_bind_of_error hcounter _) _

/-! ## Blocks -/

/-- With a file open, a block that neither opens one nor defines a rule is looked at. -/
theorem exec_addBlock_of_file {file : NodeId} {b : Block} (hf : m.place.file? = some file)
    (hb : b.title ∉ ["DefineHeader", "File", "LibFile"]) : (addBlock b).exec m = (addInside b).exec m := by
  unfold addBlock
  split
  · next h => simp [h] at hb
  · next h => simp [h] at hb
  · next h => simp [h] at hb
  · rw [Work.exec_read_bind, hf]
    rfl

end ScadManual.Manual
