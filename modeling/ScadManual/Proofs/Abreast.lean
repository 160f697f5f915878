import ScadManual.Proofs.Refusal
import ScadManual.Proofs.Renumbering

/-!
# A source read into two manuals

The same source is read into two manuals, the second of which holds the first under other numbers and may hold
more besides.  As long as they agree on the names that the source declares, every block does the same in both:
it is refused for the same reason, or adds the same nodes and names to corresponding places.  So the two readings
stay abreast from block to block, and what they report is the same.

A name that the source does not declare is not touched by it; this is part of what is kept, so that it need not be
shown a second time.
-/

namespace ScadManual

/-! ## Names that a source declares -/

/-- The names that a block declares: an item its subtitle, and a list of aliases its parts. -/
def declaredBy (title subtitle : String) : List String :=
  if itemTitles.contains title then [subtitle]
  else if title = "Alias" || title = "Aliases" then listedNames subtitle
  else []

/-- The names that the headers among the lines of a source declare. -/
def declaredNames (lines : List String) : List String :=
  lines.flatMap fun line =>
    match Header.parse? line with
    | some h => declaredBy h.title h.subtitle
    | none => []

theorem declaredBy_item {title : String} (h : itemTitles.contains title = true) (subtitle : String) :
    declaredBy title subtitle = [subtitle] := by
  rw [declaredBy, if_pos h]

theorem declaredBy_aliases {title : String} (h : title = "Alias" ∨ title = "Aliases") (subtitle : String) :
    declaredBy title subtitle = listedNames subtitle := by
  rcases h with rfl | rfl <;> rfl

/-- The header of a block is one of the lines. -/
theorem Source.exists_line_of_mem {file : String} {b : Block} (line : Nat) (lines : List String) :
    Event.block b ∈ eventsFrom file line lines →
      ∃ text ∈ lines, ∃ h, Header.parse? text = some h ∧ h.title = b.title ∧ h.subtitle = b.subtitle := by
  induction line, lines using lines_induction with
  | nil line =>
    intro hmem
    rw [eventsFrom] at hmem
    simp at hmem
  | header line text rest h hh ih =>
    intro hmem
    rw [eventsFrom_header hh] at hmem
    rcases List.mem_cons.1 hmem with heq | hmem
    · refine ⟨text, List.mem_cons_self, h, hh, ?_⟩
      unfold headerEvent at heq
      split at heq
      · obtain rfl := Event.block.inj heq
        exact ⟨rfl, rfl⟩
      · simp at heq
    · obtain ⟨text', htext, hfound⟩ := ih hmem
      exact ⟨text', List.mem_cons_of_mem text (List.mem_of_mem_drop htext), hfound⟩
  | other line text rest hh ih =>
    intro hmem
    have hrest : Event.block b ∈ eventsFrom file (line + 1) rest := by
      rw [eventsFrom_other hh] at hmem
      split at hmem
      · exact hmem
      · simpa using hmem
    obtain ⟨text', htext, hfound⟩ := ih hrest
    exact ⟨text', List.mem_cons_of_mem text htext, hfound⟩

theorem Source.mem_declaredNames {file : String} {lines : List String} {b : Block}
    (hb : Event.block b ∈ events file lines) {name : String} (hname : name ∈ declaredBy b.title b.subtitle) :
    name ∈ declaredNames lines := by
  obtain ⟨text, htext, h, hh, htitle, hsubtitle⟩ := exists_line_of_mem 1 lines hb
  refine List.mem_flatMap.2 ⟨text, htext, ?_⟩
  rw [hh]
  show name ∈ declaredBy h.title h.subtitle
  rw [htitle, hsubtitle]
  exact hname

/-! ## Manuals that stay together -/

namespace Manual

/-- The second manual holds the first under other numbers, finds the same for certain names, and is configured
alike. -/
structure Carried (S : String → Prop) (σ : NodeId → NodeId) (m m' : Manual) : Prop where
  document : m.document.Carried σ m'.document
  names : ∀ name, S name → m'.references.get? name = (m.references.get? name).map σ
  listed : ∀ name id, m.references.get? name = some id → id < m.document.size
  configuration : m'.configuration = m.configuration

/-- Two manuals into which the same source is being read.  It declares the names in `S`; all others are found
as they were in `r`, the names before it. -/
structure Abreast (S : String → Prop) (σ : NodeId → NodeId) (r : References) (m m' : Manual) : Prop where
  carried : m.Carried S σ m'
  rules : m'.rules = m.rules
  place : m'.place = m.place.renumber σ
  opened : ∀ {id x}, (id, x) ∈ m.place.opened → id < m.document.size
  others : ∀ name, ¬S name → m.references.get? name = r.get? name

/-- What building led to in both: the same error or none, and manuals abreast. -/
structure Level (S : String → Prop) (σ : NodeId → NodeId) (r : References) (o o' : Except Error Unit × Manual) :
    Prop where
  manual : o.2.Abreast S σ r o'.2
  result : o'.1 = o.1

variable {S : String → Prop} {σ : NodeId → NodeId} {r : References} {m m' : Manual}

/-- What is done next starts from manuals that are still abreast. -/
theorem Level.bind {x x' f f' : Building Unit} (hx : Level S σ r (x.exec m) (x'.exec m'))
    (hf : ∀ m₁ m₁', x.exec m = (.ok (), m₁) → m₁.Abreast S σ r m₁' → Level S σ r (f.exec m₁) (f'.exec m₁')) :
    Level S σ r ((do x; f).exec m) ((do x'; f').exec m') := by
  rcases hexec : x.exec m with ⟨e | _, m₁⟩ <;> rcases hexec' : x'.exec m' with ⟨e' | _, m₁'⟩ <;>
    rw [hexec, hexec'] at hx
  · rw [Work.exec_bind_of_error hexec, Work.exec_bind_of_error hexec']
    exact ⟨hx.manual, congrArg Except.error (Except.error.inj hx.result)⟩
  · exact absurd hx.result (by simp)
  · exact absurd hx.result (by simp)
  · rw [Work.exec_bind_of_ok hexec, Work.exec_bind_of_ok hexec']
    exact hf m₁ m₁' hexec hx.manual

theorem get?_register (m : Manual) (name x : String) (id : NodeId) :
    (m.register name id).references.get? x =
      (m.references.get? x).or (if x = name then some id else none) := by
  show (m.references.entries ++ [(name, id)]).lookup x = _
  rw [List.lookup_append, lookup_cons, List.lookup_nil, References.get?]

namespace Abreast

/-! ## Single edits -/

/-- Both get the same node, and the same place is open afterwards. -/
theorem openNode (h : m.Abreast S σ r m') {n : Node} (place : Place)
    (hn : ∀ p, n.parent = some p → p < m.document.size)
    (hplace : ∀ {id x}, (id, x) ∈ place.opened → id ≤ m.document.size) :
    Abreast S σ r { m.addNode n with place }
      { m'.addNode (n.renumber σ) with place := place.renumber σ } where
  carried :=
    { document := h.carried.document.add hn
      names := h.carried.names
      listed := by
        intro name id hid
        show id < (m.document.add n).size
        rw [Document.size_add]
        exact Nat.lt_succ_of_lt (h.carried.listed name id hid)
      configuration := h.carried.configuration }
  rules := h.rules
  place := rfl
  opened := by
    intro id x hid
    show id < (m.document.add n).size
    rw [Document.size_add]
    exact Nat.lt_succ_of_le (hplace hid)
  others := h.others

theorem addNode (h : m.Abreast S σ r m') {n : Node} (hn : ∀ p, n.parent = some p → p < m.document.size) :
    (m.addNode n).Abreast S σ r (m'.addNode (n.renumber σ)) := by
  have hopen := h.openNode m.place hn fun hid => Nat.le_of_lt (h.opened hid)
  rw [← h.place] at hopen
  exact hopen

/-- Both get the same child below corresponding nodes. -/
theorem addChild (h : m.Abreast S σ r m') {parent : NodeId} (hp : parent < m.document.size) {n : Node}
    (hn : n.parent = some parent) : (m.addNode n).Abreast S σ r (m'.addNode (n.renumber σ)) := by
  refine h.addNode fun p hparent => ?_
  obtain rfl := Option.some.inj (hn.symm.trans hparent)
  exact hp

/-- In both the same change is made to corresponding nodes. -/
theorem modifyNode (h : m.Abreast S σ r m') {f : Node → Node} (hf : ∀ n, f (n.renumber σ) = (f n).renumber σ)
    (hparent : ∀ n, (f n).parent = n.parent) (id : NodeId) :
    (m.modifyNode id f hparent).Abreast S σ r (m'.modifyNode (σ id) f hparent) := by
  have hsize : (m.modifyNode id f hparent).document.size = m.document.size := Document.size_modify _ _ _ hparent
  refine ⟨⟨h.carried.document.modify hf hparent id, h.carried.names, ?_, h.carried.configuration⟩, h.rules,
    h.place, ?_, h.others⟩
  · intro name i hi
    rw [hsize]
    exact h.carried.listed name i hi
  · intro i x hi
    rw [hsize]
    exact h.opened hi

theorem modifyFile (h : m.Abreast S σ r m') (file : NodeId) (change : FileInfo → FileInfo) :
    (m.modifyFile file change).Abreast S σ r (m'.modifyFile (σ file) change) := by
  refine h.modifyNode (fun n => ?_) (·.parent_withFile change) file
  obtain ⟨kind, title, subtitle, body, origin, figures, parent⟩ := n
  cases kind <;> rfl

theorem modifyItem (h : m.Abreast S σ r m') (item : NodeId) (change : ItemInfo → ItemInfo) :
    (m.modifyItem item change).Abreast S σ r (m'.modifyItem (σ item) change) := by
  refine h.modifyNode (fun n => ?_) (·.parent_withItem change) item
  obtain ⟨kind, title, subtitle, body, origin, figures, parent⟩ := n
  cases kind <;> rfl

theorem countImage (h : m.Abreast S σ r m') (id : NodeId) (kind : ImageKind) :
    (m.countImage id kind).Abreast S σ r (m'.countImage (σ id) kind) := by
  refine h.modifyNode (fun n => ?_) (·.parent_counting kind) id
  obtain ⟨k, title, subtitle, body, origin, figures, parent⟩ := n
  cases kind <;> cases k <;> rfl

/-- A name that the source declares is registered for corresponding nodes. -/
theorem register (h : m.Abreast S σ r m') {name : String} (hname : S name) {id : NodeId}
    (hid : id < m.document.size) : (m.register name id).Abreast S σ r (m'.register name (σ id)) where
  carried :=
    { document := h.carried.document
      names := by
        intro x hx
        rw [get?_register, get?_register, h.carried.names x hx]
        cases m.references.get? x with
        | some i => rfl
        | none =>
          show (if x = name then some (σ id) else none) = Option.map σ (if x = name then some id else none)
          split <;> rfl
      listed := by
        intro x i hi
        rw [get?_register] at hi
        cases hx : m.references.get? x with
        | some j =>
          rw [hx, Option.some_or] at hi
          exact h.carried.listed x i (hx.trans hi)
        | none =>
          rw [hx, Option.none_or] at hi
          split at hi
          · obtain rfl := Option.some.inj hi
            exact hid
          · simp at hi
      configuration := h.carried.configuration }
  rules := h.rules
  place := h.place
  opened := h.opened
  others := by
    intro x hx
    have hne : x ≠ name := fun heq => hx (heq ▸ hname)
    rw [get?_register, if_neg hne, Option.or_none]
    exact h.others x hx

/-! ## Demands -/

theorem file_lt (h : m.Abreast S σ r m') {file : NodeId} (hf : m.place.file? = some file) :
    file < m.document.size :=
  h.opened (Place.opened_of_file? hf)

theorem section_lt (h : m.Abreast S σ r m') {sect : NodeId} (hs : m.place.section? = some sect) :
    sect < m.document.size :=
  h.opened (Place.opened_of_section? hs)

theorem parent_lt (h : m.Abreast S σ r m') {parent : NodeId} (hp : m.place.parent? = some parent) :
    parent < m.document.size := by
  obtain ⟨x, hx, -⟩ := Place.opened_of_parent? hp
  exact h.opened hx

theorem item_lt (h : m.Abreast S σ r m') {item : NodeId} (hi : m.place.item? = some item) :
    item < m.document.size :=
  h.opened (Place.opened_of_item? hi)

theorem settings_eq (h : m.Abreast S σ r m') : m'.settings = m.settings :=
  congrArg Configuration.settings h.carried.configuration

theorem tags_eq (h : m.Abreast S σ r m') : m'.tags = m.tags :=
  congrArg Configuration.tags h.carried.configuration

theorem isFile_iff (h : m.Abreast S σ r m') {id : NodeId} (hid : id < m.document.size) :
    (m'.document.node? (σ id)).any Node.isFile = (m.document.node? id).any Node.isFile := by
  rw [h.carried.document.node?_eq hid]
  cases m.document.node? id <;> rfl

theorem isItem_iff (h : m.Abreast S σ r m') {id : NodeId} (hid : id < m.document.size) :
    m'.IsItem (σ id) ↔ m.IsItem id := by
  rw [IsItem, IsItem, h.carried.document.node?_eq hid]
  cases m.document.node? id <;> rfl

theorem lift_bind {α : Type} (h : m.Abreast S σ r m') {x : Except Error α} {f f' : α → Building Unit}
    (hf : ∀ a, x = .ok a → Level S σ r ((f a).exec m) ((f' a).exec m')) :
    Level S σ r (((liftM x : Building α) >>= f).exec m) (((liftM x : Building α) >>= f').exec m') := by
  rw [Work.exec_lift_bind, Work.exec_lift_bind]
  cases x with
  | error e => exact ⟨h, rfl⟩
  | ok a => exact hf a rfl

theorem requireFile_bind (h : m.Abreast S σ r m') (title : String) {f f' : NodeId → Building Unit}
    (hf : ∀ file, m.place.file? = some file → Level S σ r ((f file).exec m) ((f' (σ file)).exec m')) :
    Level S σ r ((requireFile title >>= f).exec m) ((requireFile title >>= f').exec m') := by
  rw [Work.exec_bind, Work.exec_bind, exec_requireFile, exec_requireFile, h.place, Place.file?_renumber]
  cases hfile : m.place.file? with
  | none => exact ⟨h, rfl⟩
  | some file => exact hf file hfile

theorem withItem (h : m.Abreast S σ r m') (title : String) {take take' : NodeId → Building Unit}
    (ht : ∀ item, m.place.item? = some item → Level S σ r ((take item).exec m) ((take' (σ item)).exec m')) :
    Level S σ r ((withItem title take).exec m) ((withItem title take').exec m') := by
  rw [exec_withItem, exec_withItem, h.place, Place.item?_renumber, h.settings_eq]
  cases hitem : m.place.item? with
  | some item => exact ht item hitem
  | none => cases m.settings.strict <;> exact ⟨h, rfl⟩

/-! ## Files and sections -/

theorem openFile (h : m.Abreast S σ r m') (b : Block) :
    Level S σ r ((openFile b).exec m) ((openFile b).exec m') := by
  rw [Manual.openFile, Work.exec_read_bind, Work.exec_read_bind, h.place, Place.file?_renumber]
  cases m.place.file? with
  | some file => exact ⟨h, rfl⟩
  | none =>
    refine ⟨?_, rfl⟩
    show Abreast S σ r _ { m'.addNode (b.node (.file FileInfo.empty) none) with place := .file m'.document.size }
    rw [← h.carried.document.next_zero]
    refine h.openNode _ (fun p hp => absurd hp (by simp [Block.node])) fun hid => ?_
    obtain ⟨rfl, -⟩ := Prod.mk.inj (List.mem_singleton.1 hid)
    exact Nat.le_refl _

/-- A section is opened below corresponding files. -/
theorem openSectionNode (h : m.Abreast S σ r m') {file : NodeId} (hf : m.place.file? = some file) (n : Node)
    (hn : n.parent = some file) :
    Abreast S σ r { m.addNode n with place := .section file m.document.size }
      { m'.addNode (n.renumber σ) with place := .section (σ file) m'.document.size } := by
  have hfile := h.file_lt hf
  rw [← h.carried.document.next_zero]
  refine h.openNode (.section file m.document.size) (fun p hp => ?_) fun hid => ?_
  · obtain rfl := Option.some.inj (hn.symm.trans hp)
    exact hfile
  · simp only [Place.opened_section, List.mem_cons, Prod.mk.injEq, List.not_mem_nil, or_false] at hid
    rcases hid with ⟨rfl, -⟩ | ⟨rfl, -⟩
    · exact Nat.le_of_lt hfile
    · exact Nat.le_refl _

theorem openSection (h : m.Abreast S σ r m') (b : Block) :
    Level S σ r ((openSection b).exec m) ((openSection b).exec m') :=
  h.requireFile_bind b.title fun file hf => ⟨h.openSectionNode hf (b.node .section (some file)) rfl, rfl⟩

theorem openSubsection (h : m.Abreast S σ r m') (b : Block) :
    Level S σ r ((openSubsection b).exec m) ((openSubsection b).exec m') := by
  rw [Manual.openSubsection, Work.exec_read_bind, Work.exec_read_bind, h.place, Place.file?_renumber,
    Place.section?_renumber]
  cases hf : m.place.file? with
  | none => exact ⟨h, rfl⟩
  | some file =>
    cases hs : m.place.section? with
    | none => exact ⟨h, rfl⟩
    | some sect =>
      have hfile := h.file_lt hf
      have hsect := h.section_lt hs
      simp only [Option.map_some, Work.exec_ite]
      split
      · exact ⟨h, rfl⟩
      · refine ⟨?_, rfl⟩
        show Abreast S σ r _ { m'.addNode (b.node .subsection (some (σ sect))) with
          place := .subsection (σ file) (σ sect) m'.document.size }
        rw [← h.carried.document.next_zero]
        refine h.openNode _ (fun p hp => ?_) fun hid => ?_
        · obtain rfl := Option.some.inj hp
          exact hsect
        · simp only [Place.opened_subsection, List.mem_cons, Prod.mk.injEq, List.not_mem_nil, or_false]
            at hid
          rcases hid with ⟨rfl, -⟩ | ⟨rfl, -⟩ | ⟨rfl, -⟩
          · exact Nat.le_of_lt hfile
          · exact Nat.le_of_lt hsect
          · exact Nat.le_refl _

theorem changeFile (h : m.Abreast S σ r m') {file : NodeId} (hfile : file < m.document.size)
    (change : FileInfo → FileInfo) :
    Level S σ r ((changeFile file change).exec m) ((changeFile (σ file) change).exec m') := by
  rw [exec_changeFile, exec_changeFile, h.isFile_iff hfile, h.carried.document.title_eq hfile]
  split
  · exact ⟨h.modifyFile file change, rfl⟩
  · exact ⟨h, rfl⟩

theorem changeItem (h : m.Abreast S σ r m') {item : NodeId} (hitem : item < m.document.size)
    (change : ItemInfo → ItemInfo) :
    Level S σ r ((changeItem item change).exec m) ((changeItem (σ item) change).exec m') := by
  rw [exec_changeItem, exec_changeItem, h.carried.document.title_eq hitem]
  simp only [h.isItem_iff hitem]
  split
  · exact ⟨h.modifyItem item change, rfl⟩
  · exact ⟨h, rfl⟩

/-- No step makes a document smaller. -/
theorem lt_size_changeFile {file id : NodeId} {change : FileInfo → FileInfo} {m₁ : Manual}
    (hexec : (Manual.changeFile file change).exec m = (.ok (), m₁)) (hid : id < m.document.size) :
    id < m₁.document.size := by
  rw [exec_changeFile] at hexec
  split at hexec
  · obtain rfl := (Prod.mk.inj hexec).2
    exact hid.trans_eq (Document.size_modify _ _ _ (·.parent_withFile change)).symm
  · simp at hexec

theorem lt_size_changeItem {item id : NodeId} {change : ItemInfo → ItemInfo} {m₁ : Manual}
    (hexec : (Manual.changeItem item change).exec m = (.ok (), m₁)) (hid : id < m.document.size) :
    id < m₁.document.size := by
  rw [exec_changeItem] at hexec
  split at hexec
  · obtain rfl := (Prod.mk.inj hexec).2
    exact hid.trans_eq (Document.size_modify _ _ _ (·.parent_withItem change)).symm
  · simp at hexec

theorem addIncludes (h : m.Abreast S σ r m') (b : Block) :
    Level S σ r ((addIncludes b).exec m) ((addIncludes b).exec m') := by
  refine h.requireFile_bind b.title fun file hf => (h.changeFile (h.file_lt hf) _).bind fun m₁ m₁' hexec h₁ => ?_
  exact ⟨h₁.addChild (n := b.node .includes (some file)) (lt_size_changeFile hexec (h.file_lt hf)) rfl, rfl⟩

theorem addCommonCode (h : m.Abreast S σ r m') (b : Block) :
    Level S σ r ((addCommonCode b).exec m) ((addCommonCode b).exec m') :=
  h.requireFile_bind b.title fun _ hf => h.changeFile (h.file_lt hf) _

theorem describeFile (h : m.Abreast S σ r m') (b : Block) (change : FileInfo → FileInfo) :
    Level S σ r ((describeFile b change).exec m) ((describeFile b change).exec m') := by
  rw [Manual.describeFile, Work.exec_ite, Work.exec_ite]
  split
  · exact ⟨h, rfl⟩
  · exact h.requireFile_bind b.title fun _ hf => h.changeFile (h.file_lt hf) change

/-! ## Items -/

/-- A name that is taken is taken by nodes with the same origin. -/
theorem requireFree_eq (h : m.Abreast S σ r m') (title : String) {name : String} (hname : S name) :
    m'.references.requireFree m'.document title name = m.references.requireFree m.document title name := by
  rw [References.requireFree, References.requireFree, h.carried.names name hname]
  cases hget : m.references.get? name with
  | none => rfl
  | some previous =>
    simp only [Option.map_some, h.carried.document.originOf_eq (h.carried.listed name previous hget)]

/-- The section of a new item is the same in both, whether it is open or made for the item. -/
theorem itemSection (h : m.Abreast S σ r m') {file : NodeId} (hf : m.place.file? = some file) (origin : Origin) :
    ∃ sect m₁ m₁', (itemSection file origin).exec m = (.ok sect, m₁) ∧
      (Manual.itemSection (σ file) origin).exec m' = (.ok (σ sect), m₁') ∧ m₁.Abreast S σ r m₁' ∧
      sect < m₁.document.size ∧ file < m₁.document.size ∧ m₁.references = m.references ∧
      m₁'.references = m'.references := by
  have hfile := h.file_lt hf
  simp only [Manual.itemSection, Work.exec_read_bind]
  rw [h.place, Place.section?_renumber]
  cases hs : m.place.section? with
  | some sect => exact ⟨sect, m, m', rfl, rfl, h, h.section_lt hs, hfile, rfl, rfl⟩
  | none =>
    have hsize (n : Node) : (m.addNode n).document.size = m.document.size + 1 := Document.size_add _ _
    refine ⟨m.document.size, _, _, rfl, ?_,
      h.openSectionNode hf ⟨.section, "Section", "", [], origin, 0, some file⟩ rfl, ?_, ?_, rfl, rfl⟩
    · rw [h.carried.document.next_zero]
      rfl
    · exact Nat.lt_of_lt_of_eq (Nat.lt_succ_self _) (hsize _).symm
    · exact Nat.lt_of_lt_of_eq (Nat.lt_succ_of_lt hfile) (hsize _).symm

theorem declareItem (h : m.Abreast S σ r m') {b : Block} (hname : S b.subtitle) :
    Level S σ r ((declareItem b).exec m) ((declareItem b).exec m') := by
  refine h.requireFile_bind b.title fun file hf => ?_
  rw [Work.exec_read_bind, Work.exec_read_bind, h.requireFree_eq b.title hname]
  refine h.lift_bind fun _ hfree => h.lift_bind fun _ _ => ?_
  have fresh : m.references.get? b.subtitle = none := requireFree_eq_ok_iff.1 hfree
  obtain ⟨sect, m₁, m₁', hsect, hsect', h₁, hlt, hfile, href, href'⟩ := h.itemSection hf b.origin
  rw [Work.exec_bind_of_ok hsect, Work.exec_bind_of_ok hsect', exec_openItem (by rw [href, fresh]),
    exec_openItem (by rw [href', h.carried.names _ hname, fresh, Option.map_none])]
  refine ⟨?_, rfl⟩
  -- the item is put into its section, and then its name is registered
  have hopen := h₁.openNode (n := b.node (.item ItemInfo.empty) (some sect))
    (.item file sect m₁.document.size) (fun p hp => ?_) (fun hid => ?_)
  · have hnew : m₁.document.size < (m₁.document.add (b.node (.item ItemInfo.empty) (some sect))).size := by
      rw [Document.size_add]
      exact Nat.lt_succ_self _
    have hregister := hopen.register hname hnew
    show Abreast S σ r _ { (m₁'.addNode (b.node (.item ItemInfo.empty) (some (σ sect)))).register b.subtitle
      m₁'.document.size with place := .item (σ file) (σ sect) m₁'.document.size }
    rw [← h₁.carried.document.next_zero]
    exact hregister
  · obtain rfl := Option.some.inj hp
    exact hlt
  · simp only [Place.opened_item, List.mem_cons, Prod.mk.injEq, List.not_mem_nil, or_false] at hid
    rcases hid with ⟨rfl, -⟩ | ⟨rfl, -⟩ | ⟨rfl, -⟩
    · exact Nat.le_of_lt hfile
    · exact Nat.le_of_lt hlt
    · exact Nat.le_refl _

theorem labelItem (h : m.Abreast S σ r m') {item : NodeId} (hi : item < m.document.size) (label : Label)
    (b : Block) : Level S σ r ((labelItem item label b).exec m) ((labelItem (σ item) label b).exec m') := by
  refine h.lift_bind fun _ _ => ?_
  rw [Work.exec_read_bind, Work.exec_read_bind, h.tags_eq]
  refine h.lift_bind fun change _ => (h.changeItem hi change).bind fun m₁ m₁' hexec h₁ => ?_
  exact ⟨h₁.addChild (n := b.node label.kind (some item)) (lt_size_changeItem hexec hi) rfl, rfl⟩

/-! ## Effects -/

theorem declareAlias (h : m.Abreast S σ r m') {item : NodeId} (hi : item < m.document.size) (title : String)
    {name : String} (hname : S name) :
    Level S σ r ((declareAlias title item name).exec m) ((declareAlias title (σ item) name).exec m') ∧
      item < ((declareAlias title item name).exec m).2.document.size := by
  rw [exec_declareAlias, exec_declareAlias, h.carried.names name hname]
  cases hget : m.references.get? name with
  | none =>
    refine ⟨⟨(h.register hname hi).modifyItem item _, rfl⟩, ?_⟩
    exact hi.trans_eq (Document.size_modify _ _ _ (·.parent_withItem _)).symm
  | some owner =>
    refine ⟨⟨h, ?_⟩, hi⟩
    simp only [Option.map_some, h.carried.document.originOf_eq (h.carried.listed name owner hget)]

theorem declareAliases (h : m.Abreast S σ r m') {item : NodeId} (hi : item < m.document.size) (title : String)
    {names : List String} (hnames : ∀ name ∈ names, S name) :
    Level S σ r ((declareAliases title item names).exec m) ((declareAliases title (σ item) names).exec m') := by
  induction names generalizing m m' with
  | nil => exact ⟨h, rfl⟩
  | cons name names ih =>
    obtain ⟨hname, hrest⟩ := List.forall_mem_cons.1 hnames
    obtain ⟨hfirst, hlt⟩ := h.declareAlias hi title hname
    rcases hexec : (Manual.declareAlias title item name).exec m with ⟨x, m₁⟩
    rcases hexec' : (Manual.declareAlias title (σ item) name).exec m' with ⟨x', m₁'⟩
    rw [hexec, hexec'] at hfirst
    rw [hexec] at hlt
    obtain rfl : x' = x := hfirst.result
    have hmore := ih hfirst.manual hlt hrest
    cases x' with
    | ok _ =>
      rw [exec_declareAliases_of_ok hexec, exec_declareAliases_of_ok hexec']
      exact hmore
    | error e =>
      rw [exec_declareAliases_of_error hexec, exec_declareAliases_of_error hexec']
      exact ⟨hmore.manual, rfl⟩

theorem applyEffect (h : m.Abreast S σ r m') (effect : Effect) (title : String) {subtitle : String}
    (hnames : effect = .aliases → ∀ name ∈ listedNames subtitle, S name) :
    Level S σ r ((applyEffect effect title subtitle).exec m) ((applyEffect effect title subtitle).exec m') := by
  rw [Manual.applyEffect, Work.exec_read_bind, Work.exec_read_bind, h.place, Place.item?_renumber]
  cases hi : m.place.item? with
  | none => exact ⟨h, rfl⟩
  | some item =>
    cases effect with
    | status => exact ⟨h.modifyItem item _, rfl⟩
    | aliases => exact h.declareAliases (h.item_lt hi) title (hnames rfl)

/-! ## Images -/

/-- What is known of an image comes from its parent and from the file of its parent. -/
theorem imageInfo_eq (h : m.Abreast S σ r m') {parent : NodeId} (hp : parent < m.document.size) (kind : ImageKind)
    (number : Nat) (metadata : String) (body : List String) (origin : Origin) :
    m'.imageInfo (σ parent) kind number metadata body origin =
      m.imageInfo parent kind number metadata body origin := by
  have hd := h.carried.document
  obtain ⟨hfile, hsame⟩ := hd.fileOf_eq hp
  simp only [Manual.imageInfo, hd.fileInfoOf_eq hp, hsame, hd.originOf_eq hfile, hd.title_eq hp,
    hd.subtitle_eq hp, h.settings_eq]

theorem counts_iff (h : m.Abreast S σ r m') {parent : NodeId} (hp : parent < m.document.size) (kind : ImageKind) :
    m'.Counts (σ parent) kind ↔ m.Counts parent kind := by
  rw [Counts, Counts, h.isItem_iff hp]

theorem addImage (h : m.Abreast S σ r m') {parent : NodeId} (hp : parent < m.document.size) (kind : ImageKind)
    (label subtitle metadata : String) (body : List String) (origin : Origin) :
    Level S σ r ((addImage parent kind label subtitle metadata body origin).exec m)
        ((addImage (σ parent) kind label subtitle metadata body origin).exec m') ∧
      parent < ((addImage parent kind label subtitle metadata body origin).exec m).2.document.size := by
  by_cases hcounts : m.Counts parent kind
  · obtain ⟨info, hinfo, hexec⟩ := exec_addImage_of_counts hcounts label subtitle metadata body origin
    obtain ⟨info', hinfo', hexec'⟩ :=
      exec_addImage_of_counts ((h.counts_iff hp kind).2 hcounts) label subtitle metadata body origin
    rw [h.imageInfo_eq hp, h.carried.document.counted_eq hp, hinfo] at hinfo'
    obtain rfl := Except.ok.inj hinfo'
    rw [hexec, hexec']
    have hcounted : parent < (m.countImage parent kind).document.size :=
      hp.trans_eq (Document.size_modify _ _ _ (·.parent_counting kind)).symm
    refine ⟨⟨(h.countImage parent kind).addChild hcounted rfl, rfl⟩, ?_⟩
    exact Nat.lt_of_lt_of_eq (Nat.lt_succ_of_lt hcounted) (Document.size_add _ _).symm
  · rw [exec_addImage_of_not_counts hcounts,
      exec_addImage_of_not_counts ((h.counts_iff hp kind).not.2 hcounts), h.carried.document.title_eq hp]
    exact ⟨⟨h, rfl⟩, hp⟩

theorem addImageLines (h : m.Abreast S σ r m') {parent : NodeId} (hp : parent < m.document.size)
    (kind : ImageKind) (label subtitle metadata : String) (origin : Origin) (lines : List String) :
    Level S σ r ((addImageLines parent kind label subtitle metadata origin lines).exec m)
      ((addImageLines (σ parent) kind label subtitle metadata origin lines).exec m') := by
  induction lines generalizing m m' subtitle with
  | nil => exact ⟨h, rfl⟩
  | cons line lines ih =>
    obtain ⟨hfirst, hlt⟩ := h.addImage hp kind label subtitle metadata [line] origin
    refine hfirst.bind fun m₁ m₁' hexec h₁ => ih h₁ ?_ ""
    rwa [hexec] at hlt

theorem addImages (h : m.Abreast S σ r m') (kind : ImageKind) (label : String) (each : Bool) (b : Block) :
    Level S σ r ((addImages kind label each b).exec m) ((addImages kind label each b).exec m') := by
  rw [Manual.addImages, Work.exec_read_bind, Work.exec_read_bind, h.place, Place.parent?_renumber]
  cases hp : m.place.parent? with
  | none => exact ⟨h, rfl⟩
  | some parent =>
    have hlt := h.parent_lt hp
    simp only [Option.map_some, Work.exec_ite]
    split
    · exact h.addImageLines hlt kind label b.subtitle b.metadata b.origin b.body
    · exact (h.addImage hlt kind label b.subtitle b.metadata b.body b.origin).1

/-! ## Blocks with a rule -/

section Ruled

variable {b : Block} {rule : Rule} (h : m.Abreast S σ r m') (hrules : m.rules.AliasesByTitle)
  (hrule : m.rules.get? b.title = some rule) (hnames : ∀ name ∈ declaredBy b.title b.subtitle, S name)
include h hrules hrule hnames

theorem addShaped {parent : NodeId} (hp : parent < m.document.size) :
    Level S σ r ((addShaped rule parent b).exec m) ((addShaped rule (σ parent) b).exec m') := by
  refine h.lift_bind fun ⟨kind, subtitle, body⟩ hshaped => ?_
  have hadd := h.addChild (n := ⟨kind, b.title, subtitle, body, b.origin, 0, some parent⟩) hp rfl
  rw [Work.exec_bind_of_ok (exec_append _ _), Work.exec_bind_of_ok (exec_append _ _)]
  cases heffect : rule.effect with
  | none => exact ⟨hadd, rfl⟩
  | some effect =>
    refine hadd.applyEffect effect b.title ?_
    rintro rfl
    -- only a list of aliases has this effect, and its subtitle is taken as it is
    obtain ⟨htitle, -, hlabel⟩ := hrules b.title rule hrule heffect
    rw [declaredBy_aliases htitle] at hnames
    rw [hlabel] at hshaped
    obtain ⟨_, -, hmade⟩ := bind_eq_ok hshaped
    obtain ⟨-, hrest⟩ := Prod.mk.inj (Except.ok.inj hmade)
    obtain ⟨rfl, -⟩ := Prod.mk.inj hrest
    exact hnames

theorem addByShape : Level S σ r ((addByShape rule b).exec m) ((addByShape rule b).exec m') := by
  rw [Manual.addByShape, Work.exec_read_bind, Work.exec_read_bind, h.place, Place.parent?_renumber]
  cases hp : m.place.parent? with
  | none => exact ⟨h, rfl⟩
  | some parent =>
    simp only [Option.map_some]
    split
    · exact h.addImages .figure b.title false b
    · exact h.withItem b.title fun _ _ => h.addImages .example b.title false b
    · exact h.addShaped hrules hrule hnames (h.parent_lt hp)

theorem addRuled : Level S σ r ((addRuled rule b).exec m) ((addRuled rule b).exec m') := by
  unfold Manual.addRuled
  split
  · exact h.withItem b.title fun _ _ => h.addByShape hrules hrule hnames
  · exact h.addByShape hrules hrule hnames

end Ruled

/-! ## Any block -/

theorem addTitled (h : m.Abreast S σ r m') (hrules : m.rules.AliasesByTitle) {b : Block}
    (hnames : ∀ name ∈ declaredBy b.title b.subtitle, S name) :
    Level S σ r ((addTitled b).exec m) ((addTitled b).exec m') := by
  rw [Manual.addTitled, Work.exec_read_bind, Work.exec_read_bind, h.rules]
  cases hrule : m.rules.get? b.title with
  | some rule => exact h.addRuled hrules hrule hnames
  | none =>
    simp only [Work.exec_ite]
    split
    · next htitle =>
      rw [declaredBy_item htitle] at hnames
      exact h.declareItem (hnames b.subtitle (List.mem_singleton.2 rfl))
    · cases Label.ofTitle? b.title with
      | some label => exact h.withItem b.title fun item hi => h.labelItem (h.item_lt hi) label b
      | none => exact ⟨h, rfl⟩

theorem defineRule (h : m.Abreast S σ r m') (b : Block) :
    Level S σ r ((defineRule b).exec m) ((defineRule b).exec m') := by
  rw [Manual.defineRule, Work.exec_read_bind, Work.exec_read_bind, h.rules]
  refine h.lift_bind fun rules _ => ⟨?_, rfl⟩
  exact ⟨⟨h.carried.document, h.carried.names, h.carried.listed, h.carried.configuration⟩, rfl, h.place, h.opened,
    h.others⟩

theorem addInside (h : m.Abreast S σ r m') (hrules : m.rules.AliasesByTitle) {b : Block}
    (hnames : ∀ name ∈ declaredBy b.title b.subtitle, S name) :
    Level S σ r ((addInside b).exec m) ((addInside b).exec m') := by
  unfold Manual.addInside
  split
  · exact h.openSection b
  · exact h.openSubsection b
  · exact h.addIncludes b
  · exact h.addCommonCode b
  · exact h.describeFile b _
  · exact h.describeFile b _
  · exact h.describeFile b _
  · exact h.requireFile_bind b.title fun _ _ => h.addImages .figure "Figure" false b
  · exact h.requireFile_bind b.title fun _ _ => h.addImages .figure "Figure" true b
  · exact h.withItem b.title fun _ _ => h.addImages .example "Example" false b
  · exact h.withItem b.title fun _ _ => h.addImages .example "Example" true b
  · exact h.addTitled hrules hnames

/-- **A block does the same in both manuals.** -/
theorem addBlock (h : m.Abreast S σ r m') (hrules : m.rules.AliasesByTitle) {b : Block}
    (hnames : ∀ name ∈ declaredBy b.title b.subtitle, S name) :
    Level S σ r ((addBlock b).exec m) ((addBlock b).exec m') := by
  unfold Manual.addBlock
  split
  · exact h.defineRule b
  · exact h.openFile b
  · exact h.openFile b
  · rw [Work.exec_read_bind, Work.exec_read_bind, h.place, Place.file?_renumber, Option.isNone_map, h.settings_eq,
      Work.exec_ite, Work.exec_ite]
    split
    · exact ⟨h, rfl⟩
    · exact h.addInside hrules hnames

theorem accept (h : m.Abreast S σ r m') (hrules : m.rules.AliasesByTitle) {b : Block}
    (hnames : ∀ name ∈ declaredBy b.title b.subtitle, S name) :
    Level S σ r ((accept .code b).exec m) ((accept .code b).exec m') := by
  unfold Manual.accept
  cases Directive.ofTitle? b.title with
  | some directive => exact ⟨h, rfl⟩
  | none => exact h.addBlock hrules hnames

/-! ## From blocks to sources -/

theorem close (h : m.Abreast S σ r m') :
    Abreast S σ r { m with place := m.place.closeItem } { m' with place := m'.place.closeItem } where
  carried := ⟨h.carried.document, h.carried.names, h.carried.listed, h.carried.configuration⟩
  rules := h.rules
  place := by
    show m'.place.closeItem = _
    rw [h.place, Place.closeItem_renumber]
  opened hid := h.opened (Place.opened_closeItem hid)
  others := h.others

/-- The step: an event. -/
theorem step (h : m.Abreast S σ r m') (hrules : m.rules.AliasesByTitle) {event : Event}
    (hnames : ∀ b, event = .block b → ∀ name ∈ declaredBy b.title b.subtitle, S name) :
    (m.step .code event).1.Abreast S σ r (m'.step .code event).1 ∧
      (m'.step .code event).2 = (m.step .code event).2 := by
  cases event with
  | gap => exact ⟨h.close, rfl⟩
  | shallow title origin => exact ⟨h, rfl⟩
  | block b =>
    obtain ⟨hmanual, hresult⟩ := h.accept hrules (hnames b rfl)
    simp only [Manual.step, Manual.take, manual_build, error_build_congr hresult, and_true]
    exact hmanual

/-- The run: events in order. -/
theorem stepAll (h : m.Abreast S σ r m')
    (hrules : m.rules.AliasesByTitle ∧ m.baseRules.AliasesByTitle) {events : List Event}
    (hnames : ∀ b, Event.block b ∈ events → ∀ name ∈ declaredBy b.title b.subtitle, S name) :
    (m.stepAll .code events).1.Abreast S σ r (m'.stepAll .code events).1 ∧
      (m'.stepAll .code events).2 = (m.stepAll .code events).2 := by
  induction events generalizing m m' with
  | nil => exact ⟨h, rfl⟩
  | cons event events ih =>
    obtain ⟨hstep, hfound⟩ := h.step hrules.1 fun b hb => hnames b (hb ▸ List.mem_cons_self)
    have hkept := kept_aliasesByTitle.stepAll .code [event] hrules
    obtain ⟨hrest, hmore⟩ := ih hstep hkept fun b hb => hnames b (List.mem_cons_of_mem event hb)
    refine ⟨hrest, ?_⟩
    simp only [Manual.stepAll, hfound, hmore]

end Abreast

theorem Carried.start (h : m.Carried S σ m') : m.start.Abreast S σ m.references m'.start where
  carried := ⟨h.document, h.names, h.listed, h.configuration⟩
  rules := congrArg Configuration.baseRules h.configuration
  place := rfl
  opened hid := absurd hid List.not_mem_nil
  others _ _ := rfl

/-- **A source that declares certain names only reads the same into both manuals, and leaves all other names
alone.** -/
theorem Carried.readCode (h : m.Carried S σ m')
    (hrules : m.rules.AliasesByTitle ∧ m.baseRules.AliasesByTitle) (file : String) (lines : List String)
    (hnames : ∀ name ∈ declaredNames lines, S name) :
    (m.readCode file lines).1.Carried S σ (m'.readCode file lines).1 ∧
      (m'.readCode file lines).2 = (m.readCode file lines).2 ∧
      ∀ name, ¬S name → (m.readCode file lines).1.references.get? name = m.references.get? name := by
  have hblocks : ∀ b, Event.block b ∈ Source.events file lines →
      ∀ name ∈ declaredBy b.title b.subtitle, S name := by
    intro b hb name hname
    exact hnames name (Source.mem_declaredNames hb hname)
  obtain ⟨hrun, hfound⟩ := h.start.stepAll (kept_aliasesByTitle.start hrules) hblocks
  exact ⟨hrun.carried, hfound, hrun.others⟩

end Manual

end ScadManual
