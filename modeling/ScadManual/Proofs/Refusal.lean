import ScadManual.Proofs.Forest
import ScadManual.Proofs.Lookup

/-!
# Refused blocks

A refused block leaves the manual as it was.  Blocks change several things one after the other, and an error ends
them wherever it occurs; what makes refused blocks clean is that every check comes before the first change, and
that a change which could fail, such as declaring a name or asking for an image, cannot once the checks are
passed.  There is one kind of block that is taken in part: a list of aliases that an open item can take adds its
label and declares those of its names that are free, whatever the others do.  Which rules declare aliases is
settled before anything is read, since rules that are defined later have no effects.
-/

namespace ScadManual

/-! ## Rules that declare aliases -/

/-- Only the rules of the two titles for it declare aliases, and those need an open item and take no body. -/
def Registry.AliasesByTitle (r : Registry) : Prop :=
  ∀ title rule, r.get? title = some rule → rule.effect = some .aliases →
    (title = "Alias" ∨ title = "Aliases") ∧ rule.demand = .item ∧ rule.shape = .label

/-- A rule that metadata spells has no effect besides its block. -/
theorem Rule.effect_of_parse {s : String} {rule : Rule} (h : Rule.parse s = .ok rule) :
    rule.effect = none := by
  unfold parse ofDict at h
  extract_lets demand make at h
  have hmake {shape : Shape} (hs : make shape = .ok rule) : rule.effect = none := by
    obtain rfl := Except.ok.inj hs
    rfl
  repeat' split at h
  all_goals first | exact hmake h | simp at h

namespace Registry

theorem aliasesByTitle_empty : Registry.empty.AliasesByTitle := by
  intro title rule h
  simp [Registry.empty, get?] at h

theorem aliasesByTitle_builtin : Registry.builtin.AliasesByTitle := by
  intro title rule h heffect
  simp only [builtin, get?, lookup_cons] at h
  split at h
  · obtain rfl := Option.some.inj h
    simp at heffect
  · split at h
    · next ht =>
      obtain rfl := Option.some.inj h
      exact ⟨.inl ht, rfl, rfl⟩
    · split at h
      · next ht =>
        obtain rfl := Option.some.inj h
        exact ⟨.inr ht, rfl, rfl⟩
      · split at h
        · obtain rfl := Option.some.inj h
          simp at heffect
        · simp at h

theorem AliasesByTitle.define {r r' : Registry} {title metadata : String} (hr : r.AliasesByTitle)
    (h : r.define title metadata = .ok r') : r'.AliasesByTitle := by
  unfold Registry.define at h
  split at h
  · next rule hparse =>
    obtain rfl := Except.ok.inj h
    intro t rule' hget heffect
    rw [get?_insert] at hget
    split at hget
    · obtain rfl := Option.some.inj hget
      rw [Rule.effect_of_parse hparse] at heffect
      simp at heffect
    · exact hr t rule' hget heffect
  · simp at h

end Registry

namespace Manual

/-- No source can make another block declare aliases. -/
theorem kept_aliasesByTitle : Kept fun m => m.rules.AliasesByTitle ∧ m.baseRules.AliasesByTitle where
  directive := by
    intro m m' hfixed h
    have hrules : m'.rules = m.rules := congrArg Fixed.rules hfixed
    have hbase : m'.baseRules = m.baseRules := congrArg Fixed.baseRules hfixed
    rw [hrules, hbase]
    exact h
  edit := by
    intro m m' b he h
    cases he with
    | rules hrules => exact ⟨h.1.define hrules, h.2⟩
    | _ => exact h
  close h := h
  start h := ⟨h.2, h.2⟩
  rebase h := ⟨h.1, h.1⟩

/-! ## Names that are free -/

/-- The names of a list that nothing has yet, each once. -/
def freeNames (m : Manual) (names : List String) : List String :=
  (names.filter fun name => (m.references.get? name).isNone).eraseDups

/-- What is known of an item with further names. -/
def alsoNamed (names : List String) (info : ItemInfo) : ItemInfo := { info with aliases := info.aliases ++ names }

/-- Gives an item further names. -/
def giveNames (m : Manual) (item : NodeId) (names : List String) : Manual :=
  { m with library :=
      ⟨(m.modifyItem item (alsoNamed names)).document, ⟨m.references.entries ++ names.map (·, item)⟩⟩ }

theorem freeNames_cons_of_taken {m : Manual} {name : String} {item : NodeId}
    (h : m.references.get? name = some item) (names : List String) :
    m.freeNames (name :: names) = m.freeNames names := by
  simp [freeNames, h]

theorem not_mem_freeNames {m : Manual} {name : String} {item : NodeId}
    (h : m.references.get? name = some item) (names : List String) : name ∉ m.freeNames names := by
  simp [freeNames, h]

theorem isNone_get?_giveNames (m : Manual) (item : NodeId) (name x : String) :
    ((m.giveNames item [name]).references.get? x).isNone =
      ((m.references.get? x).isNone && x != name) := by
  have hget : (m.giveNames item [name]).references.get? x =
      (m.references.entries ++ [(name, item)]).lookup x := rfl
  rw [hget, List.lookup_append, lookup_cons, Option.isNone_or, References.get?]
  by_cases hx : x = name <;> simp [hx]

theorem freeNames_cons_of_free {m : Manual} {name : String} (h : m.references.get? name = none)
    (item : NodeId) (names : List String) :
    m.freeNames (name :: names) = name :: (m.giveNames item [name]).freeNames names := by
  simp only [freeNames, isNone_get?_giveNames]
  rw [List.filter_cons_of_pos (by simp [h]), List.eraseDups_cons, List.filter_filter]
  congr 2
  refine List.filter_congr fun x _ => ?_
  rw [Bool.and_comm]
  rfl

/-! ## Giving names one after the other -/

theorem withItem_withItem (n : Node) (f g : ItemInfo → ItemInfo) : (n.withItem f).withItem g = n.withItem (g ∘ f) := by
  obtain ⟨kind, title, subtitle, body, origin, figures, parent⟩ := n
  cases kind <;> rfl

theorem withItem_id (n : Node) {f : ItemInfo → ItemInfo} (hf : ∀ info, f info = info) : n.withItem f = n := by
  unfold Node.withItem
  split
  · next info hk => rw [hf, ← hk]
  · rfl

theorem document_modifyItem_twice (m : Manual) (item : NodeId) (f g : ItemInfo → ItemInfo) :
    ((m.modifyItem item f).modifyItem item g).document = (m.modifyItem item (g ∘ f)).document := by
  refine Document.ext_node? fun id => ?_
  simp only [node?_modifyItem]
  split
  · rw [Option.map_map]
    congr 1
    funext n
    exact withItem_withItem n f g
  · rfl

theorem document_modifyItem_id (m : Manual) (item : NodeId) {f : ItemInfo → ItemInfo} (hf : ∀ info, f info = info) :
    (m.modifyItem item f).document = m.document := by
  refine Document.ext_node? fun id => ?_
  rw [node?_modifyItem]
  split
  · rw [funext fun n => withItem_id n hf, Option.map_id']
  · rfl

theorem alsoNamed_nil (info : ItemInfo) : alsoNamed [] info = info := by
  rw [alsoNamed, List.append_nil]

theorem alsoNamed_comp (names more : List String) : alsoNamed more ∘ alsoNamed names = alsoNamed (names ++ more) := by
  funext info
  simp only [Function.comp_apply, alsoNamed, List.append_assoc]

theorem giveNames_nil (m : Manual) (item : NodeId) : m.giveNames item [] = m := by
  rw [giveNames, document_modifyItem_id m item alsoNamed_nil, List.map_nil, List.append_nil]
  rfl

theorem giveNames_append (m : Manual) (item : NodeId) (names more : List String) :
    (m.giveNames item names).giveNames item more = m.giveNames item (names ++ more) := by
  have hentries : (m.references.entries ++ names.map (·, item)) ++ more.map (·, item) =
      m.references.entries ++ (names ++ more).map (·, item) := by
    rw [List.map_append, List.append_assoc]
  have hdocument := m.document_modifyItem_twice item (alsoNamed names) (alsoNamed more)
  rw [alsoNamed_comp] at hdocument
  rw [giveNames, giveNames, giveNames, ← hentries, ← hdocument]
  rfl

theorem exec_declareAlias_of_free {m : Manual} {name : String} (h : m.references.get? name = none)
    (title : String) (item : NodeId) :
    (declareAlias title item name).exec m = (.ok (), m.giveNames item [name]) := by
  rw [exec_declareAlias, h]
  rfl

theorem exec_declareAlias_of_taken {m : Manual} {name : String} {owner : NodeId}
    (h : m.references.get? name = some owner) (title : String) (item : NodeId) :
    (declareAlias title item name).exec m =
      (.error (.duplicate title name (References.originOf m.document owner)), m) := by
  rw [exec_declareAlias, h]

/-- **Of a list of aliases just the free ones are declared, and there is an error just when others are
listed.** -/
theorem declareAliases_spec (m : Manual) (title : String) (item : NodeId) (names : List String) :
    ((declareAliases title item names).exec m).2 = m.giveNames item (m.freeNames names) ∧
      (((declareAliases title item names).exec m).1 = .ok () ↔ m.freeNames names = names) := by
  induction names generalizing m with
  | nil => exact ⟨(m.giveNames_nil item).symm, by simp [declareAliases, freeNames]⟩
  | cons name names ih =>
    cases hget : m.references.get? name with
    | none =>
      obtain ⟨hmanual, herror⟩ := ih (m.giveNames item [name])
      rw [exec_declareAliases_of_ok (exec_declareAlias_of_free hget title item), freeNames_cons_of_free hget item]
      constructor
      · rw [hmanual, giveNames_append]
        rfl
      · rw [List.cons_inj_right, ← herror]
    | some owner =>
      rw [exec_declareAliases_of_error (exec_declareAlias_of_taken hget title item), freeNames_cons_of_taken hget]
      refine ⟨(ih m).1, by simp, fun hall => ?_⟩
      have hmem : name ∈ m.freeNames names := hall ▸ List.mem_cons_self
      exact absurd hmem (not_mem_freeNames hget names)

/-! ## Errors that come before every change -/

/-- Building that leaves the manual as it was whenever an error ends it. -/
def Clean {α : Type} (m : Manual) (x : Building α) : Prop := ∀ e m', x.exec m = (.error e, m') → m' = m

section Clean

variable {α β : Type} {m : Manual} {b : Block}

/-- What gives a value is not ended by an error. -/
theorem clean_of_ok {x : Building α} {a : α} {m' : Manual} (h : x.exec m = (.ok a, m')) : m.Clean x := by
  intro e m'' he
  rw [h] at he
  simp at he

/-- A check changes nothing. -/
theorem clean_lift (x : Except Error α) : m.Clean (liftM x : Building α) := by
  intro e m' he
  exact (Prod.mk.inj he).2.symm

theorem clean_lift_bind {x : Except Error α} {f : α → Building β} (hf : ∀ a, x = .ok a → m.Clean (f a)) :
    m.Clean ((liftM x : Building α) >>= f) := by
  intro e m' he
  rw [Work.exec_lift_bind] at he
  cases x with
  | error e' => exact (Prod.mk.inj he).2.symm
  | ok a => exact hf a rfl e m' he

theorem clean_read_bind {g : Manual → α} {f : α → Building β} (hf : m.Clean (f (g m))) :
    m.Clean (Work.read g >>= f) := hf

/-- After a step that is clean nothing fails. -/
theorem Clean.bind_ok {x : Building α} {f : α → Building β} (hx : m.Clean x)
    (hf : ∀ a m', x.exec m = (.ok a, m') → ∃ c m'', (f a).exec m' = (.ok c, m'')) : m.Clean (x >>= f) := by
  intro e m' he
  rcases hexec : x.exec m with ⟨r, mid⟩
  cases r with
  | error e' =>
    rw [Work.exec_bind_of_error hexec] at he
    obtain rfl := (Prod.mk.inj he).2
    exact hx e' _ hexec
  | ok a =>
    obtain ⟨c, m'', hlast⟩ := hf a mid hexec
    rw [Work.exec_bind_of_ok hexec, hlast] at he
    simp at he

theorem clean_ite {c : Prop} [Decidable c] {x y : Building α} (hx : c → m.Clean x) (hy : ¬c → m.Clean y) :
    m.Clean (if c then x else y) := by
  split
  · next hc => exact hx hc
  · next hc => exact hy hc

theorem clean_requireFile_bind {title : String} {f : NodeId → Building α}
    (hf : ∀ file, m.place.file? = some file → m.Clean (f file)) : m.Clean (requireFile title >>= f) := by
  intro e m' he
  rw [Work.exec_bind, exec_requireFile] at he
  cases hfile : m.place.file? with
  | none =>
    rw [hfile] at he
    exact (Prod.mk.inj he).2.symm
  | some file =>
    rw [hfile] at he
    exact hf file hfile e m' he

theorem clean_withItem {title : String} {take : NodeId → Building Unit}
    (ht : ∀ item, m.place.item? = some item → m.Clean (take item)) : m.Clean (withItem title take) := by
  intro e m' he
  rw [exec_withItem] at he
  cases hitem : m.place.item? with
  | some item =>
    rw [hitem] at he
    exact ht item hitem e m' he
  | none =>
    simp only [hitem] at he
    split at he
    · exact (Prod.mk.inj he).2.symm
    · simp at he

/-- What is known of a file is not changed when it is refused. -/
theorem clean_changeFile (file : NodeId) (change : FileInfo → FileInfo) : m.Clean (changeFile file change) := by
  intro e m' he
  rw [exec_changeFile] at he
  split at he
  · simp at he
  · exact (Prod.mk.inj he).2.symm

theorem clean_changeItem (item : NodeId) (change : ItemInfo → ItemInfo) : m.Clean (changeItem item change) := by
  intro e m' he
  rw [exec_changeItem] at he
  split at he
  · simp at he
  · exact (Prod.mk.inj he).2.symm

/-! ## Blocks with a title of their own -/

theorem clean_openFile : m.Clean (openFile b) := by
  refine clean_read_bind ?_
  cases m.place.file? with
  | some file => exact clean_lift _
  | none => exact clean_of_ok rfl

theorem clean_openSection : m.Clean (openSection b) :=
  clean_requireFile_bind fun _ _ => clean_of_ok rfl

theorem clean_openSubsection : m.Clean (openSubsection b) := by
  refine clean_read_bind ?_
  split
  · exact clean_ite (fun _ => clean_lift _) fun _ => clean_of_ok rfl
  · exact clean_lift _

theorem clean_addIncludes : m.Clean (addIncludes b) :=
  clean_requireFile_bind fun _ _ => (clean_changeFile _ _).bind_ok fun _ _ _ => ⟨_, _, rfl⟩

theorem clean_addCommonCode : m.Clean (addCommonCode b) :=
  clean_requireFile_bind fun _ _ => clean_changeFile _ _

theorem clean_describeFile (change : FileInfo → FileInfo) : m.Clean (describeFile b change) :=
  clean_ite (fun _ => clean_lift _) fun _ => clean_requireFile_bind fun _ _ => clean_changeFile _ _

theorem clean_defineRule : m.Clean (defineRule b) :=
  clean_read_bind (clean_lift_bind fun _ _ => clean_of_ok rfl)

/-! ## Items and images -/

/-- The name of an item is found to be free before a section is opened for it, and is still free afterwards. -/
theorem clean_declareItem : m.Clean (declareItem b) := by
  refine clean_requireFile_bind fun file hf => clean_read_bind (clean_lift_bind fun _ hfree => ?_)
  refine clean_lift_bind fun _ _ => Clean.bind_ok ?_ fun sect m' hsect => ?_
  · refine clean_read_bind ?_
    cases m.place.section? with
    | some sect => exact clean_of_ok rfl
    | none => exact clean_of_ok rfl
  · obtain ⟨-, -, hreferences⟩ := (itemSection_edits (b := b) hf).2 sect m' hsect
    exact ⟨_, _, exec_openItem (by rw [hreferences, requireFree_eq_ok_iff.1 hfree])⟩

theorem clean_labelItem (item : NodeId) (label : Label) : m.Clean (labelItem item label b) :=
  clean_lift_bind fun _ _ => clean_read_bind <| clean_lift_bind fun _ _ =>
    (clean_changeItem _ _).bind_ok fun _ _ _ => ⟨_, _, rfl⟩

/-- Images on the lines of a block are all added, or none is. -/
theorem clean_addImageLines (parent : NodeId) (kind : ImageKind) (label subtitle metadata : String)
    (origin : Origin) (lines : List String) :
    m.Clean (addImageLines parent kind label subtitle metadata origin lines) := by
  by_cases hcounts : m.Counts parent kind
  · obtain ⟨m', hexec⟩ := exec_addImageLines_of_counts hcounts label subtitle metadata origin lines
    exact clean_of_ok hexec
  · cases lines with
    | nil => exact clean_of_ok rfl
    | cons line lines =>
      intro e m' he
      rw [addImageLines, Work.exec_bind_of_error (exec_addImage_of_not_counts hcounts label subtitle metadata [line]
        origin)] at he
      exact (Prod.mk.inj he).2.symm

theorem clean_addImage (parent : NodeId) (kind : ImageKind) (label subtitle metadata : String) (body : List String)
    (origin : Origin) : m.Clean (addImage parent kind label subtitle metadata body origin) := by
  by_cases hcounts : m.Counts parent kind
  · obtain ⟨info, -, hexec⟩ := exec_addImage_of_counts hcounts label subtitle metadata body origin
    exact clean_of_ok hexec
  · intro e m' he
    rw [exec_addImage_of_not_counts hcounts] at he
    exact (Prod.mk.inj he).2.symm

theorem clean_addImages (kind : ImageKind) (label : String) (each : Bool) : m.Clean (addImages kind label each b) := by
  refine clean_read_bind ?_
  cases m.place.parent? with
  | none => exact clean_lift _
  | some parent =>
    exact clean_ite (fun _ => clean_addImageLines _ _ _ _ _ _ _) fun _ => clean_addImage _ _ _ _ _ _ _

/-! ## Blocks with a rule -/

/-- A block that declares aliases of an open item. -/
structure DeclaresAliases (m : Manual) (b : Block) (item : NodeId) : Prop where
  title : b.title = "Alias" ∨ b.title = "Aliases"
  rule : ∃ rule, m.rules.get? b.title = some rule ∧ rule.effect = some .aliases
  opened : m.place.item? = some item
  noBody : b.body = []

section Ruled

variable (hm : m.rules.AliasesByTitle)
include hm

section

variable (hno : ∀ item, ¬m.DeclaresAliases b item)
include hno

/-- When the node of a block is in the document, only aliases can still fail. -/
theorem clean_addShaped {rule : Rule} {parent : NodeId} (hrule : m.rules.get? b.title = some rule) :
    m.Clean (addShaped rule parent b) := by
  refine clean_lift_bind fun ⟨kind, subtitle, body⟩ hshaped => ?_
  cases heffect : rule.effect with
  | none => exact clean_of_ok rfl
  | some effect =>
    cases hitem : m.place.item? with
    | none =>
      have happly (n : Node) : (applyEffect effect b.title subtitle).exec (m.addNode n) = (.ok (), m.addNode n) := by
        have hplace : (m.addNode n).place.item? = none := hitem
        rw [applyEffect, Work.exec_read_bind, hplace]
        rfl
      exact clean_of_ok ((Work.exec_bind_of_ok (exec_append _ _) _).trans (happly _))
    | some item =>
      cases effect with
      | status =>
        refine Clean.bind_ok (clean_of_ok (exec_append _ _)) fun id m' hexec => ?_
        obtain rfl := (Prod.mk.inj hexec).2
        have hplace : (m.addNode ⟨kind, b.title, subtitle, body, b.origin, 0, some parent⟩).place.item? = some item :=
          hitem
        simp only [applyEffect, Work.exec_read_bind, hplace]
        exact ⟨_, _, rfl⟩
      | aliases =>
        obtain ⟨htitle, -, hshape⟩ := hm _ _ hrule heffect
        rw [hshape] at hshaped
        obtain ⟨_, hbody, -⟩ := bind_eq_ok hshaped
        exact absurd ⟨htitle, ⟨rule, hrule, heffect⟩, hitem, requireNoBody_eq_ok_iff.1 hbody⟩ (hno item)

theorem clean_addByShape {rule : Rule} (hrule : m.rules.get? b.title = some rule) : m.Clean (addByShape rule b) := by
  refine clean_read_bind ?_
  cases m.place.parent? with
  | none => exact clean_lift _
  | some parent =>
    simp only
    split
    · exact clean_addImages _ _ _
    · exact clean_withItem fun _ _ => clean_addImages _ _ _
    · exact clean_addShaped hm hno hrule

theorem clean_addRuled {rule : Rule} (hrule : m.rules.get? b.title = some rule) : m.Clean (addRuled rule b) := by
  rw [addRuled]
  split
  · exact clean_withItem fun _ _ => clean_addByShape hm hno hrule
  · exact clean_addByShape hm hno hrule

/-! ## Any block -/

theorem clean_addTitled : m.Clean (addTitled b) := by
  refine clean_read_bind ?_
  cases hrule : m.rules.get? b.title with
  | some rule => exact clean_addRuled hm hno hrule
  | none =>
    refine clean_ite (fun _ => clean_declareItem) fun _ => ?_
    split
    · exact clean_withItem fun _ _ => clean_labelItem _ _
    · exact clean_lift _

theorem clean_addInside : m.Clean (addInside b) := by
  unfold addInside
  split
  · exact clean_openSection
  · exact clean_openSubsection
  · exact clean_addIncludes
  · exact clean_addCommonCode
  · exact clean_describeFile _
  · exact clean_describeFile _
  · exact clean_describeFile _
  · exact clean_requireFile_bind fun _ _ => clean_addImages _ _ _
  · exact clean_requireFile_bind fun _ _ => clean_addImages _ _ _
  · exact clean_withItem fun _ _ => clean_addImages _ _ _
  · exact clean_withItem fun _ _ => clean_addImages _ _ _
  · exact clean_addTitled hm hno

theorem clean_addBlock : m.Clean (addBlock b) := by
  unfold addBlock
  split
  · exact clean_defineRule
  · exact clean_openFile
  · exact clean_openFile
  · exact clean_read_bind (clean_ite (fun _ => clean_lift _) fun _ => clean_addInside hm hno)

theorem clean_accept : m.Clean (accept .code b) := by
  rw [accept]
  split
  · exact clean_lift _
  · exact clean_addBlock hm hno

end

/-- A block that declares aliases gets past all demands: its label is added and the names are declared. -/
theorem exec_accept_of_declaresAliases {item : NodeId} (h : m.DeclaresAliases b item) :
    (accept .code b).exec m =
      (declareAliases b.title item (listedNames b.subtitle)).exec (m.addNode (b.node .label (some item))) := by
  obtain ⟨title, metadata, subtitle, body, origin⟩ := b
  obtain ⟨htitle, ⟨rule, hrule, heffect⟩, hopened, rfl⟩ := h
  obtain ⟨-, hdemand, hshape⟩ := hm _ _ hrule heffect
  have hinside : m.place.file?.isNone = false := by
    cases hp : m.place <;> simp_all [Place.item?, Place.file?]
  have hshaped : (addShaped rule item ⟨title, metadata, subtitle, [], origin⟩).exec m =
      (declareAliases title item (listedNames subtitle)).exec
        (m.addNode ⟨.label, title, subtitle, [], origin, 0, some item⟩) := by
    have hplace : (m.addNode ⟨.label, title, subtitle, [], origin, 0, some item⟩).place.item? = some item := hopened
    have hlabel : shaped rule.shape ⟨title, metadata, subtitle, [], origin⟩ = .ok (.label, subtitle, []) := by
      rw [hshape]
      rfl
    rw [addShaped, Work.exec_lift_bind, hlabel]
    simp only [heffect, Work.exec_bind_of_ok (exec_append _ _), applyEffect, Work.exec_read_bind, hplace]
  have htitled : (addTitled ⟨title, metadata, subtitle, [], origin⟩).exec m =
      (declareAliases title item (listedNames subtitle)).exec
        (m.addNode ⟨.label, title, subtitle, [], origin, 0, some item⟩) := by
    rw [addTitled, Work.exec_read_bind]
    simp only [hrule, addRuled, hdemand, exec_withItem, hopened, addByShape, Work.exec_read_bind,
      Place.parent?_of_item? hopened, hshape]
    exact hshaped
  have hblock : (accept .code ⟨title, metadata, subtitle, [], origin⟩).exec m =
      if m.place.file?.isNone && m.settings.strict then (.error (.structural title .fileMissing), m)
      else (addTitled ⟨title, metadata, subtitle, [], origin⟩).exec m := by
    rcases htitle with rfl | rfl <;> exact Work.exec_ite _ _ _ m
  rw [hblock, hinside, htitled]
  rfl

end Ruled

end Clean

/-! ## All along a source -/

/-- What blocks leave of a manual when they are refused. -/
structure RefusesCleanly (m : Manual) (b : Block) : Prop where
  /-- A refused block changes nothing, unless it declares aliases of an open item. -/
  unchanged : ∀ e, (m.take .code b).error = some e → (∀ item, ¬m.DeclaresAliases b item) →
    (m.take .code b).manual = m
  /-- That item is in the document. -/
  item : ∀ item, m.DeclaresAliases b item →
    ∃ n info, m.document.node? item = some n ∧ n.kind = .item info
  /-- Refused or not, the block is added as a label, and the item gets the names that are free, in their
  order; nothing else changes. -/
  aliases : ∀ item, m.DeclaresAliases b item → (m.take .code b).manual =
    (m.addNode (b.node .label (some item))).giveNames item (m.freeNames (listedNames b.subtitle))
  /-- It is refused when other names are listed too. -/
  refused : ∀ item, m.DeclaresAliases b item → ((m.take .code b).error = none ↔
    m.freeNames (listedNames b.subtitle) = listedNames b.subtitle)
  /-- An image is never refused once it has been counted. -/
  image : ∀ parent kind number m', (nextNumber parent kind).exec m = (.ok number, m') →
    ∀ label subtitle metadata body origin,
      ∃ m'', (addImage parent kind label subtitle metadata body origin).exec m = (.ok (), m'')

theorem counts_of_nextNumber {m m' : Manual} {parent : NodeId} {kind : ImageKind} {number : Nat}
    (h : (nextNumber parent kind).exec m = (.ok number, m')) : m.Counts parent kind := by
  rintro rfl
  obtain ⟨_, mid, hcounter, -⟩ := Work.exec_bind_eq_ok h
  rw [requireCounter, exec_requireItem] at hcounter
  split at hcounter
  · assumption
  · simp at hcounter

theorem refusesCleanly {m : Manual} {file : String} {line : Nat} (hrules : m.rules.AliasesByTitle)
    (hm : Standing file line m) (b : Block) : m.RefusesCleanly b where
  unchanged e he hno := by
    rw [take, error_build_eq_some_iff] at he
    rw [take, manual_build]
    exact clean_accept hrules hno e _ (Prod.ext he rfl)
  item := by
    intro item h
    obtain ⟨x, hx, hrank⟩ := (hm.opened (Place.opened_of_item? h.opened)).rank
    obtain ⟨n, hn, rfl⟩ := Option.map_eq_some_iff.1 hx
    obtain ⟨info, hinfo⟩ := Kind.eq_item_of_rank hrank
    exact ⟨n, info, hn, hinfo⟩
  aliases := by
    intro item h
    rw [take, manual_build, exec_accept_of_declaresAliases hrules h]
    exact (declareAliases_spec _ b.title item (listedNames b.subtitle)).1
  refused := by
    intro item h
    rw [take, error_build_eq_none_iff, exec_accept_of_declaresAliases hrules h]
    exact (declareAliases_spec _ b.title item (listedNames b.subtitle)).2
  image := by
    intro parent kind number m' hnumber label subtitle metadata body origin
    obtain ⟨info, -, hexec⟩ :=
      exec_addImage_of_counts (counts_of_nextNumber hnumber) label subtitle metadata body origin
    exact ⟨_, hexec⟩

/-- **Wherever reading is in a source, a block that is refused changes nothing.**  The exception is a list of
aliases for the item that is open: its label is added, and of the names just those that nothing had before
their turn become names of the item. -/
theorem refused_block_changes_nothing (settings : Settings) (inputs : List Input) (file : String)
    (lines : List String) (k : Nat) (b : Block) :
    RefusesCleanly
      (((new settings).readAll inputs).start.stepAll .code ((Source.events file lines).take k)).1 b := by
  have hrules := kept_aliasesByTitle.reached settings
    ⟨Registry.aliasesByTitle_empty, Registry.aliasesByTitle_builtin⟩ inputs
  obtain ⟨line, hstanding⟩ := exists_standing settings inputs .code file lines k
  exact refusesCleanly
    (kept_aliasesByTitle.stepAll .code _ (kept_aliasesByTitle.start hrules)).1 hstanding b

/-- A list of aliases with a body is refused before its label is added, although an item is open and the
name is free. -/
theorem alias_with_body_adds_nothing :
    let events := Source.events "a.scad" ["// File: a.scad", "// Module: m()", "// Alias: x", "//   body"]
    let m := ((new Settings.default).start.stepAll .code (events.take 2)).1
    let b : Block := ⟨"Alias", "", "x", ["body"], ⟨"a.scad", 3⟩⟩
    events[2]? = some (.block b) ∧
      (m.rules.get? "Alias").bind (·.effect) = some .aliases ∧
      (m.take .code b).error = some (.structural "Alias" .bodyUnsupported) ∧
      m.place.item? = some 2 ∧ m.references.get? "x" = none ∧
      (m.take .code b).manual.document.size = m.document.size ∧
      (m.take .code b).manual.references.get? "x" = none := by
  decide +kernel

end Manual

end ScadManual
