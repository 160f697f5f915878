import ScadManual.Proofs.Forest
import ScadManual.Proofs.Lookup

/-!
# Names and items agree

An item goes by its subtitle and by its aliases.  Both are registered as they are declared, the subtitle when
the item opens and the aliases one by one later, and a name that is taken is refused.  So after any reading
the register holds the names of the items and nothing else, no two items share a name, no item has a name
twice, and what a name refers to never changes.
-/

namespace ScadManual

/-- The names of a node: those of an item are its subtitle and its aliases. -/
def Node.names (n : Node) : List String :=
  match n.item? with
  | some info => n.subtitle :: info.aliases
  | none => []

/-- The names of a node by its number. -/
def Document.namesOf (d : Document) (id : NodeId) : List String :=
  ((d.node? id).map Node.names).getD []

namespace Manual

/-- The register and the document agree. -/
structure NamesAgree (m : Manual) : Prop where
  /-- A name is registered for a node just when the node is an item that goes by it. -/
  get?_eq_some_iff : ∀ name id, m.references.get? name = some id ↔
    ∃ n info, m.document.node? id = some n ∧ n.item? = some info ∧
      (name = n.subtitle ∨ name ∈ info.aliases)
  /-- The names of all items are different. -/
  names_nodup : (m.document.items.flatMap m.document.namesOf).Nodup
  /-- Whatever is read later, a name that is registered keeps its item. -/
  kept : ∀ inputs name id, m.references.get? name = some id →
    (m.readAll inputs).references.get? name = some id

end Manual

/-! ## Keys -/

section Keys

variable {entries : List (String × NodeId)} {name : String} {id : NodeId}

/-- A name that is not found is in no entry. -/
theorem ne_of_lookup_eq_none {entry : String × NodeId} (h : entries.lookup name = none)
    (he : entry ∈ entries) : entry.1 ≠ name := by
  have hne : name ≠ entry.1 := by simpa using List.lookup_eq_none_iff.1 h entry he
  exact hne.symm

theorem eq_of_mem_of_nodup_keys {id' : NodeId} (h : (entries.map Prod.fst).Nodup)
    (h₁ : (name, id) ∈ entries) (h₂ : (name, id') ∈ entries) : id = id' := by
  rw [← lookup_eq_some_iff_mem h] at h₁ h₂
  exact Option.some.inj (h₁.symm.trans h₂)

theorem nodup_keys_append (h : (entries.map Prod.fst).Nodup) (fresh : entries.lookup name = none) :
    ((entries ++ [(name, id)]).map Prod.fst).Nodup := by
  rw [List.map_append, List.nodup_append]
  refine ⟨h, by simp, ?_⟩
  intro a ha b hb
  obtain ⟨entry, he, rfl⟩ := List.mem_map.1 ha
  obtain rfl : b = name := List.mem_singleton.1 hb
  exact ne_of_lookup_eq_none fresh he

end Keys

/-! ## Names of a changed document -/

namespace Document

theorem namesOf_add (d : Document) (n : Node) (id : NodeId) :
    (d.add n).namesOf id = if id = d.size then n.names else d.namesOf id := by
  rw [namesOf, node?_add]
  split <;> rfl

/-- The number of the next node has no names yet. -/
theorem namesOf_size (d : Document) : d.namesOf d.size = [] := by
  have hnone : d.node? d.size = none := by simp [node?, size]
  rw [namesOf, hnone]
  rfl

/-- A node without names adds none. -/
theorem namesOf_add_of_names {d : Document} {n : Node} (h : n.names = []) (id : NodeId) :
    (d.add n).namesOf id = d.namesOf id := by
  rw [namesOf_add]
  split
  · next hid => rw [h, hid, namesOf_size]
  · rfl

/-- A change that keeps the names of a node keeps all names. -/
theorem namesOf_modify {d : Document} {i : NodeId} {f : Node → Node} (hp : ∀ n, (f n).parent = n.parent)
    (hf : ∀ n, (f n).names = n.names) (id : NodeId) : (d.modify i f hp).namesOf id = d.namesOf id := by
  rw [namesOf, node?_modify]
  split
  · rw [namesOf, Option.map_map]
    congr 2
    funext n
    exact hf n
  · rfl

end Document

namespace Manual

theorem names_withFile (n : Node) (f : FileInfo → FileInfo) : (n.withFile f).names = n.names := by
  unfold Node.withFile
  split
  · next hk => simp [Node.names, Node.item?, hk]
  · rfl

/-- Describing an item with the aliases it had changes no names. -/
theorem names_withItem {f : ItemInfo → ItemInfo} (hf : ∀ info, (f info).aliases = info.aliases) (n : Node) :
    (n.withItem f).names = n.names := by
  unfold Node.withItem
  split
  · next hk => simp [Node.names, Node.item?, hk, hf]
  · rfl

theorem names_counting (n : Node) (kind : ImageKind) : (n.counting kind).names = n.names := by
  cases kind with
  | figure => rfl
  | _ => exact names_withItem (f := fun info => { info with examples := info.examples + 1 }) (fun _ => rfl) n

/-- An alias is one name more for its item. -/
theorem namesOf_addAlias {m : Manual} {i : NodeId} {n : Node} {info : ItemInfo}
    (hn : m.document.node? i = some n) (hinfo : n.kind = .item info) (name : String) (id : NodeId) :
    (m.modifyItem i fun info => { info with aliases := info.aliases ++ [name] }).document.namesOf id =
      if id = i then m.document.namesOf i ++ [name] else m.document.namesOf id := by
  rw [Document.namesOf, modifyItem]
  show Option.getD (Option.map Node.names ((m.document.modify i _ (·.parent_withItem _)).node? id)) [] = _
  rw [Document.node?_modify]
  by_cases hid : i = id
  · subst hid
    simp [Document.namesOf, hn, Node.withItem_of_kind hinfo, hinfo, Node.names, Node.item?]
  · simp [Document.namesOf, hid, Ne.symm hid]

/-! ## Reading keeps them together -/

/-- The entries of the register are the names of the nodes. -/
structure Named (m : Manual) : Prop where
  mem_iff : ∀ {name id}, (name, id) ∈ m.references.entries ↔ name ∈ m.document.namesOf id
  keys : (m.references.entries.map Prod.fst).Nodup
  own : ∀ id, (m.document.namesOf id).Nodup

theorem Named.congr {m m' : Manual} (h : m.Named) (hr : m'.references = m.references)
    (hd : ∀ id, m'.document.namesOf id = m.document.namesOf id) : m'.Named := by
  constructor
  · intro name id
    rw [hr, hd]
    exact h.mem_iff
  · rw [hr]
    exact h.keys
  · intro id
    rw [hd]
    exact h.own id

/-- A fresh name is registered and given to its node. -/
theorem Named.register {m m' : Manual} {name : String} {i : NodeId} (h : m.Named)
    (fresh : m.references.get? name = none)
    (hr : m'.references.entries = m.references.entries ++ [(name, i)])
    (hd : ∀ id, m'.document.namesOf id =
      if id = i then m.document.namesOf i ++ [name] else m.document.namesOf id) : m'.Named := by
  -- were it among the names of the node already, it would be registered
  have hfree : name ∉ m.document.namesOf i := by
    intro hmem
    exact ne_of_lookup_eq_none fresh (h.mem_iff.2 hmem) rfl
  constructor
  · intro other id
    rw [hr, hd, List.mem_append, List.mem_singleton, Prod.mk.injEq, h.mem_iff]
    split
    · next hid => simp [hid]
    · next hid => simp [hid]
  · rw [hr]
    exact nodup_keys_append h.keys fresh
  · intro id
    rw [hd]
    split
    · rw [List.nodup_append]
      refine ⟨h.own i, by simp, fun a ha b hb => ?_⟩
      obtain rfl : b = name := List.mem_singleton.1 hb
      rintro rfl
      exact hfree ha
    · exact h.own id

theorem exists_openItem {m : Manual} {file : String} {line : Nat} {i : NodeId}
    (h : Standing file line m) (hi : m.place.item? = some i) :
    ∃ n info, m.document.node? i = some n ∧ n.kind = .item info := by
  obtain ⟨x, hx, hrank⟩ := (h.opened (Place.opened_of_item? hi)).rank
  obtain ⟨n, hn, rfl⟩ := Option.map_eq_some_iff.1 hx
  obtain ⟨info, hinfo⟩ := Kind.eq_item_of_rank hrank
  exact ⟨n, info, hn, hinfo⟩

/-- What a block puts below an open node has no names. -/
theorem names_of_taker? {p : Place} {n : Node} {parent : NodeId} (h : p.taker? n.kind = some parent) :
    n.names = [] := by
  have hitem : n.item? = none := by
    unfold Node.item?
    split
    · next hk => simp [hk, Place.taker?] at h
    · rfl
  rw [Node.names, hitem]

/-- The step of the run: one edit.  Only an opened item and an alias bring a name, and both register it. -/
theorem Named.edit {m m' : Manual} {file : String} {line : Nat} {b : Block} (he : Edit b m m')
    (hs : Standing file line m) (h : m.Named) : m'.Named := by
  cases he with
  | rules hrules => exact h.congr rfl fun id => rfl
  | openFile hf => exact h.congr rfl (Document.namesOf_add_of_names rfl)
  | openSection hf title subtitle body => exact h.congr rfl (Document.namesOf_add_of_names rfl)
  | openSubsection hf hs => exact h.congr rfl (Document.namesOf_add_of_names rfl)
  | openItem hf hs fresh =>
    refine h.register fresh rfl fun id => ?_
    rw [Document.namesOf_size]
    exact Document.namesOf_add m.document _ id
  | describeFile hf change => exact h.congr rfl (Document.namesOf_modify (·.parent_withFile _) (names_withFile · _))
  | describeItem hi change hc =>
    exact h.congr rfl (Document.namesOf_modify (·.parent_withItem _) (names_withItem fun info => (hc info).1))
  | addAlias hi fresh =>
    obtain ⟨n, info, hn, hinfo⟩ := exists_openItem hs hi
    exact h.register fresh rfl (namesOf_addAlias hn hinfo _)
  | image _ ht =>
    refine h.congr rfl fun id => (Document.namesOf_add_of_names (names_of_taker? ht) id).trans ?_
    exact Document.namesOf_modify (·.parent_counting _) (names_counting · _) id
  | child n ht =>
    exact h.congr rfl (Document.namesOf_add_of_names (names_of_taker? ht))

theorem invariant_named : Invariant fun file line m => Standing file line m ∧ m.Named where
  later hl h := ⟨invariant_standing.later hl h.1, h.2⟩
  frame := by
    intro file l m m' hsame h
    refine ⟨invariant_standing.frame hsame h.1, h.2.congr ?_ fun id => ?_⟩
    · rw [references, hsame.1, references]
    · rw [document, hsame.1, document]
  close h := ⟨invariant_standing.close h.1, h.2.congr rfl fun id => rfl⟩
  edit hb he h := ⟨h.1.edit hb he, h.2.edit he h.1⟩

theorem named_readAll (settings : Settings) (inputs : List Input) :
    ((new settings).readAll inputs).Named := by
  have hall := invariant_named.reached (P := fun m => m.document.Forest ∧ m.Named) ?_ ?_ settings
    ⟨.empty, ?_⟩ inputs
  · exact hall.2
  · intro m file h
    exact ⟨⟨h.1, fun hid => absurd hid List.not_mem_nil⟩, h.2.congr rfl fun id => rfl⟩
  · intro file l m m' h hlib
    refine ⟨by rw [document, hlib]; exact h.1.forest, h.2.congr ?_ fun id => ?_⟩
    · rw [references, hlib, references]
    · rw [document, hlib, document]
  · constructor
    · intro name id
      simp [blank, references, document, References.empty, Document.empty, Document.namesOf,
        Document.node?]
    · simp [blank, references, References.empty]
    · intro id
      simp [blank, document, Document.empty, Document.namesOf, Document.node?]

/-! ## Names are kept -/

/-- A name that is registered stays with its item through any edit. -/
theorem get?_edit {m m' : Manual} {b : Block} {name : String} {id : NodeId} (he : Edit b m m')
    (h : m.references.get? name = some id) : m'.references.get? name = some id := by
  have happend (entry : String × NodeId) : (m.references.entries ++ [entry]).lookup name = some id := by
    rw [List.lookup_append]
    exact congrArg (Option.or · _) h
  cases he with
  | openItem hf hs fresh => exact happend _
  | addAlias hi fresh => exact happend _
  | rules | openFile | openSection | openSubsection | describeFile | describeItem | image | child => exact h

theorem get?_readAll {m : Manual} {name : String} {id : NodeId} (h : m.references.get? name = some id)
    (inputs : List Input) : (m.readAll inputs).references.get? name = some id := by
  have hI : Invariant fun _ _ m => m.references.get? name = some id := by
    constructor
    · exact fun _ h => h
    · intro file l m m' hsame h
      rw [references, hsame.1]
      exact h
    · exact fun h => h
    · exact fun _ he h => get?_edit he h
  refine hI.readAll (P := fun m => m.references.get? name = some id) ?_ ?_ h inputs
  · exact fun file h => h
  · intro file l m m' h hlib
    rw [references, hlib]
    exact h

/-! ## The register and the document -/

theorem Named.get?_eq_some_iff {m : Manual} (h : m.Named) (name : String) (id : NodeId) :
    m.references.get? name = some id ↔ ∃ n info, m.document.node? id = some n ∧
      n.item? = some info ∧ (name = n.subtitle ∨ name ∈ info.aliases) := by
  rw [References.get?, lookup_eq_some_iff_mem h.keys, h.mem_iff, Document.namesOf]
  cases hn : m.document.node? id with
  | none => simp
  | some n =>
    cases hi : n.item? with
    | none => simp [Node.names, hi]
    | some info => simp [Node.names, hi]

theorem Named.names_nodup {m : Manual} (h : m.Named) :
    (m.document.items.flatMap m.document.namesOf).Nodup := by
  have hitems : m.document.items.Nodup := List.nodup_range.filter _
  refine List.pairwise_flatMap.2 ⟨fun id _ => h.own id, hitems.imp fun {a b} hab => ?_⟩
  -- a name that two items had would be registered twice
  rintro name ha _ hb rfl
  exact hab (eq_of_mem_of_nodup_keys h.keys (h.mem_iff.2 ha) (h.mem_iff.2 hb))

/-- **Whatever is read, the register holds the names of the items, all different, and keeps them.** -/
theorem names_agree (settings : Settings) (inputs : List Input) :
    ((new settings).readAll inputs).NamesAgree where
  get?_eq_some_iff := (named_readAll settings inputs).get?_eq_some_iff
  names_nodup := (named_readAll settings inputs).names_nodup
  kept more _ _ h := get?_readAll h more

end Manual

end ScadManual
