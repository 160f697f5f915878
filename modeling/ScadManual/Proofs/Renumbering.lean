import Mathlib.Logic.Function.Basic
import ScadManual.Proofs.Additions

/-!
# Documents under other numbers

Nodes are numbered as they are made, so the same source gets other numbers when more was read before it.
`Document.Carried` says that a document is found in another one under numbers that a map gives: every node is
there with its parent renumbered, its children are the same and in the same order, and the nodes that either
document gets next will correspond again.  The second document may hold more, but nothing of it stands below
a node of the first.

All that reading looks up in a document, it looks up through a node that is open, so the answers are the same in
both.  Adding a node to both, or changing a node in both, keeps one carried into the other.
-/

namespace ScadManual

/-! ## Nodes and places -/

/-- The node with the number of its parent changed. -/
def Node.renumber (σ : NodeId → NodeId) (n : Node) : Node := { n with parent := n.parent.map σ }

namespace Node

variable {σ τ : NodeId → NodeId}

theorem renumber_congr {n : Node} (h : ∀ p, n.parent = some p → σ p = τ p) : n.renumber σ = n.renumber τ := by
  have hparent : n.parent.map σ = n.parent.map τ := Option.map_congr fun p hp => h p hp
  rw [renumber, hparent, renumber]

theorem renumber_id (n : Node) : n.renumber id = n := by
  rw [renumber, Option.map_id, id]

theorem renumber_eq_self {n : Node} (h : ∀ p, n.parent = some p → σ p = p) : n.renumber σ = n :=
  (renumber_congr h).trans n.renumber_id

theorem renumber_renumber (n : Node) : (n.renumber σ).renumber τ = n.renumber (τ ∘ σ) := by
  rw [renumber, renumber, renumber, Option.map_map]

end Node

namespace Place

/-- The place with the numbers of all open nodes changed. -/
def renumber (σ : NodeId → NodeId) : Place → Place
  | .outside => .outside
  | .file f => .file (σ f)
  | .section f s => .section (σ f) (σ s)
  | .subsection f s t => .subsection (σ f) (σ s) (σ t)
  | .item f s i => .item (σ f) (σ s) (σ i)

variable (σ : NodeId → NodeId) (p : Place)

@[simp] theorem file?_renumber : (p.renumber σ).file? = p.file?.map σ := by
  cases p <;> rfl

@[simp] theorem section?_renumber : (p.renumber σ).section? = p.section?.map σ := by
  cases p <;> rfl

@[simp] theorem item?_renumber : (p.renumber σ).item? = p.item?.map σ := by
  cases p <;> rfl

@[simp] theorem parent?_renumber : (p.renumber σ).parent? = p.parent?.map σ := by
  cases p <;> rfl

@[simp] theorem closeItem_renumber : (p.renumber σ).closeItem = p.closeItem.renumber σ := by
  cases p <;> rfl

end Place

namespace Document

/-! ## Beyond the nodes -/

theorem node?_of_size_le {d : Document} {id : NodeId} (h : d.size ≤ id) : d.node? id = none := by
  cases hn : d.node? id with
  | none => rfl
  | some n => exact absurd (lt_size_of_node? hn) (Nat.not_lt.2 h)

theorem children_of_size_le {d : Document} {id : NodeId} (h : d.size ≤ id) : d.children id = [] := by
  rw [List.eq_nil_iff_forall_not_mem]
  intro c hc
  obtain ⟨hlt, hgt, -⟩ := mem_children.1 hc
  exact Nat.lt_asymm hgt (Nat.lt_of_lt_of_le hlt h)

/-! ## Children of a changed document -/

/-- A new node comes last among the children of its parent. -/
theorem children_add (d : Document) (n : Node) (id : NodeId) :
    (d.add n).children id =
      d.children id ++ if id < d.size ∧ n.parent = some id then [d.size] else [] := by
  rw [children, add, getD_addBelow, d.size_below]
  rfl

theorem children_modify (d : Document) (i : NodeId) {f : Node → Node} (hf : ∀ n, (f n).parent = n.parent)
    (id : NodeId) : (d.modify i f hf).children id = d.children id :=
  rfl

/-! ## Carried documents -/

/-- The second document holds the first under the numbers that `σ` gives. -/
structure Carried (σ : NodeId → NodeId) (d d' : Document) : Prop where
  injective : Function.Injective σ
  /-- The nodes that come next will correspond. -/
  next : ∀ k, σ (d.size + k) = d'.size + k
  node? : ∀ {id n}, d.node? id = some n → d'.node? (σ id) = some (n.renumber σ)
  children : ∀ {id}, id < d.size → d'.children (σ id) = (d.children id).map σ
  /-- In both, parents come before their children. -/
  ascends : ∀ {id p}, d.parent? id = some p → p < id ∧ σ p < σ id

namespace Carried

variable {σ : NodeId → NodeId} {d d' : Document}

theorem next_zero (h : d.Carried σ d') : σ d.size = d'.size := h.next 0

theorem lt_size (h : d.Carried σ d') {id : NodeId} (hid : id < d.size) : σ id < d'.size := by
  obtain ⟨n, hn⟩ := exists_node? hid
  exact lt_size_of_node? (h.node? hn)

theorem node?_eq (h : d.Carried σ d') {id : NodeId} (hid : id < d.size) :
    d'.node? (σ id) = (d.node? id).map (Node.renumber σ) := by
  obtain ⟨n, hn⟩ := exists_node? hid
  rw [h.node? hn, hn, Option.map_some]

theorem parent?_eq (h : d.Carried σ d') {id : NodeId} (hid : id < d.size) :
    d'.parent? (σ id) = (d.parent? id).map σ := by
  rw [parent?, h.node?_eq hid, parent?]
  cases d.node? id <;> rfl

/-- The same node is added to both. -/
theorem add (h : d.Carried σ d') {n : Node} (hn : ∀ p, n.parent = some p → p < d.size) :
    (d.add n).Carried σ (d'.add (n.renumber σ)) where
  injective := h.injective
  next := by
    intro k
    rw [size_add, size_add, Nat.add_assoc, Nat.add_assoc]
    exact h.next (1 + k)
  node? := by
    intro id x hx
    rw [node?_add] at hx
    split at hx
    · next hid =>
      obtain rfl := Option.some.inj hx
      rw [node?_add, hid, if_pos h.next_zero]
    · have hlt := h.lt_size (lt_size_of_node? hx)
      rw [node?_add, if_neg (Nat.ne_of_lt hlt)]
      exact h.node? hx
  children := by
    intro id hid
    rw [size_add] at hid
    rw [children_add, children_add, List.map_append]
    by_cases hold : id < d.size
    · -- an old node gets the new child in both documents or in neither
      have hparent : (n.renumber σ).parent = some (σ id) ↔ n.parent = some id := by
        show n.parent.map σ = some (σ id) ↔ _
        rw [← Option.map_some, (Option.map_injective h.injective).eq_iff]
      rw [h.children hold]
      simp only [hold, h.lt_size hold, hparent, true_and]
      split
      · rw [List.map_singleton, h.next_zero]
      · rfl
    · obtain rfl : id = d.size := Nat.le_antisymm (Nat.le_of_lt_succ hid) (Nat.le_of_not_lt hold)
      rw [h.next_zero, children_of_size_le (Nat.le_refl _), children_of_size_le (Nat.le_refl _)]
      simp
  ascends := by
    intro id p hp
    rw [parent?, node?_add] at hp
    split at hp
    · next hid =>
      have hlt : p < d.size := hn p hp
      rw [hid, h.next_zero]
      exact ⟨hlt, h.lt_size hlt⟩
    · exact h.ascends hp

/-- The same change is made in both, to nodes that correspond. -/
theorem modify (h : d.Carried σ d') {f : Node → Node} (hf : ∀ n, f (n.renumber σ) = (f n).renumber σ)
    (hparent : ∀ n, (f n).parent = n.parent) (i : NodeId) :
    (d.modify i f hparent).Carried σ (d'.modify (σ i) f hparent) where
  injective := h.injective
  next := by
    intro k
    rw [size_modify, size_modify]
    exact h.next k
  node? := by
    intro id x hx
    rw [node?_modify] at hx ⊢
    split at hx
    · next hid =>
      obtain ⟨n, hn, rfl⟩ := Option.map_eq_some_iff.1 hx
      rw [if_pos (congrArg σ hid), h.node? hn, Option.map_some, hf]
    · next hid =>
      rw [if_neg (h.injective.ne hid)]
      exact h.node? hx
  children := by
    intro id hid
    rw [size_modify] at hid
    exact h.children hid
  ascends := by
    intro id p hp
    rw [parent?_modify] at hp
    exact h.ascends hp

/-! ## What is looked up -/

section LookUp

variable {id : NodeId}

theorem originOf_eq (h : d.Carried σ d') (hid : id < d.size) :
    References.originOf d' (σ id) = References.originOf d id := by
  rw [References.originOf, h.node?_eq hid, Option.map_map, References.originOf]
  rfl

theorem title_eq (h : d.Carried σ d') (hid : id < d.size) : d'.title (σ id) = d.title id := by
  rw [title, h.node?_eq hid, Option.map_map, title]
  rfl

theorem subtitle_eq (h : d.Carried σ d') (hid : id < d.size) : d'.subtitle (σ id) = d.subtitle id := by
  rw [subtitle, h.node?_eq hid, Option.map_map, subtitle]
  rfl

/-- The way up from a node leads to the same file. -/
theorem fileOf_eq (h : d.Carried σ d') (hid : id < d.size) :
    d.fileOf id < d.size ∧ d'.fileOf (σ id) = σ (d.fileOf id) := by
  induction id using Nat.strongRecOn with
  | ind id ih =>
    rw [fileOf, fileOf, h.parent?_eq hid]
    cases hp : d.parent? id with
    | none => exact ⟨hid, rfl⟩
    | some p =>
      obtain ⟨hlt, hlt'⟩ := h.ascends hp
      simp only [Option.map_some, if_pos hlt, if_pos hlt']
      exact ih p hlt (Nat.lt_trans hlt hid)

theorem fileInfoOf_eq (h : d.Carried σ d') (hid : id < d.size) : d'.fileInfoOf (σ id) = d.fileInfoOf id := by
  obtain ⟨hfile, hsame⟩ := h.fileOf_eq hid
  rw [fileInfoOf, hsame, h.node?_eq hfile, fileInfoOf]
  cases d.node? (d.fileOf id) <;> rfl

theorem counted_eq (h : d.Carried σ d') (hid : id < d.size) (kind : ImageKind) :
    d'.counted (σ id) kind = d.counted id kind := by
  rw [counted, h.node?_eq hid, Option.map_map, counted]
  rfl

end LookUp

/-! ## One after the other -/

theorem refl (h : d.Forest) : d.Carried id d where
  injective := Function.injective_id
  next _ := rfl
  node? := by
    intro id n hn
    rw [n.renumber_id]
    exact hn
  children _ := (List.map_id _).symm
  ascends hp := ⟨h.parent_lt hp, h.parent_lt hp⟩

theorem trans {τ : NodeId → NodeId} {d'' : Document} (h : d.Carried σ d') (h' : d'.Carried τ d'') :
    d.Carried (τ ∘ σ) d'' where
  injective := h'.injective.comp h.injective
  next := by
    intro k
    rw [Function.comp_apply, h.next, h'.next]
  node? := by
    intro id n hn
    rw [← n.renumber_renumber]
    exact h'.node? (h.node? hn)
  children := by
    intro id hid
    rw [Function.comp_apply, h'.children (h.lt_size hid), h.children hid, List.map_map]
  ascends := by
    intro id p hp
    have hp' : d'.parent? (σ id) = some (σ p) := by
      rw [h.parent?_eq (lt_size_of_parent? hp), hp, Option.map_some]
    exact ⟨(h.ascends hp).1, (h'.ascends hp').2⟩

end Carried

end Document

end ScadManual
