import Mathlib.Logic.Relation
import ScadManual.Proofs.Runs

/-!
# The document is a forest of typed trees

Every document that reading leads to is a forest.  Its roots are the files; everything else stands below an
earlier node of a kind that may hold it; what stands below one node comes in the order of its lines; and a
whole tree comes from one source.

The proof reads a node only through its footing: its rank, its origin and its parent.  Describing a file or an
item further leaves all footings as they are, so only the edits that add a node count.  What makes those right
is that the place fits the document: the open nodes have the ranks that their places say, and everything
from the open file on comes from the source being read and from no later line.
-/

namespace ScadManual

/-! ## Ranks -/

/-- The part a node plays in its tree. -/
inductive Rank where
  | file
  | section
  | subsection
  | item
  | includes
  /-- Labels of an item: its synopsis, its tags, its topics and what to see also. -/
  | itemLabel
  | exampleImage
  /-- Blocks of text, lists, tables and figures. -/
  | plain
deriving DecidableEq, Repr

/-- The rank of a kind. -/
def Kind.rank : Kind → Rank
  | .file _ => .file
  | .section => .section
  | .subsection => .subsection
  | .item _ => .item
  | .includes => .includes
  | .synopsis | .tags | .topics | .seeAlso => .itemLabel
  | .image info =>
    match info.kind with
    | .example => .exampleImage
    | .figure => .plain
  | .generic | .label | .text | .headerless | .bulletList | .numberedList | .table _ => .plain

theorem Kind.eq_file_of_rank {k : Kind} (h : k.rank = .file) : ∃ info, k = .file info := by
  match k with
  | .file info => exact ⟨info, rfl⟩
  | .image info =>
    simp only [rank] at h
    split at h <;> contradiction

theorem Kind.eq_item_of_rank {k : Kind} (h : k.rank = .item) : ∃ info, k = .item info := by
  match k with
  | .item info => exact ⟨info, rfl⟩
  | .image info =>
    simp only [rank] at h
    split at h <;> contradiction

theorem Node.rank_of_isItem {n : Node} (h : n.isItem = true) : n.kind.rank = .item := by
  unfold isItem item? at h
  split at h
  · next info hk => rw [hk]; rfl
  · simp at h

theorem Node.isItem_of_rank {n : Node} (h : n.kind.rank = .item) : n.isItem = true := by
  obtain ⟨info, hk⟩ := Kind.eq_item_of_rank h
  rw [isItem, item?, hk]
  rfl

theorem Node.isFile_of_rank {n : Node} (h : n.kind.rank = .file) : n.isFile = true := by
  obtain ⟨info, hk⟩ := Kind.eq_file_of_rank h
  rw [isFile, file?, hk]
  rfl

/-- May a node of the first rank stand below one of the second?  Only files, sections, subsections and items
hold anything. -/
def Rank.mayStandBelow : Rank → Rank → Bool
  | .section, .file => true
  | .subsection, .section => true
  | .item, .section => true
  | .includes, .file => true
  | .itemLabel, .item => true
  | .exampleImage, .item => true
  | .plain, .file => true
  | .plain, .section => true
  | .plain, .subsection => true
  | .plain, .item => true
  | _, _ => false

/-- A document that is a forest of typed trees. -/
structure Document.WellFormed (d : Document) : Prop where
  /-- The nodes without a parent are the files, -/
  mem_files : ∀ id, id ∈ d.files ↔ id < d.size ∧ d.parent? id = none
  /-- each listed once -/
  files_nodup : d.files.Nodup
  /-- and each of the kind of a file. -/
  isFile_of_mem_files : ∀ id ∈ d.files, ∃ n, d.node? id = some n ∧ n.isFile = true
  /-- Any other node stands below an earlier one. -/
  parent_lt : ∀ id p, d.parent? id = some p → p < id
  /-- It is once among the children of its parent and never among those of another node. -/
  count_children : ∀ id q, (d.children q).count id = if d.parent? id = some q then 1 else 0
  /-- Its kind may stand below that of its parent. -/
  mayStandBelow : ∀ id p, d.parent? id = some p →
    ∃ n pn, d.node? id = some n ∧ d.node? p = some pn ∧
      n.kind.rank.mayStandBelow pn.kind.rank = true
  /-- Children come in the order of their numbers, -/
  children_increase : ∀ id, (d.children id).Pairwise (· < ·)
  /-- and their lines never go back. -/
  lines_increase : ∀ id, (d.children id).Pairwise fun a b =>
    (References.originOf d a).line ≤ (References.originOf d b).line
  /-- From every node the way up leads to its file. -/
  reaches_file : ∀ id < d.size, Relation.ReflTransGen (fun a b => d.parent? a = some b) id (d.fileOf id) ∧
    d.fileOf id ∈ d.files
  /-- A node comes from the source of its file. -/
  same_source : ∀ id < d.size,
    (References.originOf d id).file = (References.originOf d (d.fileOf id)).file

/-! ## Footings -/

/-- What the shape of a document depends on in a node. -/
structure Footing where
  rank : Rank
  origin : Origin
  parent : Option NodeId

namespace Node

/-- The footing of a node. -/
def footing (n : Node) : Footing := ⟨n.kind.rank, n.origin, n.parent⟩

theorem footing_withFile (n : Node) (f : FileInfo → FileInfo) : (n.withFile f).footing = n.footing := by
  unfold withFile
  split
  · next hk => simp [footing, hk, Kind.rank]
  · rfl

theorem footing_withItem (n : Node) (f : ItemInfo → ItemInfo) : (n.withItem f).footing = n.footing := by
  unfold withItem
  split
  · next hk => simp [footing, hk, Kind.rank]
  · rfl

theorem footing_counting (n : Node) (kind : ImageKind) : (n.counting kind).footing = n.footing :=
  match kind with
  | .figure => rfl
  | .example => footing_withItem n _

end Node

namespace Document

/-- The footing of a node by its number. -/
def footing? (d : Document) (id : NodeId) : Option Footing := (d.node? id).map Node.footing

theorem node?_add (d : Document) (n : Node) (id : NodeId) :
    (d.add n).node? id = if id = d.size then some n else d.node? id :=
  Array.getElem?_push

theorem node?_modify (d : Document) (i id : NodeId) (f : Node → Node) (hp : ∀ n, (f n).parent = n.parent) :
    (d.modify i f hp).node? id = if i = id then (d.node? id).map f else d.node? id :=
  Array.getElem?_modify

theorem node?_isSome_iff {d : Document} {id : NodeId} : (d.node? id).isSome ↔ id < d.size := by
  simp [node?, size]

theorem lt_size_of_node? {d : Document} {id : NodeId} {n : Node} (h : d.node? id = some n) :
    id < d.size := by
  rw [← node?_isSome_iff, h]
  rfl

theorem lt_size_of_footing? {d : Document} {id : NodeId} {x : Footing} (h : d.footing? id = some x) :
    id < d.size := by
  obtain ⟨n, hn, -⟩ := Option.map_eq_some_iff.1 h
  exact lt_size_of_node? hn

theorem size_add (d : Document) (n : Node) : (d.add n).size = d.size + 1 := Array.size_push n

theorem footing?_add (d : Document) (n : Node) (id : NodeId) :
    (d.add n).footing? id = if id = d.size then some n.footing else d.footing? id := by
  rw [footing?, node?_add]
  split <;> rfl

theorem footing?_add_of_lt {d : Document} (n : Node) {id : NodeId} {x : Footing}
    (h : d.footing? id = some x) : (d.add n).footing? id = some x := by
  rw [footing?_add, if_neg (Nat.ne_of_lt (lt_size_of_footing? h)), h]

/-- A change that keeps the footing of a node keeps all footings. -/
theorem footing?_modify (d : Document) (i id : NodeId) {f : Node → Node} (hp : ∀ n, (f n).parent = n.parent)
    (hf : ∀ n, (f n).footing = n.footing) : (d.modify i f hp).footing? id = d.footing? id := by
  rw [footing?, node?_modify]
  split
  · rw [footing?, Option.map_map]
    congr 1
    funext n
    exact hf n
  · rfl

theorem parent?_eq_footing (d : Document) (id : NodeId) :
    d.parent? id = (d.footing? id).bind (·.parent) := by
  rw [parent?, footing?]
  cases d.node? id <;> rfl

/-! ## Forests -/

/-- The shape of a forest, said of footings alone. -/
structure Forest (d : Document) : Prop where
  root : ∀ {id x}, d.footing? id = some x → x.parent = none → x.rank = .file
  below : ∀ {id x p}, d.footing? id = some x → x.parent = some p →
    p < id ∧ ∃ y, d.footing? p = some y ∧ x.rank.mayStandBelow y.rank = true ∧
      x.origin.file = y.origin.file
  ordered : ∀ {a b x y p}, a < b → d.footing? a = some x → d.footing? b = some y →
    x.parent = some p → y.parent = some p → x.origin.line ≤ y.origin.line

theorem Forest.empty : Document.empty.Forest := by
  constructor <;> simp [Document.empty, footing?, node?]

theorem Forest.congr {d d' : Document} (h : d.Forest) (hf : ∀ id, d'.footing? id = d.footing? id) :
    d'.Forest := by
  constructor
  · intro id x hx
    rw [hf] at hx
    exact h.root hx
  · intro id x p hx hp
    rw [hf] at hx
    simp only [hf]
    exact h.below hx hp
  · intro a b x y p hab hx hy
    rw [hf] at hx hy
    exact h.ordered hab hx hy

/-- A new root has the kind of a file. -/
theorem Forest.add_root {d : Document} (h : d.Forest) {n : Node} (hp : n.parent = none)
    (hr : n.kind.rank = .file) : (d.add n).Forest := by
  constructor
  · intro id x hx hnone
    rw [footing?_add] at hx
    split at hx
    · obtain rfl := Option.some.inj hx
      exact hr
    · exact h.root hx hnone
  · intro id x p hx hparent
    rw [footing?_add] at hx
    split at hx
    · obtain rfl := Option.some.inj hx
      exact absurd (hp.symm.trans hparent) (by simp)
    · obtain ⟨hlt, y, hy, hrest⟩ := h.below hx hparent
      exact ⟨hlt, y, footing?_add_of_lt n hy, hrest⟩
  · intro a b x y p hab hx hy hxp hyp
    rw [footing?_add] at hx hy
    split at hx
    · obtain rfl := Option.some.inj hx
      exact absurd (hp.symm.trans hxp) (by simp)
    · split at hy
      · obtain rfl := Option.some.inj hy
        exact absurd (hp.symm.trans hyp) (by simp)
      · exact h.ordered hab hx hy hxp hyp

/-- While a line of a source is being read, a node is open in a rank: it has that rank, and all nodes from it
on come from that source and from no later line. -/
structure Open (d : Document) (file : String) (line : Nat) (id : NodeId) (r : Rank) : Prop where
  rank : ∃ x, d.footing? id = some x ∧ x.rank = r
  since : ∀ {a x}, id ≤ a → d.footing? a = some x → x.origin.file = file ∧ x.origin.line ≤ line

section Open

variable {d : Document} {file : String} {line : Nat} {id : NodeId} {r : Rank}

theorem Open.congr {d' : Document} (h : d.Open file line id r) (hf : ∀ id, d'.footing? id = d.footing? id) :
    d'.Open file line id r := by
  constructor
  · rw [hf]
    exact h.rank
  · intro a x ha hx
    rw [hf] at hx
    exact h.since ha hx

theorem Open.later {line' : Nat} (h : d.Open file line id r) (hl : line ≤ line') :
    d.Open file line' id r := by
  refine ⟨h.rank, fun ha hx => ?_⟩
  obtain ⟨hfile, hline⟩ := h.since ha hx
  exact ⟨hfile, Nat.le_trans hline hl⟩

theorem Open.add {n : Node} (h : d.Open file line id r) (ho : n.origin = ⟨file, line⟩) :
    (d.add n).Open file line id r := by
  constructor
  · obtain ⟨x, hx, hr⟩ := h.rank
    exact ⟨x, footing?_add_of_lt n hx, hr⟩
  · intro a x ha hx
    rw [footing?_add] at hx
    split at hx
    · obtain rfl := Option.some.inj hx
      simp [Node.footing, ho]
    · exact h.since ha hx

/-- A node is open when it has just been added. -/
theorem open_add {n : Node} (ho : n.origin = ⟨file, line⟩) :
    (d.add n).Open file line d.size n.kind.rank := by
  constructor
  · exact ⟨n.footing, by rw [footing?_add, if_pos rfl], rfl⟩
  · intro a x ha hx
    rw [footing?_add] at hx
    split at hx
    · obtain rfl := Option.some.inj hx
      simp [Node.footing, ho]
    · exact absurd (lt_size_of_footing? hx) (Nat.not_lt.2 ha)

/-- A node that fits below an open node may be added there. -/
theorem Forest.add_below {n : Node} (h : d.Forest) (hopen : d.Open file line id r)
    (hp : n.parent = some id) (ho : n.origin = ⟨file, line⟩)
    (hr : n.kind.rank.mayStandBelow r = true) : (d.add n).Forest := by
  obtain ⟨y, hy, rfl⟩ := hopen.rank
  constructor
  · intro a x hx hnone
    rw [footing?_add] at hx
    split at hx
    · obtain rfl := Option.some.inj hx
      exact absurd (hp.symm.trans hnone) (by simp)
    · exact h.root hx hnone
  · intro a x p hx hparent
    rw [footing?_add] at hx
    split at hx
    · next ha =>
      obtain rfl := Option.some.inj hx
      obtain rfl : id = p := Option.some.inj (hp.symm.trans hparent)
      have hfile : y.origin.file = file := (hopen.since (Nat.le_refl id) hy).1
      refine ⟨Nat.lt_of_lt_of_eq (lt_size_of_footing? hy) ha.symm, y, footing?_add_of_lt n hy, hr, ?_⟩
      simp [Node.footing, ho, hfile]
    · obtain ⟨hlt, z, hz, hrest⟩ := h.below hx hparent
      exact ⟨hlt, z, footing?_add_of_lt n hz, hrest⟩
  · intro a b x z p hab hx hz hxp hzp
    -- the new node is the last, so it is not the earlier of the two
    have ha : a < d.size := by
      have hb := lt_size_of_footing? hz
      rw [size_add] at hb
      exact Nat.lt_of_lt_of_le hab (Nat.le_of_lt_succ hb)
    rw [footing?_add, if_neg (Nat.ne_of_lt ha)] at hx
    rw [footing?_add] at hz
    split at hz
    · obtain rfl := Option.some.inj hz
      obtain rfl : id = p := Option.some.inj (hp.symm.trans hzp)
      have hline := (hopen.since (Nat.le_of_lt (h.below hx hxp).1) hx).2
      simpa [Node.footing, ho] using hline
    · exact h.ordered hab hx hz hxp hzp

end Open

end Document

/-! ## Reading keeps the forest -/

/-- The open nodes of a place with the ranks they should have. -/
def Place.opened : Place → List (NodeId × Rank)
  | .outside => []
  | .file f => [(f, .file)]
  | .section f s => [(f, .file), (s, .section)]
  | .subsection f s t => [(f, .file), (s, .section), (t, .subsection)]
  | .item f s i => [(f, .file), (s, .section), (i, .item)]

namespace Place

variable {p : Place} {id : NodeId}

@[simp] theorem opened_section (f s : NodeId) : (Place.section f s).opened = [(f, .file), (s, .section)] :=
  rfl

@[simp] theorem opened_subsection (f s t : NodeId) :
    (Place.subsection f s t).opened = [(f, .file), (s, .section), (t, .subsection)] := rfl

@[simp] theorem opened_item (f s i : NodeId) :
    (Place.item f s i).opened = [(f, .file), (s, .section), (i, .item)] := rfl

/-- Something takes blocks exactly while a file is open. -/
theorem isSome_parent? (p : Place) : p.parent?.isSome = p.file?.isSome := by
  cases p <;> rfl

theorem opened_of_file? (h : p.file? = some id) : (id, .file) ∈ p.opened := by
  cases p <;> simp_all [file?, opened]

theorem opened_of_section? (h : p.section? = some id) : (id, .section) ∈ p.opened := by
  cases p <;> simp_all [section?, opened]

theorem opened_of_item? (h : p.item? = some id) : (id, .item) ∈ p.opened := by
  cases p <;> simp_all [item?, opened]

theorem opened_of_parent? (h : p.parent? = some id) :
    ∃ r, (id, r) ∈ p.opened ∧ Rank.plain.mayStandBelow r = true := by
  match p with
  | .file f => exact ⟨.file, by simp_all [parent?, opened], rfl⟩
  | .section f s => exact ⟨.section, by simp_all [parent?, opened], rfl⟩
  | .subsection f s t => exact ⟨.subsection, by simp_all [parent?, opened], rfl⟩
  | .item f s i => exact ⟨.item, by simp_all [parent?, opened], rfl⟩

theorem opened_closeItem {r : Rank} (h : (id, r) ∈ p.closeItem.opened) : (id, r) ∈ p.opened := by
  match p with
  | .outside | .file _ | .section _ _ | .subsection _ _ _ => exact h
  | .item f s i => exact List.mem_append_left [(i, .item)] h

/-- What takes a block is open in a rank that the block fits below. -/
theorem opened_of_taker? {k : Kind} (h : p.taker? k = some id) :
    ∃ r, (id, r) ∈ p.opened ∧ k.rank.mayStandBelow r = true := by
  match k with
  | .includes => exact ⟨.file, opened_of_file? h, rfl⟩
  | .synopsis | .tags | .topics | .seeAlso => exact ⟨.item, opened_of_item? h, rfl⟩
  | .image info =>
    rw [taker?] at h
    rw [Kind.rank]
    cases hk : info.kind <;> rw [hk] at h
    · exact opened_of_parent? h
    · exact ⟨.item, opened_of_item? h, rfl⟩
  | .generic | .label | .text | .headerless | .bulletList | .numberedList | .table _ =>
    exact opened_of_parent? h

end Place

namespace Manual

variable {file : String} {line : Nat} {m : Manual}

/-- While a line of a source is being read, the document is a forest and the place fits it. -/
structure Standing (file : String) (line : Nat) (m : Manual) : Prop where
  forest : m.document.Forest
  opened : ∀ {id r}, (id, r) ∈ m.place.opened → m.document.Open file line id r

theorem Standing.congr {m' : Manual} (h : Standing file line m)
    (hf : ∀ id, m'.document.footing? id = m.document.footing? id) (hp : m'.place = m.place) :
    Standing file line m' := by
  constructor
  · exact h.forest.congr hf
  · intro id r hid
    rw [hp] at hid
    exact (h.opened hid).congr hf

theorem node?_modifyItem (m : Manual) (i id : NodeId) (change : ItemInfo → ItemInfo) :
    (m.modifyItem i change).document.node? id =
      if i = id then (m.document.node? id).map (·.withItem change) else m.document.node? id :=
  Document.node?_modify _ _ _ _ (·.parent_withItem change)

theorem node?_countImage (m : Manual) (i id : NodeId) (kind : ImageKind) :
    (m.countImage i kind).document.node? id =
      if i = id then (m.document.node? id).map (·.counting kind) else m.document.node? id :=
  Document.node?_modify _ _ _ _ (·.parent_counting kind)

theorem isItem_counting (n : Node) (kind : ImageKind) : (n.counting kind).isItem = n.isItem := by
  obtain ⟨k, title, subtitle, body, origin, figures, parent⟩ := n
  cases kind <;> cases k <;> rfl

/-- A node that counts images of a kind still does when one has been added. -/
theorem Counts.addImage {parent : NodeId} {kind : ImageKind} (h : m.Counts parent kind) (n : Node) :
    ((m.countImage parent kind).addNode n).Counts parent kind := by
  intro he
  obtain ⟨x, hx, hitem⟩ := isItem_iff.1 (h he)
  refine isItem_iff.2 ⟨x.counting kind, ?_, (isItem_counting x kind).trans hitem⟩
  have hcounted : (m.countImage parent kind).document.node? parent = some (x.counting kind) := by
    rw [node?_countImage, if_pos rfl, hx, Option.map_some]
  refine (Document.node?_add _ _ _).trans ?_
  rw [if_neg (Nat.ne_of_lt (Document.lt_size_of_node? hcounted)), hcounted]

/-- Images on the lines of a block are all added. -/
theorem exec_addImageLines_of_counts {parent : NodeId} {kind : ImageKind} (h : m.Counts parent kind)
    (label subtitle metadata : String) (origin : Origin) (lines : List String) :
    ∃ m', (addImageLines parent kind label subtitle metadata origin lines).exec m = (.ok (), m') := by
  induction lines generalizing m subtitle with
  | nil => exact ⟨m, rfl⟩
  | cons line lines ih =>
    obtain ⟨info, -, hexec⟩ := exec_addImage_of_counts h label subtitle metadata [line] origin
    rw [addImageLines, Work.exec_bind_of_ok hexec]
    exact ih (h.addImage _) ""

theorem footing?_modifyFile (m : Manual) (i id : NodeId) (change : FileInfo → FileInfo) :
    (m.modifyFile i change).document.footing? id = m.document.footing? id :=
  Document.footing?_modify _ _ _ (·.parent_withFile change) (·.footing_withFile change)

theorem footing?_modifyItem (m : Manual) (i id : NodeId) (change : ItemInfo → ItemInfo) :
    (m.modifyItem i change).document.footing? id = m.document.footing? id :=
  Document.footing?_modify _ _ _ (·.parent_withItem change) (·.footing_withItem change)

theorem footing?_countImage (m : Manual) (i id : NodeId) (kind : ImageKind) :
    (m.countImage i kind).document.footing? id = m.document.footing? id :=
  Document.footing?_modify _ _ _ (·.parent_counting kind) (·.footing_counting kind)

/-- A node that fits below an open one is added, and becomes open itself or not. -/
theorem Standing.add_below {n : Node} {parent : NodeId} {r : Rank} {place : Place}
    (h : Standing file line m) (hopen : (parent, r) ∈ m.place.opened) (hp : n.parent = some parent)
    (ho : n.origin = ⟨file, line⟩) (hr : n.kind.rank.mayStandBelow r = true)
    (hplace : ∀ x ∈ place.opened, x ∈ m.place.opened ∨ x = (m.document.size, n.kind.rank)) :
    Standing file line { m.addNode n with place } := by
  constructor
  · exact h.forest.add_below (h.opened hopen) hp ho hr
  · intro id r' hid
    -- what was open stays open, and the new node is open as long as it is the last
    rcases hplace _ hid with hold | hnew
    · exact (h.opened hold).add ho
    · obtain ⟨rfl, rfl⟩ := Prod.mk.inj hnew
      exact Document.open_add ho

/-- The step of the run: one edit. -/
theorem Standing.edit {m' : Manual} {b : Block} (hb : b.origin = ⟨file, line⟩) (he : Edit b m m')
    (h : Standing file line m) : Standing file line m' := by
  cases he with
  | rules hrules => exact ⟨h.forest, h.opened⟩
  | openFile hf =>
    constructor
    · exact h.forest.add_root rfl rfl
    · -- only the new file is open now, whatever was before
      intro id r hid
      obtain ⟨rfl, rfl⟩ := Prod.mk.inj (List.mem_singleton.1 hid)
      exact Document.open_add hb
  | openSection hf title subtitle body =>
    have hfile := Place.opened_of_file? hf
    refine h.add_below hfile rfl hb rfl ?_
    simp [Kind.rank, hfile]
  | openSubsection hf hs =>
    have hfile := Place.opened_of_file? hf
    have hsect := Place.opened_of_section? hs
    refine h.add_below hsect rfl hb rfl ?_
    simp [Block.node, Kind.rank, hfile, hsect]
  | @openItem f s hf hs fresh =>
    have hfile := Place.opened_of_file? hf
    have hsect := Place.opened_of_section? hs
    have hadd : Standing file line { m.addNode (b.node (.item ItemInfo.empty) (some s)) with
        place := .item f s m.document.size } := by
      refine h.add_below hsect rfl hb rfl ?_
      simp [Block.node, Kind.rank, hfile, hsect]
    exact ⟨hadd.forest, hadd.opened⟩
  | describeFile hf change => exact h.congr (fun id => footing?_modifyFile m _ id change) rfl
  | describeItem hi change hc => exact h.congr (fun id => footing?_modifyItem m _ id change) rfl
  | addAlias hi fresh => exact h.congr (fun id => footing?_modifyItem _ _ id _) rfl
  | @image parent info n _ ht hp ho =>
    have hcounted : Standing file line (m.countImage parent info.kind) :=
      h.congr (fun id => footing?_countImage m _ id info.kind) rfl
    obtain ⟨r, hr, hbelow⟩ := Place.opened_of_taker? ht
    exact hcounted.add_below hr hp (ho.trans hb) hbelow fun x hx => .inl hx
  | child n ht hp ho =>
    obtain ⟨r, hr, hbelow⟩ := Place.opened_of_taker? ht
    exact h.add_below hr hp (ho.trans hb) hbelow fun x hx => .inl hx

theorem Standing.exists_node? {id : NodeId} {r : Rank} (h : Standing file line m) (hid : (id, r) ∈ m.place.opened) :
    ∃ n, m.document.node? id = some n ∧ n.kind.rank = r := by
  obtain ⟨x, hx, hrank⟩ := (h.opened hid).rank
  obtain ⟨n, hn, rfl⟩ := Option.map_eq_some_iff.1 hx
  exact ⟨n, hn, hrank⟩

/-- The open file is one. -/
theorem Standing.isFile {id : NodeId} (h : Standing file line m) (hf : m.place.file? = some id) :
    (m.document.node? id).any Node.isFile = true := by
  obtain ⟨n, hn, hrank⟩ := h.exists_node? (Place.opened_of_file? hf)
  rw [hn]
  exact Node.isFile_of_rank hrank

/-- The open item is one. -/
theorem Standing.isItem {id : NodeId} (h : Standing file line m) (hi : m.place.item? = some id) : m.IsItem id := by
  obtain ⟨n, hn, hrank⟩ := h.exists_node? (Place.opened_of_item? hi)
  exact isItem_iff.2 ⟨n, hn, Node.isItem_of_rank hrank⟩

/-- Where the place takes images of a kind, they are counted. -/
theorem Standing.counts {parent : NodeId} {kind : ImageKind} (h : Standing file line m)
    (hp : m.TakesImage kind parent) : m.Counts parent kind :=
  fun hexample => h.isItem (hp.2 hexample)

theorem Standing.lt_size_of_parent? {parent : NodeId} (h : Standing file line m)
    (hp : m.place.parent? = some parent) : parent < m.document.size := by
  obtain ⟨r, hr, -⟩ := Place.opened_of_parent? hp
  obtain ⟨n, hn, -⟩ := h.exists_node? hr
  exact Document.lt_size_of_node? hn

theorem invariant_standing : Invariant Standing where
  later hl h := ⟨h.forest, fun hid => (h.opened hid).later hl⟩
  frame := by
    intro file l m m' ⟨hlib, hplace⟩ h
    refine h.congr (fun id => ?_) hplace
    rw [document, hlib, document]
  close h := ⟨h.forest, fun hid => h.opened (Place.opened_closeItem hid)⟩
  edit hb he h := h.edit hb he

/-- Any document that comes about is a forest. -/
theorem forest_readAll (settings : Settings) (inputs : List Input) :
    ((new settings).readAll inputs).document.Forest := by
  refine invariant_standing.reached (P := fun m => m.document.Forest) ?_ ?_ settings .empty inputs
  · intro m file h
    exact ⟨h, fun hid => absurd hid List.not_mem_nil⟩
  · intro file l m m' h hlib
    rw [document, hlib]
    exact h.forest

/-- Before a source is read, nothing is open. -/
theorem standing_start (settings : Settings) (inputs : List Input) (file : String) :
    Standing file 1 ((new settings).readAll inputs).start :=
  ⟨forest_readAll settings inputs, fun hid => absurd hid List.not_mem_nil⟩

/-- Wherever reading is in a source, the place fits the document. -/
theorem exists_standing (settings : Settings) (inputs : List Input) (role : Role) (file : String)
    (lines : List String) (k : Nat) :
    ∃ line, Standing file line
      (((new settings).readAll inputs).start.stepAll role ((Source.events file lines).take k)).1 :=
  invariant_standing.stepAll_take role 1 lines k (standing_start settings inputs file)

/-! ## What holds of the document -/

section OfDocument

variable {P : Document → Prop}

/-- What edits keep of a document that stands as it should, reading keeps. -/
theorem invariant_document
    (edit : ∀ {file l m m' b}, b.origin = ⟨file, l⟩ → Standing file l m → Edit b m m' → P m.document → P m'.document) :
    Invariant fun file l m => Standing file l m ∧ P m.document where
  later hl h := ⟨invariant_standing.later hl h.1, h.2⟩
  frame := by
    intro file l m m' hsame h
    refine ⟨invariant_standing.frame hsame h.1, ?_⟩
    rw [document, hsame.1]
    exact h.2
  close h := ⟨invariant_standing.close h.1, h.2⟩
  edit hb he h := ⟨h.1.edit hb he, edit hb h.1 he h.2⟩

theorem document_readAll
    (edit : ∀ {file l m m' b}, b.origin = ⟨file, l⟩ → Standing file l m → Edit b m m' → P m.document → P m'.document)
    (empty : P .empty) (settings : Settings) (inputs : List Input) :
    P ((new settings).readAll inputs).document := by
  have hreached := (invariant_document edit).reached (P := fun m => m.document.Forest ∧ P m.document)
    (fun file h => ⟨⟨h.1, fun hid => absurd hid List.not_mem_nil⟩, h.2⟩)
    (by
      intro file l m m' h hlib
      rw [document, hlib]
      exact ⟨h.1.forest, h.2⟩)
    settings ⟨.empty, empty⟩ inputs
  exact hreached.2

end OfDocument

/-! ## What holds of every node -/

theorem isLeaf_withFile (n : Node) (f : FileInfo → FileInfo) :
    n.withFile f = n ∨ (n.withFile f).kind.isLeaf = false := by
  unfold Node.withFile
  split <;> simp [Kind.isLeaf]

theorem isLeaf_withItem (n : Node) (f : ItemInfo → ItemInfo) :
    n.withItem f = n ∨ (n.withItem f).kind.isLeaf = false := by
  unfold Node.withItem
  split <;> simp [Kind.isLeaf]

section Nodes

variable {Q : Node → Prop} (holder : ∀ n, n.kind.isLeaf = false → Q n)
  (figures : ∀ {n : Node} (k : Nat), Q n → Q { n with figures := k })
  (leaf : ∀ (m : Manual) (parent : NodeId) (n : Node),
    (∀ info, n.kind = .image info →
      m.imageInfo parent info.kind info.number info.metadata n.body n.origin = .ok info) →
    (∀ info, n.kind = .table info → ∃ headerSets, Table.parse? headerSets n.body = some info) → Q n)
include holder figures leaf

/-- What holds of every node that holds others, and of every other node when it is put below one, holds of all
nodes from then on, unless it is about how many figures a node counts. -/
theorem kept_nodes : Kept fun m => ∀ id n, m.document.node? id = some n → Q n where
  directive := by
    intro m m' hfixed h
    have hlibrary : m'.library = m.library := congrArg Fixed.library hfixed
    rw [document, hlibrary]
    exact h
  edit := by
    intro m m' b he h
    have hadd {d : Document} (hd : ∀ id x, d.node? id = some x → Q x) {n : Node} (hn : Q n) :
        ∀ id x, (d.add n).node? id = some x → Q x := by
      intro id x hx
      rw [Document.node?_add] at hx
      split at hx
      · obtain rfl := Option.some.inj hx
        exact hn
      · exact hd id x hx
    have hmodify {f : Node → Node} (i : NodeId) (hp : ∀ n, (f n).parent = n.parent) (hf : ∀ n, Q n → Q (f n)) :
        ∀ id x, (m.document.modify i f hp).node? id = some x → Q x := by
      intro id x hx
      rw [Document.node?_modify] at hx
      split at hx
      · obtain ⟨n, hn, rfl⟩ := Option.map_eq_some_iff.1 hx
        exact hf n (h id n hn)
      · exact h id x hx
    -- a description changes nodes that hold others, and no other node
    have hfile (f : FileInfo → FileInfo) (n : Node) (hn : Q n) : Q (n.withFile f) := by
      rcases isLeaf_withFile n f with hsame | hholder
      · rwa [hsame]
      · exact holder _ hholder
    have hitem (f : ItemInfo → ItemInfo) (n : Node) (hn : Q n) : Q (n.withItem f) := by
      rcases isLeaf_withItem n f with hsame | hholder
      · rwa [hsame]
      · exact holder _ hholder
    cases he with
    | rules _ => exact h
    | openFile | openSection | openSubsection | openItem => exact hadd h (holder _ rfl)
    | describeFile => exact hmodify _ (·.parent_withFile _) (hfile _)
    | describeItem => exact hmodify _ (·.parent_withItem _) (hitem _)
    | addAlias => exact hmodify _ (·.parent_withItem _) (hitem _)
    | @image parent info n hk _ _ _ _ _ himage =>
      refine hadd (hmodify parent (·.parent_counting info.kind) fun x hx => ?_) (leaf m parent n (fun info' hk' => ?_)
        fun info' hk' => ?_)
      · cases info.kind with
        | figure => exact figures _ hx
        | _ => exact hitem _ x hx
      · obtain rfl := Kind.image.inj (hk.symm.trans hk')
        rw [(imageInfo_eq_ok himage).number_eq]
        exact himage
      · exact absurd (hk.symm.trans hk') (by simp)
    | @child parent n _ _ _ _ himage htable =>
      exact hadd h (leaf m parent n (fun info hk => absurd hk (himage info)) htable)
  close h := h
  start h := h
  rebase h := h

theorem nodes_readAll (settings : Settings) (inputs : List Input) :
    ∀ id n, ((new settings).readAll inputs).document.node? id = some n → Q n := by
  refine (kept_nodes holder figures leaf).reached settings ?_ inputs
  intro id n hget
  simp [document, blank, Document.empty, Document.node?] at hget

end Nodes

end Manual

/-! ## What a forest is like -/

namespace Document

theorem exists_node? {d : Document} {id : NodeId} (h : id < d.size) : ∃ n, d.node? id = some n :=
  Option.isSome_iff_exists.1 (node?_isSome_iff.2 h)

theorem footing?_of_node? {d : Document} {id : NodeId} {n : Node} (h : d.node? id = some n) :
    d.footing? id = some n.footing := by
  rw [footing?, h, Option.map_some]

theorem originOf_eq {d : Document} {id : NodeId} {x : Footing} (h : d.footing? id = some x) :
    References.originOf d id = x.origin := by
  obtain ⟨n, hn, rfl⟩ := Option.map_eq_some_iff.1 h
  rw [References.originOf, hn]
  rfl

theorem exists_footing? {d : Document} {id p : NodeId} (h : d.parent? id = some p) :
    ∃ x, d.footing? id = some x ∧ x.parent = some p := by
  rw [parent?_eq_footing] at h
  exact Option.bind_eq_some_iff.1 h

theorem children_increase (d : Document) (id : NodeId) : (d.children id).Pairwise (· < ·) := by
  rw [children_eq]
  exact List.pairwise_lt_range.filter _

theorem files_increase (d : Document) : d.files.Pairwise (· < ·) := by
  rw [files_eq]
  exact List.pairwise_lt_range.filter _

theorem mem_files {d : Document} {id : NodeId} : id ∈ d.files ↔ id < d.size ∧ d.parent? id = none := by
  simp [files_eq]

namespace Forest

variable {d : Document}

theorem parent_lt (h : d.Forest) {id p : NodeId} (hp : d.parent? id = some p) : p < id := by
  obtain ⟨x, hx, hparent⟩ := exists_footing? hp
  exact (h.below hx hparent).1

theorem mem_children_iff (h : d.Forest) {id q : NodeId} :
    id ∈ d.children q ↔ d.parent? id = some q := by
  refine ⟨fun hmem => (mem_children.1 hmem).2.2, fun hp => mem_children.2 ?_⟩
  obtain ⟨x, hx, -⟩ := exists_footing? hp
  exact ⟨lt_size_of_footing? hx, h.parent_lt hp, hp⟩

theorem isFile (h : d.Forest) {id : NodeId} (hid : id < d.size) (hp : d.parent? id = none) :
    ∃ n, d.node? id = some n ∧ n.isFile = true := by
  obtain ⟨n, hn⟩ := exists_node? hid
  have hparent : n.parent = none := by rw [parent?, hn] at hp; exact hp
  have hrank : n.kind.rank = .file := h.root (footing?_of_node? hn) hparent
  obtain ⟨info, hinfo⟩ := Kind.eq_file_of_rank hrank
  refine ⟨n, hn, ?_⟩
  simp only [Node.isFile, Node.file?, hinfo, Option.isSome_some]

/-- The way up ends at a root from the same source. -/
theorem fileOf_spec (h : d.Forest) (id : NodeId) (hid : id < d.size) :
    Relation.ReflTransGen (fun a b => d.parent? a = some b) id (d.fileOf id) ∧ d.fileOf id ∈ d.files ∧
      (References.originOf d id).file = (References.originOf d (d.fileOf id)).file := by
  induction id using Nat.strongRecOn with
  | ind id ih =>
    -- a parent has a smaller number, so it is already known to stand in its file
    rw [fileOf]
    cases hp : d.parent? id with
    | none =>
      exact ⟨.refl, mem_files.2 ⟨hid, hp⟩, rfl⟩
    | some p =>
      obtain ⟨x, hx, hparent⟩ := exists_footing? hp
      obtain ⟨hlt, y, hy, -, hfile⟩ := h.below hx hparent
      obtain ⟨hway, hroot, hsource⟩ := ih p hlt (Nat.lt_trans hlt hid)
      simp only [if_pos hlt]
      refine ⟨.head hp hway, hroot, ?_⟩
      rw [originOf_eq hx, hfile, ← originOf_eq hy, hsource]

/-- What footings show of a forest makes it well formed. -/
theorem wellFormed (h : d.Forest) : d.WellFormed where
  mem_files _ := mem_files
  files_nodup := d.files_increase.imp Nat.ne_of_lt
  isFile_of_mem_files id hid := by
    obtain ⟨hlt, hparent⟩ := Document.mem_files.1 hid
    exact h.isFile hlt hparent
  parent_lt id p hp := h.parent_lt hp
  count_children id q := by
    have hnodup : (d.children q).Nodup := (d.children_increase q).imp Nat.ne_of_lt
    simp only [hnodup.count, h.mem_children_iff]
  mayStandBelow id p hp := by
    obtain ⟨x, hx, hparent⟩ := exists_footing? hp
    obtain ⟨-, y, hy, hbelow, -⟩ := h.below hx hparent
    obtain ⟨n, hn, rfl⟩ := Option.map_eq_some_iff.1 hx
    obtain ⟨pn, hpn, rfl⟩ := Option.map_eq_some_iff.1 hy
    exact ⟨n, pn, hn, hpn, hbelow⟩
  children_increase id := d.children_increase id
  lines_increase id := by
    refine (d.children_increase id).imp_of_mem fun ha hb hab => ?_
    obtain ⟨x, hx, hxp⟩ := exists_footing? (mem_children.1 ha).2.2
    obtain ⟨y, hy, hyp⟩ := exists_footing? (mem_children.1 hb).2.2
    rw [originOf_eq hx, originOf_eq hy]
    exact h.ordered hab hx hy hxp hyp
  reaches_file id hid := ⟨(h.fileOf_spec id hid).1, (h.fileOf_spec id hid).2.1⟩
  same_source id hid := (h.fileOf_spec id hid).2.2

end Forest

end Document

/-- **Whatever is read, in whatever order, the document is a forest of typed trees.** -/
theorem Manual.document_wellFormed (settings : Settings) (inputs : List Input) :
    ((new settings).readAll inputs).document.WellFormed :=
  (forest_readAll settings inputs).wellFormed

end ScadManual
