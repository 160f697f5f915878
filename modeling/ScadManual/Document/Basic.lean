import ScadManual.Document.Node

/-!
# Documents

All nodes of all source files, in the order in which they were made.  A node knows the node it stands
below, which is an earlier one; a node without one is the root of a file.  The children of each node and the
roots are kept in lists, to which every new node is added, so they too are in the order of their making; that
these lists say the same as the nodes do is part of what a document is.
-/

namespace ScadManual

namespace Document

/-- The roots among nodes, as the nodes tell. -/
def rootsAmong (nodes : Array Node) : List NodeId :=
  (List.range nodes.size).filter fun c => (nodes[c]?.bind (·.parent)).isNone

/-- The nodes below a node, as the nodes tell. -/
def belowAmong (nodes : Array Node) (id : NodeId) : List NodeId :=
  (List.range nodes.size).filter fun c => id < c && nodes[c]?.bind (·.parent) == some id

/-- The lists of children when a node is added that stands below `parent`. -/
def addBelow (below : Array (List NodeId)) (parent : Option NodeId) (id : NodeId) : Array (List NodeId) :=
  (match parent with
    | some p => below.modify p (· ++ [id])
    | none => below).push []

/-- The list of roots when a node is added that stands below `parent`. -/
def addRoot (files : List NodeId) (parent : Option NodeId) (id : NodeId) : List NodeId :=
  match parent with
  | some _ => files
  | none => files ++ [id]

theorem parent_push (nodes : Array Node) (n : Node) (c : NodeId) :
    ((nodes.push n)[c]?).bind (·.parent) =
      if c = nodes.size then n.parent else nodes[c]?.bind (·.parent) := by
  rw [Array.getElem?_push]
  split <;> rfl

/-- A filter that looks at old nodes only does not see a new one. -/
theorem filter_range_push (nodes : Array Node) (n : Node) (p : NodeId → Option NodeId → Bool) :
    (List.range (nodes.push n).size).filter (fun c => p c (((nodes.push n)[c]?).bind (·.parent))) =
      (List.range nodes.size).filter (fun c => p c (nodes[c]?.bind (·.parent))) ++
        if p nodes.size n.parent then [nodes.size] else [] := by
  rw [Array.size_push, List.range_succ, List.filter_append]
  congr 1
  · refine List.filter_congr fun c hc => ?_
    rw [parent_push, if_neg (Nat.ne_of_lt (List.mem_range.1 hc))]
  · rw [List.filter_cons, parent_push, if_pos rfl, List.filter_nil]

theorem rootsAmong_push (nodes : Array Node) (n : Node) :
    rootsAmong (nodes.push n) = addRoot (rootsAmong nodes) n.parent nodes.size := by
  rw [rootsAmong, filter_range_push nodes n fun _ parent => parent.isNone, rootsAmong]
  cases n.parent <;> simp [addRoot]

theorem belowAmong_push (nodes : Array Node) (n : Node) (id : NodeId) :
    belowAmong (nodes.push n) id =
      belowAmong nodes id ++ if id < nodes.size ∧ n.parent = some id then [nodes.size] else [] := by
  rw [belowAmong, filter_range_push nodes n fun c parent => id < c && parent == some id, belowAmong]
  simp

theorem size_addBelow (below : Array (List NodeId)) (parent : Option NodeId) (id : NodeId) :
    (addBelow below parent id).size = below.size + 1 := by
  cases parent <;> simp [addBelow]

theorem getD_addBelow (below : Array (List NodeId)) (parent : Option NodeId) (new id : NodeId) :
    (addBelow below parent new)[id]?.getD [] =
      below[id]?.getD [] ++ if id < below.size ∧ parent = some id then [new] else [] := by
  cases parent with
  | none =>
    simp only [addBelow, Array.getElem?_push]
    split <;> simp_all
  | some p =>
    simp only [addBelow, Array.getElem?_push, Array.size_modify, Array.getElem?_modify]
    by_cases hid : id < below.size <;> by_cases hp : p = id <;> grind

end Document

/-- The nodes of all files. -/
structure Document where
  nodes : Array Node
  /-- The children of each node. -/
  below : Array (List NodeId)
  /-- The roots, in order. -/
  files : List NodeId
  size_below : below.size = nodes.size
  /-- The children are the nodes that stand below. -/
  below_eq : ∀ id : NodeId, below[id]?.getD [] = Document.belowAmong nodes id
  /-- The roots are the nodes that stand below none. -/
  files_eq_roots : files = Document.rootsAmong nodes
deriving DecidableEq, Repr

namespace Document

/-- No node. -/
def empty : Document := ⟨#[], #[], [], rfl, fun _ => rfl, rfl⟩

/-- The number of nodes. -/
def size (d : Document) : Nat := d.nodes.size

/-- A node by its number. -/
def node? (d : Document) (id : NodeId) : Option Node := d.nodes[id]?

/-- Adds a node, to the children of the node that it stands below or to the roots; its number is the size
before. -/
def add (d : Document) (n : Node) : Document where
  nodes := d.nodes.push n
  below := addBelow d.below n.parent d.size
  files := addRoot d.files n.parent d.size
  size_below := by rw [size_addBelow, d.size_below, Array.size_push]
  below_eq id := by rw [getD_addBelow, d.below_eq, d.size_below, belowAmong_push]; rfl
  files_eq_roots := by rw [d.files_eq_roots, rootsAmong_push]; rfl

theorem parent_modify (nodes : Array Node) (i : NodeId) {f : Node → Node} (hf : ∀ n, (f n).parent = n.parent)
    (c : NodeId) : ((nodes.modify i f)[c]?).bind (·.parent) = nodes[c]?.bind (·.parent) := by
  rw [Array.getElem?_modify]
  split
  · cases nodes[c]? <;> simp [hf]
  · rfl

/-- Changes a node, which stays where it stands. -/
def modify (d : Document) (id : NodeId) (f : Node → Node) (hf : ∀ n, (f n).parent = n.parent) : Document where
  nodes := d.nodes.modify id f
  below := d.below
  files := d.files
  size_below := by rw [d.size_below, Array.size_modify]
  below_eq c := by simp only [d.below_eq, belowAmong, parent_modify d.nodes id hf, Array.size_modify]
  files_eq_roots := by simp only [d.files_eq_roots, rootsAmong, parent_modify d.nodes id hf, Array.size_modify]

/-- The node that a node stands below. -/
def parent? (d : Document) (id : NodeId) : Option NodeId := (d.node? id).bind (·.parent)

/-- The nodes below a node. -/
def children (d : Document) (id : NodeId) : List NodeId := d.below[id]?.getD []

/-- The list of children says what the nodes say. -/
theorem children_eq (d : Document) (id : NodeId) :
    d.children id = (List.range d.size).filter fun c => id < c && d.parent? c == some id :=
  d.below_eq id

/-- The list of roots says what the nodes say. -/
theorem files_eq (d : Document) : d.files = (List.range d.size).filter fun c => (d.parent? c).isNone :=
  d.files_eq_roots

/-- A document is told by its nodes. -/
theorem ext_node? {d d' : Document} (h : ∀ id, d.node? id = d'.node? id) : d = d' := by
  obtain ⟨nodes, below, files, hsize, hbelow, hfiles⟩ := d
  obtain ⟨nodes', below', files', hsize', hbelow', hfiles'⟩ := d'
  obtain rfl : nodes = nodes' := Array.ext_getElem? h
  obtain rfl : files = files' := hfiles.trans hfiles'.symm
  obtain rfl : below = below' := by
    refine Array.ext (hsize.trans hsize'.symm) fun id hid hid' => ?_
    have hlists := (hbelow id).trans (hbelow' id).symm
    rwa [Array.getElem?_eq_getElem hid, Array.getElem?_eq_getElem hid', Option.getD_some, Option.getD_some] at hlists
  rfl

/-- The items, in order. -/
def items (d : Document) : List NodeId :=
  (List.range d.size).filter fun c => (d.node? c).any Node.isItem

/-- A child comes after its parent and is a node. -/
theorem mem_children {d : Document} {id c : NodeId} :
    c ∈ d.children id ↔ c < d.size ∧ id < c ∧ d.parent? c = some id := by
  simp [children_eq]

/-- Walking down from a node comes closer to the end. -/
theorem sub_lt_of_mem_children {d : Document} {id c : NodeId} (h : c ∈ d.children id) :
    d.size - c < d.size - id := by
  obtain ⟨hc, hid, _⟩ := mem_children.1 h
  exact Nat.sub_lt_sub_left (Nat.lt_trans hid hc) hid

/-- The root that a node stands below. -/
def fileOf (d : Document) (id : NodeId) : NodeId :=
  match d.parent? id with
  | none => id
  | some p => if p < id then d.fileOf p else id
termination_by id

/-- What is known of the file of a node. -/
def fileInfoOf (d : Document) (id : NodeId) : FileInfo :=
  ((d.node? (d.fileOf id)).bind Node.file?).getD FileInfo.empty

/-- The number of images of a kind made below a node so far. -/
def counted (d : Document) (id : NodeId) (kind : ImageKind) : Nat :=
  ((d.node? id).map (·.counted kind)).getD 0

/-- A field of a node, or nothing much when there is no such node. -/
def title (d : Document) (id : NodeId) : String :=
  ((d.node? id).map (·.title)).getD ""

@[inherit_doc title]
def subtitle (d : Document) (id : NodeId) : String :=
  ((d.node? id).map (·.subtitle)).getD ""

@[inherit_doc title]
def body (d : Document) (id : NodeId) : List String :=
  ((d.node? id).map (·.body)).getD []

/-! ## Orders of children -/

/-- The children whose title is one of the given. -/
def childrenTitled (d : Document) (id : NodeId) (titles : List String) : List NodeId :=
  (d.children id).filter fun c => titles.contains (d.title c)

/-- The children whose title starts with `start`. -/
def childrenStarting (d : Document) (id : NodeId) (start : String) : List NodeId :=
  (d.children id).filter fun c => Text.startsWith (d.title c) start

/-- The children for display: those of the front groups, those of no group, those of the back groups.  A
group lists beginnings of titles, and a child comes once for each beginning that its title has. -/
def sortedChildren (d : Document) (id : NodeId) (front back : List (List String)) : List NodeId :=
  let grouped (groups : List (List String)) := groups.flatten.flatMap (d.childrenStarting id)
  grouped front ++
    (d.children id).filter (fun c =>
      !(front.flatten ++ back.flatten).any (Text.startsWith (d.title c))) ++
    grouped back

end Document

end ScadManual
