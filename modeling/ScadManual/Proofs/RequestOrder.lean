import Mathlib.Data.List.Sort
import ScadManual.Proofs.ContentsLists
import ScadManual.Proofs.TreeOrder

/-!
# Images are asked for in the order of their source

The images of a file are collected by a walk of its tree from the top down.  A walk and the numbers of the nodes are
two orders, and includes tell them apart: the note of an include stands right below the file, behind whole sections
that go on after it.  But includes ask for nothing.  All other nodes are walked in the order of their numbers, so the
requests of a file are those of its nodes, one after the other as they were read, and their lines never go back.
-/

namespace ScadManual

namespace Document

variable {d : Document} {c id file : NodeId} {wanted : NodeId → Bool}

/-! ## Walking a tree -/

/-- The nodes of a tree from the top down. -/
def walk (d : Document) (id : NodeId) : List NodeId :=
  id :: (d.children id).attach.flatMap fun ⟨c, h⟩ =>
    have := Document.sub_lt_of_mem_children h
    walk d c
termination_by d.size - id

theorem walk_eq (d : Document) (id : NodeId) : d.walk id = id :: (d.children id).flatMap d.walk := by
  rw [walk, List.flatMap_subtype (g := d.walk) fun _ _ => rfl, List.unattach_attach]

/-- A fact about a node may be shown from that fact about its children. -/
theorem tree_induction (d : Document) {motive : NodeId → Prop}
    (node : ∀ id, (∀ c ∈ d.children id, motive c) → motive id) (id : NodeId) : motive id := by
  induction hk : d.size - id using Nat.strongRecOn generalizing id with
  | ind k ih =>
    refine node id fun c hc => ih _ ?_ c rfl
    rw [← hk]
    exact sub_lt_of_mem_children hc

/-- A walk meets what stands in the tree. -/
theorem Forest.mem_walk (hd : d.Forest) : c ∈ d.walk id ↔ d.StandsIn c id := by
  constructor
  · intro h
    induction id using d.tree_induction with
    | node id ih =>
      rw [walk_eq] at h
      rcases List.mem_cons.1 h with rfl | hbelow
      · exact .refl d c
      · obtain ⟨x, hx, hc⟩ := List.mem_flatMap.1 hbelow
        exact .tail (ih x hx hc) (hd.mem_children_iff.1 hx)
  · intro h
    induction h with
    | refl =>
      rw [walk_eq]
      exact List.mem_cons_self
    | tail _ hp ih =>
      rw [walk_eq]
      exact List.mem_cons_of_mem _ (List.mem_flatMap.2 ⟨_, hd.mem_children_iff.2 hp, ih⟩)

/-- The tree of a file holds what belongs to the file. -/
theorem Forest.standsIn_file_iff (hd : d.Forest) (hfile : file ∈ d.files) :
    d.StandsIn c file ↔ c < d.size ∧ d.fileOf c = file := by
  constructor
  · intro h
    refine ⟨h.lt_size ((hd.wellFormed.mem_files file).1 hfile).1, ?_⟩
    induction h using Relation.ReflTransGen.head_induction_on with
    | refl => exact hd.fileOf_of_mem_files hfile
    | head hp _ ih => rw [hd.fileOf_child (hd.mem_children_iff.2 hp), ih]
  · rintro ⟨hlt, rfl⟩
    exact (hd.fileOf_spec c hlt).1

/-- Nothing stands below an include. -/
theorem Forest.eq_of_standsIn_includes (hd : d.Forest) {x : Footing} (hx : d.footing? id = some x)
    (hrank : x.rank = .includes) (h : d.StandsIn c id) : c = id := by
  rcases Relation.ReflTransGen.cases_tail h with rfl | ⟨b, -, hb⟩
  · rfl
  · obtain ⟨y, hy, hparent⟩ := exists_footing? hb
    obtain ⟨-, z, hz, hbelow, -⟩ := hd.below hy hparent
    obtain rfl := Option.some.inj (hx.symm.trans hz)
    rw [hrank] at hbelow
    exact absurd hbelow (by cases y.rank <;> simp [Rank.mayStandBelow])

/-- Without the includes, a walk meets nodes in the order of their numbers. -/
theorem InTurn.pairwise_walk (h : d.InTurn) (hd : d.Forest)
    (hwanted : ∀ id x, d.footing? id = some x → x.rank = .includes → wanted id = false) (id : NodeId) :
    ((d.walk id).filter wanted).Pairwise (· < ·) := by
  induction id using d.tree_induction with
  | node id ih =>
    have hbelow : (((d.children id).flatMap d.walk).filter wanted).Pairwise (· < ·) := by
      rw [List.filter_flatMap]
      refine List.pairwise_flatMap.2 ⟨ih, (d.children_increase id).imp_of_mem ?_⟩
      intro a b ha hb hab i hi j hj
      obtain ⟨x, hx, hxp⟩ := exists_footing? (hd.mem_children_iff.1 ha)
      obtain ⟨y, hy, hyp⟩ := exists_footing? (hd.mem_children_iff.1 hb)
      obtain ⟨hi, -⟩ := List.mem_filter.1 hi
      obtain ⟨hj, hwant⟩ := List.mem_filter.1 hj
      have hj := hd.mem_walk.1 hj
      -- either the later tree is a lone include, or it came when the earlier one was complete
      by_cases hrank : y.rank = .includes
      · rw [hd.eq_of_standsIn_includes hy hrank hj, hwanted b y hy hrank] at hwant
        exact absurd hwant (by decide)
      · exact Nat.lt_of_lt_of_le (h.settled hab hx hy hxp hyp hrank (hd.mem_walk.1 hi)) (hd.le_of_standsIn hj)
    rw [walk_eq, List.filter_cons]
    split
    · refine List.pairwise_cons.2 ⟨fun j hj => ?_, hbelow⟩
      obtain ⟨c, hc, hj⟩ := List.mem_flatMap.1 (List.mem_filter.1 hj).1
      exact Nat.lt_of_lt_of_le (hd.parent_lt (hd.mem_children_iff.1 hc)) (hd.le_of_standsIn (hd.mem_walk.1 hj))
    · exact hbelow

/-- The nodes of a file, as they were made. -/
def madeFor (d : Document) (file : NodeId) : List NodeId := (List.range d.size).filter fun id => d.fileOf id = file

theorem mem_madeFor : id ∈ d.madeFor file ↔ id < d.size ∧ d.fileOf id = file := by
  simp [madeFor]

theorem pairwise_madeFor (d : Document) (file : NodeId) : (d.madeFor file).Pairwise (· < ·) :=
  List.pairwise_lt_range.filter _

/-- Two increasing lists with the same members are one. -/
theorem InTurn.filter_walk (h : d.InTurn) (hd : d.Forest) (hfile : file ∈ d.files)
    (hwanted : ∀ id x, d.footing? id = some x → x.rank = .includes → wanted id = false) :
    (d.walk file).filter wanted = (d.madeFor file).filter wanted := by
  refine List.Pairwise.eq_of_mem_iff (h.pairwise_walk hd hwanted file) ((d.pairwise_madeFor file).filter _) ?_
  intro id
  rw [List.mem_filter, List.mem_filter, hd.mem_walk, hd.standsIn_file_iff hfile, mem_madeFor]

/-- In the order of their making, the nodes of a file have lines that never go back. -/
theorem InTurn.lines_madeFor (h : d.InTurn) (hd : d.Forest) (hfile : file ∈ d.files) :
    (d.madeFor file).Pairwise fun a b => (References.originOf d a).line ≤ (References.originOf d b).line := by
  refine (d.pairwise_madeFor file).imp_of_mem ?_
  intro a b ha hb hab
  have ha := hd.standsIn_file_iff hfile |>.2 (mem_madeFor.1 ha)
  have hb := hd.standsIn_file_iff hfile |>.2 (mem_madeFor.1 hb)
  obtain ⟨n, hn⟩ := exists_node? (ha.lt_size ((hd.wellFormed.mem_files file).1 hfile).1)
  obtain ⟨n', hn'⟩ := exists_node? (hb.lt_size ((hd.wellFormed.mem_files file).1 hfile).1)
  rw [originOf_eq (footing?_of_node? hn), originOf_eq (footing?_of_node? hn')]
  exact h.lines hab ha hb (footing?_of_node? hn) (footing?_of_node? hn')

/-! ## Requests -/

/-- What a node asks of the renderer. -/
def requestOf? (d : Document) (id : NodeId) : Option Render.Request := (d.node? id).bind Node.request?

theorem requestOf?_includes {x : Footing} (hx : d.footing? id = some x) (hrank : x.rank = .includes) :
    d.requestOf? id = none := by
  obtain ⟨n, hn, rfl⟩ := Option.map_eq_some_iff.1 hx
  rw [requestOf?, hn, Option.bind_some]
  cases himage : n.image? with
  | none => rw [Node.request?, himage, Option.bind_none]
  | some info =>
    -- images have ranks of their own
    rw [Node.footing, Node.kind_of_image? himage, Kind.rank] at hrank
    cases hk : info.kind <;> simp [hk] at hrank

end Document

namespace Documentation

variable {d : Document} {file : NodeId}

theorem requestsBelow_eq (d : Document) (id : NodeId) :
    requestsBelow d id = (d.requestOf? id).toList ++ (d.children id).flatMap (requestsBelow d) := by
  rw [requestsBelow, List.flatMap_subtype (g := requestsBelow d) fun _ _ => rfl, List.unattach_attach,
    Document.requestOf?]
  cases d.node? id <;> rfl

/-- The requests below a node are those that a walk meets. -/
theorem requestsBelow_eq_walk (d : Document) (id : NodeId) :
    requestsBelow d id = (d.walk id).filterMap d.requestOf? := by
  induction id using d.tree_induction with
  | node id ih =>
    have hbelow : (d.children id).flatMap (requestsBelow d) =
        (d.children id).flatMap fun c => (d.walk c).filterMap d.requestOf? := List.flatMap_congr ih
    rw [requestsBelow_eq, hbelow, Document.walk_eq, List.filterMap_cons, List.filterMap_flatMap]
    cases d.requestOf? id <;> rfl

/-- Only the nodes that ask for something matter to the list of what is asked. -/
theorem filterMap_requestOf? (d : Document) (ids : List NodeId) :
    (ids.filter fun id => (d.requestOf? id).isSome).filterMap d.requestOf? = ids.filterMap d.requestOf? := by
  rw [List.filterMap_filter]
  congr 1
  funext id
  cases d.requestOf? id <;> rfl

theorem requestsBelow_eq_madeFor (h : d.InTurn) (hd : d.Forest) (hfile : file ∈ d.files) :
    requestsBelow d file = (d.madeFor file).filterMap d.requestOf? := by
  rw [requestsBelow_eq_walk, ← filterMap_requestOf?, h.filter_walk hd hfile, filterMap_requestOf?]
  intro id x hx hrank
  rw [Document.requestOf?_includes hx hrank, Option.isSome_none]

theorem line_of_requestOf? (hr : d.RequestsInPlace) {id : NodeId} {request : Render.Request}
    (h : d.requestOf? id = some request) : request.origin.line = (References.originOf d id).line := by
  obtain ⟨n, hn, hrequest⟩ := Option.bind_eq_some_iff.1 h
  rw [hr id n request hn hrequest, Document.originOf_eq (Document.footing?_of_node? hn)]
  rfl

/-- What is asked of the renderer for a file is what its nodes ask, each in its turn: the walk of the tree changes
nothing in the order in which they were read.  So all requests are from the source of the file, and from one request
to the next lines never go back. -/
theorem requests_in_source_order (settings : Settings) (inputs : List Manual.Input) (file : NodeId)
    (hfile : file ∈ ((Manual.new settings).readAll inputs).document.files) :
    let d := ((Manual.new settings).readAll inputs).document
    requestsBelow d file = ((List.range d.size).filter fun id => d.fileOf id = file).filterMap d.requestOf? ∧
    (requestsBelow d file).Pairwise (fun r r' => r.origin.line ≤ r'.origin.line) ∧
    ∀ request ∈ requestsBelow d file, request.origin.file = (References.originOf d file).file := by
  intro d
  have hd : d.Forest := Manual.forest_readAll settings inputs
  have hturn : d.InTurn := Manual.inTurn_readAll settings inputs
  have hplace : d.RequestsInPlace := Manual.requestsInPlace_readAll settings inputs
  have hmade := requestsBelow_eq_madeFor hturn hd hfile
  refine ⟨hmade, ?_, file_of_mem_requestsBelow hd hplace file⟩
  rw [hmade, List.pairwise_filterMap]
  refine (hturn.lines_madeFor hd hfile).imp ?_
  intro a b hlines request hrequest request' hrequest'
  rw [line_of_requestOf? hplace hrequest, line_of_requestOf? hplace hrequest']
  exact hlines

/-- The note of an include is walked last, though images were read after it, and the three images are asked for
in the order of their lines. -/
theorem requests_in_source_order_around_include :
    let d := ((Manual.new Settings.default).readAll [.code "a.scad"
      ["// File: a.scad", "// Section: Shapes", "// Subsection: Round", "// Figure(3D): Ball", "//   ball();",
        "// Includes:", "//   include <a.scad>", "// Figure(2D): Disk", "//   disk();", "// Module: m()", "// Example:",
        "//   m();"]]).document
    0 ∈ d.files ∧ d.walk 0 = [0, 1, 2, 3, 5, 6, 7, 4] ∧
      (requestsBelow d 0).map (·.origin) = [⟨"a.scad", 4⟩, ⟨"a.scad", 8⟩, ⟨"a.scad", 11⟩] ∧
      requestsBelow d 0 = ((List.range d.size).filter fun id => d.fileOf id = 0).filterMap d.requestOf? := by
  intro d
  have hread : 0 ∈ d.files ∧ d.walk 0 = [0, 1, 2, 3, 5, 6, 7, 4] ∧
      (requestsBelow d 0).map (·.origin) = [⟨"a.scad", 4⟩, ⟨"a.scad", 8⟩, ⟨"a.scad", 11⟩] := by
    decide +kernel
  exact ⟨hread.1, hread.2.1, hread.2.2, (requests_in_source_order Settings.default _ 0 hread.1).1⟩

end Documentation

end ScadManual
