import Mathlib.Data.List.Infix
import Mathlib.Data.List.Nodup
import Mathlib.Data.List.Pairwise
import ScadManual.Manual.Read
import ScadManual.Proofs.Shown
import ScadManual.Proofs.Sorting
import ScadManual.Proofs.Text

/-!
# The order in which children are shown

Children are shown by the beginnings of their titles: those with a beginning of the front groups come first, then those
with none, then those with a beginning of the back groups.  The order is made by one filter for each beginning, so a child
whose title has two of them would be shown twice.  Where no beginning is the beginning of another, as for the blocks of an
item, each child has one class, and the order is the children sorted by their classes, with nothing moved within a class.
-/

namespace ScadManual

namespace Document

/-! ## Classes of titles -/

/-- No text of the list is the beginning of another; in particular none comes twice. -/
def PrefixFree (starts : List String) : Prop :=
  starts.Pairwise fun a b => ¬a.toList <+: b.toList ∧ ¬b.toList <+: a.toList

instance (starts : List String) : Decidable (PrefixFree starts) :=
  inferInstanceAs (Decidable (List.Pairwise _ _))

/-- The class of a title: the beginning it has, if it has one. -/
def beginning? (starts : List String) (title : String) : Option String :=
  starts.find? (Text.startsWith title)

/-- The classes in the order in which they are shown. -/
def classes (front back : List String) : List (Option String) :=
  front.map some ++ none :: back.map some

section Classes

variable {starts front back : List String} {title start : String}

theorem PrefixFree.nodup (h : PrefixFree starts) : starts.Nodup :=
  h.imp fun {a b} hab => by
    rintro rfl
    exact hab.1 (List.prefix_refl _)

/-- A title has one beginning at most. -/
theorem PrefixFree.eq_of_startsWith (h : PrefixFree starts) {other : String} (hstart : start ∈ starts)
    (hother : other ∈ starts) (ht : Text.startsWith title start = true) (ht' : Text.startsWith title other = true) :
    start = other := by
  apply Decidable.byContradiction
  intro hne
  have hsymm : Std.Symm fun a b : String => ¬a.toList <+: b.toList ∧ ¬b.toList <+: a.toList :=
    ⟨fun _ _ hab => hab.symm⟩
  have hapart := List.Pairwise.forall h hstart hother hne
  -- of two beginnings of one title, the shorter begins the longer
  rcases List.prefix_or_prefix_of_prefix (Text.startsWith_iff.1 ht) (Text.startsWith_iff.1 ht') with hle | hle
  · exact hapart.1 hle
  · exact hapart.2 hle

theorem PrefixFree.beginning?_eq_some_iff (h : PrefixFree starts) (hstart : start ∈ starts) :
    beginning? starts title = some start ↔ Text.startsWith title start = true := by
  constructor
  · exact fun hfind => List.find?_some hfind
  · intro ht
    obtain ⟨other, hfind⟩ := Option.isSome_iff_exists.1 (List.find?_isSome.2 ⟨start, hstart, ht⟩)
    rw [h.eq_of_startsWith hstart (List.mem_of_find?_eq_some hfind) ht (List.find?_some hfind)]
    exact hfind

theorem beginning?_eq_none_iff :
    beginning? starts title = none ↔ starts.any (Text.startsWith title) = false := by
  simp [beginning?]

theorem nodup_classes (h : PrefixFree (front ++ back)) : (classes front back).Nodup := by
  have hsome : ((front ++ back).map some).Nodup := h.nodup.map fun _ _ => Option.some.inj
  rw [List.map_append] at hsome
  rw [classes, List.nodup_middle, List.nodup_cons]
  exact ⟨by simp, hsome⟩

theorem beginning?_mem_classes : beginning? (front ++ back) title ∈ classes front back := by
  rw [classes, List.mem_append, List.mem_cons]
  cases hfind : beginning? (front ++ back) title with
  | none => exact .inr (.inl rfl)
  | some start =>
    rcases List.mem_append.1 (List.mem_of_find?_eq_some hfind) with hfront | hback
    · exact .inl (List.mem_map_of_mem hfront)
    · exact .inr (.inr (List.mem_map_of_mem hback))

end Classes

/-! ## Children by their classes -/

/-- Children as they are shown: each once, class after class, and within each class in the order of their making. -/
structure Arranged (d : Document) (id : NodeId) (front back : List String) (shown : List NodeId) : Prop where
  perm : shown.Perm (d.children id)
  once : shown.Nodup
  inOrder : shown.Pairwise fun a b =>
    (classes front back).idxOf (beginning? (front ++ back) (d.title a)) ≤
      (classes front back).idxOf (beginning? (front ++ back) (d.title b))
  stable : ∀ k, (shown.filter fun c => beginning? (front ++ back) (d.title c) == k) =
    (d.children id).filter fun c => beginning? (front ++ back) (d.title c) == k

variable {d : Document} {id : NodeId} {front back : List (List String)}

/-- Taking the children beginning by beginning is taking them class by class. -/
theorem sortedChildren_eq (h : PrefixFree (front.flatten ++ back.flatten)) :
    d.sortedChildren id front back = (classes front.flatten back.flatten).flatMap fun k =>
      (d.children id).filter fun c => beginning? (front.flatten ++ back.flatten) (d.title c) == k := by
  have hstarting : ∀ start ∈ front.flatten ++ back.flatten, d.childrenStarting id start =
      (d.children id).filter fun c => beginning? (front.flatten ++ back.flatten) (d.title c) == some start := by
    intro start hstart
    refine List.filter_congr fun c _ => ?_
    rw [Bool.eq_iff_iff, beq_iff_eq]
    exact (h.beginning?_eq_some_iff hstart).symm
  have hnone : ((d.children id).filter fun c => !(front.flatten ++ back.flatten).any (Text.startsWith (d.title c))) =
      (d.children id).filter fun c => beginning? (front.flatten ++ back.flatten) (d.title c) == none := by
    refine List.filter_congr fun c _ => ?_
    rw [Bool.eq_iff_iff, beq_iff_eq, beginning?_eq_none_iff, Bool.not_eq_true']
  rw [sortedChildren, classes, List.flatMap_append, List.flatMap_cons, List.flatMap_map, List.flatMap_map, hnone,
    List.append_assoc]
  congr 1
  · exact List.flatMap_congr fun start hstart => hstarting start (List.mem_append_left _ hstart)
  · congr 1
    exact List.flatMap_congr fun start hstart => hstarting start (List.mem_append_right _ hstart)

/-- Where no beginning is the beginning of another, children are shown in order, each once. -/
theorem arranged_sortedChildren (h : PrefixFree (front.flatten ++ back.flatten)) (d : Document) (id : NodeId) :
    d.Arranged id front.flatten back.flatten (d.sortedChildren id front back) := by
  have hkeys := nodup_classes h
  have hcovered : ∀ c ∈ d.children id,
      beginning? (front.flatten ++ back.flatten) (d.title c) ∈ classes front.flatten back.flatten :=
    fun c _ => beginning?_mem_classes
  have hperm := perm_flatMap_filter hkeys hcovered
  have hnodup : (d.children id).Nodup := (d.children_increase id).imp Nat.ne_of_lt
  rw [sortedChildren_eq h]
  exact ⟨hperm, hperm.nodup_iff.2 hnodup, pairwise_flatMap_filter hkeys _, filter_flatMap_filter hkeys hcovered⟩

end Document

namespace Page.Setting

variable {s : Setting} {id : NodeId} {n : Node} {info : ItemInfo}

theorem prefixFree_item : Document.PrefixFree (itemFront.flatten ++ itemBack.flatten) := by decide

/-- An item is its header, the lines of its children as they are arranged, and a rule. -/
theorem nodeLines_of_item (hn : s.doc.node? id = some n) (hk : n.kind = .item info) :
    s.nodeLines id = Noted.concat
      [Noted.of (Dialect.header n.displayName itemLevel true),
       Noted.concat ((s.doc.sortedChildren id itemFront itemBack).map s.nodeLines),
       Noted.of Dialect.horizontalRule] := by
  rw [nodeLines.eq_1 s id]
  simp only [hn, hk]
  rw [List.map_subtype (g := s.nodeLines) fun _ _ => rfl, List.unattach_attach]

/-- **Every child is shown exactly once.**  Where no beginning of the groups is the beginning of another, the children of
a node are shown each once: those with a beginning of the front groups in the order of these, those with none, and those
with a beginning of the back groups, and within each class as they were made.  The groups of an item are of this kind, so
an item has the lines of each of its children once, between its header and its rule. -/
theorem children_shown_once {front back : List (List String)}
    (h : Document.PrefixFree (front.flatten ++ back.flatten)) (d : Document) (id : NodeId) :
    d.Arranged id front.flatten back.flatten (d.sortedChildren id front back) ∧
      ∀ (s : Setting) (n : Node) (info : ItemInfo), s.doc = d → d.node? id = some n → n.kind = .item info →
        ∃ shown, d.Arranged id itemFront.flatten itemBack.flatten shown ∧
          (s.nodeLines id).value = Dialect.header n.displayName itemLevel true ++
            (shown.flatMap fun c => (s.nodeLines c).value) ++ Dialect.horizontalRule ∧
          (s.nodeLines id).findings = shown.flatMap fun c => (s.nodeLines c).findings := by
  refine ⟨Document.arranged_sortedChildren h d id, ?_⟩
  rintro s n info rfl hn hk
  refine ⟨_, Document.arranged_sortedChildren prefixFree_item s.doc id, ?_, ?_⟩
  · rw [nodeLines_of_item hn hk]
    simp [Noted.concat, Noted.of, List.flatMap_map]
  · rw [nodeLines_of_item hn hk]
    simp [Noted.concat, Noted.of, List.flatMap_map]

/-- A module with two examples around its other blocks. -/
theorem children_shown_once_module :
    let m := (Manual.new Settings.default).readAll
      [.code "a.scad" ["// File: a.scad", "// Module: ball()", "// Example:", "//   ball();", "// Description:",
        "//   A ball.", "// Usage:", "//   ball();", "// Example:", "//   ball(2);"]]
    let s : Setting := ⟨m.library, .wiki⟩
    Document.PrefixFree (itemFront.flatten ++ itemBack.flatten) ∧ m.document.children 2 = [3, 4, 5, 6] ∧
      m.document.Arranged 2 itemFront.flatten itemBack.flatten [5, 4, 3, 6] ∧
      ∃ n info shown, m.document.node? 2 = some n ∧ n.kind = .item info ∧
        m.document.Arranged 2 itemFront.flatten itemBack.flatten shown ∧
        (s.nodeLines 2).value = Dialect.header n.displayName itemLevel true ++
          (shown.flatMap fun c => (s.nodeLines c).value) ++ Dialect.horizontalRule := by
  intro m s
  have hfacts : m.document.children 2 = [3, 4, 5, 6] ∧
      m.document.sortedChildren 2 itemFront itemBack = [5, 4, 3, 6] ∧
      (m.document.node? 2).map (·.kind.rank) = some .item := by
    decide +kernel
  obtain ⟨hchildren, hsorted, hitem⟩ := hfacts
  obtain ⟨hshown, hpage⟩ := children_shown_once prefixFree_item m.document 2
  obtain ⟨n, hn, hrank⟩ := Option.map_eq_some_iff.1 hitem
  obtain ⟨info, hk⟩ := Kind.eq_item_of_rank hrank
  obtain ⟨shown, harranged, hlines, -⟩ := hpage s n info rfl hn hk
  exact ⟨prefixFree_item, hchildren, hsorted ▸ hshown, n, info, shown, hn, hk, harranged, hlines⟩

end Page.Setting

end ScadManual
