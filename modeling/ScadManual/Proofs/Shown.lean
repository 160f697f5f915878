import Mathlib.Data.List.Flatten
import ScadManual.Page.File
import ScadManual.Proofs.Forest

/-!
# What the page of a file shows

The page of a file goes through the tree of the file.  Each kind of node puts its children in an order of its own,
and none leaves out a child.  So the lines of every node stand together on the page of its file, and what is found
on the way to them is found there too.
-/

namespace ScadManual

namespace Noted

variable {α : Type}

/-- The lines of a part, and what was found on the way to them, stand together in the whole. -/
structure Within (part whole : Noted (List α)) : Prop where
  lines : part.value <:+: whole.value
  found : part.findings <:+: whole.findings

theorem Within.refl (n : Noted (List α)) : n.Within n := ⟨List.infix_refl _, List.infix_refl _⟩

theorem Within.trans {a b c : Noted (List α)} (hab : a.Within b) (hbc : b.Within c) : a.Within c :=
  ⟨hab.lines.trans hbc.lines, hab.found.trans hbc.found⟩

theorem within_concat {ns : List (Noted (List α))} {n : Noted (List α)} (h : n ∈ ns) : n.Within (concat ns) :=
  ⟨List.infix_of_mem_flatten (List.mem_map_of_mem h), List.infix_of_mem_flatten (List.mem_map_of_mem h)⟩

theorem within_concat_map {γ : Type} {xs : List γ} {x : γ} (h : x ∈ xs) (f : γ → Noted (List α)) :
    (f x).Within (concat (xs.map f)) :=
  within_concat (List.mem_map_of_mem h)

end Noted

/-- The order for display leaves out no child. -/
theorem Document.mem_sortedChildren {d : Document} {id c : NodeId} {front back : List (List String)} :
    c ∈ d.sortedChildren id front back ↔ c ∈ d.children id := by
  refine ⟨Page.Setting.mem_children_of_sorted, fun hc => ?_⟩
  simp only [sortedChildren, childrenStarting, List.mem_append, List.mem_flatMap, List.mem_filter]
  by_cases hgrouped : (front.flatten ++ back.flatten).any (Text.startsWith (d.title c)) = true
  · obtain ⟨start, hstart, hstarts⟩ := List.any_eq_true.1 hgrouped
    rcases List.mem_append.1 hstart with hfront | hback
    · exact .inl (.inl ⟨start, hfront, hc, hstarts⟩)
    · exact .inr ⟨start, hback, hc, hstarts⟩
  · exact .inl (.inr ⟨hc, by simpa using hgrouped⟩)

theorem Kind.eq_section_of_rank {k : Kind} (h : k.rank = .section) : k = .section := by
  match k with
  | .section => rfl
  | .image info =>
    simp only [rank] at h
    split at h <;> contradiction

/-- Only files, sections, subsections and items hold anything. -/
theorem Kind.holder_of_mayStandBelow {k : Kind} {r : Rank} (h : r.mayStandBelow k.rank = true) :
    (∃ info, k = .file info) ∨ k = .section ∨ k = .subsection ∨ ∃ info, k = .item info := by
  match k with
  | .file info => exact .inl ⟨info, rfl⟩
  | .section => exact .inr (.inl rfl)
  | .subsection => exact .inr (.inr (.inl rfl))
  | .item info => exact .inr (.inr (.inr ⟨info, rfl⟩))
  | .image info =>
    simp only [rank] at h
    split at h <;> cases r <;> contradiction
  | .generic | .label | .text | .headerless | .bulletList | .numberedList | .table _ | .includes | .synopsis
  | .tags | .topics | .seeAlso => cases r <;> contradiction

/-- What passes from the children to their parent passes from a node to its file. -/
theorem Document.Forest.at_fileOf {d : Document} (hd : d.Forest) {P : NodeId → Prop}
    (up : ∀ {id c}, c ∈ d.children id → P c → P id) (id : NodeId) (h : P id) : P (d.fileOf id) := by
  induction id using Nat.strongRecOn with
  | ind id ih =>
    rw [fileOf]
    split
    · exact h
    · next p hp =>
      rw [if_pos (hd.parent_lt hp)]
      exact ih p (hd.parent_lt hp) (up (hd.mem_children_iff.2 hp) h)

namespace Page.Setting

open Noted

variable {s : Setting}

/-- The lines of what stands right below a node are among those of the node. -/
theorem within_children (hd : s.doc.Forest) {id c : NodeId} (hc : c ∈ s.doc.children id) :
    (s.nodeLines c).Within (s.nodeLines id) := by
  obtain ⟨x, n, -, hn, hbelow⟩ := hd.wellFormed.mayStandBelow c id (hd.mem_children_iff.1 hc)
  have hall : (s.nodeLines c).Within (concat ((s.doc.children id).attach.map fun c => s.nodeLines c.1)) :=
    within_concat_map (List.mem_attach _ ⟨c, hc⟩) fun c => s.nodeLines c.1
  have hsome (p : { c // c ∈ s.doc.children id } → Bool) (hp : p ⟨c, hc⟩ = true) :
      (s.nodeLines c).Within (concat (((s.doc.children id).attach.filter p).map fun c => s.nodeLines c.1)) :=
    within_concat_map (List.mem_filter.2 ⟨List.mem_attach _ ⟨c, hc⟩, hp⟩) fun c => s.nodeLines c.1
  rw [nodeLines.eq_1 s id]
  rcases Kind.holder_of_mayStandBelow hbelow with ⟨info, hk⟩ | hk | hk | ⟨info, hk⟩
  · simp only [hn, hk]
    by_cases hsection : s.isSection c = true
    · exact (hsome (fun c => s.isSection c.1) hsection).trans (within_concat (by simp))
    · exact (hsome (fun c => !s.isSection c.1) (by simpa using hsection)).trans (within_concat (by simp))
  · simp only [hn, hk]
    exact hall.trans (within_concat (by simp))
  · simp only [hn, hk]
    exact hall.trans (within_concat (by simp))
  · simp only [hn, hk]
    have hsorted : c ∈ s.doc.sortedChildren id itemFront itemBack := Document.mem_sortedChildren.2 hc
    refine Within.trans ?_ (within_concat (List.mem_cons_of_mem _ List.mem_cons_self))
    exact within_concat_map (List.mem_attach _ ⟨c, hsorted⟩) fun c => s.nodeLines c.1

/-- **The lines of every node stand together on the page of its file.** -/
theorem within_filePage (hd : s.doc.Forest) (id : NodeId) :
    (s.nodeLines id).Within (s.filePage (s.doc.fileOf id)) :=
  hd.at_fileOf (P := fun top => (s.nodeLines id).Within (s.nodeLines top))
    (fun hc h => h.trans (within_children hd hc)) id (.refl _)

theorem nodeLines_of_isLeaf {id : NodeId} {n : Node} (hn : s.doc.node? id = some n)
    (hleaf : n.kind.isLeaf = true) : s.nodeLines id = s.leafLines id n := by
  rw [nodeLines.eq_1 s id]
  simp only [hn]
  split
  case h_5 => rfl
  all_goals
    next hk =>
    rw [hk] at hleaf
    contradiction

end Page.Setting

end ScadManual
