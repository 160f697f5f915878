import Mathlib.Data.List.Basic
import Mathlib.Data.List.Flatten
import ScadManual.Text.Sort

/-!
# Sorted lists and first appearances

Sorting by a key keeps all members, puts their keys in order, and leaves those with the same key in the order they
had.  Leaving out what comes again keeps each member once, at its first appearance.
-/

namespace ScadManual

/-! ## First appearances -/

section FirstAppearances

variable {α : Type} [BEq α]

/-- The induction that leaving out repetitions follows: a list without its first member, wherever that comes again. -/
theorem eraseDups_induction {motive : List α → Prop} (nil : motive [])
    (cons : ∀ x xs, motive (xs.filter fun y => !y == x) → motive (x :: xs)) (xs : List α) : motive xs := by
  induction hlength : xs.length using Nat.strongRecOn generalizing xs with
  | ind n ih =>
    cases xs with
    | nil => exact nil
    | cons x xs =>
      have hle := List.length_filter_le (fun y => !y == x) xs
      apply cons
      apply ih _ _ _ rfl
      simp only [List.length_cons] at hlength
      omega

theorem eraseDups_sublist (xs : List α) : xs.eraseDups.Sublist xs := by
  induction xs using eraseDups_induction with
  | nil => exact .slnil
  | cons x xs ih =>
    rw [List.eraseDups_cons]
    exact (ih.trans List.filter_sublist).cons_cons x

variable [LawfulBEq α]

/-- What a filter leaves has the order of first appearances that it had. -/
theorem idxOf_lt_of_filter {keep : α → Bool} {a b : α} (ha : keep a = true) (hb : keep b = true) {xs : List α}
    (h : (xs.filter keep).idxOf a < (xs.filter keep).idxOf b) : xs.idxOf a < xs.idxOf b := by
  induction xs with
  | nil => exact absurd h (Nat.lt_irrefl _)
  | cons x xs ih =>
    by_cases hxa : x = a
    · subst hxa
      have hne : (x == b) = false := by
        rw [beq_eq_false_iff_ne]
        rintro rfl
        exact Nat.lt_irrefl _ h
      simp [List.idxOf_cons, hne]
    · have hxa' : (x == a) = false := beq_eq_false_iff_ne.2 hxa
      by_cases hxb : x = b
      · subst hxb
        rw [List.filter_cons_of_pos hb, List.idxOf_cons_self] at h
        exact absurd h (Nat.not_lt_zero _)
      · have hxb' : (x == b) = false := beq_eq_false_iff_ne.2 hxb
        have hrest : (xs.filter keep).idxOf a < (xs.filter keep).idxOf b := by
          by_cases hx : keep x = true
          · rw [List.filter_cons_of_pos hx] at h
            simpa [List.idxOf_cons, hxa', hxb'] using h
          · rwa [List.filter_cons_of_neg hx] at h
        simpa [List.idxOf_cons, hxa', hxb'] using ih hrest

/-- Each member is left once, and all in the order in which they first appear. -/
theorem pairwise_eraseDups (xs : List α) : xs.eraseDups.Pairwise fun a b => xs.idxOf a < xs.idxOf b := by
  induction xs using eraseDups_induction with
  | nil => exact .nil
  | cons x xs ih =>
    have hother : ∀ y ∈ (xs.filter fun y => !y == x).eraseDups, (x == y) = false := by
      intro y hy
      have hyx := (List.mem_filter.1 (List.mem_eraseDups.1 hy)).2
      rw [beq_eq_false_iff_ne]
      rintro rfl
      simp at hyx
    rw [List.eraseDups_cons, List.pairwise_cons]
    constructor
    · intro y hy
      rw [List.idxOf_cons_self, List.idxOf_cons, hother y hy]
      exact Nat.succ_pos _
    · refine ih.imp_of_mem fun {a b} ha hb hab => ?_
      have hxs : xs.idxOf a < xs.idxOf b := by
        apply idxOf_lt_of_filter _ _ hab
        · exact (List.mem_filter.1 (List.mem_eraseDups.1 ha)).2
        · exact (List.mem_filter.1 (List.mem_eraseDups.1 hb)).2
      simpa [List.idxOf_cons, hother a ha, hother b hb] using hxs

theorem nodup_eraseDups (xs : List α) : xs.eraseDups.Nodup :=
  (pairwise_eraseDups xs).imp fun {a b} hab => by
    rintro rfl
    exact Nat.lt_irrefl _ hab

/-- Nothing is left out where nothing comes again. -/
theorem eraseDups_of_nodup {xs : List α} (h : xs.Nodup) : xs.eraseDups = xs := by
  have hperm : xs.eraseDups.Perm xs :=
    (List.perm_ext_iff_of_nodup (nodup_eraseDups xs) h).2 fun _ => List.mem_eraseDups
  exact (eraseDups_sublist xs).eq_of_length hperm.length_eq

/-- Keys that go behind those that are there, unless they are there already, come in the order in which they first
appear. -/
theorem keys_foldl {σ β : Type} {keys : σ → List α} {key? : β → Option α} {step : σ → β → σ}
    (hstep : ∀ s b, keys (step s b) = keys s ++ (key? b).toList.filter fun k => !(keys s).contains k) (s : σ)
    (bs : List β) : keys (bs.foldl step s) =
      keys s ++ ((bs.filterMap key?).filter fun k => !(keys s).contains k).eraseDups := by
  induction bs generalizing s with
  | nil => simp
  | cons b bs ih =>
    rw [List.foldl_cons, ih, hstep]
    cases hkey : key? b with
    | none => simp [hkey]
    | some k =>
      by_cases hold : k ∈ keys s
      · simp [hkey, hold]
      · -- the key is new, and where it comes again it is left out on both sides
        have hagain : (bs.filterMap key?).filter (fun x => !(keys s ++ [k]).contains x) =
            ((bs.filterMap key?).filter fun x => !(keys s).contains x).filter fun x => !x == k := by
          rw [List.filter_filter]
          refine List.filter_congr fun x _ => ?_
          by_cases hx : x = k
          · simp [hx]
          · simp [hx]
        rw [List.filterMap_cons_some hkey, List.filter_cons_of_pos (by simpa using hold), List.eraseDups_cons, ← hagain]
        simp [hold]

end FirstAppearances

/-! ## Members by a key -/

/-- The members of a list taken key by key are its members. -/
theorem perm_flatMap_filter {α β : Type} [BEq β] [LawfulBEq β] {key : α → β} {keys : List β} (hkeys : keys.Nodup)
    {xs : List α} (h : ∀ x ∈ xs, key x ∈ keys) : (keys.flatMap fun k => xs.filter fun x => key x == k).Perm xs := by
  induction keys generalizing xs with
  | nil =>
    cases xs with
    | nil => exact .refl _
    | cons x xs => exact absurd (h x List.mem_cons_self) List.not_mem_nil
  | cons k keys ih =>
    obtain ⟨hk, hkeys⟩ := List.nodup_cons.1 hkeys
    have hothers : ∀ x ∈ xs.filter (fun x => !key x == k), key x ∈ keys := by
      intro x hx
      obtain ⟨hx, hne⟩ := List.mem_filter.1 hx
      refine (List.mem_cons.1 (h x hx)).resolve_left ?_
      rintro rfl
      simp at hne
    -- the members with the first key are no members with any other
    have hsame : (keys.flatMap fun k' => xs.filter fun x => key x == k') =
        keys.flatMap fun k' => (xs.filter fun x => !key x == k).filter fun x => key x == k' := by
      refine List.flatMap_congr fun k' hk' => ?_
      rw [List.filter_filter]
      refine List.filter_congr fun x _ => ?_
      by_cases hx : key x = k'
      · have hne : k' ≠ k := by
          rintro rfl
          exact hk hk'
        simp [hx, hne]
      · simp [hx]
    rw [List.flatMap_cons, hsame]
    exact ((ih hkeys hothers).append_left _).trans (List.filter_append_perm _ xs)

section ByKey

variable {α β : Type} [BEq β] [LawfulBEq β] {key : α → β} {keys : List β}

/-- The members of a list taken key by key come in the order of the keys. -/
theorem pairwise_flatMap_filter (hkeys : keys.Nodup) (xs : List α) :
    (keys.flatMap fun k => xs.filter fun x => key x == k).Pairwise
      fun a b => keys.idxOf (key a) ≤ keys.idxOf (key b) := by
  have hkey : ∀ {k x}, x ∈ xs.filter (fun x => key x == k) → key x = k := fun hx => eq_of_beq (List.mem_filter.1 hx).2
  rw [List.pairwise_flatMap]
  constructor
  · intro k _
    refine List.pairwise_of_forall_mem_list fun a ha b hb => Nat.le_of_eq ?_
    rw [hkey ha, hkey hb]
  · rw [List.pairwise_iff_getElem]
    intro i j hi hj hij a ha b hb
    rw [hkey ha, hkey hb, hkeys.idxOf_getElem, hkeys.idxOf_getElem]
    exact Nat.le_of_lt hij

/-- The members of a list taken key by key keep their order for each key. -/
theorem filter_flatMap_filter (hkeys : keys.Nodup) {xs : List α} (h : ∀ x ∈ xs, key x ∈ keys) (k : β) :
    (keys.flatMap fun k => xs.filter fun x => key x == k).filter (fun x => key x == k) =
      xs.filter fun x => key x == k := by
  have hperm := (perm_flatMap_filter hkeys h).filter fun x => key x == k
  by_cases hk : k ∈ keys
  · have hinfix : xs.filter (fun x => key x == k) <:+: keys.flatMap fun k => xs.filter fun x => key x == k :=
      List.infix_of_mem_flatten (List.mem_map_of_mem hk)
    have hsub := hinfix.sublist.filter fun x => key x == k
    rw [List.filter_filter] at hsub
    simp only [Bool.and_self] at hsub
    exact (hsub.eq_of_length hperm.length_eq.symm).symm
  · have hnone : xs.filter (fun x => key x == k) = [] := by
      rw [List.filter_eq_nil_iff]
      intro x hx hkey
      exact hk (eq_of_beq hkey ▸ h x hx)
    rw [hnone] at hperm ⊢
    exact hperm.eq_nil

end ByKey

/-! ## Sorting by a key -/

/-- Sorting is stable: members none of which has to come before another keep their order. -/
theorem filter_mergeSort {α : Type} {le : α → α → Bool} (htrans : ∀ a b c, le a b = true → le b c = true → le a c = true)
    (htotal : ∀ a b, (le a b || le b a) = true) {keep : α → Bool}
    (hkeep : ∀ a b, keep a = true → keep b = true → le a b = true) (xs : List α) :
    (xs.mergeSort le).filter keep = xs.filter keep := by
  have hsame : (xs.filter keep).Pairwise fun a b => le a b = true := by
    refine List.pairwise_of_forall_mem_list fun a ha b hb => ?_
    exact hkeep a b (List.mem_filter.1 ha).2 (List.mem_filter.1 hb).2
  have hsub := (List.sublist_mergeSort htrans htotal hsame List.filter_sublist).filter keep
  rw [List.filter_filter] at hsub
  simp only [Bool.and_self] at hsub
  exact (hsub.eq_of_length ((List.mergeSort_perm xs le).filter keep).length_eq.symm).symm

namespace Text

section SortBy

variable {α : Type} {key : α → String}

theorem insertBy_perm (x : α) (ys : List α) : (insertBy key x ys).Perm (x :: ys) := by
  induction ys with
  | nil => exact .refl _
  | cons y ys ih =>
    unfold insertBy
    split
    · exact (ih.cons y).trans (.swap x y ys)
    · exact .refl _

theorem sortBy_perm (xs : List α) : (sortBy key xs).Perm xs := by
  induction xs with
  | nil => exact .refl _
  | cons x xs ih => exact (insertBy_perm x (sortBy key xs)).trans (ih.cons x)

theorem mem_sortBy {xs : List α} {x : α} : x ∈ sortBy key xs ↔ x ∈ xs := (sortBy_perm xs).mem_iff

/-- The step: a list that is sorted stays sorted. -/
theorem pairwise_insertBy (x : α) {ys : List α} (h : ys.Pairwise fun a b => key a ≤ key b) :
    (insertBy key x ys).Pairwise fun a b => key a ≤ key b := by
  induction ys with
  | nil => exact List.pairwise_singleton _ _
  | cons y ys ih =>
    obtain ⟨hfirst, hrest⟩ := List.pairwise_cons.1 h
    unfold insertBy
    split
    · next hlt =>
      refine List.pairwise_cons.2 ⟨fun z hz => ?_, ih hrest⟩
      rcases List.mem_cons.1 ((insertBy_perm x ys).mem_iff.1 hz) with rfl | hz
      · exact String.not_lt.1 (String.lt_asymm hlt)
      · exact hfirst z hz
    · next hle =>
      have hxy : key x ≤ key y := String.not_lt.1 hle
      refine List.pairwise_cons.2 ⟨fun z hz => ?_, h⟩
      rcases List.mem_cons.1 hz with rfl | hz
      · exact hxy
      · exact String.le_trans hxy (hfirst z hz)

theorem pairwise_sortBy (xs : List α) : (sortBy key xs).Pairwise fun a b => key a ≤ key b := by
  induction xs with
  | nil => exact .nil
  | cons x xs ih => exact pairwise_insertBy x ih

/-- The step: what a member passes by has another key. -/
theorem filter_insertBy (x : α) (ys : List α) (k : String) :
    ((insertBy key x ys).filter fun a => key a == k) = (x :: ys).filter fun a => key a == k := by
  induction ys with
  | nil => rfl
  | cons y ys ih =>
    unfold insertBy
    split
    · next hlt =>
      rw [List.filter_cons, ih]
      by_cases hx : key x = k
      · have hy : key y ≠ k := fun hy => String.lt_irrefl k (hx ▸ hy ▸ hlt :)
        simp [hx, hy]
      · simp [hx, List.filter_cons]
    · rfl

/-- The members with one key keep their order. -/
theorem filter_sortBy (xs : List α) (k : String) :
    ((sortBy key xs).filter fun a => key a == k) = xs.filter fun a => key a == k := by
  induction xs with
  | nil => rfl
  | cons x xs ih =>
    show (insertBy key x (sortBy key xs)).filter _ = _
    rw [filter_insertBy, List.filter_cons, ih, List.filter_cons]

end SortBy

theorem mem_sortedDistinct {xs : List String} {x : String} : x ∈ sortedDistinct xs ↔ x ∈ xs := by
  rw [sortedDistinct, List.mem_eraseDups, mem_sortBy]

/-- The texts come in increasing order, so each comes once. -/
theorem pairwise_sortedDistinct (xs : List String) : (sortedDistinct xs).Pairwise (· < ·) := by
  have hsorted : (sortedDistinct xs).Pairwise (· ≤ ·) := (pairwise_sortBy xs).sublist (eraseDups_sublist _)
  refine (hsorted.and (nodup_eraseDups (sortBy id xs))).imp fun {a b} hab => ?_
  apply Decidable.byContradiction
  intro hnot
  exact hab.2 (String.le_antisymm hab.1 (String.not_lt.1 hnot))

end Text

end ScadManual
