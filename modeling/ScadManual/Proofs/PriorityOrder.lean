import Mathlib.Data.List.Basic
import Mathlib.Data.List.Nodup
import ScadManual.Manual.Read
import ScadManual.Proofs.Forest
import ScadManual.Proofs.Sorting

/-!
# Files by priority

The priority list names files by their subtitles.  Its names are gone through in turn, and each takes the files that have
it and were not taken before; what no name takes comes behind.  Names may come again, be those of no file or of many.
Whatever the list, each file comes once, and the order is the stable sort of the files by the first place at which the list
has their subtitle.
-/

namespace ScadManual.Manual

/-- The place of the first name of the priority list that is the subtitle of a file; the length of the list when there is
none. -/
def priority (m : Manual) (file : NodeId) : Nat :=
  m.priorityFiles.idxOf (m.document.subtitle file)

/-- The order by a rank, and for the same rank the order in which files were read. -/
def Precedes (rank : NodeId → Nat) (a b : NodeId) : Prop :=
  rank a < rank b ∨ rank a = rank b ∧ a < b

/-- The files as names take them: for each name those that have it, then all of them, each where it first comes. -/
def takenBy (subtitle : NodeId → String) (names : List String) (files : List NodeId) : List NodeId :=
  ((names.flatMap fun name => files.filter fun file => subtitle file == name) ++ files).eraseDups

theorem filesByPriority_eq (m : Manual) :
    m.filesByPriority = takenBy m.document.subtitle m.priorityFiles m.document.files :=
  rfl

section Names

variable {subtitle : NodeId → String} {name : String} {names : List String} {files : List NodeId}

theorem mem_takenBy {file : NodeId} : file ∈ takenBy subtitle names files ↔ file ∈ files := by
  rw [takenBy, List.mem_eraseDups, List.mem_append, List.mem_flatMap]
  constructor
  · rintro (⟨name, -, hfile⟩ | hfile)
    · exact (List.mem_filter.1 hfile).1
    · exact hfile
  · exact .inr

/-- No file is dropped and none comes twice. -/
theorem takenBy_perm (h : files.Nodup) : (takenBy subtitle names files).Perm files :=
  (List.perm_ext_iff_of_nodup (nodup_eraseDups _) h).2 fun _ => mem_takenBy

/-- The files that no name takes come last, as they were. -/
theorem takenBy_eq_append (h : files.Nodup) : takenBy subtitle names files =
    (takenBy subtitle names files).filter (fun file => subtitle file ∈ names) ++
      files.filter fun file => subtitle file ∉ names := by
  let listed := names.flatMap fun name => files.filter fun file => subtitle file == name
  have hlisted : ∀ {file}, file ∈ listed ↔ file ∈ files ∧ subtitle file ∈ names := by
    intro file
    simp [listed, List.mem_flatMap, and_comm]
  have hothers : files.removeAll listed = files.filter fun file => subtitle file ∉ names := by
    refine List.filter_congr fun file hfile => ?_
    simp [hlisted, hfile]
  have htaken : takenBy subtitle names files = listed.eraseDups ++ files.filter fun file => subtitle file ∉ names := by
    rw [takenBy, List.eraseDups_append, hothers, eraseDups_of_nodup (h.filter _)]
  have hnamed : listed.eraseDups.filter (fun file => subtitle file ∈ names) = listed.eraseDups := by
    rw [List.filter_eq_self]
    intro file hfile
    exact decide_eq_true (hlisted.1 (List.mem_eraseDups.1 hfile)).2
  have hnone : (files.filter fun file => subtitle file ∉ names).filter (fun file => subtitle file ∈ names) = [] := by
    simp [List.filter_filter]
  rw [htaken, List.filter_append, hnamed, hnone, List.append_nil]

/-- The step: a name takes the files that have it, and the further names are left with the others. -/
theorem takenBy_cons (h : files.Nodup) : takenBy subtitle (name :: names) files =
    files.filter (fun file => subtitle file == name) ++
      takenBy subtitle names (files.filter fun file => !subtitle file == name) := by
  have hothers : ∀ xs ⊆ files, xs.removeAll (files.filter fun file => subtitle file == name) =
      xs.filter fun file => !subtitle file == name := by
    intro xs hxs
    refine List.filter_congr fun file hfile => ?_
    rw [List.elem_eq_mem, Bool.not_inj_iff, Bool.eq_iff_iff]
    simp [hxs hfile]
  have hswap : ∀ other, (files.filter fun file => subtitle file == other).filter (fun file => !subtitle file == name) =
      (files.filter fun file => !subtitle file == name).filter fun file => subtitle file == other := by
    intro other
    rw [List.filter_filter, List.filter_filter]
    simp only [Bool.and_comm]
  have hsub : (names.flatMap fun other => files.filter fun file => subtitle file == other) ++ files ⊆ files :=
    fun file hfile => mem_takenBy.1 (List.mem_eraseDups.2 hfile)
  rw [takenBy, List.flatMap_cons, List.append_assoc, List.eraseDups_append, hothers _ hsub, List.filter_append,
    List.filter_flatMap, eraseDups_of_nodup (h.filter _)]
  simp only [hswap]
  rfl

/-- The run: whatever the names, the files come in order. -/
theorem takenBy_pairwise (h : files.Pairwise (· < ·)) :
    (takenBy subtitle names files).Pairwise (Precedes fun file => names.idxOf (subtitle file)) := by
  -- the files vary, as each name leaves fewer of them to the next
  induction names generalizing files with
  | nil =>
    have hall : takenBy subtitle [] files = files := eraseDups_of_nodup (h.imp Nat.ne_of_lt)
    rw [hall]
    exact h.imp fun hab => .inr ⟨rfl, hab⟩
  | cons name names ih =>
    have hfirst : ∀ {file}, file ∈ files.filter (fun file => subtitle file == name) →
        (name :: names).idxOf (subtitle file) = 0 := by
      intro file hfile
      rw [eq_of_beq (List.mem_filter.1 hfile).2, List.idxOf_cons_self]
    have hlater : ∀ {file}, file ∈ takenBy subtitle names (files.filter fun file => !subtitle file == name) →
        (name :: names).idxOf (subtitle file) = names.idxOf (subtitle file) + 1 := by
      intro file hfile
      have hne := (List.mem_filter.1 (mem_takenBy.1 hfile)).2
      exact List.idxOf_cons_ne _ fun heq => by simp [heq] at hne
    rw [takenBy_cons (h.imp Nat.ne_of_lt), List.pairwise_append]
    refine ⟨?_, ?_, ?_⟩
    · exact (h.filter _).imp_of_mem fun ha hb hab => .inr ⟨(hfirst ha).trans (hfirst hb).symm, hab⟩
    · refine (ih (h.filter _)).imp_of_mem fun {a b} ha hb hab => ?_
      rw [Precedes, hlater ha, hlater hb]
      exact hab.imp (Nat.succ_lt_succ ·) fun ⟨heq, hlt⟩ => ⟨congrArg (· + 1) heq, hlt⟩
    · intro a ha b hb
      rw [Precedes, hfirst ha, hlater hb]
      exact .inl (Nat.succ_pos _)

end Names

/-! ## Sorting by a rank -/

section Rank

variable {rank : NodeId → Nat} {files : List NodeId}

theorem Precedes.asymm {a b : NodeId} (hab : Precedes rank a b) : ¬Precedes rank b a := by
  rcases hab with hlt | ⟨heq, hlt⟩
  · rintro (hgt | ⟨heq, -⟩)
    · exact Nat.lt_asymm hlt hgt
    · exact Nat.ne_of_gt hlt heq
  · rintro (hgt | ⟨-, hgt⟩)
    · exact Nat.ne_of_gt hgt heq
    · exact Nat.lt_asymm hlt hgt

/-- Files that are sorted by a rank come in order, as sorting is stable. -/
theorem mergeSort_pairwise (h : files.Pairwise (· < ·)) :
    (files.mergeSort fun a b => decide (rank a ≤ rank b)).Pairwise (Precedes rank) := by
  have htrans : ∀ a b c, decide (rank a ≤ rank b) = true → decide (rank b ≤ rank c) = true →
      decide (rank a ≤ rank c) = true := by
    simp only [decide_eq_true_eq]
    exact fun a b c => Nat.le_trans
  have htotal : ∀ a b, (decide (rank a ≤ rank b) || decide (rank b ≤ rank a)) = true := by
    simp only [Bool.or_eq_true, decide_eq_true_eq]
    exact fun a b => Nat.le_total _ _
  rw [List.pairwise_iff_forall_sublist]
  intro a b hab
  have hle : rank a ≤ rank b :=
    of_decide_eq_true (List.pairwise_iff_forall_sublist.1 (List.pairwise_mergeSort htrans htotal files) hab)
  refine (Nat.lt_or_eq_of_le hle).imp_right fun heq => ⟨heq, ?_⟩
  -- files of one rank stand as they stood before
  have hstable : (files.mergeSort fun a b => decide (rank a ≤ rank b)).filter (fun file => rank file == rank a) =
      files.filter fun file => rank file == rank a := by
    refine filter_mergeSort htrans htotal (fun x y hx hy => decide_eq_true (Nat.le_of_eq ?_)) files
    exact (eq_of_beq hx).trans (eq_of_beq hy).symm
  have hboth : [a, b].Sublist files := by
    have hfiltered := hab.filter fun file => rank file == rank a
    rw [hstable] at hfiltered
    simp only [List.filter_cons, heq, beq_self_eq_true, if_true, List.filter_nil] at hfiltered
    exact hfiltered.trans List.filter_sublist
  exact List.pairwise_iff_forall_sublist.1 h hboth

end Rank

/-- **Files by priority are the stable sort of the files.**  Whatever has been read and whatever the priority list, each file
comes once.  The files are sorted by the first place at which the list has their subtitle, and those with the same place
stand in the order in which they were read; those that the list does not name come last, in that order too. -/
theorem files_sorted_by_priority (m : Manual) :
    m.filesByPriority.Perm m.document.files ∧
      m.filesByPriority = m.document.files.mergeSort (fun a b => decide (m.priority a ≤ m.priority b)) ∧
      m.filesByPriority.Pairwise (Precedes m.priority) ∧
      m.filesByPriority = m.filesByPriority.filter (fun file => m.document.subtitle file ∈ m.priorityFiles) ++
        m.document.files.filter fun file => m.document.subtitle file ∉ m.priorityFiles := by
  have hincrease := m.document.files_increase
  have hnodup : m.document.files.Nodup := hincrease.imp Nat.ne_of_lt
  rw [filesByPriority_eq]
  have hperm : (takenBy m.document.subtitle m.priorityFiles m.document.files).Perm m.document.files :=
    takenBy_perm hnodup
  have horder : (takenBy m.document.subtitle m.priorityFiles m.document.files).Pairwise (Precedes m.priority) :=
    takenBy_pairwise hincrease
  refine ⟨hperm, ?_, horder, takenBy_eq_append hnodup⟩
  -- the order leaves only one way to arrange the files
  refine List.Perm.eq_of_pairwise ?_ horder (mergeSort_pairwise hincrease) (hperm.trans (List.mergeSort_perm _ _).symm)
  intro a b _ _ hab hba
  exact absurd hba hab.asymm

/-- A name that comes twice, one that no file has, and one that two files have. -/
example :
    let m := (Manual.new Settings.default).readAll
      [.code "a.scad" ["// File: a.scad"], .code "b.scad" ["// File: b.scad"], .code "c.scad" ["// File: c.scad"],
        .code "x/b.scad" ["// File: b.scad"]]
    { m with priorityFiles := ["c.scad", "none.scad", "b.scad", "c.scad"] }.filesByPriority = [2, 1, 3, 0] := by
  decide +kernel

end ScadManual.Manual
