import ScadManual.Disk.Basic
import ScadManual.Proofs.Lookup

/-!
# What operations leave on a disk

What is at a place after a change, and where a path leads after it.  Walking asks only for directories, so a
path that leads somewhere still leads there as long as no directory is lost.  Making directories adds
directories and nothing else: the disk grows, and every file stays what it was.
-/

namespace ScadManual.Disk

/-! ## Changes at a place -/

section Changes

variable {d : Disk} {spot x : Spot} {entry : Entry}

theorem get?_set_self (h : spot ≠ []) : (d.set spot entry).get? spot = some entry := by
  simp [get?, set, h]

theorem get?_set_of_ne (h : x ≠ spot) : (d.set spot entry).get? x = d.get? x := by
  have hx : (x == spot) = false := by simpa using h
  simp only [get?, set, List.lookup_cons, hx, lookup_filter_of_ne d.entries h]

theorem get?_erase_self (h : spot ≠ []) : (d.erase spot).get? spot = none := by
  simp [get?, erase, h, lookup_filter_self]

theorem get?_erase_of_ne (h : x ≠ spot) : (d.erase spot).get? x = d.get? x := by
  simp only [get?, erase, lookup_filter_of_ne d.entries h]

theorem get?_nil (d : Disk) : d.get? [] = some .directory := rfl

end Changes

/-! ## Walking -/

/-- One step of a walk: the place that a name leads to from a directory. -/
def enter? (spot : Spot) (name : String) : Option Spot :=
  if name = "." then some spot
  else if name = ".." then some spot.dropLast
  else if name.utf8ByteSize > maxName then none
  else some (spot ++ [name])

section Walking

variable {d d' : Disk} {spot target : Spot} {name : String} {names : List String}

theorem walk_cons_eq_ok : d.walk spot (name :: names) = .ok target ↔
    d.get? spot = some .directory ∧
      ∃ next, enter? spot name = some next ∧ d.walk next names = .ok target := by
  rw [walk, enter?]
  cases hget : d.get? spot with
  | none => simp
  | some entry =>
    cases entry with
    | file c => simp
    | directory =>
      simp only [true_and]
      split
      · simp
      · split
        · simp
        · split <;> simp

theorem walk_append_eq_ok {before after : List String} : d.walk spot (before ++ after) = .ok target ↔
    ∃ mid, d.walk spot before = .ok mid ∧ d.walk mid after = .ok target := by
  induction before generalizing spot with
  | nil => simp [walk]
  | cons name before ih =>
    simp only [List.cons_append, walk_cons_eq_ok, ih]
    constructor
    · rintro ⟨hget, next, hnext, mid, hbefore, hafter⟩
      exact ⟨mid, ⟨hget, next, hnext, hbefore⟩, hafter⟩
    · rintro ⟨mid, ⟨hget, next, hnext, hbefore⟩, hafter⟩
      exact ⟨hget, next, hnext, mid, hbefore, hafter⟩

/-- The last name of a path is looked up in a directory. -/
theorem walk_concat_eq_ok (h : d.walk spot (names ++ [name]) = .ok target) :
    ∃ dir, d.walk spot names = .ok dir ∧ d.get? dir = some .directory ∧
      enter? dir name = some target := by
  obtain ⟨dir, hdir, hlast⟩ := walk_append_eq_ok.1 h
  obtain ⟨hget, next, hnext, hend⟩ := walk_cons_eq_ok.1 hlast
  obtain rfl := Except.ok.inj hend
  exact ⟨dir, hdir, hget, hnext⟩

/-- A path leads somewhere when it is not empty, holds no NUL, and can be walked along. -/
theorem locate_eq_ok {path : String} : d.locate path = .ok spot ↔
    path.isEmpty = false ∧ path.toList.any (·.toNat = 0) = false ∧
      d.walk (if Path.isAbsolute path then [] else d.current) (Disk.names path) = .ok spot := by
  unfold locate
  cases hempty : path.isEmpty <;> cases hnul : path.toList.any (·.toNat = 0) <;> simp

/-- Every directory of the first disk is one of the second, and both have the same current one. -/
structure KeepsDirectories (d d' : Disk) : Prop where
  current : d'.current = d.current
  directory : ∀ {x}, d.get? x = some .directory → d'.get? x = some .directory

theorem KeepsDirectories.walk (h : d.KeepsDirectories d') (hw : d.walk spot names = .ok target) :
    d'.walk spot names = .ok target := by
  induction names generalizing spot with
  | nil => exact hw
  | cons name names ih =>
    obtain ⟨hget, next, hnext, hrest⟩ := walk_cons_eq_ok.1 hw
    exact walk_cons_eq_ok.2 ⟨h.directory hget, next, hnext, ih hrest⟩

/-- A path leads where it led as long as no directory is lost. -/
theorem KeepsDirectories.locate {path : String} (h : d.KeepsDirectories d')
    (hl : d.locate path = .ok spot) : d'.locate path = .ok spot := by
  obtain ⟨hempty, hnul, hwalk⟩ := locate_eq_ok.1 hl
  refine locate_eq_ok.2 ⟨hempty, hnul, ?_⟩
  rw [h.current]
  exact h.walk hwalk

theorem read_eq_ok {path : String} {content : Content} : d.read path = .ok content ↔
    ∃ spot, d.locate path = .ok spot ∧ d.get? spot = some (.file content) ∧ isDirPath path = false := by
  unfold read stat
  cases hl : d.locate path with
  | error e => simp
  | ok spot =>
    cases hget : d.get? spot with
    | none => simp [hget]
    | some entry =>
      cases entry with
      | directory => simp [hget]
      | file c => cases hdir : isDirPath path <;> simp [hget]

theorem exists?_of_locate {path : String} (h : d.locate path = .ok spot) (hp : isDirPath path = false) :
    d.exists? path = (d.get? spot).isSome := by
  unfold exists? stat
  simp only [h]
  cases d.get? spot with
  | none => rfl
  | some entry =>
    cases entry with
    | directory => rfl
    | file c =>
      simp only [hp]
      rfl

theorem write_eq_ok {path : String} {content : Content} (h : d.write path content = .ok d') :
    ∃ spot, d.locate path = .ok spot ∧ isDirPath path = false ∧ d' = d.set spot (.file content) := by
  unfold write at h
  split at h
  · simp at h
  · next spot hspot =>
    split at h
    · simp at h
    · next hpath =>
      split at h
      · simp at h
      · exact ⟨spot, hspot, by simpa using hpath, (Except.ok.inj h).symm⟩

/-- A move puts the file where the path leads, which is no directory. -/
theorem move_eq_ok {source : Spot} {path : String} (h : d.move source path = .ok d') :
    ∃ content target, d.get? source = some (.file content) ∧ d.locate path = .ok target ∧
      isDirPath path = false ∧ d.get? target ≠ some .directory ∧
      d' = (d.erase source).set target (.file content) := by
  unfold move at h
  split at h
  · next content hsource =>
    split at h
    · simp at h
    · next target htarget =>
      split at h
      · simp at h
      · next hdirectory =>
        split at h
        · simp at h
        · next hpath =>
          refine ⟨content, target, hsource, htarget, by simpa using hpath, ?_, ?_⟩
          · exact fun hget => hdirectory hget
          · exact (Except.ok.inj h).symm
  · simp at h

/-- The disks differ at most at one place. -/
structure SameBut (spot : Spot) (d d' : Disk) : Prop where
  current : d'.current = d.current
  get? : ∀ {x}, x ≠ spot → d'.get? x = d.get? x

theorem SameBut.keepsDirectories (h : SameBut spot d d') (hspot : d.get? spot ≠ some .directory) :
    d.KeepsDirectories d' := by
  refine ⟨h.current, fun {x} hx => ?_⟩
  have hne : x ≠ spot := by
    rintro rfl
    exact hspot hx
  rw [h.get? hne, hx]

theorem sameBut_set (d : Disk) (spot : Spot) (entry : Entry) : SameBut spot d (d.set spot entry) :=
  ⟨rfl, fun hx => get?_set_of_ne hx⟩

/-! ## Places below directories -/

/-- Everything above a place is a directory. -/
def Grounded (d : Disk) (spot : Spot) : Prop :=
  ∀ x, x <+: spot → x ≠ spot → d.get? x = some .directory

theorem KeepsDirectories.grounded (h : d.KeepsDirectories d') (hg : d.Grounded spot) :
    d'.Grounded spot :=
  fun x hx hne => h.directory (hg x hx hne)

theorem Grounded.dropLast (hg : d.Grounded spot) : d.get? spot.dropLast = some .directory := by
  by_cases hnil : spot = []
  · rw [hnil]
    rfl
  · refine hg _ (List.dropLast_prefix spot) fun heq => ?_
    have hlength := congrArg List.length heq
    have hpos := List.length_pos_iff.2 hnil
    rw [List.length_dropLast] at hlength
    omega

theorem Grounded.concat (hg : d.Grounded spot) (hget : d.get? spot = some .directory) (name : String) :
    d.Grounded (spot ++ [name]) := by
  intro x hx hne
  rcases List.prefix_concat_iff.1 hx with heq | hprefix
  · exact absurd heq hne
  · by_cases hself : x = spot
    · rw [hself, hget]
    · exact hg x hprefix hself

theorem Grounded.enter? {next : Spot} (hg : d.Grounded spot) (hget : d.get? spot = some .directory)
    (h : enter? spot name = some next) : d.Grounded next := by
  unfold Disk.enter? at h
  split at h
  · obtain rfl := Option.some.inj h
    exact hg
  · split at h
    · obtain rfl := Option.some.inj h
      intro x hx hne
      -- what is above the directory above is above the place itself
      refine hg x (hx.trans (List.dropLast_prefix spot)) fun heq => ?_
      have hle := hx.length_le
      exact hne (List.IsPrefix.eq_of_length_le hx (by rw [heq, List.length_dropLast]; omega))
    · split at h
      · simp at h
      · obtain rfl := Option.some.inj h
        exact hg.concat hget name

theorem Grounded.walk (hg : d.Grounded spot) (hw : d.walk spot names = .ok target) :
    d.Grounded target := by
  induction names generalizing spot with
  | nil =>
    obtain rfl := Except.ok.inj hw
    exact hg
  | cons name names ih =>
    obtain ⟨hget, next, hnext, hrest⟩ := walk_cons_eq_ok.1 hw
    exact ih (hg.enter? hget hnext) hrest

end Walking

/-! ## Growing -/

/-- The second disk is the first with more directories. -/
structure Grown (d d' : Disk) : Prop where
  current : d'.current = d.current
  get? : ∀ x, d'.get? x = d.get? x ∨ d.get? x = none ∧ d'.get? x = some .directory

namespace Grown

variable {d d' d'' : Disk} {x : Spot}

theorem refl (d : Disk) : d.Grown d := ⟨rfl, fun _ => .inl rfl⟩

theorem trans (h : d.Grown d') (h' : d'.Grown d'') : d.Grown d'' := by
  refine ⟨h'.current.trans h.current, fun x => ?_⟩
  rcases h.get? x with heq | ⟨hnone, hdir⟩
  · rw [← heq]
    exact h'.get? x
  · rcases h'.get? x with heq | ⟨hnone', -⟩
    · exact .inr ⟨hnone, heq.trans hdir⟩
    · exact absurd (hdir.symm.trans hnone') (by simp)

theorem keepsDirectories (h : d.Grown d') : d.KeepsDirectories d' := by
  refine ⟨h.current, fun {x} hx => ?_⟩
  rcases h.get? x with heq | ⟨hnone, -⟩
  · rw [heq, hx]
  · exact absurd (hnone.symm.trans hx) (by simp)

theorem congr (h : d.Grown d') (hc : d''.current = d'.current) (hg : ∀ x, d''.get? x = d'.get? x) :
    d.Grown d'' := by
  refine ⟨hc.trans h.current, fun x => ?_⟩
  rw [hg]
  exact h.get? x

theorem get?_file_iff (h : d.Grown d') {content : Content} :
    d'.get? x = some (.file content) ↔ d.get? x = some (.file content) := by
  rcases h.get? x with heq | ⟨hnone, hdir⟩
  · rw [heq]
  · simp [hnone, hdir]

/-- What is no directory in the end is what it was. -/
theorem eq_of_ne_directory (h : d.Grown d') (hx : d'.get? x ≠ some .directory) : d'.get? x = d.get? x := by
  rcases h.get? x with heq | ⟨-, hdir⟩
  · exact heq
  · exact absurd hdir hx

end Grown

theorem makeDirectory_grown {d d' : Disk} {path : String} (h : d.makeDirectory path = .ok d') :
    d.Grown d' := by
  unfold makeDirectory at h
  split at h
  · simp at h
  · next spot hspot =>
    split at h
    · simp at h
    · next hnone =>
      obtain rfl := Except.ok.inj h
      have hne : spot ≠ [] := by
        rintro rfl
        simp [get?_nil] at hnone
      refine ⟨rfl, fun x => ?_⟩
      by_cases hx : x = spot
      · subst hx
        exact .inr ⟨hnone, get?_set_self hne⟩
      · exact .inl (get?_set_of_ne hx)

theorem makeDirectoriesTo_grown {d d' : Disk} {depth : Nat} {path : String}
    (h : d.makeDirectoriesTo depth path = .ok d') : d.Grown d' := by
  induction depth generalizing d' path with
  | zero => simp [makeDirectoriesTo] at h
  | succ depth ih =>
    unfold makeDirectoriesTo at h
    split at h
    · obtain rfl := Except.ok.inj h
      exact .refl d
    · split at h
      · next hmake =>
        obtain rfl := Except.ok.inj h
        exact makeDirectory_grown hmake
      · -- the directory above is missing too and is made first
        split at h
        · simp at h
        · split at h
          · simp at h
          · next dparent hparent =>
            have habove := ih hparent
            split at h
            · next hmake =>
              obtain rfl := Except.ok.inj h
              exact habove.trans (makeDirectory_grown hmake)
            · split at h
              · obtain rfl := Except.ok.inj h
                exact habove
              · simp at h
      · split at h
        · obtain rfl := Except.ok.inj h
          exact .refl d
        · simp at h

/-- Making directories adds directories and nothing else. -/
theorem makeDirectories_grown {d d' : Disk} {path : String} (h : d.makeDirectories path = .ok d') :
    d.Grown d' :=
  makeDirectoriesTo_grown h

end ScadManual.Disk
