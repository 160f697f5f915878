import ScadManual.Proofs.Rerun
import ScadManual.Proofs.StoreRoundTrip

/-!
# The files of hash stores

A hash store is a file of a fixed name.  Pages, reports and images have names that end otherwise, and the
temporary files of a build are gone when it ends; so of all that runs do to a disk, only committing a store
changes such a file.
-/

namespace ScadManual

/-- The place has the name of a hash store. -/
def IsStoreSpot (spot : Spot) : Prop := ∃ dir, spot = dir ++ [HashStore.fileName]

theorem not_isStoreSpot_of_locate {d : Disk} {path : String} {spot : Spot} {c : Char}
    (hlast : path.toList.getLast? = some c) (hc : c ≠ '/' ∧ c ≠ '.' ∧ c ≠ 's')
    (h : d.locate path = .ok spot) : ¬ IsStoreSpot spot := by
  obtain ⟨dir, name, rfl, hname⟩ := Disk.exists_concat_of_locate h hlast hc.1 hc.2.1
  rintro ⟨dir', hspot⟩
  obtain ⟨-, rfl⟩ := List.append_singleton_inj.1 hspot
  exact hc.2.2 (Option.some.inj hname).symm

theorem not_isStoreSpot_of_isImageSpot {spot : Spot} (h : IsImageSpot spot) : ¬ IsStoreSpot spot := by
  obtain ⟨dir, name, rfl, hending⟩ := h
  rintro ⟨dir', hspot⟩
  obtain ⟨-, rfl⟩ := List.append_singleton_inj.1 hspot
  revert hending
  decide

/-- Images are never made where a store is. -/
theorem Run.Ready.spares_stores {σ : Type} {r : Run σ} (h : r.Ready) {requests : List Render.Request}
    (himages : ∀ q ∈ requests, q.NamesImage) (build : Bool) :
    r.disk.Spares IsStoreSpot (r.exec (Run.settle requests build)).2.disk ∧
      (r.exec (Run.settle requests build)).2.Ready :=
  h.settle fun _ q hq _ _ _ hspot => not_isStoreSpot_of_isImageSpot ((himages q hq).isImageSpot hspot)

/-! ## Where a store is -/

namespace Disk

section Directories

variable {d d' : Disk} {path : String} {spot : Spot}

theorem isDirectory_iff : d.isDirectory path = true ↔
    ∃ spot, d.locate path = .ok spot ∧ d.get? spot = some .directory := by
  unfold isDirectory stat
  cases hl : d.locate path with
  | error e => simp
  | ok spot =>
    cases hget : d.get? spot with
    | none => simp [hget]
    | some entry =>
      cases entry with
      | directory => simp [hget]
      | file c => cases hdir : isDirPath path <;> simp [hget]

theorem isDirectory_of_makeDirectory (h : d.makeDirectory path = .ok d') : d'.isDirectory path = true := by
  have hgrown := makeDirectory_grown h
  unfold makeDirectory at h
  split at h
  · simp at h
  · next spot hspot =>
    split at h
    · simp at h
    · next hnone =>
      obtain rfl := Except.ok.inj h
      have hne : spot ≠ [] := by
        rintro rfl
        simp [get?_nil] at hnone
      exact isDirectory_iff.2 ⟨spot, hgrown.keepsDirectories.locate hspot, get?_set_self hne⟩

/-- Directories that have been made are there. -/
theorem isDirectory_of_makeDirectories (h : d.makeDirectories path = .ok d') (hne : path.isEmpty = false) :
    d'.isDirectory path = true := by
  unfold makeDirectories makeDirectoriesTo at h
  rw [hne] at h
  simp only [Bool.false_eq_true, if_false] at h
  split at h
  · next hmake =>
    obtain rfl := Except.ok.inj h
    exact isDirectory_of_makeDirectory hmake
  · split at h
    · simp at h
    · split at h
      · simp at h
      · split at h
        · next hmake =>
          obtain rfl := Except.ok.inj h
          exact isDirectory_of_makeDirectory hmake
        · split at h
          · next hthere =>
            obtain rfl := Except.ok.inj h
            exact hthere
          · simp at h
  · split at h
    · next hthere =>
      obtain rfl := Except.ok.inj h
      exact hthere
    · simp at h

theorem any_nul_join {base name : String} (hbase : base.toList.any (·.toNat = 0) = false)
    (hname : name.toList.any (·.toNat = 0) = false) :
    (Path.join base name).toList.any (·.toNat = 0) = false := by
  unfold Path.join
  split
  · exact hname
  · split
    · rw [String.toList_append, List.any_append, hbase, hname]
      rfl
    · rw [String.toList_append, String.toList_append, List.any_append, List.any_append, hbase, hname]
      rfl

theorem isAbsolute_fileName : Path.isAbsolute HashStore.fileName = false := by decide

theorem names_fileName : names HashStore.fileName = [HashStore.fileName] := by decide

/-- The path of a store leads nowhere but to a place of its name. -/
theorem isStoreSpot_of_locate {dir : String} (h : d.locate (Path.join dir HashStore.fileName) = .ok spot) :
    IsStoreSpot spot := by
  obtain ⟨-, -, hwalk⟩ := locate_eq_ok.1 h
  rw [Path.names_join dir isAbsolute_fileName, names_fileName] at hwalk
  obtain ⟨place, -, -, henter⟩ := walk_concat_eq_ok hwalk
  exact ⟨place, (Option.some.inj henter).symm⟩

/-- In a directory that is there, the path of the store leads somewhere. -/
theorem exists_locate_store {dir : String} (hcurrent : d.get? d.current = some .directory)
    (hdir : dir.isEmpty = true ∨ d.isDirectory dir = true) :
    ∃ spot, d.locate (Path.join dir HashStore.fileName) = .ok spot := by
  -- the name is looked up in the directory that the path of the directory leads to
  have hin : ∃ place, (Path.join dir HashStore.fileName).isEmpty = false ∧
      (Path.join dir HashStore.fileName).toList.any (·.toNat = 0) = false ∧
      d.walk (if Path.isAbsolute dir then [] else d.current) (names dir) = .ok place ∧
      d.get? place = some .directory := by
    rcases hdir with hempty | hdir
    · obtain rfl := String.isEmpty_iff.1 hempty
      exact ⟨d.current, by decide, by decide, rfl, hcurrent⟩
    · obtain ⟨place, hplace, hget⟩ := isDirectory_iff.1 hdir
      obtain ⟨hne, hnul, hwalk⟩ := locate_eq_ok.1 hplace
      refine ⟨place, ?_, any_nul_join hnul (by decide), hwalk, hget⟩
      obtain ⟨before, hjoin, -⟩ := Path.exists_join hne isAbsolute_fileName
      rw [Bool.eq_false_iff, Ne, String.isEmpty_iff, ← String.toList_inj, hjoin]
      simp
  obtain ⟨place, hne, hnul, hwalk, hget⟩ := hin
  refine ⟨place ++ [HashStore.fileName], locate_eq_ok.2 ⟨hne, hnul, ?_⟩⟩
  rw [Path.isAbsolute_join_relative dir isAbsolute_fileName, Path.names_join dir isAbsolute_fileName,
    names_fileName, walk_append_eq_ok]
  exact ⟨place, hwalk, walk_cons_eq_ok.2 ⟨hget, _, rfl, rfl⟩⟩

/-- While the files of stores stay what they are, a path leads to the same store. -/
theorem Spares.read_iff {P : Spot → Prop} (h : d.Spares P d') (hspot : d.locate path = .ok spot) (hP : P spot)
    {content : Content} : d'.read path = .ok content ↔ d.read path = .ok content := by
  have hspot' := h.directories.locate hspot
  rw [read_eq_ok, read_eq_ok, hspot, hspot']
  constructor
  · rintro ⟨x, hx, hget, hpath⟩
    obtain rfl := Except.ok.inj hx
    exact ⟨_, rfl, (h.files _ content hP).1 hget, hpath⟩
  · rintro ⟨x, hx, hget, hpath⟩
    obtain rfl := Except.ok.inj hx
    exact ⟨_, rfl, (h.files _ content hP).2 hget, hpath⟩

end Directories

end Disk

/-! ## The table in a file -/

namespace HashStore

/-- The table that a content holds; one that is malformed holds none. -/
def tableIn (content : Content) : Dict :=
  match content.text? with
  | none => Dict.empty
  | some text =>
    match records 1 (Text.lines text) with
    | .ok rs => Dict.ofList rs
    | .error _ => Dict.empty

/-- What is loaded is the table of the file that the path leads to, if there is one. -/
theorem current_load (d : Disk) (path : String) :
    (load d path).1.current = match d.read path with
      | .ok content => tableIn content
      | .error _ => Dict.empty := by
  unfold load readTable Disk.readText
  cases d.read path with
  | error e => cases e <;> rfl
  | ok content =>
    simp only [tableIn]
    cases content.text? with
    | none => rfl
    | some text =>
      simp only
      cases records 1 (Text.lines text) <;> rfl

theorem load_of_spares {P : Spot → Prop} {d d' : Disk} {path : String} {spot : Spot} (h : d.Spares P d')
    (hspot : d.locate path = .ok spot) (hP : P spot) : (load d' path).1.current = (load d path).1.current := by
  have hiff (content : Content) : d'.read path = .ok content ↔ d.read path = .ok content :=
    h.read_iff hspot hP
  rw [current_load, current_load]
  cases hread : d.read path with
  | ok content => rw [(hiff content).2 hread]
  | error e =>
    cases hread' : d'.read path with
    | error e' => rfl
    | ok content => exact nomatch hread.symm.trans ((hiff content).1 hread')

/-- A table that can be rendered and read back is what its text holds. -/
theorem get?_tableIn {s : HashStore} {d d' : Disk} (ht : Recordable s.current) (h : s.commit d = .ok d')
    (x : String) : (tableIn (.text (render s.current))).get? x = (s.get? x).map readBack := by
  obtain ⟨spot, hcommitted⟩ := commit_eq_ok h
  have hlocated := (hcommitted.sameBut.keepsDirectories hcommitted.target).locate hcommitted.located
  have hread : d'.read s.path = .ok (.text (render s.current)) :=
    Disk.read_eq_ok.2 ⟨spot, hlocated, hcommitted.written, hcommitted.isDirPath⟩
  have hcurrent : (load d' s.path).1.current = tableIn (.text (render s.current)) := by
    rw [current_load, hread]
  rw [← hcurrent]
  exact (load_of_commit ht h x).1

end HashStore

end ScadManual
