import Mathlib.Data.List.Infix
import ScadManual.Proofs.Disk

/-!
# Names along a path

The names along a path are the pieces between its slashes that are not empty, so a path put together from a
directory and a name has the names of the directory and then that name.  The last name is the file name,
unless it is a dot or two, and so a path that leads to no directory leads to a place with its file name.
-/

namespace ScadManual

/-! ## Pieces -/

theorem sep_not_mem_of_mem_splitOn {sep : Char} {cs piece : List Char} (h : piece ∈ cs.splitOn sep) :
    sep ∉ piece := by
  induction cs generalizing piece with
  | nil =>
    rw [List.splitOn_nil, List.mem_singleton] at h
    simp [h]
  | cons c cs ih =>
    rw [List.splitOn_cons_eq_if_modifyHead] at h
    split at h
    · rcases List.mem_cons.1 h with rfl | hrest
      · simp
      · exact ih hrest
    · next hc =>
      -- the character goes to the front of the first piece
      cases hs : cs.splitOn sep with
      | nil => exact absurd hs (List.splitOn_ne_nil sep cs)
      | cons first rest =>
        rw [hs, List.modifyHead_cons, List.mem_cons] at h
        rcases h with rfl | hrest
        · have hfirst := ih (hs ▸ List.mem_cons_self)
          have hne : sep ≠ c := by
            rintro rfl
            simp at hc
          simp [hne, hfirst]
        · exact ih (hs ▸ List.mem_cons_of_mem first hrest)

namespace Text

theorem splitAt_append (sep : Char) (before after : List Char) :
    splitAt sep (String.ofList (before ++ sep :: after)) =
      splitAt sep (String.ofList before) ++ splitAt sep (String.ofList after) := by
  simp [splitAt, List.splitOn_append_cons_self]

theorem not_mem_of_mem_splitAt {sep : Char} {s piece : String} (h : piece ∈ splitAt sep s) :
    sep ∉ piece.toList := by
  obtain ⟨cs, hcs, rfl⟩ := List.mem_map.1 h
  rw [String.toList_ofList]
  exact sep_not_mem_of_mem_splitOn hcs

end Text

/-! ## Joins -/

namespace Disk

theorem names_append_slash (before after : List Char) :
    names (String.ofList (before ++ '/' :: after)) =
      names (String.ofList before) ++ names (String.ofList after) := by
  rw [names, Text.splitAt_append, List.filter_append]
  rfl

theorem names_of_not_mem {name : String} (hslash : '/' ∉ name.toList) (hne : name ≠ "") :
    names name = [name] := by
  simp [names, Text.splitAt, List.splitOn_eq_singleton hslash, hne]

end Disk

namespace Path

theorem isAbsolute_iff {path : String} : isAbsolute path = true ↔ ∃ rest, path.toList = '/' :: rest := by
  have hroot : "/".toList = ['/'] := rfl
  rw [isAbsolute, Text.startsWith, hroot, List.isPrefixOf_iff_prefix]
  constructor
  · rintro ⟨rest, hrest⟩
    exact ⟨rest, hrest.symm⟩
  · rintro ⟨rest, hrest⟩
    exact ⟨rest, hrest.symm⟩

theorem isEmpty_of_isAbsolute {path : String} (h : isAbsolute path = true) : path.isEmpty = false := by
  obtain ⟨rest, hrest⟩ := isAbsolute_iff.1 h
  rw [Bool.eq_false_iff]
  intro he
  simp [String.isEmpty_iff.1 he] at hrest

section Join

variable {base name : String}

theorem isAbsolute_join (hbase : isAbsolute base = true) (name : String) :
    isAbsolute (join base name) = true := by
  obtain ⟨rest, hrest⟩ := isAbsolute_iff.1 hbase
  unfold join
  split
  · next h =>
    have hempty : base.isEmpty = false := isEmpty_of_isAbsolute hbase
    simpa [hempty] using h
  · split
    · exact isAbsolute_iff.2 ⟨rest ++ name.toList, by simp [hrest]⟩
    · exact isAbsolute_iff.2 ⟨rest ++ '/' :: name.toList, by simp [hrest]⟩

theorem isAbsolute_eq_false (hslash : '/' ∉ name.toList) : isAbsolute name = false := by
  rw [Bool.eq_false_iff]
  intro habs
  obtain ⟨cs, hcs⟩ := isAbsolute_iff.1 habs
  exact hslash (hcs ▸ List.mem_cons_self)

/-- What a join puts together, down to the slash. -/
theorem exists_join (hbase : base.isEmpty = false) (hname : isAbsolute name = false) :
    ∃ before, (join base name).toList = before ++ '/' :: name.toList ∧
      Disk.names base = Disk.names (String.ofList before) ∧
      (∀ c ∈ base.toList, c ∈ (join base name).toList) := by
  rw [join, hname, hbase]
  simp only [Bool.or_self, Bool.false_eq_true, if_false]
  split
  · next hlast =>
    obtain ⟨before, hbefore⟩ := List.getLast?_eq_some_iff.1 hlast
    refine ⟨before, by simp [hbefore], ?_, fun c hc => by simp [hc]⟩
    have hsplit : base = String.ofList (before ++ '/' :: []) := by
      rw [← hbefore, String.ofList_toList]
    rw [hsplit, Disk.names_append_slash]
    simp [Disk.names, Text.splitAt]
  · refine ⟨base.toList, by simp, by rw [String.ofList_toList], fun c hc => by simp [hc]⟩

theorem join_of_isEmpty (hbase : base.isEmpty = true) : join base name = name := by
  simp [join, hbase]

theorem names_join (base : String) (hname : isAbsolute name = false) :
    Disk.names (join base name) = Disk.names base ++ Disk.names name := by
  cases hbase : base.isEmpty with
  | true =>
    rw [join_of_isEmpty hbase, String.isEmpty_iff.1 hbase]
    rfl
  | false =>
    obtain ⟨before, hjoin, hnames, -⟩ := exists_join hbase hname
    have heq : join base name = String.ofList (before ++ '/' :: name.toList) := by
      rw [← hjoin, String.ofList_toList]
    rw [heq, Disk.names_append_slash, String.ofList_toList, ← hnames]

/-- A path seen from another starts where that one does. -/
theorem isAbsolute_join_relative (base : String) (hname : isAbsolute name = false) :
    isAbsolute (join base name) = isAbsolute base := by
  cases hbase : isAbsolute base with
  | true => exact isAbsolute_join hbase name
  | false =>
    cases hempty : base.isEmpty with
    | true => rw [join_of_isEmpty hempty, hname]
    | false =>
      rw [Bool.eq_false_iff]
      intro habs
      obtain ⟨rest, hrest⟩ := isAbsolute_iff.1 habs
      cases hchars : base.toList with
      | nil => simp [String.toList_eq_nil_iff.1 hchars] at hempty
      | cons c cs =>
        -- the first character is that of the base
        have hc : c = '/' := by
          unfold join at hrest
          rw [hname, hempty] at hrest
          simp only [Bool.or_self, Bool.false_eq_true, if_false] at hrest
          split at hrest
          · simpa [hchars] using congrArg List.head? hrest
          · simpa [hchars] using congrArg List.head? hrest
        exact absurd (isAbsolute_iff.2 ⟨cs, by rw [hchars, hc]⟩) (by simp [hbase])

end Join

/-! ## File names -/

theorem pieceComponent?_of_name {first : Bool} {name : String} (hempty : name.isEmpty = false)
    (hdot : name ≠ ".") (hdots : name ≠ "..") : pieceComponent? first name = some (.name name) := by
  simp [pieceComponent?, hempty, hdot, hdots]

/-- Empty pieces stand for nothing. -/
theorem filterMap_pieceComponent?_eq_nil {pieces : List String}
    (h : pieces.filter (!·.isEmpty) = []) : pieces.filterMap (pieceComponent? false) = [] := by
  rw [List.filterMap_eq_nil_iff]
  intro piece hp
  have hempty : piece.isEmpty = true := by simpa using List.filter_eq_nil_iff.1 h piece hp
  simp [pieceComponent?, hempty]

/-- The last name along a path is its file name. -/
theorem fileName?_of_names {path name : String} {before : List String}
    (h : Disk.names path = before ++ [name]) (hdot : name ≠ ".") (hdots : name ≠ "..") :
    fileName? path = some name := by
  obtain ⟨front, back, hpieces, -, hback⟩ := List.filter_eq_append_iff.1 h
  obtain ⟨skipped, rest, rfl, -, hname, hrest⟩ := List.filter_eq_cons_iff.1 hback
  have hempty : name.isEmpty = false := by simpa using hname
  have hlast : (componentsOf (Text.splitAt '/' path)).getLast? = some (.name name) := by
    rw [hpieces, ← List.append_assoc]
    -- the first piece is read in its own way, so it matters whether the name is the first
    cases front ++ skipped with
    | nil =>
      rw [List.nil_append, componentsOf, pieceComponent?_of_name hempty hdot hdots,
        filterMap_pieceComponent?_eq_nil hrest]
      rfl
    | cons piece pieces =>
      rw [List.cons_append, componentsOf, List.filterMap_append, List.filterMap_cons,
        pieceComponent?_of_name hempty hdot hdots, filterMap_pieceComponent?_eq_nil hrest]
      simp
  rw [fileName?, components, List.getLast?_append, hlast]
  rfl

theorem mem_splitAt_of_fileName? {path name : String} (h : fileName? path = some name) :
    name ∈ Text.splitAt '/' path := by
  have hpiece {first : Bool} {piece : String}
      (hp : pieceComponent? first piece = some (.name name)) : piece = name := by
    unfold pieceComponent? at hp
    split at hp
    · simp at hp
    · split at hp
      · split at hp <;> simp at hp
      · split at hp
        · simp at hp
        · simpa using hp
  have hcomponents : Component.name name ∈ componentsOf (Text.splitAt '/' path) := by
    unfold fileName? at h
    split at h
    · next s hlast =>
      obtain rfl := Option.some.inj h
      have hmem := List.mem_of_getLast? hlast
      rw [components, List.mem_append] at hmem
      rcases hmem with hroot | hmem
      · split at hroot <;> simp at hroot
      · exact hmem
    · simp at h
  cases hs : Text.splitAt '/' path with
  | nil => simp [hs, componentsOf] at hcomponents
  | cons piece pieces =>
    rw [hs, componentsOf, List.mem_append, Option.mem_toList, List.mem_filterMap] at hcomponents
    rcases hcomponents with hfirst | ⟨other, hmem, hother⟩
    · obtain rfl := hpiece hfirst
      exact List.mem_cons_self
    · obtain rfl := hpiece hother
      exact List.mem_cons_of_mem piece hmem

/-- The extension of a path holds no slash. -/
theorem slash_not_mem_extension {path ending : String} (h : extension? path = some ending) :
    '/' ∉ ending.toList := by
  obtain ⟨name, hname, hsplit⟩ := Option.bind_eq_some_iff.1 h
  have hslash := Text.not_mem_of_mem_splitAt (mem_splitAt_of_fileName? hname)
  unfold splitName at hsplit
  split at hsplit
  · next after before hcut =>
    split at hsplit
    · simp at hsplit
    · obtain rfl := Option.some.inj hsplit
      have hname := Text.append_of_cutChars? hcut
      intro hmem
      refine hslash (List.mem_reverse.1 ?_)
      rw [← hname]
      rw [String.toList_ofList, List.mem_reverse] at hmem
      exact List.mem_append_left _ hmem
  · simp at hsplit

end Path

/-! ## Where a path leads -/

/-- Only slashes stand for no name at all. -/
theorem Path.isAbsolute_of_names {path : String} (h : Disk.names path = []) (hne : path.isEmpty = false) :
    isAbsolute path = true := by
  cases hlist : path.toList with
  | nil => simp [String.toList_eq_nil_iff.1 hlist] at hne
  | cons c cs =>
    by_cases hc : c = '/'
    · exact isAbsolute_iff.2 ⟨cs, by rw [hlist, hc]⟩
    · exfalso
      obtain ⟨first, rest, hsplit⟩ := List.exists_cons_of_ne_nil (List.splitOn_ne_nil '/' cs)
      have hcons : (c :: cs).splitOn '/' = (c :: first) :: rest := by
        rw [List.splitOn_cons_eq_if_modifyHead, if_neg (by simpa using hc), hsplit, List.modifyHead_cons]
      simp [Disk.names, Text.splitAt, hlist, hcons] at h

namespace Disk

theorem grounded_nil (d : Disk) : d.Grounded [] := by
  intro x hx hne
  exact absurd (List.prefix_nil.1 hx) hne

/-- A place that is no directory has the file name of the path that leads to it. -/
theorem fileName?_of_locate {d : Disk} {path : String} {spot : Spot} (hg : d.Grounded d.current)
    (h : d.locate path = .ok spot) (hne : d.get? spot ≠ some .directory) :
    ∃ dir name, spot = dir ++ [name] ∧ Path.fileName? path = some name := by
  obtain ⟨hempty, -, hwalk⟩ := locate_eq_ok.1 h
  rcases List.eq_nil_or_concat (names path) with hnil | ⟨before, name, hconcat⟩
  · rw [hnil, Path.isAbsolute_of_names hnil hempty, if_pos rfl] at hwalk
    obtain rfl := Except.ok.inj hwalk
    exact absurd (get?_nil d) hne
  · rw [hconcat, List.concat_eq_append] at hwalk
    obtain ⟨dir, hdir, hget, henter⟩ := walk_concat_eq_ok hwalk
    have hstart : d.Grounded (if Path.isAbsolute path then [] else d.current) := by
      split
      · exact grounded_nil d
      · exact hg
    unfold enter? at henter
    split at henter
    · obtain rfl := Option.some.inj henter
      exact absurd hget hne
    · next hdot =>
      split at henter
      · obtain rfl := Option.some.inj henter
        exact absurd (hstart.walk hdir).dropLast hne
      · next hdots =>
        split at henter
        · simp at henter
        · refine ⟨dir, name, (Option.some.inj henter).symm, ?_⟩
          exact Path.fileName?_of_names (by rw [hconcat, List.concat_eq_append]) hdot hdots

end Disk

/-! ## How paths and names end -/

namespace Path

variable {base name : String} {c : Char}

theorem getLast?_join (base : String) (h : name.toList.getLast? = some c) :
    (join base name).toList.getLast? = some c := by
  unfold join
  split
  · exact h
  · split <;> simp [List.getLast?_cons, h]

theorem getLast?_append (base : String) (h : name.toList.getLast? = some c) (hc : c ≠ '/') :
    (append base name).toList.getLast? = some c := by
  have htail : ((Text.afterStart? name "/").getD name).toList.getLast? = some c := by
    cases hafter : Text.afterStart? name "/" with
    | none => exact h
    | some rest =>
      obtain ⟨cs, hcs, rfl⟩ := Option.map_eq_some_iff.1 hafter
      have hname : name.toList = '/' :: cs := (List.isPrefixOf?_eq_some_iff_append_eq.1 hcs).symm
      rw [hname, List.getLast?_cons] at h
      rw [Option.getD_some, String.toList_ofList]
      cases hlast : cs.getLast? with
      | some last => simpa [hlast] using h
      | none =>
        -- a slash alone ends otherwise
        rw [hlast] at h
        exact absurd (Option.some.inj h).symm hc
  unfold append
  extract_lets tail
  split <;> simp [tail, List.getLast?_cons, htail]

end Path

namespace Disk

theorem exists_splitOn_concat {sep c : Char} (hc : c ≠ sep) (cs : List Char) :
    ∃ init last, (cs ++ [c]).splitOn sep = init ++ [last ++ [c]] := by
  induction cs with
  | nil =>
    refine ⟨[], [], ?_⟩
    exact List.splitOn_eq_singleton (by simpa using Ne.symm hc)
  | cons x cs ih =>
    obtain ⟨init, last, hsplit⟩ := ih
    rw [List.cons_append, List.splitOn_cons_eq_if_modifyHead, hsplit]
    split
    · exact ⟨[] :: init, last, rfl⟩
    · cases init with
      | nil => exact ⟨[], x :: last, rfl⟩
      | cons first init => exact ⟨(x :: first) :: init, last, rfl⟩

/-- The last name of a path ends as the path does. -/
theorem exists_names_concat {path : String} {c : Char} (h : path.toList.getLast? = some c) (hc : c ≠ '/') :
    ∃ before name, names path = before ++ [name] ∧ name.toList.getLast? = some c := by
  obtain ⟨cs, hcs⟩ := List.getLast?_eq_some_iff.1 h
  obtain ⟨init, last, hsplit⟩ := exists_splitOn_concat hc cs
  refine ⟨(init.map String.ofList).filter (!·.isEmpty), String.ofList (last ++ [c]), ?_, by simp⟩
  rw [names, Text.splitAt, hcs, hsplit, List.map_append, List.filter_append]
  congr 1
  simp [← String.toList_inj]

/-- The place that a path leads to has a name that ends as the path does. -/
theorem exists_concat_of_locate {d : Disk} {path : String} {spot : Spot} {c : Char}
    (h : d.locate path = .ok spot) (hlast : path.toList.getLast? = some c) (hslash : c ≠ '/')
    (hdot : c ≠ '.') : ∃ dir name, spot = dir ++ [name] ∧ name.toList.getLast? = some c := by
  obtain ⟨-, -, hwalk⟩ := locate_eq_ok.1 h
  obtain ⟨before, name, hnames, hname⟩ := exists_names_concat hlast hslash
  rw [hnames] at hwalk
  obtain ⟨dir, -, -, henter⟩ := walk_concat_eq_ok hwalk
  refine ⟨dir, name, ?_, hname⟩
  -- neither of the two names for directories ends so
  have hne : name ≠ "." ∧ name ≠ ".." := by
    constructor <;>
    · rintro rfl
      exact hdot (Option.some.inj hname).symm
  unfold enter? at henter
  rw [if_neg hne.1, if_neg hne.2] at henter
  split at henter
  · simp at henter
  · exact (Option.some.inj henter).symm

end Disk

end ScadManual
