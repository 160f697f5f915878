import ScadManual.Proofs.Path

/-!
# Components of paths that are put together

A path is put behind another one in two ways, by `Path.join` and by `Path.append`; both come down to one text,
the second path under the first with a slash between them.  `Path.under` is that text.  Its components are
those of the first path and then those of the pieces of the second, and putting paths under each other is
associative, so a path that was put together in any order can be taken apart from its end.
-/

namespace ScadManual.Path

variable {base mid name path : String}

/-! ## Under a path -/

/-- The text of a path under another, with a slash between them unless there is one. -/
def under (base name : String) : String :=
  if base.toList.getLast? = some '/' then base ++ name else base ++ "/" ++ name

/-- The components that a path adds to one that it is put under. -/
def inner (path : String) : List Component :=
  (Text.splitAt '/' path).filterMap (pieceComponent? false)

theorem join_eq_under (hbase : base.isEmpty = false) (hname : isAbsolute name = false) :
    join base name = under base name := by
  rw [join, hname, hbase]
  rfl

theorem join_of_isAbsolute (hname : isAbsolute name = true) : join base name = name := by
  rw [join, hname]
  rfl

theorem append_of_relative (base : String) (hname : isAbsolute name = false) :
    append base name = if base.isEmpty then name else under base name := by
  have htail : Text.afterStart? name "/" = none := by
    rw [Text.afterStart?, Option.map_eq_none_iff]
    rw [isAbsolute, Text.startsWith] at hname
    cases h : "/".toList.isPrefixOf? name.toList with
    | none => rfl
    | some rest =>
      have hstart : "/".toList ++ rest = name.toList := List.isPrefixOf?_eq_some_iff_append_eq.1 h
      rw [← hstart] at hname
      simp at hname
  rw [append, htail, Option.getD_none]
  cases hbase : base.isEmpty with
  | true =>
    rw [String.isEmpty_iff.1 hbase]
    exact String.empty_append
  | false => simp only [Bool.false_or, decide_eq_true_eq, Bool.false_eq_true, if_false, under]

theorem toList_under (base : String) :
    ∃ before, (∀ name, (under base name).toList = before ++ '/' :: name.toList) ∧
      (base.toList = before ++ ['/'] ∨ base.toList = before ∧ base.toList.getLast? ≠ some '/') := by
  by_cases hlast : base.toList.getLast? = some '/'
  · obtain ⟨before, hbefore⟩ := List.getLast?_eq_some_iff.1 hlast
    refine ⟨before, fun name => ?_, .inl hbefore⟩
    rw [under, if_pos hlast, String.toList_append, hbefore]
    simp
  · refine ⟨base.toList, fun name => ?_, .inr ⟨rfl, hlast⟩⟩
    rw [under, if_neg hlast]
    simp

theorem under_injective (base : String) : Function.Injective (under base) := by
  intro a b h
  obtain ⟨before, htext, -⟩ := toList_under base
  have hlists := congrArg String.toList h
  rw [htext, htext] at hlists
  have htails := List.append_cancel_left hlists
  exact String.toList_inj.1 (List.cons.inj htails).2

theorem isAbsolute_under (hbase : base.isEmpty = false) (name : String) :
    isAbsolute (under base name) = isAbsolute base := by
  obtain ⟨c, cs, hcs⟩ : ∃ c cs, base.toList = c :: cs := by
    apply List.exists_cons_of_ne_nil
    intro hnil
    rw [String.toList_eq_nil_iff.1 hnil] at hbase
    exact absurd hbase (by decide)
  have hunder : ∃ rest, (under base name).toList = c :: rest := by
    unfold under
    split
    · exact ⟨cs ++ name.toList, by simp [hcs]⟩
    · exact ⟨cs ++ '/' :: name.toList, by simp [hcs]⟩
  obtain ⟨rest, hrest⟩ := hunder
  rw [Bool.eq_iff_iff, isAbsolute_iff, isAbsolute_iff, hrest, hcs]
  simp

theorem isEmpty_under (base name : String) : (under base name).isEmpty = false := by
  obtain ⟨before, htext, -⟩ := toList_under base
  rw [Bool.eq_false_iff]
  intro hempty
  have hnil := htext name
  rw [String.isEmpty_iff.1 hempty] at hnil
  simp at hnil

/-- Paths under each other may be put together from either end. -/
theorem under_assoc (base : String) (hmid : mid.isEmpty = false) (name : String) :
    under (under base mid) name = under base (under mid name) := by
  have hlast : (under base mid).toList.getLast? = mid.toList.getLast? := by
    obtain ⟨before, htext, -⟩ := toList_under base
    have hne : mid.toList ≠ [] := by
      intro hnil
      rw [String.toList_eq_nil_iff.1 hnil] at hmid
      exact absurd hmid (by decide)
    rw [htext, List.getLast?_append, List.getLast?_cons, List.getLast?_eq_some_getLast hne]
    rfl
  obtain ⟨before, htext, -⟩ := toList_under base
  rw [← String.toList_inj, htext]
  by_cases hslash : mid.toList.getLast? = some '/'
  · rw [under, if_pos (hlast.trans hslash), String.toList_append, htext, under, if_pos hslash]
    simp
  · rw [under, if_neg (hlast ▸ hslash), String.toList_append, String.toList_append, htext, under, if_neg hslash]
    simp

theorem join_under (base : String) (hmid : mid.isEmpty = false) (name : String) :
    join base (under mid name) = under (join base mid) name := by
  cases hrel : isAbsolute mid with
  | true => rw [join_of_isAbsolute hrel, join_of_isAbsolute ((isAbsolute_under hmid name).trans hrel)]
  | false =>
    cases hbase : base.isEmpty with
    | true => rw [join_of_isEmpty hbase, join_of_isEmpty hbase]
    | false =>
      rw [join_eq_under hbase hrel, join_eq_under hbase ((isAbsolute_under hmid name).trans hrel),
        under_assoc base hmid]

theorem append_under (base : String) (hmid : mid.isEmpty = false) (hrel : isAbsolute mid = false) (name : String) :
    append base (under mid name) = under (append base mid) name := by
  rw [append_of_relative base ((isAbsolute_under hmid name).trans hrel), append_of_relative base hrel]
  split
  · rfl
  · rw [under_assoc base hmid]

/-! ## Components -/

theorem componentsOf_append {pieces : List String} (h : pieces ≠ []) (more : List String) :
    componentsOf (pieces ++ more) = componentsOf pieces ++ more.filterMap (pieceComponent? false) := by
  cases pieces with
  | nil => exact absurd rfl h
  | cons piece pieces =>
    rw [List.cons_append, componentsOf, List.filterMap_append, componentsOf, List.append_assoc]

theorem splitAt_ne_nil (sep : Char) (s : String) : Text.splitAt sep s ≠ [] := by
  rw [Text.splitAt, ne_eq, List.map_eq_nil_iff]
  exact List.splitOn_ne_nil sep s.toList

/-- What follows a slash adds its pieces. -/
theorem components_slash (before after : List Char) :
    components (String.ofList (before ++ '/' :: after)) =
      components (String.ofList (before ++ ['/'])) ++ inner (String.ofList after) := by
  have habs : isAbsolute (String.ofList (before ++ '/' :: after)) =
      isAbsolute (String.ofList (before ++ ['/'])) := by
    rw [Bool.eq_iff_iff, isAbsolute_iff, isAbsolute_iff, String.toList_ofList, String.toList_ofList]
    cases before <;> simp
  have hempty : (Text.splitAt '/' (String.ofList [])).filterMap (pieceComponent? false) = [] := by decide
  rw [components, components, habs, Text.splitAt_append, Text.splitAt_append,
    componentsOf_append (splitAt_ne_nil _ _), componentsOf_append (splitAt_ne_nil _ _), hempty, List.append_nil,
    List.append_assoc]
  rfl

/-- A slash at the end means nothing, unless it is the root. -/
theorem components_concat_slash {before : List Char} (h : before ≠ []) :
    components (String.ofList (before ++ ['/'])) = components (String.ofList before) := by
  have habs : isAbsolute (String.ofList (before ++ ['/'])) = isAbsolute (String.ofList before) := by
    rw [Bool.eq_iff_iff, isAbsolute_iff, isAbsolute_iff, String.toList_ofList, String.toList_ofList]
    obtain ⟨c, cs, rfl⟩ := List.exists_cons_of_ne_nil h
    simp
  have hempty : (Text.splitAt '/' (String.ofList [])).filterMap (pieceComponent? false) = [] := by decide
  rw [components, components, habs, Text.splitAt_append, componentsOf_append (splitAt_ne_nil _ _), hempty,
    List.append_nil]

theorem components_under (hbase : base.isEmpty = false) (name : String) :
    components (under base name) = components base ++ inner name := by
  obtain ⟨before, htext, hbefore⟩ := toList_under base
  have hslash : components (String.ofList (before ++ ['/'])) = components base := by
    rcases hbefore with heq | ⟨heq, -⟩
    · rw [← heq, String.ofList_toList]
    · have hne : before ≠ [] := by
        rintro rfl
        rw [String.toList_eq_nil_iff.1 heq] at hbase
        exact absurd hbase (by decide)
      rw [components_concat_slash hne, ← heq, String.ofList_toList]
  have hunder : under base name = String.ofList (before ++ '/' :: name.toList) := by
    rw [← htext, String.ofList_toList]
  rw [hunder, components_slash, hslash, String.ofList_toList]

theorem inner_of_not_mem (h : '/' ∉ path.toList) : inner path = (pieceComponent? false path).toList := by
  have hsplit : Text.splitAt '/' path = [path] := by
    simp [Text.splitAt, List.splitOn_eq_singleton h]
  rw [inner, hsplit, List.filterMap_cons]
  cases pieceComponent? false path <;> rfl

/-- A name adds itself. -/
theorem inner_name (hslash : '/' ∉ name.toList) (hempty : name.isEmpty = false) (hdot : name ≠ ".")
    (hdots : name ≠ "..") : inner name = [.name name] := by
  rw [inner_of_not_mem hslash, pieceComponent?_of_name hempty hdot hdots]
  rfl

/-- Files in directories are the same when both the directories and the names are. -/
theorem same_under_iff {base' name' : String} (hbase : base.isEmpty = false) (hbase' : base'.isEmpty = false)
    (hname : inner name = [.name name]) (hname' : inner name' = [.name name']) :
    same (under base name) (under base' name') = true ↔ same base base' = true ∧ name = name' := by
  rw [same, same, beq_iff_eq, beq_iff_eq, components_under hbase, components_under hbase', hname, hname']
  constructor
  · intro h
    obtain ⟨hdirs, hnames⟩ := List.append_inj' h rfl
    exact ⟨hdirs, Component.name.inj (List.cons.inj hnames).1⟩
  · rintro ⟨hdirs, rfl⟩
    rw [hdirs]

/-! ## File names -/

/-- A path under another leads to the same file name. -/
theorem exists_names_under (base : String) {path : String} (h : ∃ before, Disk.names path = before ++ [name]) :
    ∃ before, Disk.names (under base path) = before ++ [name] := by
  obtain ⟨before, hnames⟩ := h
  obtain ⟨front, htext, -⟩ := toList_under base
  have hunder : under base path = String.ofList (front ++ '/' :: path.toList) := by
    rw [← htext, String.ofList_toList]
  refine ⟨Disk.names (String.ofList front) ++ before, ?_⟩
  rw [hunder, Disk.names_append_slash, String.ofList_toList, hnames, List.append_assoc]

/-- A file name stays one, whatever directories it is put behind. -/
theorem fileName?_join_append (base dir : String) (hslash : '/' ∉ name.toList) (hempty : name ≠ "") (hdot : name ≠ ".")
    (hdots : name ≠ "..") : fileName? (join base (append dir name)) = some name := by
  have hname : ∃ before, Disk.names name = before ++ [name] := ⟨[], Disk.names_of_not_mem hslash hempty⟩
  have happend : ∃ before, Disk.names (append dir name) = before ++ [name] := by
    rw [append_of_relative dir (isAbsolute_eq_false hslash)]
    split
    · exact hname
    · exact exists_names_under dir hname
  have hjoin : ∃ before, Disk.names (join base (append dir name)) = before ++ [name] := by
    cases habs : isAbsolute (append dir name) with
    | true => exact (join_of_isAbsolute habs).symm ▸ happend
    | false =>
      cases hbase : base.isEmpty with
      | true => exact (join_of_isEmpty hbase).symm ▸ happend
      | false => exact join_eq_under hbase habs ▸ exists_names_under base happend
  obtain ⟨before, hnames⟩ := hjoin
  exact fileName?_of_names hnames hdot hdots

/-- A name without its extension holds no slash. -/
theorem slash_not_mem_stem (path : String) : '/' ∉ ((stem? path).getD "").toList := by
  cases hstem : stem? path with
  | none => exact List.not_mem_nil
  | some stem =>
    obtain ⟨name, hname, rfl⟩ := Option.map_eq_some_iff.1 hstem
    have hslash := Text.not_mem_of_mem_splitAt (mem_splitAt_of_fileName? hname)
    rw [Option.getD_some]
    unfold splitName
    split
    · next after before hcut =>
      split
      · exact hslash
      · have hchars := Text.append_of_cutChars? hcut
        intro hmem
        rw [String.toList_ofList, List.mem_reverse] at hmem
        apply hslash
        rw [← List.mem_reverse, ← hchars]
        exact List.mem_append_right _ (List.mem_cons_of_mem _ hmem)
    · exact hslash

end ScadManual.Path
