import Mathlib.Data.List.Infix
import ScadManual.Glob.Expand
import ScadManual.Proofs.Results
import ScadManual.Proofs.Sorting
import ScadManual.Proofs.Temporary

/-!
# What patterns find

Whether a pattern finds a file depends on the pattern, on the path of the file and on nothing else: on two
disks that both have a file under that path, every directory on the way to it is there too, and a pattern
that finds the path on the one finds it on the other.  What else is on the disks does not matter.

The steps of a path are what it comes to: its names without the dots.  Paths that are the same have the same
steps, and what is found below a path has its steps and more.
-/

namespace ScadManual

/-! ## Steps of paths -/

namespace Path

/-- Does a piece between slashes lead somewhere else? -/
def isStep (piece : String) : Bool := !piece.isEmpty && piece != "."

/-- The pieces of a path that lead somewhere else. -/
def steps (path : String) : List String := (Text.splitAt '/' path).filter isStep

theorem steps_eq_names (path : String) : steps path = (Disk.names path).filter (· != ".") := by
  rw [steps, Disk.names, List.filter_filter]
  refine List.filter_congr fun piece _ => ?_
  rw [isStep, Bool.and_comm]

/-- The step that a component stands for. -/
def Component.step? : Component → Option String
  | .root => none
  | .current => none
  | .parent => some ".."
  | .name s => some s

theorem step?_pieceComponent? (first : Bool) (piece : String) :
    (pieceComponent? first piece).bind Component.step? = Option.guard isStep piece := by
  unfold pieceComponent?
  cases hempty : piece.isEmpty with
  | true => simp [Option.guard, isStep, hempty]
  | false =>
    by_cases hdot : piece = "."
    · cases first <;> simp [hdot, Component.step?, Option.guard, isStep]
    · by_cases hdots : piece = ".."
      · subst hdots
        rfl
      · simp [hdot, hdots, Component.step?, Option.guard, isStep, hempty]

/-- The components of a path say which steps it has. -/
theorem steps_eq (path : String) : steps path = (components path).filterMap Component.step? := by
  have hroot : (if isAbsolute path then [Component.root] else []).filterMap Component.step? = [] := by
    split <;> rfl
  have hfirst (piece : String) : (pieceComponent? true piece).toList.filterMap Component.step? =
      [piece].filter isStep := by
    have hbind (o : Option Component) :
        o.toList.filterMap Component.step? = (o.bind Component.step?).toList := by
      cases o with
      | none => rfl
      | some c => cases hc : c.step? <;> simp [hc]
    rw [hbind, step?_pieceComponent?]
    cases hp : isStep piece <;> simp [Option.guard, hp]
  rw [steps, components, List.filterMap_append, hroot, List.nil_append]
  cases Text.splitAt '/' path with
  | nil => rfl
  | cons piece pieces =>
    rw [componentsOf, List.filterMap_append, List.filterMap_filterMap, hfirst]
    simp only [step?_pieceComponent?, List.filterMap_eq_filter]
    rw [← List.filter_append]
    rfl

theorem isAbsolute_eq_head? (path : String) :
    isAbsolute path = ((components path).head? == some .root) := by
  rw [components]
  cases habs : isAbsolute path with
  | true => rfl
  | false =>
    simp only [Bool.false_eq_true, if_false, List.nil_append]
    -- no piece stands for the root
    have hpiece (first : Bool) (piece : String) : pieceComponent? first piece ≠ some .root := by
      unfold pieceComponent?
      split
      · simp
      · split
        · split <;> simp
        · split <;> simp
    have hmem : Component.root ∉ componentsOf (Text.splitAt '/' path) := by
      cases Text.splitAt '/' path with
      | nil => simp [componentsOf]
      | cons piece pieces =>
        simp only [componentsOf, List.mem_append, Option.mem_toList, List.mem_filterMap, not_or, not_exists]
        exact ⟨hpiece true piece, fun other h => hpiece false other h.2⟩
    cases hc : componentsOf (Text.splitAt '/' path) with
    | nil => rfl
    | cons c cs =>
      rw [hc] at hmem
      have hne : c ≠ .root := fun h => hmem (h ▸ List.mem_cons_self)
      simpa using hne

/-- What is below a path starts where it does and has its steps first. -/
structure Leads (path below : String) : Prop where
  absolute : isAbsolute below = isAbsolute path
  steps : Path.steps path <+: Path.steps below

section Leads

variable {a b c : String}

theorem Leads.refl (a : String) : Leads a a := ⟨rfl, List.prefix_refl _⟩

theorem Leads.trans (h : Leads a b) (h' : Leads b c) : Leads a c :=
  ⟨h'.absolute.trans h.absolute, h.steps.trans h'.steps⟩

theorem same_iff : same a b = true ↔ components a = components b := by
  simp [same]

theorem steps_of_same (h : same a b = true) : steps a = steps b := by
  rw [steps_eq, steps_eq, same_iff.1 h]

theorem leads_of_same (h : same a b = true) : Leads a b := by
  refine ⟨?_, ?_⟩
  · rw [isAbsolute_eq_head?, isAbsolute_eq_head?, same_iff.1 h]
  · rw [steps_of_same h]

theorem steps_join (a : String) (hb : isAbsolute b = false) : steps (join a b) = steps a ++ steps b := by
  rw [steps_eq_names, steps_eq_names, steps_eq_names, names_join a hb, List.filter_append]

theorem steps_child (a : String) (hb : isAbsolute b = false) :
    isAbsolute (Glob.child a b) = isAbsolute a ∧ steps (Glob.child a b) = steps a ++ steps b := by
  unfold Glob.child
  split
  · next hsame =>
    -- the current directory has no steps
    have hdot := leads_of_same hsame
    have habs : isAbsolute a = false := hdot.absolute.symm.trans (by decide)
    have hsteps : steps a = [] := by
      have hnone : steps "." = [] := by decide
      exact List.prefix_nil.1 (hnone ▸ hdot.steps)
    rw [habs, hb, hsteps]
    exact ⟨rfl, rfl⟩
  · exact ⟨isAbsolute_join_relative a hb, steps_join a hb⟩

end Leads

end Path

/-! ## Files on two disks -/

namespace Disk

/-- On both disks the names lead from the places to a file. -/
def Shared (d d' : Disk) (spot spot' : Spot) (names : List String) : Prop :=
  (∃ target content, d.walk spot names = .ok target ∧ d.get? target = some (.file content)) ∧
    ∃ target content, d'.walk spot' names = .ok target ∧ d'.get? target = some (.file content)

section Shared

variable {d d' : Disk} {spot spot' : Spot} {name : String} {names : List String}

theorem walk_cons_of_directory (h : d.get? spot = some .directory) (name : String) (names : List String) :
    d.walk spot (name :: names) =
      match enter? spot name with
      | some next => d.walk next names
      | none => .error .nameTooLong := by
  rw [walk, h, enter?]
  simp only
  split
  · rfl
  · split
    · rfl
    · split <;> rfl

theorem Shared.nil (h : Shared d d' spot spot' []) :
    (∃ content, d.get? spot = some (.file content)) ∧ ∃ content, d'.get? spot' = some (.file content) := by
  obtain ⟨⟨target, content, hwalk, hget⟩, target', content', hwalk', hget'⟩ := h
  obtain rfl := Except.ok.inj hwalk
  obtain rfl := Except.ok.inj hwalk'
  exact ⟨⟨content, hget⟩, content', hget'⟩

/-- With a name to come both places are directories. -/
theorem Shared.cons (h : Shared d d' spot spot' (name :: names)) :
    d.get? spot = some .directory ∧ d'.get? spot' = some .directory ∧
      ∃ next next', enter? spot name = some next ∧ enter? spot' name = some next' ∧
        Shared d d' next next' names := by
  obtain ⟨⟨target, content, hwalk, hget⟩, target', content', hwalk', hget'⟩ := h
  obtain ⟨hdir, next, hnext, hrest⟩ := walk_cons_eq_ok.1 hwalk
  obtain ⟨hdir', next', hnext', hrest'⟩ := walk_cons_eq_ok.1 hwalk'
  exact ⟨hdir, hdir', next, next', hnext, hnext', ⟨target, content, hrest, hget⟩,
    target', content', hrest', hget'⟩

/-- Walks on both disks: they fail for the same reason, or come to places from which the rest leads to the
file. -/
inductive WalkAlike (d d' : Disk) (spot spot' : Spot) (names rest : List String) : Prop
  | failed (e : DiskError) (fails : d.walk spot names = .error e) (fails' : d'.walk spot' names = .error e)
  | came (next next' : Spot) (comes : d.walk spot names = .ok next) (comes' : d'.walk spot' names = .ok next')
      (shared : Shared d d' next next' rest)

/-- Along the way to a file, dots and all, walks on both disks are alike. -/
theorem Shared.walkAlike {rest : List String} (names : List String) :
    ∀ {spot spot'}, Shared d d' spot spot' (names.filter (· != ".") ++ rest) →
      WalkAlike d d' spot spot' names rest := by
  induction names with
  | nil =>
    intro spot spot' h
    exact .came spot spot' rfl rfl h
  | cons name names ih =>
    intro spot spot' h
    by_cases hdot : name = "."
    · subst hdot
      have hrest : Shared d d' spot spot' (names.filter (· != ".") ++ rest) := by simpa using h
      have henter (x : Spot) : enter? x "." = some x := rfl
      cases hcases : names.filter (· != ".") ++ rest with
      | nil =>
        -- a dot behind the file itself
        rw [hcases] at hrest
        obtain ⟨⟨content, hget⟩, content', hget'⟩ := hrest.nil
        refine .failed .notDirectory ?_ ?_
        · simp only [walk, hget]
        · simp only [walk, hget']
      | cons next more =>
        rw [hcases] at hrest
        obtain ⟨hdir, hdir', -⟩ := hrest.cons
        have hwalk : d.walk spot ("." :: names) = d.walk spot names := by
          rw [walk_cons_of_directory hdir, henter]
        have hwalk' : d'.walk spot' ("." :: names) = d'.walk spot' names := by
          rw [walk_cons_of_directory hdir', henter]
        cases ih (hcases ▸ hrest) with
        | failed e fails fails' => exact .failed e (hwalk ▸ fails) (hwalk' ▸ fails')
        | came next next' comes comes' shared =>
          exact .came next next' (hwalk ▸ comes) (hwalk' ▸ comes') shared
    · have hcons : (name :: names).filter (· != ".") ++ rest = name :: (names.filter (· != ".") ++ rest) := by
        simp [hdot]
      rw [hcons] at h
      obtain ⟨hdir, hdir', next, next', hnext, hnext', hshared⟩ := h.cons
      have hwalk : d.walk spot (name :: names) = d.walk next names := by
        rw [walk_cons_of_directory hdir, hnext]
      have hwalk' : d'.walk spot' (name :: names) = d'.walk next' names := by
        rw [walk_cons_of_directory hdir', hnext']
      cases ih hshared with
      | failed e fails fails' => exact .failed e (hwalk ▸ fails) (hwalk' ▸ fails')
      | came last last' comes comes' shared =>
        exact .came last last' (hwalk ▸ comes) (hwalk' ▸ comes') shared

/-- Without its dots a walk asks for less. -/
theorem walk_filter_dots {target : Spot} (h : d.walk spot names = .ok target) :
    d.walk spot (names.filter (· != ".")) = .ok target := by
  induction names generalizing spot with
  | nil => exact h
  | cons name names ih =>
    obtain ⟨hdir, next, hnext, hrest⟩ := walk_cons_eq_ok.1 h
    by_cases hdot : name = "."
    · subst hdot
      obtain rfl : spot = next := Option.some.inj hnext
      simpa using ih hrest
    · have hcons : (name :: names).filter (· != ".") = name :: names.filter (· != ".") := by
        simp [hdot]
      rw [hcons]
      exact walk_cons_eq_ok.2 ⟨hdir, next, hnext, ih hrest⟩

/-- The place from which a path is followed. -/
def origin (d : Disk) (path : String) : Spot := if Path.isAbsolute path then [] else d.current

/-- A file that can be read on both disks is shared along its steps. -/
theorem shared_of_read {path : String} {content content' : Content} (h : d.read path = .ok content)
    (h' : d'.read path = .ok content') :
    Shared d d' (d.origin path) (d'.origin path) (Path.steps path) := by
  have hsteps (d : Disk) (content : Content) (h : d.read path = .ok content) : ∃ target content,
      d.walk (d.origin path) (Path.steps path) = .ok target ∧ d.get? target = some (.file content) := by
    obtain ⟨target, hlocate, hget, -⟩ := read_eq_ok.1 h
    obtain ⟨-, -, hwalk⟩ := locate_eq_ok.1 hlocate
    refine ⟨target, content, ?_, hget⟩
    rw [Path.steps_eq_names]
    exact walk_filter_dots hwalk
  exact ⟨hsteps d content h, hsteps d' content' h'⟩

/-- What a path leads to on both disks: to nothing, to files, or to directories from which the rest leads to
the file. -/
inductive StatAlike (d d' : Disk) (path : String) (rest : List String) : Prop
  | failed (e e' : DiskError) (fails : d.stat path = .error e) (fails' : d'.stat path = .error e')
  | file (spot spot' : Spot) (content content' : Content) (is : d.stat path = .ok (spot, .file content))
      (is' : d'.stat path = .ok (spot', .file content'))
  | directory (spot spot' : Spot) (is : d.stat path = .ok (spot, .directory))
      (is' : d'.stat path = .ok (spot', .directory)) (shared : Shared d d' spot spot' rest)

/-- A path on the way to a file leads to the same kind of thing on both disks. -/
theorem statAlike {path file : String} {rest : List String} {content content' : Content}
    (h : d.read file = .ok content) (h' : d'.read file = .ok content')
    (habsolute : Path.isAbsolute file = Path.isAbsolute path)
    (hsteps : Path.steps file = Path.steps path ++ rest) : StatAlike d d' path rest := by
  have hshared := shared_of_read h h'
  have horigin (d : Disk) : d.origin file = d.origin path := by rw [origin, habsolute, origin]
  rw [hsteps, horigin, horigin, Path.steps_eq_names] at hshared
  have hlocate (d : Disk) : d.locate path =
      if path.isEmpty then .error .notFound
      else if path.toList.any (·.toNat = 0) then .error .nulByte
      else d.walk (d.origin path) (Disk.names path) := rfl
  -- what the path itself forbids, it forbids on both
  by_cases hempty : path.isEmpty = true
  · refine .failed .notFound .notFound ?_ ?_ <;> simp only [stat, hlocate, hempty, if_true]
  by_cases hnul : path.toList.any (·.toNat = 0) = true
  · refine .failed .nulByte .nulByte ?_ ?_ <;>
      simp only [stat, hlocate, hempty, hnul, Bool.false_eq_true, if_true, if_false]
  have hwalked (d : Disk) : d.locate path = d.walk (d.origin path) (Disk.names path) := by
    rw [hlocate, if_neg hempty, if_neg hnul]
  cases hshared.walkAlike (Disk.names path) with
  | failed e fails fails' =>
    refine .failed e e ?_ ?_
    · simp only [stat, hwalked, fails]
    · simp only [stat, hwalked, fails']
  | came spot spot' comes comes' shared =>
    cases rest with
    | nil =>
      obtain ⟨⟨found, hget⟩, found', hget'⟩ := shared.nil
      cases hdir : isDirPath path with
      | true =>
        refine .failed .notDirectory .notDirectory ?_ ?_
        · simp only [stat, hwalked, comes, hget, hdir, if_true]
        · simp only [stat, hwalked, comes', hget', hdir, if_true]
      | false =>
        refine .file spot spot' found found' ?_ ?_
        · simp only [stat, hwalked, comes, hget, hdir, Bool.false_eq_true, if_false]
        · simp only [stat, hwalked, comes', hget', hdir, Bool.false_eq_true, if_false]
    | cons name names =>
      obtain ⟨hget, hget', -⟩ := shared.cons
      refine .directory spot spot' ?_ ?_ shared
      · simp only [stat, hwalked, comes, hget]
      · simp only [stat, hwalked, comes', hget']

theorem StatAlike.exists? {path : String} {rest : List String} (h : StatAlike d d' path rest) :
    d'.exists? path = d.exists? path := by
  cases h with
  | failed e e' fails fails' => simp only [Disk.exists?, fails, fails']; rfl
  | file spot spot' content content' is is' => simp only [Disk.exists?, is, is']; rfl
  | directory spot spot' is is' shared => simp only [Disk.exists?, is, is']; rfl

theorem StatAlike.isDirectory {path : String} {rest : List String} (h : StatAlike d d' path rest) :
    d'.isDirectory path = d.isDirectory path := by
  cases h with
  | failed e e' fails fails' => simp only [Disk.isDirectory, fails, fails']
  | file spot spot' content content' is is' => simp only [Disk.isDirectory, is, is']
  | directory spot spot' is is' shared => simp only [Disk.isDirectory, is, is']

end Shared

/-! ## Names on a disk -/

/-- A name that a file or directory can have. -/
structure ProperName (name : String) : Prop where
  ne_empty : name ≠ ""
  ne_dot : name ≠ "."
  ne_dots : name ≠ ".."
  no_slash : '/' ∉ name.toList

/-- Every place is there once, and all names are proper. -/
structure WellFormed (d : Disk) : Prop where
  nodup : (d.entries.map Prod.fst).Nodup
  proper : ∀ e ∈ d.entries, ∀ name ∈ e.1, ProperName name

instance (name : String) : Decidable (ProperName name) :=
  decidable_of_iff (name ≠ "" ∧ name ≠ "." ∧ name ≠ ".." ∧ '/' ∉ name.toList)
    ⟨fun ⟨hempty, hdot, hdots, hslash⟩ => ⟨hempty, hdot, hdots, hslash⟩,
      fun h => ⟨h.ne_empty, h.ne_dot, h.ne_dots, h.no_slash⟩⟩

instance (d : Disk) : Decidable d.WellFormed :=
  decidable_of_iff ((d.entries.map Prod.fst).Nodup ∧ ∀ e ∈ d.entries, ∀ name ∈ e.1, ProperName name)
    ⟨fun ⟨hnodup, hproper⟩ => ⟨hnodup, hproper⟩, fun h => ⟨h.nodup, h.proper⟩⟩

theorem ProperName.relative {name : String} (h : ProperName name) : Path.isAbsolute name = false :=
  Path.isAbsolute_eq_false h.no_slash

theorem ProperName.enter? {name : String} (h : ProperName name) {spot next : Spot}
    (hnext : enter? spot name = some next) : next = spot ++ [name] := by
  simp only [Disk.enter?, h.ne_dot, h.ne_dots, if_false] at hnext
  split at hnext
  · simp at hnext
  · exact (Option.some.inj hnext).symm

theorem WellFormed.get?_of_mem {d : Disk} (h : d.WellFormed) {e : Spot × Entry} (he : e ∈ d.entries)
    (hne : e.1 ≠ []) : d.get? e.1 = some e.2 := by
  rw [get?, if_neg (by simpa using hne)]
  exact (lookup_eq_some_iff_mem h.nodup).2 he

/-- Proper names on the way to a file lead down. -/
theorem Shared.append {d d' : Disk} {names after : List String} (hnames : ∀ name ∈ names, ProperName name) :
    ∀ {spot spot'}, Shared d d' spot spot' (names ++ after) →
      Shared d d' (spot ++ names) (spot' ++ names) after := by
  induction names with
  | nil =>
    intro spot spot' h
    simpa using h
  | cons name names ih =>
    intro spot spot' h
    obtain ⟨hname, hrest⟩ := List.forall_mem_cons.1 hnames
    obtain ⟨-, -, next, next', hnext, hnext', hshared⟩ := h.cons
    have hdown := ih hrest hshared
    rw [hname.enter? hnext, hname.enter? hnext'] at hdown
    simpa using hdown

/-- Where the way to a file leads, there is something. -/
theorem Shared.exists_entry {d d' : Disk} {spot spot' : Spot} {names : List String}
    (h : Shared d d' spot spot' names) (hne : spot' ≠ []) : ∃ e ∈ d'.entries, e.1 = spot' := by
  have hget : d'.get? spot' ≠ none := by
    cases names with
    | nil =>
      obtain ⟨-, content, hfile⟩ := h.nil
      simp [hfile]
    | cons name names =>
      obtain ⟨-, hdir, -⟩ := h.cons
      simp [hdir]
  rcases List.eq_nil_or_concat spot' with hnil | ⟨dir, name, hconcat⟩
  · exact absurd hnil hne
  · rw [List.concat_eq_append] at hconcat
    rw [hconcat] at hget ⊢
    exact exists_mem_of_get? hget

/-- Proper names with slashes between them are the steps of that path. -/
theorem steps_intercalate {names : List String} (hne : names ≠ [])
    (h : ∀ name ∈ names, ProperName name) :
    Path.isAbsolute (String.intercalate "/" names) = false ∧
      Path.steps (String.intercalate "/" names) = names := by
  have hchars : (String.intercalate "/" names).toList = ['/'].intercalate (names.map String.toList) := by
    rw [String.toList_intercalate]
    rfl
  have hsplit : Text.splitAt '/' (String.intercalate "/" names) = names := by
    rw [Text.splitAt, hchars, List.splitOn_intercalate]
    · simp
    · intro cs hcs
      obtain ⟨name, hname, rfl⟩ := List.mem_map.1 hcs
      exact (h name hname).no_slash
    · simpa using hne
  constructor
  · -- a slash in front would make an empty name
    rw [Bool.eq_false_iff]
    intro habs
    obtain ⟨rest, hrest⟩ := Path.isAbsolute_iff.1 habs
    have hempty : "" ∈ Text.splitAt '/' (String.intercalate "/" names) := by
      have hpath : String.intercalate "/" names = String.ofList ([] ++ '/' :: rest) := by
        rw [List.nil_append, ← hrest, String.ofList_toList]
      rw [hpath, Text.splitAt_append]
      exact List.mem_append_left _ List.mem_cons_self
    rw [hsplit] at hempty
    exact (h "" hempty).ne_empty rfl
  · rw [Path.steps, hsplit, List.filter_eq_self]
    intro name hname
    simp [Path.isStep, (h name hname).ne_empty, (h name hname).ne_dot]

theorem mem_childNames {d : Disk} {spot : Spot} {name : String} :
    name ∈ d.childNames spot ↔ ∃ e ∈ d.entries, e.1 = spot ++ [name] := by
  rw [childNames, Text.mem_sortBy, List.mem_filterMap]
  refine exists_congr fun e => and_congr_right fun _ => ?_
  rcases List.eq_nil_or_concat e.1 with hnil | ⟨dir, last, hconcat⟩
  · simp [hnil]
  · rw [hconcat, List.concat_eq_append]
    simp only [List.getLast?_append, List.getLast?_singleton, Option.some_or, List.dropLast_concat]
    constructor
    · intro h
      split at h
      · next heq => rw [heq, Option.some.inj h]
      · simp at h
    · intro h
      obtain ⟨hdir, hlast⟩ := List.append_inj' h rfl
      rw [if_pos hdir, List.singleton_inj.1 hlast]

theorem mem_below {d : Disk} {spot : Spot} {names : List String} {isDir : Bool} :
    (names, isDir) ∈ d.below spot ↔
      names ≠ [] ∧ ∃ e ∈ d.entries, e.1 = spot ++ names ∧ isDir = decide (e.2 = .directory) := by
  rw [below, (List.mergeSort_perm _ _).mem_iff, List.mem_filterMap]
  constructor
  · rintro ⟨e, he, hmatch⟩
    split at hmatch
    · next name rest hprefix =>
      obtain ⟨rfl, rfl⟩ := Prod.mk.inj (Option.some.inj hmatch)
      exact ⟨by simp, e, he, (List.isPrefixOf?_eq_some_iff_append_eq.1 hprefix).symm, rfl⟩
    · simp at hmatch
  · rintro ⟨hne, e, he, heq, rfl⟩
    refine ⟨e, he, ?_⟩
    rw [List.isPrefixOf?_eq_some_iff_append_eq.2 heq.symm]
    cases names with
    | nil => exact absurd rfl hne
    | cons name rest => rfl

end Disk

/-! ## Following a pattern -/

namespace Glob

section Follow

variable {d d' : Disk} {only : Bool} {p : Pattern} {rest : List Pattern} {path : String} {spot : Spot}

theorem follow_nil (d : Disk) (only : Bool) (path : String) :
    follow d only [] path = if only && !d.isDirectory path then [] else [path] := by
  rw [follow]

theorem follow_literal {name : String} (h : p.literal? = some name) :
    follow d only (p :: rest) path =
      if (if isDots name then d.isDirectory path else d.exists? (child path name)) then
        follow d only rest (child path name)
      else [] := by
  rw [follow]
  simp only [h]

theorem follow_of_not_directory (h : p.literal? = none) (hstat : ∀ spot, d.stat path ≠ .ok (spot, .directory)) :
    follow d only (p :: rest) path = [] := by
  rw [follow]
  simp only [h]

theorem follow_any (h : p.literal? = none) (hrec : p.isRecursive = false)
    (hstat : d.stat path = .ok (spot, .directory)) :
    follow d only (p :: rest) path =
      (dots p).flatMap (fun name => follow d only rest (Path.join path name)) ++
        ((d.childNames spot).filter p.matchesName).flatMap fun name =>
          follow d only rest (child path name) := by
  rw [follow]
  simp only [h, hstat, hrec, Bool.false_eq_true, if_false]

theorem follow_all (h : p.literal? = none) (hrec : p.isRecursive = true)
    (hstat : d.stat path = .ok (spot, .directory)) (hrest : rest.dropWhile Pattern.isRecursive = []) :
    follow d only (p :: rest) path =
      ((d.below spot).filter (·.2)).map fun e => child path (String.intercalate "/" e.1) := by
  rw [follow]
  simp only [h, hstat, hrec, if_true]
  split
  · rfl
  · next hcons => simp [hrest] at hcons

theorem follow_deep {q : Pattern} {qs : List Pattern} (h : p.literal? = none) (hrec : p.isRecursive = true)
    (hstat : d.stat path = .ok (spot, .directory)) (hrest : rest.dropWhile Pattern.isRecursive = q :: qs) :
    follow d only (p :: rest) path =
      (d.below spot).flatMap fun e =>
        if q.matchesName (e.1.getLastD "") then
          follow d only qs (child path (String.intercalate "/" e.1))
        else [] := by
  rw [follow]
  simp only [h, hstat, hrec, if_true]
  split
  · next hnil => simp [hrest] at hnil
  · next q' qs' hcons =>
    obtain ⟨rfl, rfl⟩ := List.cons.inj (hrest.symm.trans hcons)
    rfl

/-- No literal component starts at the root. -/
def Relative (components : List Pattern) : Prop :=
  ∀ p ∈ components, ∀ name, p.literal? = some name → Path.isAbsolute name = false

theorem leads_child (path : String) {name : String} (h : Path.isAbsolute name = false) :
    Path.Leads path (child path name) := by
  obtain ⟨habsolute, hsteps⟩ := Path.steps_child path h
  exact ⟨habsolute, _, hsteps.symm⟩

theorem leads_join (path : String) {name : String} (h : Path.isAbsolute name = false) :
    Path.Leads path (Path.join path name) :=
  ⟨Path.isAbsolute_join_relative path h, Path.steps_join path h ▸ List.prefix_append _ _⟩

theorem relative_of_dots {name : String} (h : name ∈ dots p) : Path.isAbsolute name = false := by
  unfold dots at h
  split at h
  · have hmem := List.mem_of_mem_filter h
    simp only [List.mem_cons, List.not_mem_nil, or_false] at hmem
    rcases hmem with rfl | rfl <;> decide
  · simp at h

end Follow

/-- What components find below a path on the first disk has the path in front, and a file that is found there
is found on the second disk too. -/
def Transfers (d d' : Disk) (only : Bool) (file : String) (components : List Pattern) : Prop :=
  ∀ path found, found ∈ follow d only components path →
    Path.Leads path found ∧ (Path.same found file = true → found ∈ follow d' only components path)

section Transfers

variable {d d' : Disk} {only : Bool} {file path found : String} {content content' : Content} {p : Pattern}
  {rest : List Pattern} {spot : Spot}

/-- A path on the way to what is found is on the way to the file, and leads to the same kind of thing on both
disks. -/
theorem statAlike_of_leads (h : d.read file = .ok content) (h' : d'.read file = .ok content')
    (hleads : Path.Leads path found) (hsame : Path.same found file = true) :
    ∃ more, Path.steps file = Path.steps path ++ more ∧ d.StatAlike d' path more := by
  have hfile := hleads.trans (Path.leads_of_same hsame)
  obtain ⟨more, hmore⟩ := hfile.steps
  exact ⟨more, hmore.symm, Disk.statAlike h h' hfile.absolute hmore.symm⟩

/-- A directory on the way is one on both disks. -/
theorem shared_of_leads (h : d.read file = .ok content) (h' : d'.read file = .ok content')
    (hspot : d.stat path = .ok (spot, .directory)) (hleads : Path.Leads path found)
    (hsame : Path.same found file = true) :
    ∃ more spot', Path.steps file = Path.steps path ++ more ∧ d'.stat path = .ok (spot', .directory) ∧
      d.Shared d' spot spot' more := by
  obtain ⟨more, hmore, hstat⟩ := statAlike_of_leads h h' hleads hsame
  cases hstat with
  | failed e e' fails fails' => simp [hspot] at fails
  | file s s' c c' is is' => simp [hspot] at is
  | directory s s' is is' shared =>
    obtain rfl : spot = s := (Prod.mk.inj (Except.ok.inj (hspot.symm.trans is))).1
    exact ⟨more, s', hmore, is', shared⟩

theorem transfers_nil (h : d.read file = .ok content) (h' : d'.read file = .ok content') :
    Transfers d d' only file [] := by
  intro path found hfound
  rw [follow_nil] at hfound
  split at hfound
  · simp at hfound
  · next honly =>
    obtain rfl := List.mem_singleton.1 hfound
    refine ⟨.refl _, fun hsame => ?_⟩
    obtain ⟨more, -, hstat⟩ := statAlike_of_leads h h' (.refl _) hsame
    rw [follow_nil, hstat.isDirectory, if_neg honly]
    exact hfound

theorem transfers_literal (h : d.read file = .ok content) (h' : d'.read file = .ok content') {name : String}
    (hliteral : p.literal? = some name) (hname : Path.isAbsolute name = false)
    (hrest : Transfers d d' only file rest) : Transfers d d' only file (p :: rest) := by
  intro path found hfound
  rw [follow_literal hliteral] at hfound
  by_cases hthere : (if isDots name then d.isDirectory path else d.exists? (child path name)) = true
  · rw [if_pos hthere] at hfound
    obtain ⟨hleads, htransfer⟩ := hrest _ _ hfound
    have hpath := (leads_child path hname).trans hleads
    refine ⟨hpath, fun hsame => ?_⟩
    obtain ⟨_, -, hstat⟩ := statAlike_of_leads h h' hpath hsame
    obtain ⟨_, -, hnext⟩ := statAlike_of_leads h h' hleads hsame
    rw [follow_literal hliteral, hstat.isDirectory, hnext.exists?, if_pos hthere]
    exact htransfer hsame
  · rw [if_neg hthere] at hfound
    simp at hfound

/-- What is found below an entry of a directory: the entry is in the directory on the other disk too, and if
nothing was to be found below it, it is a file. -/
theorem entry_of_leads (h : d.read file = .ok content) (h' : d'.read file = .ok content')
    (hspot : d.stat path = .ok (spot, .directory)) {names : List String} (hne : names ≠ [])
    (hnames : ∀ name ∈ names, Disk.ProperName name)
    (hleads : Path.Leads (child path (String.intercalate "/" names)) found)
    (hsame : Path.same found file = true) :
    ∃ spot', d'.stat path = .ok (spot', .directory) ∧ (∃ e ∈ d'.entries, e.1 = spot' ++ names) ∧
      (found = child path (String.intercalate "/" names) →
        ∃ content, d.get? (spot ++ names) = some (.file content)) := by
  obtain ⟨hrelative, hsteps⟩ := Disk.steps_intercalate hne hnames
  have hchild := (Path.steps_child path hrelative).2
  rw [hsteps] at hchild
  have hpath := (leads_child path hrelative).trans hleads
  obtain ⟨more, spot', hmore, hspot', hshared⟩ := shared_of_leads h h' hspot hpath hsame
  -- the names are the next steps to the file
  have hfile := hleads.trans (Path.leads_of_same hsame)
  obtain ⟨after, hafter⟩ := hfile.steps
  obtain rfl : names ++ after = more := by
    rw [hchild, List.append_assoc, hmore] at hafter
    exact List.append_cancel_left hafter
  have hdown := hshared.append hnames
  refine ⟨spot', hspot', hdown.exists_entry (by simp [hne]), fun hfound => ?_⟩
  -- the path that was found has the steps of the file, so there are no more
  obtain rfl : after = [] := by
    have hend := Path.steps_of_same hsame
    rw [hfound, hchild, hmore, ← List.append_assoc] at hend
    exact List.self_eq_append_right.1 hend
  exact hdown.nil.1

theorem transfers_any (hd : d.WellFormed) (h : d.read file = .ok content) (h' : d'.read file = .ok content')
    (hliteral : p.literal? = none) (hrec : p.isRecursive = false) (hrest : Transfers d d' only file rest) :
    Transfers d d' only file (p :: rest) := by
  intro path found hfound
  by_cases hdirectory : ∃ spot, d.stat path = .ok (spot, .directory)
  · obtain ⟨spot, hspot⟩ := hdirectory
    rw [follow_any hliteral hrec hspot, List.mem_append, List.mem_flatMap, List.mem_flatMap] at hfound
    rcases hfound with ⟨name, hname, hfound⟩ | ⟨name, hname, hfound⟩
    · -- the directory itself or the one above
      obtain ⟨hleads, htransfer⟩ := hrest _ _ hfound
      have hpath := (leads_join path (relative_of_dots hname)).trans hleads
      refine ⟨hpath, fun hsame => ?_⟩
      obtain ⟨_, spot', -, hspot', -⟩ := shared_of_leads h h' hspot hpath hsame
      rw [follow_any hliteral hrec hspot', List.mem_append, List.mem_flatMap]
      exact .inl ⟨name, hname, htransfer hsame⟩
    · -- a name in the directory, which is there on the other disk too
      obtain ⟨hchild, hmatch⟩ := List.mem_filter.1 hname
      obtain ⟨e, he, hkey⟩ := Disk.mem_childNames.1 hchild
      have hproper : Disk.ProperName name := hd.proper e he name (by simp [hkey])
      obtain ⟨hleads, htransfer⟩ := hrest _ _ hfound
      refine ⟨(leads_child path hproper.relative).trans hleads, fun hsame => ?_⟩
      rw [← String.intercalate_singleton (s := "/") (t := name)] at hleads
      obtain ⟨spot', hspot', hentry, -⟩ :=
        entry_of_leads h h' hspot (List.cons_ne_nil name []) (by simpa using hproper) hleads hsame
      rw [follow_any hliteral hrec hspot', List.mem_append, List.mem_flatMap, List.mem_flatMap]
      exact .inr ⟨name, List.mem_filter.2 ⟨Disk.mem_childNames.2 hentry, hmatch⟩, htransfer hsame⟩
  · rw [follow_of_not_directory hliteral fun spot hspot => hdirectory ⟨spot, hspot⟩] at hfound
    simp at hfound

/-- An entry somewhere below a directory. -/
theorem exists_of_mem_below (hd : d.WellFormed) {e : List String × Bool} (he : e ∈ d.below spot) :
    e.1 ≠ [] ∧ (∀ name ∈ e.1, Disk.ProperName name) ∧
      (e.2 = true → d.get? (spot ++ e.1) = some .directory) := by
  obtain ⟨names, isDir⟩ := e
  obtain ⟨hne, entry, hentry, hkey, hdir⟩ := Disk.mem_below.1 he
  refine ⟨hne, fun name hname => ?_, fun htrue => ?_⟩
  · exact hd.proper entry hentry name (by rw [hkey]; exact List.mem_append_right _ hname)
  · have hget := hd.get?_of_mem hentry (by simp [hkey, hne])
    rw [hkey] at hget
    rw [hget, of_decide_eq_true (hdir.symm.trans htrue)]

theorem transfers_all (hd : d.WellFormed) (h : d.read file = .ok content) (h' : d'.read file = .ok content')
    (hliteral : p.literal? = none) (hrec : p.isRecursive = true)
    (hrest : rest.dropWhile Pattern.isRecursive = []) : Transfers d d' only file (p :: rest) := by
  intro path found hfound
  by_cases hdirectory : ∃ spot, d.stat path = .ok (spot, .directory)
  · obtain ⟨spot, hspot⟩ := hdirectory
    rw [follow_all hliteral hrec hspot hrest] at hfound
    obtain ⟨e, he, rfl⟩ := List.mem_map.1 hfound
    obtain ⟨hbelow, hisDir⟩ := List.mem_filter.1 he
    obtain ⟨hne, hproper, hget⟩ := exists_of_mem_below hd hbelow
    refine ⟨leads_child path (Disk.steps_intercalate hne hproper).1, fun hsame => ?_⟩
    -- only directories are found, and the file is none
    obtain ⟨-, -, -, hfile⟩ := entry_of_leads h h' hspot hne hproper (.refl _) hsame
    obtain ⟨found, hget'⟩ := hfile rfl
    simp [hget hisDir] at hget'
  · rw [follow_of_not_directory hliteral fun spot hspot => hdirectory ⟨spot, hspot⟩] at hfound
    simp at hfound

theorem transfers_deep (hd : d.WellFormed) (h : d.read file = .ok content) (h' : d'.read file = .ok content')
    (hliteral : p.literal? = none) (hrec : p.isRecursive = true) {q : Pattern} {qs : List Pattern}
    (hrest : rest.dropWhile Pattern.isRecursive = q :: qs) (hqs : Transfers d d' only file qs) :
    Transfers d d' only file (p :: rest) := by
  intro path found hfound
  by_cases hdirectory : ∃ spot, d.stat path = .ok (spot, .directory)
  · obtain ⟨spot, hspot⟩ := hdirectory
    rw [follow_deep hliteral hrec hspot hrest] at hfound
    obtain ⟨e, he, hfound⟩ := List.mem_flatMap.1 hfound
    obtain ⟨hne, hproper, -⟩ := exists_of_mem_below hd he
    split at hfound
    · next hmatch =>
      obtain ⟨hleads, htransfer⟩ := hqs _ _ hfound
      refine ⟨(leads_child path (Disk.steps_intercalate hne hproper).1).trans hleads, fun hsame => ?_⟩
      obtain ⟨spot', hspot', ⟨e', he', hkey⟩, -⟩ := entry_of_leads h h' hspot hne hproper hleads hsame
      rw [follow_deep hliteral hrec hspot' hrest, List.mem_flatMap]
      refine ⟨(e.1, decide (e'.2 = .directory)), Disk.mem_below.2 ⟨hne, e', he', hkey, rfl⟩, ?_⟩
      rw [if_pos hmatch]
      exact htransfer hsame
    · simp at hfound
  · rw [follow_of_not_directory hliteral fun spot hspot => hdirectory ⟨spot, hspot⟩] at hfound
    simp at hfound

/-- **A file that two disks share is found on the one when it is found on the other.** -/
theorem follow_transfers (hd : d.WellFormed) (h : d.read file = .ok content)
    (h' : d'.read file = .ok content') (components : List Pattern) (hrelative : Relative components) :
    Transfers d d' only file components := by
  -- two stars in a row count as one, so the recursion may leave out several components at once
  induction hn : components.length using Nat.strongRecOn generalizing components with
  | ind n ih =>
    cases components with
    | nil => exact transfers_nil h h'
    | cons p rest =>
      rw [List.length_cons] at hn
      have hrest : Relative rest := fun q hq => hrelative q (List.mem_cons_of_mem p hq)
      cases hliteral : p.literal? with
      | some name =>
        exact transfers_literal h h' hliteral (hrelative p List.mem_cons_self name hliteral)
          (ih rest.length (by omega) rest hrest rfl)
      | none =>
        cases hrec : p.isRecursive with
        | false => exact transfers_any hd h h' hliteral hrec (ih rest.length (by omega) rest hrest rfl)
        | true =>
          cases hdrop : rest.dropWhile Pattern.isRecursive with
          | nil => exact transfers_all hd h h' hliteral hrec hdrop
          | cons q qs =>
            have hsublist : (rest.dropWhile Pattern.isRecursive).Sublist rest := List.dropWhile_sublist _
            rw [hdrop] at hsublist
            have hlength := hsublist.length_le
            rw [List.length_cons] at hlength
            refine transfers_deep hd h h' hliteral hrec hdrop (ih qs.length (by omega) qs ?_ rfl)
            exact fun r hr => hrest r (hsublist.subset (List.mem_cons_of_mem q hr))

end Transfers

/-! ## Patterns that were read -/

theorem mem_of_mem_set? {cs rest : List Char} {t : Token} (h : Pattern.set? cs = some (t, rest)) :
    (∀ c ∈ rest, c ∈ cs) ∧ ∀ c, t ≠ .char c := by
  have hcut {before after cs : List Char} (h : Text.cutChars? ']' cs = some (before, after)) (c : Char)
      (hc : c ∈ after) : c ∈ cs := by
    rw [← Text.append_of_cutChars? h]
    simp [hc]
  unfold Pattern.set? at h
  split at h
  · obtain ⟨⟨before, after⟩, hb, he⟩ := Option.map_eq_some_iff.1 h
    obtain ⟨rfl, rfl⟩ := Prod.mk.inj he
    exact ⟨fun c hc => by simp [hcut hb c hc], by simp⟩
  · simp at h
  · obtain ⟨⟨before, after⟩, hb, he⟩ := Option.map_eq_some_iff.1 h
    obtain ⟨rfl, rfl⟩ := Prod.mk.inj he
    exact ⟨fun c hc => by simp [hcut hb c hc], by simp⟩
  · simp at h

/-- A plain character among tokens is the first or among those that follow. -/
theorem mem_of_more {x : Except Fault (List Token)} {t : Token} {ts : List Token} {c : Char}
    (h : (do let more ← x; pure (t :: more)) = .ok ts) (hc : Token.char c ∈ ts) :
    t = .char c ∨ ∃ more, x = .ok more ∧ Token.char c ∈ more := by
  obtain ⟨more, hmore, hts⟩ := bind_eq_ok h
  obtain rfl := Except.ok.inj hts
  rcases List.mem_cons.1 hc with heq | hmem
  · exact .inl heq.symm
  · exact .inr ⟨more, hmore, hmem⟩

/-- The plain characters of a pattern are characters of its text. -/
theorem mem_of_mem_tokensFrom {pos : Nat} {fresh : Bool} {cs : List Char} {ts : List Token} {c : Char}
    (h : Pattern.tokensFrom pos fresh cs = .ok ts) (hc : Token.char c ∈ ts) : c ∈ cs := by
  fun_induction Pattern.tokensFrom pos fresh cs generalizing ts with
  | case1 =>
    obtain rfl := Except.ok.inj h
    simp at hc
  | case2 pos fresh rest ih =>
    obtain hfirst | ⟨more, hmore, hmem⟩ := mem_of_more h hc
    · simp at hfirst
    · exact List.mem_cons_of_mem _ (ih hmore hmem)
  | case4 =>
    obtain rfl := Except.ok.inj h
    simp at hc
  | case5 pos rest hstar ih =>
    obtain hfirst | ⟨more, hmore, hmem⟩ := mem_of_more h hc
    · simp at hfirst
    · simp [ih hmore hmem]
  | case8 pos fresh rest hstars hstar ih =>
    obtain hfirst | ⟨more, hmore, hmem⟩ := mem_of_more h hc
    · simp at hfirst
    · exact List.mem_cons_of_mem _ (ih hmore hmem)
  | case9 pos fresh rest t after hset hlt ih =>
    obtain ⟨hafter, ht⟩ := mem_of_mem_set? hset
    obtain hfirst | ⟨more, hmore, hmem⟩ := mem_of_more h hc
    · exact absurd hfirst (ht c)
    · exact List.mem_cons_of_mem _ (hafter c (ih hmore hmem))
  | case11 pos fresh first rest _ _ _ _ _ ih =>
    obtain hfirst | ⟨more, hmore, hmem⟩ := mem_of_more h hc
    · rw [Token.char.inj hfirst]
      exact List.mem_cons_self
    · exact List.mem_cons_of_mem _ (ih hmore hmem)
  | case3 | case6 | case7 | case10 => simp at h

theorem mem_of_mem_literal? {p : Pattern} {name : String} {c : Char} (h : p.literal? = some name)
    (hc : c ∈ name.toList) : Token.char c ∈ p.tokens := by
  obtain ⟨cs, hcs, rfl⟩ := Option.map_eq_some_iff.1 h
  rw [String.toList_ofList] at hc
  have hall : ∀ (ts : List Token) (cs : List Char), ts.mapM Token.char? = some cs → c ∈ cs →
      Token.char c ∈ ts := by
    intro ts
    induction ts with
    | nil =>
      intro cs hcs hc
      obtain rfl := Option.some.inj hcs
      simp at hc
    | cons t ts ih =>
      intro cs hcs hc
      rw [List.mapM_cons] at hcs
      obtain ⟨first, hfirst, hrest⟩ := Option.bind_eq_some_iff.1 hcs
      obtain ⟨more, hmore, hend⟩ := Option.bind_eq_some_iff.1 hrest
      obtain rfl := Option.some.inj hend
      rcases List.mem_cons.1 hc with rfl | hc
      · cases t <;> simp [Token.char?] at hfirst
        rw [hfirst]
        exact List.mem_cons_self
      · exact List.mem_cons_of_mem t (ih more hmore hc)
  exact hall p.tokens cs hcs hc

theorem slash_not_mem_of_mem_pieces {s piece : String} (h : piece ∈ pieces s) : '/' ∉ piece.toList := by
  unfold pieces at h
  extract_lets all at h
  refine Text.not_mem_of_mem_splitAt (s := s) ?_
  split at h
  · exact List.mem_of_mem_dropLast h
  · exact h

/-- The components of a pattern hold no slash, so none of them starts at the root. -/
theorem relative_of_parse {pattern : String} {q : Query} (h : Query.parse pattern = .ok q) :
    Relative q.components := by
  obtain ⟨_, -, h⟩ := bind_eq_ok h
  extract_lets absolute rest at h
  clear_value rest
  obtain ⟨components, hcomponents, hq⟩ := bind_eq_ok h
  obtain rfl := Except.ok.inj hq
  intro p hp name hname
  simp only at hp
  split at hp
  · obtain rfl := List.mem_singleton.1 hp
    obtain rfl := Option.some.inj hname
    decide
  · obtain ⟨piece, hpiece, hparse⟩ := exists_of_mapM_eq_ok hcomponents p hp
    obtain ⟨ts, hts, hp'⟩ := bind_eq_ok hparse
    obtain rfl := Except.ok.inj hp'
    refine Path.isAbsolute_eq_false fun hslash => ?_
    exact slash_not_mem_of_mem_pieces hpiece (mem_of_mem_tokensFrom hts (mem_of_mem_literal? hname hslash))

/-! ## What patterns find -/

/-- Lists of paths that agree on the files that two disks share. -/
def Agree (d d' : Disk) (paths paths' : List String) : Prop :=
  ∀ file content content', d.read file = .ok content → d'.read file = .ok content' →
    paths.any (Path.same · file) = paths'.any (Path.same · file)

/-- Leaving out a path that is the same as another one makes no difference. -/
theorem any_distinct (paths : List String) (file : String) :
    (distinct paths).any (Path.same · file) = paths.any (Path.same · file) := by
  have hfold : ∀ (paths found : List String),
      (paths.foldl (fun found p => if found.any (Path.same p) then found else found ++ [p]) found).any
          (Path.same · file) =
        (found.any (Path.same · file) || paths.any (Path.same · file)) := by
    intro paths
    induction paths with
    | nil => simp
    | cons p paths ih =>
      intro found
      rw [List.foldl_cons, ih, List.any_cons, ← Bool.or_assoc]
      congr 1
      split
      · next hany =>
        obtain ⟨q, hq, hsame⟩ := List.any_eq_true.1 hany
        cases hp : Path.same p file with
        | false => rw [Bool.or_false]
        | true =>
          rw [Bool.or_true]
          refine List.any_eq_true.2 ⟨q, hq, Path.same_iff.2 ?_⟩
          rw [← Path.same_iff.1 hsame, Path.same_iff.1 hp]
      · simp
  exact hfold paths []

section Expand

variable {d d' : Disk}

theorem Query.agree_paths (hd : d.WellFormed) (hd' : d'.WellFormed) {q : Query}
    (hq : Relative q.components) : Agree d d' (q.paths d) (q.paths d') := by
  intro file content content' h h'
  rw [Bool.eq_iff_iff, List.any_eq_true, List.any_eq_true]
  constructor
  · rintro ⟨found, hfound, hsame⟩
    exact ⟨found, (follow_transfers hd h h' q.components hq _ _ hfound).2 hsame, hsame⟩
  · rintro ⟨found, hfound, hsame⟩
    exact ⟨found, (follow_transfers hd' h' h q.components hq _ _ hfound).2 hsame, hsame⟩

/-- The paths that one pattern matches, or its fault. -/
def pathsOf (d : Disk) (pattern : String) : Except Error (List String) :=
  match Query.parse pattern with
  | .ok q => .ok (q.paths d)
  | .error fault => .error (Error.badPattern pattern fault)

theorem mapM_pathsOf_alike (hd : d.WellFormed) (hd' : d'.WellFormed) (patterns : List String) :
    (∃ e, patterns.mapM (pathsOf d) = .error e ∧ patterns.mapM (pathsOf d') = .error e) ∨
      ∃ found found', patterns.mapM (pathsOf d) = .ok found ∧ patterns.mapM (pathsOf d') = .ok found' ∧
        Agree d d' found.flatten found'.flatten := by
  induction patterns with
  | nil => exact .inr ⟨[], [], rfl, rfl, fun _ _ _ _ _ => rfl⟩
  | cons pattern patterns ih =>
    simp only [List.mapM_cons]
    cases hparse : Query.parse pattern with
    | error fault =>
      left
      refine ⟨.badPattern pattern fault, ?_, ?_⟩ <;> simp only [pathsOf, hparse] <;> rfl
    | ok q =>
      have hfirst (d : Disk) : pathsOf d pattern = .ok (q.paths d) := by simp only [pathsOf, hparse]
      rw [hfirst, hfirst]
      rcases ih with ⟨e, herror, herror'⟩ | ⟨found, found', hfound, hfound', hagree⟩
      · left
        refine ⟨e, ?_, ?_⟩
        · rw [herror]
          rfl
        · rw [herror']
          rfl
      · right
        refine ⟨q.paths d :: found, q.paths d' :: found', ?_, ?_, ?_⟩
        · rw [hfound]
          rfl
        · rw [hfound']
          rfl
        · intro file content content' h h'
          rw [List.flatten_cons, List.flatten_cons, List.any_append, List.any_append,
            q.agree_paths hd hd' (relative_of_parse hparse) file content content' h h',
            hagree file content content' h h']

/-- **Patterns have the same faults on all disks, and find the files that two disks share on both or on
neither.** -/
theorem expand_alike (hd : d.WellFormed) (hd' : d'.WellFormed) (patterns : List String) :
    (∃ e, expand d patterns = .error e ∧ expand d' patterns = .error e) ∨
      ∃ found found', expand d patterns = .ok found ∧ expand d' patterns = .ok found' ∧
        Agree d d' found found' := by
  have hexpand (d : Disk) : expand d patterns =
      (((patterns.map Text.trim).filter (!·.isEmpty)).mapM (pathsOf d)).map fun found =>
        distinct found.flatten := rfl
  rw [hexpand, hexpand]
  rcases mapM_pathsOf_alike hd hd' ((patterns.map Text.trim).filter (!·.isEmpty)) with
    ⟨e, herror, herror'⟩ | ⟨found, found', hfound, hfound', hagree⟩
  · rw [herror, herror']
    exact .inl ⟨e, rfl, rfl⟩
  · rw [hfound, hfound']
    refine .inr ⟨_, _, rfl, rfl, fun file content content' h h' => ?_⟩
    rw [any_distinct, any_distinct, hagree file content content' h h']

end Expand

end Glob

end ScadManual
