import Mathlib.Data.List.Infix
import ScadManual.Proofs.Animations
import ScadManual.Render.Request

/-!
# Lines that set the viewport

Metadata names a distance, a target and a rotation of the viewport, and each becomes a line in front of the script that
assigns to a variable.  A spin assigns to the rotation too.  A spin about two axes gives way to a rotation that is named,
and a flat spin does not: with both, the rotation is assigned twice, first by the spin.  Nothing else is ever assigned
twice, and whatever is assigned takes the place of the fixed camera.
-/

namespace ScadManual.Render

namespace Options

variable {key metadata : String} {cs inside : List Char}

/-! ## Settings in brackets -/

/-- The characters begin with a setting in brackets: a key, an equals sign with or without spaces around it, and at least
one character between brackets. -/
def Encloses (key : String) (inside cs : List Char) : Prop :=
  ∃ before after rest, (∀ c ∈ before, c = ' ') ∧ (∀ c ∈ after, c = ' ') ∧ (inside ≠ [] ∧ ']' ∉ inside) ∧
    cs = key.toList ++ before ++ '=' :: (after ++ '[' :: (inside ++ ']' :: rest))

/-- The first setting in brackets of the key that the characters hold has this value. -/
def FirstEnclosed (key : String) (inside cs : List Char) : Prop :=
  ∃ front back, cs = front ++ back ∧ Encloses key inside back ∧
    ∀ front' back', cs = front' ++ back' → front'.length < front.length → ∀ inside', ¬Encloses key inside' back'

theorem bracketed?_eq_some_iff : bracketed? key cs = some inside ↔ Encloses key inside cs := by
  constructor
  · intro h
    unfold bracketed? at h
    split at h
    · next tail hafter =>
      obtain ⟨-, before, after, hbefore, hspaces, rfl⟩ := afterKey?_eq_some_iff.1 hafter
      split at h
      · next value rest hcut =>
        split at h
        · simp at h
        · next hne =>
          obtain rfl := Option.some.inj h
          obtain ⟨hclosed, rfl⟩ := Text.cutChars?_eq_some_iff.1 hcut
          exact ⟨before, after, rest, hbefore, hspaces, ⟨by simpa using hne, hclosed⟩, rfl⟩
      · simp at h
    · simp at h
  · rintro ⟨before, after, rest, hbefore, hspaces, ⟨hne, hclosed⟩, hcs⟩
    have hafter : afterKey? key cs = some ('[' :: (inside ++ ']' :: rest)) :=
      afterKey?_eq_some_iff.2 ⟨by simp, before, after, hbefore, hspaces, hcs⟩
    have hcut : Text.cutChars? ']' (inside ++ ']' :: rest) = some (inside, rest) :=
      Text.cutChars?_eq_some_iff.2 ⟨hclosed, rfl⟩
    have hempty : inside.isEmpty = false := by simpa using hne
    simp [bracketed?, hafter, hcut, hempty]

theorem firstMatch_bracketed?_eq_some_iff :
    firstMatch (bracketed? key) cs = some inside ↔ FirstEnclosed key inside cs := by
  simp only [firstMatch_eq_some_iff, bracketed?_eq_some_iff, Option.eq_none_iff_forall_ne_some, ne_eq, FirstEnclosed]

/-! ## Assignments -/

/-- The line that assigns a value to a variable. -/
def assignment (name value : String) : String := name ++ " = " ++ value ++ ";"

/-- The lines in front of a script that assign to a variable. -/
def assignmentsTo (name metadata : String) : List String :=
  (viewportLines metadata).filter (Text.startsWith · (name ++ " = "))

/-- The rotation of a spin: a flat spin always has one, another only when no rotation is named. -/
def spin? (metadata : String) : Option String :=
  if Text.contains metadata "FlatSpin" then some "[55, 0, 360*$t]"
  else if Text.contains metadata "Spin" && (firstMatch (bracketed? "VPR") metadata.toList).isNone then
    some "[90-45*cos(360*$t), 0, 360*$t]"
  else none

/-- The distance that is named. -/
def distance? (metadata : String) : Option String :=
  (firstMatch (number? "VPD") metadata.toList).map String.ofList

/-- The value of a setting in brackets, with its brackets. -/
def enclosed? (key metadata : String) : Option String :=
  (firstMatch (bracketed? key) metadata.toList).map fun inside => "[" ++ String.ofList inside ++ "]"

/-- What the viewport is given: variables and their values, in the order of the lines. -/
def viewportValues (metadata : String) : List (String × String) :=
  (spin? metadata).toList.map ("$vpr", ·) ++ (distance? metadata).toList.map ("$vpd", ·) ++
    (enclosed? "VPT" metadata).toList.map ("$vpt", ·) ++ (enclosed? "VPR" metadata).toList.map ("$vpr", ·)

theorem map_spin? (metadata : String) :
    ((spin? metadata).toList.map ("$vpr", ·)).map (fun p => assignment p.1 p.2) =
      if Text.contains metadata "FlatSpin" then ["$vpr = [55, 0, 360*$t];"]
      else if Text.contains metadata "Spin" && (firstMatch (bracketed? "VPR") metadata.toList).isNone then
        ["$vpr = [90-45*cos(360*$t), 0, 360*$t];"]
      else [] := by
  unfold spin?
  split
  · rfl
  · split <;> rfl

theorem assignment_enclosed (name value : String) :
    assignment name ("[" ++ value ++ "]") = name ++ " = [" ++ value ++ "];" := by
  apply String.toList_inj.1
  simp [assignment]

theorem map_enclosed? (name key metadata : String) :
    ((enclosed? key metadata).toList.map (name, ·)).map (fun p => assignment p.1 p.2) =
      (firstMatch (bracketed? key) metadata.toList).toList.map fun inside =>
        name ++ " = [" ++ String.ofList inside ++ "];" := by
  unfold enclosed?
  cases firstMatch (bracketed? key) metadata.toList with
  | none => rfl
  | some inside => exact congrArg (· :: []) (assignment_enclosed name _)

theorem viewportLines_eq (metadata : String) :
    viewportLines metadata = (viewportValues metadata).map fun p => assignment p.1 p.2 := by
  rw [viewportValues, List.map_append, List.map_append, List.map_append, map_spin?, map_enclosed?, map_enclosed?]
  cases hdistance : firstMatch (number? "VPD") metadata.toList with
  | none => simp [viewportLines, distance?, hdistance]
  | some d => simp [viewportLines, distance?, hdistance, assignment]

theorem mem_names_of_mem {p : String × String} (h : p ∈ viewportValues metadata) : p.1 ∈ ["$vpr", "$vpd", "$vpt"] := by
  simp only [viewportValues, List.mem_append, List.mem_map] at h
  rcases h with ((⟨_, _, rfl⟩ | ⟨_, _, rfl⟩) | ⟨_, _, rfl⟩) | ⟨_, _, rfl⟩ <;> simp

theorem startsWith_assignment_iff {name other value : String} (h : name.length = other.length) :
    Text.startsWith (assignment other value) (name ++ " = ") = true ↔ other = name := by
  rw [Text.startsWith_iff]
  constructor
  · intro hprefix
    have hother : (other ++ " = ").toList <+: (assignment other value).toList := by
      simp [assignment]
    have hlength : (name ++ " = ").toList.length = (other ++ " = ").toList.length := by
      rw [String.length_toList, String.length_toList, String.length_append, String.length_append, h]
    have hsame := (List.prefix_of_prefix_length_le hprefix hother hlength.le).eq_of_length hlength
    exact ((String.append_left_inj _).1 (String.toList_inj.1 hsame)).symm
  · rintro rfl
    simp [assignment]

/-- The lines that assign to a variable of the viewport are those of its values. -/
theorem assignmentsTo_eq {name : String} (hname : name ∈ ["$vpr", "$vpd", "$vpt"]) (metadata : String) :
    assignmentsTo name metadata =
      ((viewportValues metadata).filter fun p => p.1 == name).map fun p => assignment p.1 p.2 := by
  have hlength : ∀ other ∈ ["$vpr", "$vpd", "$vpt"], other.length = 4 := by decide
  rw [assignmentsTo, viewportLines_eq, List.filter_map]
  congr 1
  refine List.filter_congr fun p hp => ?_
  rw [Bool.eq_iff_iff, beq_iff_eq]
  exact startsWith_assignment_iff ((hlength _ hname).trans (hlength _ (mem_names_of_mem hp)).symm)

theorem assignmentsTo_distance (metadata : String) :
    assignmentsTo "$vpd" metadata = (distance? metadata).toList.map (assignment "$vpd") := by
  rw [assignmentsTo_eq (by simp)]
  simp [viewportValues, List.filter_map, Function.comp_def]

theorem assignmentsTo_target (metadata : String) :
    assignmentsTo "$vpt" metadata = (enclosed? "VPT" metadata).toList.map (assignment "$vpt") := by
  rw [assignmentsTo_eq (by simp)]
  simp [viewportValues, List.filter_map, Function.comp_def]

theorem assignmentsTo_rotation (metadata : String) : assignmentsTo "$vpr" metadata =
    (spin? metadata).toList.map (assignment "$vpr") ++ (enclosed? "VPR" metadata).toList.map (assignment "$vpr") := by
  rw [assignmentsTo_eq (by simp)]
  simp [viewportValues, List.filter_map, Function.comp_def]

/-! ## How often the viewport is set -/

/-- A flat spin and a named rotation stand in the metadata together. -/
def TurnsTwice (metadata : String) : Prop :=
  "FlatSpin".toList <:+: metadata.toList ∧ ∃ turn, FirstEnclosed "VPR" turn metadata.toList

/-- A spin beside a named rotation is a flat one. -/
theorem spin?_of_enclosed {turn : List Char} (h : FirstEnclosed "VPR" turn metadata.toList) :
    spin? metadata = if Text.contains metadata "FlatSpin" then some "[55, 0, 360*$t]" else none := by
  rw [spin?, firstMatch_bracketed?_eq_some_iff.2 h]
  simp

/-- With both, the flat spin comes first and the rotation that is named last. -/
theorem assignmentsTo_rotation_of_flat {turn : List Char} (hflat : "FlatSpin".toList <:+: metadata.toList)
    (hturn : FirstEnclosed "VPR" turn metadata.toList) : assignmentsTo "$vpr" metadata =
      ["$vpr = [55, 0, 360*$t];", "$vpr = [" ++ String.ofList turn ++ "];"] := by
  rw [assignmentsTo_rotation, spin?_of_enclosed hturn, if_pos (Text.contains_iff.2 hflat), enclosed?,
    firstMatch_bracketed?_eq_some_iff.2 hturn]
  have htext := assignment_enclosed "$vpr" (String.ofList turn)
  exact congrArg ("$vpr = [55, 0, 360*$t];" :: [·]) htext

theorem length_toList_map_le {α β : Type} (f : α → β) (a : Option α) : (a.toList.map f).length ≤ 1 := by
  cases a <;> simp

theorem length_assignmentsTo_rotation_le_iff :
    (assignmentsTo "$vpr" metadata).length ≤ 1 ↔ ¬TurnsTwice metadata := by
  constructor
  · rintro hle ⟨hflat, turn, hturn⟩
    rw [assignmentsTo_rotation_of_flat hflat hturn] at hle
    exact absurd hle (by simp)
  · intro hnot
    rw [assignmentsTo_rotation]
    cases hread : firstMatch (bracketed? "VPR") metadata.toList with
    | none =>
      rw [enclosed?, hread, Option.map_none, Option.toList_none, List.map_nil, List.append_nil]
      exact length_toList_map_le _ _
    | some turn =>
      -- a rotation is named, so that no spin is left that could assign another
      have hturn := firstMatch_bracketed?_eq_some_iff.1 hread
      have hflat : Text.contains metadata "FlatSpin" ≠ true := by
        intro hflat
        exact hnot ⟨Text.contains_iff.1 hflat, turn, hturn⟩
      rw [spin?_of_enclosed hturn, if_neg hflat]
      exact length_toList_map_le _ _

/-! ## What a request makes of the lines -/

/-- Every line in front of a script names a variable of the viewport. -/
theorem contains_of_mem_viewportLines {line : String} (h : line ∈ viewportLines metadata) :
    Text.contains line "$vp" = true := by
  rw [viewportLines_eq] at h
  obtain ⟨p, hp, rfl⟩ := List.mem_map.1 h
  have hname : "$vp".toList <+: p.1.toList := by
    have hall : ∀ name ∈ ["$vpr", "$vpd", "$vpt"], "$vp".toList <+: name.toList := by decide
    exact hall _ (mem_names_of_mem hp)
  rw [Text.contains_iff]
  refine (hname.trans ?_).isInfix
  simp [assignment]

theorem camera_eq_none (h : viewportLines metadata ≠ []) : (ofMetadata metadata).camera = none := by
  show fixedCamera? metadata = none
  rw [fixedCamera?, if_neg (by simpa using h)]

/-- A request whose metadata sets the viewport says so, whatever its script. -/
theorem exists_make_of_viewportLines (h : viewportLines metadata ≠ []) (origin : Origin) (imageFile : String)
    (script : List String) (hrender : ¬"NORENDER".toList <:+: metadata.toList) :
    ∃ r, Request.make origin imageFile script metadata = .ok r ∧ r.setsViewport = true := by
  rw [← Text.contains_iff] at hrender
  refine ⟨_, by rw [Request.make, if_neg hrender], ?_⟩
  obtain ⟨line, rest, hlines⟩ := List.exists_cons_of_ne_nil h
  have hline : line ∈ viewportLines metadata := hlines ▸ List.mem_cons_self
  rw [Request.setsViewport, List.any_eq_true]
  exact ⟨line, List.mem_append_left _ hline, contains_of_mem_viewportLines hline⟩

/-- **How often the viewport is set.**  The distance and the target are assigned at most once in front of a script.  The
rotation is assigned at most once unless the metadata has both a flat spin and a rotation in brackets; it is then
assigned twice, by the spin and after it by the first such rotation.  Whenever anything is assigned, there is no fixed
camera, and every request that the metadata does not forbid is made and sets the viewport. -/
theorem viewport_assigned_once_iff (metadata : String) :
    (assignmentsTo "$vpd" metadata).length ≤ 1 ∧ (assignmentsTo "$vpt" metadata).length ≤ 1 ∧
      ((assignmentsTo "$vpr" metadata).length ≤ 1 ↔ ¬TurnsTwice metadata) ∧
      (∀ turn, FirstEnclosed "VPR" turn metadata.toList → "FlatSpin".toList <:+: metadata.toList →
        assignmentsTo "$vpr" metadata = ["$vpr = [55, 0, 360*$t];", "$vpr = [" ++ String.ofList turn ++ "];"]) ∧
      (viewportLines metadata ≠ [] → (ofMetadata metadata).camera = none ∧
        ∀ origin imageFile script, ¬"NORENDER".toList <:+: metadata.toList →
          ∃ r, Request.make origin imageFile script metadata = .ok r ∧ r.setsViewport = true) := by
  refine ⟨?_, ?_, length_assignmentsTo_rotation_le_iff, ?_, ?_⟩
  · rw [assignmentsTo_distance]
    exact length_toList_map_le _ _
  · rw [assignmentsTo_target]
    exact length_toList_map_le _ _
  · intro turn hturn hflat
    exact assignmentsTo_rotation_of_flat hflat hturn
  · intro hlines
    exact ⟨camera_eq_none hlines, exists_make_of_viewportLines hlines⟩

/-- A flat spin beside a named rotation: the rotation is assigned twice. -/
theorem rotation_assigned_twice :
    assignmentsTo "$vpr" "FlatSpin;VPR=[10,20,30]" = ["$vpr = [55, 0, 360*$t];", "$vpr = [10,20,30];"] ∧
      ¬(assignmentsTo "$vpr" "FlatSpin;VPR=[10,20,30]").length ≤ 1 := by
  decide

end Options

end ScadManual.Render
