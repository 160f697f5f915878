import ScadManual.Disk.Temporary
import ScadManual.Proofs.Disk
import ScadManual.Proofs.Path

/-!
# Temporary files are fresh

The names with a number are all different, and more of them are tried than there are names taken, so one is
found that is free.  A temporary file is therefore made where nothing was, under none of the reserved names,
and its path leads to it.
-/

namespace ScadManual.Disk

/-! ## Numbered names -/

/-- Six digits say which number they were made from. -/
theorem ofDigitChars_sixDigits (n : Nat) : Nat.ofDigitChars 10 (sixDigits n).toList 0 = n := by
  rw [sixDigits, String.toList_ofList, Nat.ofDigitChars_append, Nat.ofDigitChars_replicate_zero,
    Nat.mul_zero, Nat.toString_eq_ofList_toDigits, String.toList_ofList, Nat.ofDigitChars_ten_toDigits]

theorem slash_not_mem_sixDigits (n : Nat) : '/' ∉ (sixDigits n).toList := by
  rw [sixDigits, String.toList_ofList, List.mem_append]
  rintro (hzero | hdigit)
  · exact absurd (List.eq_of_mem_replicate hzero) (by decide)
  · rw [Nat.toString_eq_ofList_toDigits, String.toList_ofList] at hdigit
    exact absurd (Nat.isDigit_of_mem_toDigits (by decide) (by decide) hdigit) (by decide)

/-- The name with a number that is tried for a temporary file. -/
def trialName (start ending : String) (n : Nat) : String :=
  start ++ sixDigits n ++ ending

theorem trialName_injective {start ending : String} {m n : Nat}
    (h : trialName start ending m = trialName start ending n) : m = n := by
  have hdigits : sixDigits m = sixDigits n :=
    (String.append_right_inj start).1 ((String.append_left_inj ending).1 h)
  rw [← ofDigitChars_sixDigits m, hdigits, ofDigitChars_sixDigits]

theorem exists_mem_of_get? {d : Disk} {spot : Spot} {name : String}
    (h : d.get? (spot ++ [name]) ≠ none) : ∃ e ∈ d.entries, e.1 = spot ++ [name] := by
  refine Decidable.byContradiction fun hall => h ?_
  have hlookup : d.entries.lookup (spot ++ [name]) = none := by
    rw [List.lookup_eq_none_iff]
    intro e he
    simpa using fun heq => hall ⟨e, he, heq.symm⟩
  simp [get?, hlookup]

/-- A fresh name is free and not reserved: there are more numbered names than names that are taken. -/
theorem freshName_spec (d : Disk) (spot : Spot) (start ending : String) (reserved : List String) :
    ∃ n, d.freshName spot start ending reserved = trialName start ending n ∧
      d.get? (spot ++ [trialName start ending n]) = none ∧ trialName start ending n ∉ reserved := by
  let tries := List.range (d.entries.length + reserved.length + 1)
  let isFree (n : Nat) : Bool :=
    (d.get? (spot ++ [trialName start ending n])).isNone && !reserved.contains (trialName start ending n)
  have hname : d.freshName spot start ending reserved =
      trialName start ending ((tries.find? isFree).getD 0) := rfl
  cases hfind : tries.find? isFree with
  | some n =>
    have hfree : isFree n = true := List.find?_some hfind
    refine ⟨n, by rw [hname, hfind]; rfl, ?_⟩
    simpa [isFree] using hfree
  | none =>
    -- all these different names would be the last name of an entry or reserved
    exfalso
    let taken := d.entries.map (fun e => e.1.getLast?.getD "") ++ reserved
    have hnodup : (tries.map (trialName start ending)).Nodup := by
      refine List.pairwise_map.2 (List.nodup_range.imp fun hne heq => hne ?_)
      exact trialName_injective heq
    have hsubset : tries.map (trialName start ending) ⊆ taken := by
      intro name hmem
      obtain ⟨n, hn, rfl⟩ := List.mem_map.1 hmem
      have hbusy := List.find?_eq_none.1 hfind n hn
      rw [List.mem_append]
      by_cases hget : d.get? (spot ++ [trialName start ending n]) = none
      · right
        simpa [isFree, hget] using hbusy
      · left
        obtain ⟨e, he, heq⟩ := exists_mem_of_get? hget
        exact List.mem_map.2 ⟨e, he, by simp [heq]⟩
    have hlength := hnodup.length_le_of_subset hsubset
    simp only [tries, taken, List.length_map, List.length_range, List.length_append] at hlength
    omega

/-! ## Temporary files -/

/-- A temporary file that is about to be made: nothing is there yet, its name is none of the reserved ones,
and its path leads to it. -/
structure Temporary.Fresh (t : Temporary) (d : Disk) (reserved : List String) : Prop where
  named : ∃ dir name, t.spot = dir ++ [name] ∧ name ∉ reserved
  absent : d.get? t.spot = none
  located : d.locate t.path = .ok t.spot
  isDirPath : isDirPath t.path = false

theorem Temporary.Fresh.ne_nil {t : Temporary} {d : Disk} {reserved : List String}
    (h : t.Fresh d reserved) : t.spot ≠ [] := by
  obtain ⟨dir, name, hspot, -⟩ := h.named
  simp [hspot]

/-- Once it is there, a temporary file can be written. -/
theorem Temporary.Fresh.write {t : Temporary} {d : Disk} {reserved : List String}
    (h : t.Fresh d reserved) (content : Content) :
    (d.set t.spot (.file .empty)).write t.path content =
      .ok ((d.set t.spot (.file .empty)).set t.spot (.file content)) := by
  have hlocated : (d.set t.spot (.file .empty)).locate t.path = .ok t.spot :=
    ((sameBut_set d t.spot _).keepsDirectories (by simp [h.absent])).locate h.located
  simp only [Disk.write, hlocated, h.isDirPath, get?_set_self h.ne_nil, Bool.false_eq_true, if_false]

theorem isAbsolute_currentText (d : Disk) : Path.isAbsolute d.currentText = true := by
  refine Path.isAbsolute_iff.2 ⟨(String.intercalate "/" d.current).toList, ?_⟩
  rw [currentText, spotText, String.toList_append]
  rfl

theorem isAbsolute_absolute (d : Disk) (dir : String) : Path.isAbsolute (d.absolute dir) = true := by
  unfold absolute
  split
  · next h => exact h
  · exact Path.isAbsolute_join (isAbsolute_currentText d) dir

section Make

variable {d d' : Disk} {dir start ending : String} {reserved : List String} {t : Temporary}

theorem six_le_length_trialName (start ending : String) (n : Nat) :
    6 ≤ (trialName start ending n).toList.length := by
  simp only [trialName, sixDigits, String.toList_append, String.toList_ofList, List.length_append,
    List.length_replicate]
  omega

/-- A numbered name is too long for a dot or two. -/
theorem trialName_ne_dots (start ending : String) (n : Nat) :
    trialName start ending n ≠ "" ∧ trialName start ending n ≠ "." ∧ trialName start ending n ≠ ".." := by
  have hlength := six_le_length_trialName start ending n
  refine ⟨?_, ?_, ?_⟩
  · intro h
    rw [h] at hlength
    exact absurd hlength (by decide)
  · intro h
    rw [h] at hlength
    exact absurd hlength (by decide)
  · intro h
    rw [h] at hlength
    exact absurd hlength (by decide)

theorem slash_not_mem_trialName (hstart : '/' ∉ start.toList) (hending : '/' ∉ ending.toList) (n : Nat) :
    '/' ∉ (trialName start ending n).toList := by
  simp [trialName, hstart, hending, slash_not_mem_sixDigits]

/-- **Making a temporary file puts an empty file where nothing was.** -/
theorem makeTemporary_spec (hstart : '/' ∉ start.toList) (hending : '/' ∉ ending.toList)
    (h : d.makeTemporary dir start ending reserved = .ok (t, d')) :
    t.Fresh d reserved ∧ d' = d.set t.spot (.file .empty) := by
  unfold makeTemporary at h
  extract_lets base inner path at h
  split at h
  · simp at h
  · next spot hspot =>
    split at h
    · simp at h
    · next dw hwrite =>
      obtain ⟨rfl, rfl⟩ := Prod.mk.inj (Except.ok.inj h)
      obtain ⟨n, hfresh, hfree, hreserved⟩ := d.freshName_spec inner start ending reserved
      have hslash := slash_not_mem_trialName hstart hending n
      have hrelative := Path.isAbsolute_eq_false hslash
      obtain ⟨hempty, hnodot, hnodots⟩ := trialName_ne_dots start ending n
      have hpath : path = Path.join base (trialName start ending n) := congrArg (Path.join base) hfresh
      -- the walk along the path passes through the directory and ends with the name
      obtain ⟨-, hnul, hwalk⟩ := locate_eq_ok.1 hspot
      have habs := isAbsolute_absolute d dir
      rw [hpath, Path.isAbsolute_join habs, if_pos rfl, Path.names_join _ hrelative,
        names_of_not_mem hslash hempty] at hwalk
      obtain ⟨above, habove, -, henter⟩ := walk_concat_eq_ok hwalk
      obtain rfl : spot = above ++ [trialName start ending n] := by
        simp only [enter?, hnodot, hnodots, if_false] at henter
        split at henter
        · simp at henter
        · exact (Option.some.inj henter).symm
      -- so the name was tried in that directory
      have hbase : d.locate base = .ok above := by
        refine locate_eq_ok.2 ⟨Path.isEmpty_of_isAbsolute habs, ?_, ?_⟩
        · obtain ⟨-, -, -, hchars⟩ := Path.exists_join (Path.isEmpty_of_isAbsolute habs) hrelative
          rw [List.any_eq_false] at hnul ⊢
          intro c hc
          exact hnul c (hpath ▸ hchars c hc)
        · rw [habs, if_pos rfl]
          exact habove
      obtain rfl : inner = above := by
        show (d.locate base).toOption.getD [] = above
        rw [hbase]
        rfl
      obtain ⟨written, hwritten, hpath', rfl⟩ := write_eq_ok hwrite
      obtain rfl : inner ++ [trialName start ending n] = written :=
        Except.ok.inj (hspot.symm.trans hwritten)
      exact ⟨⟨⟨inner, _, rfl, hreserved⟩, hfree, hspot, hpath'⟩, rfl⟩

end Make

end ScadManual.Disk
