import ScadManual.HashStore
import ScadManual.Proofs.Results
import ScadManual.Proofs.Sorting
import ScadManual.Proofs.Temporary

/-!
# The hash store on the disk

Noting and forgetting a source changes what the store has for that source and for no other.  Committing
puts the text of the table where the store's path leads and touches no other file; and when no path and no
digest of a table holds a bar or a line feed, what was committed is what is loaded the next time.
-/

namespace ScadManual

/-! ## Single sources -/

namespace HashStore

theorem get?_check (s : HashStore) (d : Disk) (source x : String) :
    (s.check d source).2.get? x = if x = source then some (digestOf d source) else s.get? x :=
  Dict.get?_insert _ _ _ _

theorem get?_invalidate (s : HashStore) (source x : String) :
    (s.invalidate source).get? x = if x = source then none else s.get? x :=
  Dict.get?_erase _ _ _

/-- A digest depends on what can be read. -/
theorem digestOf_congr {d d' : Disk} {source : String} (h : d'.read source = d.read source) :
    digestOf d' source = digestOf d source := by
  rw [digestOf, h, digestOf]

/-! ## Committing -/

/-- What committing a store does to a disk: the text of the table is where the path leads. -/
structure Committed (s : HashStore) (d d' : Disk) (spot : Spot) : Prop where
  current : d'.current = d.current
  located : d.locate s.path = .ok spot
  isDirPath : Disk.isDirPath s.path = false
  target : d.get? spot ≠ some .directory
  written : d'.get? spot = some (.file (.text (render s.current)))
  others : ∀ x, x ≠ spot → d'.get? x = d.get? x

theorem commit_eq_ok {s : HashStore} {d d' : Disk} (h : s.commit d = .ok d') :
    ∃ spot, s.Committed d d' spot := by
  unfold commit at h
  cases hmade : d.makeTemporary (directoryOf s.path) ".tmp" "" [] with
  | error e =>
    rw [hmade] at h
    exact nomatch h
  | ok made =>
    obtain ⟨t, dt⟩ := made
    obtain ⟨hfresh, rfl⟩ := Disk.makeTemporary_spec (by decide) (by decide) hmade
    simp only [hmade, Except.mapError, bind, Except.bind, hfresh.write] at h
    have hmove := mapError_eq_ok h
    generalize hdm : (d.set t.spot (.file .empty)).set t.spot (.file (.text (render s.current))) = dm
      at hmove
    have hself : dm.get? t.spot = some (.file (.text (render s.current))) := by
      rw [← hdm, Disk.get?_set_self hfresh.ne_nil]
    have hothers {x : Spot} (hx : x ≠ t.spot) : dm.get? x = d.get? x := by
      rw [← hdm, Disk.get?_set_of_ne hx, Disk.get?_set_of_ne hx]
    have hcurrent : dm.current = d.current := by rw [← hdm]; rfl
    obtain ⟨content, spot, hsource, hspot, hpath, htarget, rfl⟩ := Disk.move_eq_ok hmove
    obtain rfl : Content.text (render s.current) = content := by
      simpa using hself.symm.trans hsource
    -- the temporary file is no directory, so the path led there before it was made
    have hkept : dm.KeepsDirectories d := by
      refine ⟨hcurrent.symm, fun {x} hx => ?_⟩
      have hne : x ≠ t.spot := by
        rintro rfl
        simp [hself] at hx
      rw [← hothers hne, hx]
    have hdirectory : d.get? spot ≠ some .directory := by
      intro hget
      have hne : spot ≠ t.spot := by
        rintro rfl
        simp [hfresh.absent] at hget
      exact htarget ((hothers hne).trans hget)
    have hne : spot ≠ [] := by
      rintro rfl
      exact hdirectory (Disk.get?_nil d)
    refine ⟨spot, hcurrent, hkept.locate hspot, hpath, hdirectory, Disk.get?_set_self hne, fun x hx => ?_⟩
    rw [Disk.get?_set_of_ne hx]
    by_cases hxt : x = t.spot
    · rw [hxt, Disk.get?_erase_self hfresh.ne_nil, hfresh.absent]
    · rw [Disk.get?_erase_of_ne hxt, hothers hxt]

section Committed

variable {s : HashStore} {d d' : Disk} {spot : Spot}

theorem Committed.sameBut (h : s.Committed d d' spot) : Disk.SameBut spot d d' :=
  ⟨h.current, fun hx => h.others _ hx⟩

theorem text?_text (t : String) : (Content.text t).text? = some t := by
  rw [Content.text, Content.text?, String.toUTF8_eq_toByteArray, String.fromUTF8?,
    dif_pos t.isValidUTF8]
  rfl

/-- The table can be read where it was written. -/
theorem Committed.readText (h : s.Committed d d' spot) :
    d'.readText s.path = .ok (render s.current) := by
  have hread : d'.read s.path = .ok (.text (render s.current)) := by
    refine Disk.read_eq_ok.2 ⟨spot, ?_, h.written, h.isDirPath⟩
    exact (h.sameBut.keepsDirectories h.target).locate h.located
  rw [Disk.readText, hread]
  simp only [text?_text]

end Committed

end HashStore

/-! ## Lines -/

namespace Text

theorem endLines_concat_nil (pieces : List (List Char)) :
    endLines (pieces ++ [[]]) = pieces.map dropReturn := by
  induction pieces with
  | nil => rfl
  | cons piece pieces ih =>
    cases pieces with
    | nil => rfl
    | cons next rest =>
      have hstep : endLines (piece :: next :: (rest ++ [[]])) =
          dropReturn piece :: endLines (next :: (rest ++ [[]])) := rfl
      rw [List.cons_append, List.cons_append, hstep, ← List.cons_append, ih]
      rfl

theorem splitOn_unlines {ls : List (List Char)} (h : ∀ l ∈ ls, '\n' ∉ l) :
    (ls.flatMap (· ++ ['\n'])).splitOn '\n' = ls ++ [[]] := by
  induction ls with
  | nil => rfl
  | cons l ls ih =>
    obtain ⟨hl, hrest⟩ := List.forall_mem_cons.1 h
    rw [List.flatMap_cons, List.append_assoc, List.singleton_append, List.splitOn_append_cons_self,
      List.splitOn_eq_singleton hl, ih hrest]
    rfl

/-- Lines that are ended one by one are read back, each without a carriage return at its end. -/
theorem lines_join {ls : List String} (h : ∀ l ∈ ls, '\n' ∉ l.toList) :
    lines (String.join (ls.map (· ++ "\n"))) = ls.map fun l => String.ofList (dropReturn l.toList) := by
  have hchars : (String.join (ls.map (· ++ "\n"))).toList = (ls.map String.toList).flatMap (· ++ ['\n']) := by
    rw [String.toList_join, List.flatMap_map, List.flatMap_map]
    simp
  have hlines : ∀ l ∈ ls.map String.toList, '\n' ∉ l := by
    simpa using h
  rw [lines, hchars, splitOn_unlines hlines, endLines_concat_nil, List.map_map, List.map_map]
  rfl

theorem dropReturn_concat (cs : List Char) (c : Char) :
    dropReturn (cs ++ [c]) = if c = '\r' then cs else cs ++ [c] := by
  unfold dropReturn
  rw [List.reverse_append, List.reverse_singleton, List.singleton_append]
  by_cases hc : c = '\r'
  · subst hc
    simp
  · rw [if_neg hc]
    split
    · next rest heq => exact absurd (List.cons.inj heq).1 hc
    · rfl

theorem mem_of_mem_dropReturn {cs : List Char} {c : Char} (h : c ∈ dropReturn cs) : c ∈ cs := by
  rcases List.eq_nil_or_concat cs with rfl | ⟨init, last, rfl⟩
  · exact h
  · rw [List.concat_eq_append, dropReturn_concat] at h
    rw [List.concat_eq_append]
    split at h
    · exact List.mem_append_left _ h
    · exact h

/-- What stands in front of another character keeps its place. -/
theorem dropReturn_append_cons {before after : List Char} {c : Char} (hc : c ≠ '\r') :
    dropReturn (before ++ c :: after) = before ++ c :: dropReturn after := by
  rcases List.eq_nil_or_concat after with rfl | ⟨init, last, rfl⟩
  · rw [dropReturn_concat, if_neg hc]
    rfl
  · rw [List.concat_eq_append, ← List.cons_append, ← List.append_assoc, dropReturn_concat,
      dropReturn_concat]
    split
    · rfl
    · rw [List.append_assoc, List.cons_append]

end Text

/-! ## Records -/

namespace HashStore

/-- A text that can be a path or a digest in the store. -/
def Field (s : String) : Prop := '|' ∉ s.toList ∧ '\n' ∉ s.toList

instance (s : String) : Decidable (Field s) := inferInstanceAs (Decidable (_ ∧ _))

/-- The digest that is read back: without a carriage return at its end. -/
def readBack (s : String) : String := String.ofList (Text.dropReturn s.toList)

theorem record?_eq_some {path digest : String} (hpath : Field path) (hdigest : Field digest) :
    record? (String.ofList (Text.dropReturn (path ++ "|" ++ digest).toList)) =
      some (path, readBack digest) := by
  have hchars : (path ++ "|" ++ digest).toList = path.toList ++ '|' :: digest.toList := by simp
  have hback : '|' ∉ Text.dropReturn digest.toList := fun h => hdigest.1 (Text.mem_of_mem_dropReturn h)
  rw [hchars, Text.dropReturn_append_cons (by decide), record?, Text.splitAt, String.toList_ofList,
    List.splitOn_append_cons_self, List.splitOn_eq_singleton hpath.1, List.splitOn_eq_singleton hback]
  simp [readBack]

theorem records_map {entries : List (String × String)}
    (h : ∀ e ∈ entries, Field e.1 ∧ Field e.2) (n : Nat) :
    records n ((entries.map fun e => e.1 ++ "|" ++ e.2).map fun l =>
        String.ofList (Text.dropReturn l.toList)) =
      .ok (entries.map fun e => (e.1, readBack e.2)) := by
  induction entries generalizing n with
  | nil => rfl
  | cons e entries ih =>
    obtain ⟨⟨hpath, hdigest⟩, hrest⟩ := List.forall_mem_cons.1 h
    have hrecord := record?_eq_some hpath hdigest
    simp only [List.map_cons, records]
    have hne : (String.ofList (Text.dropReturn (e.1 ++ "|" ++ e.2).toList)).isEmpty ≠ true := by
      intro hempty
      rw [String.isEmpty_iff.1 hempty] at hrecord
      exact absurd hrecord (by simp [show record? "" = none from rfl])
    rw [if_neg hne, hrecord]
    simp only [ih hrest (n + 1)]
    rfl

/-- A table that can be written and read back. -/
structure Recordable (table : Dict) : Prop where
  nodup : (table.entries.map Prod.fst).Nodup
  field : ∀ e ∈ table.entries, Field e.1 ∧ Field e.2

/-- **What is rendered is read back**, a carriage return at the end of a digest apart. -/
theorem records_render {table : Dict} (h : Recordable table) :
    records 1 (Text.lines (render table)) =
      .ok ((Text.sortBy (·.1) table.entries).map fun e => (e.1, readBack e.2)) := by
  have hsorted : ∀ e ∈ Text.sortBy (·.1) table.entries, Field e.1 ∧ Field e.2 := fun e he =>
    h.field e (Text.mem_sortBy.1 he)
  have hrender : render table =
      String.join (((Text.sortBy (·.1) table.entries).map fun e => e.1 ++ "|" ++ e.2).map (· ++ "\n")) := by
    rw [render, List.map_map]
    rfl
  have hlines : ∀ l ∈ (Text.sortBy (·.1) table.entries).map fun e => e.1 ++ "|" ++ e.2,
      '\n' ∉ l.toList := by
    intro l hl
    obtain ⟨e, he, rfl⟩ := List.mem_map.1 hl
    obtain ⟨hpath, hdigest⟩ := hsorted e he
    simp [hpath.2, hdigest.2]
  rw [hrender, Text.lines_join hlines, records_map hsorted]

/-! ## Tables that come about -/

theorem recordable_empty : Recordable Dict.empty := ⟨.nil, fun _ he => absurd he List.not_mem_nil⟩

theorem mem_put {key value : String} {entries : List (String × String)} {e : String × String}
    (h : e ∈ Dict.put key value entries) : e ∈ entries ∨ e = (key, value) := by
  induction entries with
  | nil => exact .inr (List.mem_singleton.1 h)
  | cons entry rest ih =>
    obtain ⟨k, v⟩ := entry
    unfold Dict.put at h
    split at h
    · next hk =>
      rcases List.mem_cons.1 h with rfl | hrest
      · exact .inr (by rw [hk])
      · exact .inl (List.mem_cons_of_mem _ hrest)
    · rcases List.mem_cons.1 h with rfl | hrest
      · exact .inl List.mem_cons_self
      · rcases ih hrest with hin | heq
        · exact .inl (List.mem_cons_of_mem _ hin)
        · exact .inr heq

theorem keys_put (key value : String) (entries : List (String × String)) :
    (Dict.put key value entries).map Prod.fst =
      if key ∈ entries.map Prod.fst then entries.map Prod.fst else entries.map Prod.fst ++ [key] := by
  induction entries with
  | nil => rfl
  | cons entry rest ih =>
    obtain ⟨k, v⟩ := entry
    unfold Dict.put
    split
    · next hk => simp [hk]
    · next hk =>
      rw [List.map_cons, ih]
      have hne : key ≠ k := fun h => hk h.symm
      by_cases hmem : key ∈ rest.map Prod.fst
      · rw [if_pos hmem, if_pos (by simp [hmem])]
        rfl
      · rw [if_neg hmem, if_neg (by simpa [hne] using hmem)]
        rfl

theorem nodup_insert {table : Dict} (h : (table.entries.map Prod.fst).Nodup) (key value : String) :
    ((table.insert key value).entries.map Prod.fst).Nodup := by
  rw [Dict.insert, keys_put]
  split
  · exact h
  · next hnot =>
    refine List.nodup_append.2 ⟨h, by simp, fun a ha b hb => ?_⟩
    obtain rfl := List.mem_singleton.1 hb
    exact fun heq => hnot (heq ▸ ha)

theorem nodup_erase {table : Dict} (h : (table.entries.map Prod.fst).Nodup) (key : String) :
    ((table.erase key).entries.map Prod.fst).Nodup :=
  h.sublist (List.filter_sublist.map Prod.fst)

theorem Recordable.insert {table : Dict} (h : Recordable table) {key value : String} (hkey : Field key)
    (hvalue : Field value) : Recordable (table.insert key value) := by
  constructor
  · exact nodup_insert h.nodup key value
  · intro e he
    rcases mem_put he with hin | rfl
    · exact h.field e hin
    · exact ⟨hkey, hvalue⟩

theorem Recordable.erase {table : Dict} (h : Recordable table) (key : String) :
    Recordable (table.erase key) := by
  constructor
  · exact nodup_erase h.nodup key
  · intro e he
    exact h.field e (List.mem_filter.1 he).1

theorem recordable_ofList {pairs : List (String × String)} (h : ∀ e ∈ pairs, Field e.1 ∧ Field e.2) :
    Recordable (Dict.ofList pairs) := by
  have hall : ∀ (pairs : List (String × String)) (table : Dict), Recordable table →
      (∀ e ∈ pairs, Field e.1 ∧ Field e.2) → Recordable (table.insertAll pairs) := by
    intro pairs
    induction pairs with
    | nil => exact fun _ ht _ => ht
    | cons e pairs ih =>
      intro table ht he
      obtain ⟨hfirst, hrest⟩ := List.forall_mem_cons.1 he
      exact ih (table.insert e.1 e.2) (ht.insert hfirst.1 hfirst.2) hrest
  exact hall pairs Dict.empty recordable_empty h

/-! ## Loading -/

theorem not_mem_of_mem_lines {text line : String} (h : line ∈ Text.lines text) : '\n' ∉ line.toList := by
  have hpieces : ∀ (pieces : List (List Char)), (∀ p ∈ pieces, '\n' ∉ p) →
      ∀ l ∈ Text.endLines pieces, '\n' ∉ l := by
    intro pieces
    fun_induction Text.endLines pieces with
    | case1 => simp
    | case2 last hlast => simp
    | case3 last hlast => exact fun hp => hp
    | case4 piece rest hrest ih =>
      intro hp l hl
      obtain ⟨hpiece, hmore⟩ := List.forall_mem_cons.1 hp
      rcases List.mem_cons.1 hl with rfl | hl
      · exact fun hn => hpiece (Text.mem_of_mem_dropReturn hn)
      · exact ih hmore l hl
  obtain ⟨cs, hcs, rfl⟩ := List.mem_map.1 h
  rw [String.toList_ofList]
  exact hpieces _ (fun p hp => sep_not_mem_of_mem_splitOn hp) cs hcs

theorem mem_of_mem_splitOn {sep c : Char} {cs piece : List Char} (h : piece ∈ cs.splitOn sep)
    (hc : c ∈ piece) : c ∈ cs := by
  induction cs generalizing piece with
  | nil =>
    rw [List.splitOn_nil, List.mem_singleton] at h
    simp [h] at hc
  | cons x cs ih =>
    rw [List.splitOn_cons_eq_if_modifyHead] at h
    split at h
    · rcases List.mem_cons.1 h with rfl | hrest
      · simp at hc
      · exact List.mem_cons_of_mem x (ih hrest hc)
    · cases hs : cs.splitOn sep with
      | nil => exact absurd hs (List.splitOn_ne_nil sep cs)
      | cons first rest =>
        rw [hs, List.modifyHead_cons, List.mem_cons] at h
        rcases h with rfl | hrest
        · rcases List.mem_cons.1 hc with rfl | hfirst
          · exact List.mem_cons_self
          · exact List.mem_cons_of_mem x (ih (hs ▸ List.mem_cons_self) hfirst)
        · exact List.mem_cons_of_mem x (ih (hs ▸ List.mem_cons_of_mem first hrest) hc)

theorem field_of_record? {line : String} {r : String × String} (hl : '\n' ∉ line.toList)
    (h : record? line = some r) : Field r.1 ∧ Field r.2 := by
  have hfield : ∀ piece ∈ Text.splitAt '|' line, Field piece := by
    intro piece hpiece
    refine ⟨Text.not_mem_of_mem_splitAt hpiece, fun hn => hl ?_⟩
    obtain ⟨cs, hcs, rfl⟩ := List.mem_map.1 hpiece
    rw [String.toList_ofList] at hn
    exact mem_of_mem_splitOn hcs hn
  unfold record? at h
  split at h
  · next path digest hsplit =>
    obtain rfl := Option.some.inj h
    rw [hsplit] at hfield
    exact ⟨hfield path (by simp), hfield digest (by simp)⟩
  · simp at h

theorem field_of_records {lines : List String} {rs : List (String × String)} {n : Nat}
    (hl : ∀ l ∈ lines, '\n' ∉ l.toList) (h : records n lines = .ok rs) :
    ∀ e ∈ rs, Field e.1 ∧ Field e.2 := by
  induction lines generalizing n rs with
  | nil =>
    obtain rfl := Except.ok.inj h
    simp
  | cons line lines ih =>
    obtain ⟨hline, hrest⟩ := List.forall_mem_cons.1 hl
    unfold records at h
    split at h
    · exact ih hrest h
    · split at h
      · simp at h
      · next r hr =>
        cases hmore : records (n + 1) lines with
        | error k => simp [hmore, bind, Except.bind] at h
        | ok more =>
          rw [hmore] at h
          obtain rfl := Except.ok.inj h
          exact List.forall_mem_cons.2 ⟨field_of_record? hline hr, ih hrest hmore⟩

theorem recordable_load (d : Disk) (path : String) :
    Recordable (load d path).1.previous ∧ (load d path).1.current = (load d path).1.previous ∧
      (load d path).1.path = path := by
  unfold load
  cases h : readTable d path with
  | error e => exact ⟨recordable_empty, rfl, rfl⟩
  | ok table =>
    refine ⟨?_, rfl, rfl⟩
    unfold readTable at h
    split at h
    · obtain rfl := Except.ok.inj h
      exact recordable_empty
    · simp at h
    · next text _ =>
      split at h
      · next rs hrs =>
        obtain rfl := Except.ok.inj h
        exact recordable_ofList (field_of_records (fun l hl => not_mem_of_mem_lines hl) hrs)
      · simp at h

/-- With different keys a dictionary has just its pairs. -/
theorem get?_insertAll {pairs : List (String × String)} (h : (pairs.map Prod.fst).Nodup) (table : Dict)
    (x : String) : (table.insertAll pairs).get? x = (pairs.lookup x).or (table.get? x) := by
  induction pairs generalizing table with
  | nil => rfl
  | cons e pairs ih =>
    obtain ⟨key, value⟩ := e
    obtain ⟨hkey, hrest⟩ := List.nodup_cons.1 h
    have hstep : table.insertAll ((key, value) :: pairs) = (table.insert key value).insertAll pairs := rfl
    rw [hstep, ih hrest, Dict.get?_insert, lookup_cons]
    by_cases hx : x = key
    · have hnone : pairs.lookup x = none := by
        rw [List.lookup_eq_none_iff]
        intro e he
        have hne : x ≠ e.1 := fun heq => hkey (hx ▸ heq ▸ List.mem_map.2 ⟨e, he, rfl⟩)
        simpa using hne
      simp [hx ▸ hnone, hx]
    · rw [if_neg hx, if_neg hx]

theorem lookup_map_snd (entries : List (String × String)) (f : String → String) (x : String) :
    (entries.map fun e => (e.1, f e.2)).lookup x = (entries.lookup x).map f := by
  induction entries with
  | nil => rfl
  | cons e entries ih =>
    obtain ⟨key, value⟩ := e
    rw [List.map_cons, lookup_cons, lookup_cons, ih]
    split <;> rfl

/-- **What was committed is loaded the next time.** -/
theorem load_of_readText {d : Disk} {path : String} {table : Dict} (ht : Recordable table)
    (h : d.readText path = .ok (render table)) (x : String) :
    (load d path).1.previous.get? x = (table.get? x).map readBack ∧ (load d path).2 = [] := by
  have hread : readTable d path =
      .ok (Dict.ofList ((Text.sortBy (·.1) table.entries).map fun e => (e.1, readBack e.2))) := by
    unfold readTable
    simp only [h, records_render ht]
  have hperm : (Text.sortBy (·.1) table.entries).Perm table.entries := Text.sortBy_perm _
  have hkeys : ((Text.sortBy (·.1) table.entries).map Prod.fst).Nodup :=
    (hperm.map Prod.fst).nodup_iff.2 ht.nodup
  unfold load
  rw [hread]
  refine ⟨?_, rfl⟩
  show (Dict.empty.insertAll _).get? x = _
  rw [get?_insertAll (by rw [List.map_map]; exact hkeys), lookup_map_snd, lookup_perm ht.nodup hperm]
  simp [Dict.get?, Dict.empty]

/-! ## Digests -/

theorem digitChar_mem (n : Nat) : Nat.digitChar n ∈ "0123456789abcdef*".toList := by
  have hdigit : ∀ k < 16, Nat.digitChar k ∈ "0123456789abcdef*".toList := by decide
  rcases Nat.lt_or_ge n 16 with hlt | hge
  · exact hdigit n hlt
  · have hstar : Nat.digitChar n = '*' := by
      unfold Nat.digitChar
      repeat rw [if_neg (by omega)]
    rw [hstar]
    decide

theorem mem_hex {message : ByteArray} {c : Char} (h : c ∈ (Sha256.hex message).toList) :
    c ∈ "0123456789abcdef*".toList := by
  rw [Sha256.hex, String.toList_join] at h
  obtain ⟨word, hword, hc⟩ := List.mem_flatMap.1 h
  obtain ⟨w, -, rfl⟩ := List.mem_map.1 hword
  rw [Sha256.hexWord, String.toList_ofList] at hc
  obtain ⟨b, -, hc⟩ := List.mem_flatMap.1 hc
  simp only [List.mem_cons, List.not_mem_nil, or_false] at hc
  rcases hc with rfl | rfl
  · exact digitChar_mem _
  · exact digitChar_mem _

theorem mem_digestOf {d : Disk} {source : String} {c : Char} (h : c ∈ (digestOf d source).toList) :
    c ∈ "0123456789abcdef*".toList := by
  unfold digestOf at h
  split at h
  · exact mem_hex h
  · exact mem_hex h

theorem field_digestOf (d : Disk) (source : String) : Field (digestOf d source) :=
  ⟨fun h => absurd (mem_digestOf h) (by decide), fun h => absurd (mem_digestOf h) (by decide)⟩

theorem readBack_digestOf (d : Disk) (source : String) : readBack (digestOf d source) = digestOf d source := by
  have hreturn : '\r' ∉ (digestOf d source).toList := fun h => absurd (mem_digestOf h) (by decide)
  unfold readBack
  rcases List.eq_nil_or_concat (digestOf d source).toList with hnil | ⟨init, last, hlast⟩
  · rw [hnil]
    exact (String.toList_eq_nil_iff.1 hnil).symm
  · rw [List.concat_eq_append] at hlast
    rw [hlast] at hreturn
    rw [hlast, Text.dropReturn_concat, if_neg (fun h => hreturn (by simp [h])), ← hlast,
      String.ofList_toList]

end HashStore

end ScadManual
