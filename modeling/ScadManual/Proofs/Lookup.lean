import ScadManual.Dict
import ScadManual.Registry

/-!
# Looking up keys

The disk, the registry of rules and the ordered dictionaries are lists of entries in which a key is looked
up.  Putting a key changes what is found for that key and for no other; taking it out leaves nothing for it
and all the rest.
-/

namespace ScadManual

section Lookup

variable {α β : Type} [BEq α] [LawfulBEq α] {x key : α}

theorem lookup_filter_self (entries : List (α × β)) (key : α) :
    (entries.filter (·.1 != key)).lookup key = none := by
  rw [List.lookup_eq_none_iff]
  intro e he
  have hne : e.1 ≠ key := by simpa using (List.mem_filter.1 he).2
  simpa using hne.symm

theorem lookup_filter_of_ne (entries : List (α × β)) (h : x ≠ key) :
    (entries.filter (·.1 != key)).lookup x = entries.lookup x := by
  induction entries with
  | nil => rfl
  | cons e entries ih =>
    obtain ⟨k, value⟩ := e
    by_cases hk : k = key
    · have hx : (x == k) = false := by simpa [hk] using h
      simp [hk, List.lookup_cons, hk ▸ hx, ih]
    · simp [hk, List.lookup_cons, ih]

theorem lookup_cons [DecidableEq α] (x key : α) (value : β) (entries : List (α × β)) :
    ((key, value) :: entries).lookup x = if x = key then some value else entries.lookup x := by
  rw [List.lookup_cons]
  by_cases h : x = key
  · simp [h]
  · rw [beq_false_of_ne h, if_neg h]

/-- With different keys, looking up finds just what is there. -/
theorem lookup_eq_some_iff_mem {entries : List (α × β)} {value : β}
    (h : (entries.map Prod.fst).Nodup) : entries.lookup x = some value ↔ (x, value) ∈ entries := by
  induction entries with
  | nil => simp
  | cons entry entries ih =>
    obtain ⟨key, value'⟩ := entry
    obtain ⟨hkey, hrest⟩ := List.nodup_cons.1 h
    rw [List.lookup_cons, List.mem_cons]
    by_cases hx : x = key
    · subst hx
      -- the key does not come again, so the first entry is the only one
      have hnot : (x, value) ∉ entries := fun hmem => hkey (List.mem_map.2 ⟨_, hmem, rfl⟩)
      simp [hnot, eq_comm]
    · simp [beq_eq_false_iff_ne.2 hx, hx, ih hrest]

theorem lookup_perm {entries entries' : List (α × β)} (h : (entries.map Prod.fst).Nodup)
    (hp : entries'.Perm entries) (x : α) : entries'.lookup x = entries.lookup x := by
  have h' : (entries'.map Prod.fst).Nodup := (hp.map Prod.fst).nodup_iff.2 h
  refine Option.ext fun value => ?_
  rw [lookup_eq_some_iff_mem h', lookup_eq_some_iff_mem h, hp.mem_iff]

/-- What is found after an entry has been put in its key's place or at the end. -/
theorem lookup_put [DecidableEq α] (put : List (α × β) → List (α × β)) {value : β}
    (hnil : put [] = [(key, value)])
    (hcons : ∀ k v rest, put ((k, v) :: rest) =
      if k = key then (k, value) :: rest else (k, v) :: put rest)
    (entries : List (α × β)) (x : α) :
    (put entries).lookup x = if x = key then some value else entries.lookup x := by
  induction entries with
  | nil => rw [hnil, lookup_cons]
  | cons entry rest ih =>
    obtain ⟨k, v⟩ := entry
    rw [hcons]
    split
    · next heq =>
      subst heq
      simp only [lookup_cons]
      split <;> rfl
    · next hne =>
      simp only [lookup_cons, ih]
      by_cases hx : x = k
      · rw [if_pos hx, if_pos hx, if_neg (hx ▸ hne)]
      · rw [if_neg hx, if_neg hx]

end Lookup

theorem Registry.get?_insert (r : Registry) (title : String) (rule : Rule) (t : String) :
    (r.insert title rule).get? t = if t = title then some rule else r.get? t :=
  lookup_put (put title rule) rfl (fun _ _ _ => rfl) r.rules t

theorem Dict.get?_insert (d : Dict) (key value x : String) :
    (d.insert key value).get? x = if x = key then some value else d.get? x :=
  lookup_put (put key value) rfl (fun _ _ _ => rfl) d.entries x

theorem Dict.isSome_get?_iff {d : Dict} {key : String} : (d.get? key).isSome = true ↔ key ∈ d.keys := by
  rw [get?, List.lookup_isSome_iff, keys]
  simp

theorem Dict.get?_erase (d : Dict) (key x : String) :
    (d.erase key).get? x = if x = key then none else d.get? x := by
  unfold get? erase
  by_cases h : x = key
  · rw [if_pos h, h, lookup_filter_self]
  · rw [if_neg h, lookup_filter_of_ne _ h]

end ScadManual
