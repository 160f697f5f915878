import ScadManual.Proofs.HashStore

/-!
# What a store keeps from one run to the next

A run loads the store, notes digests in it, forgets sources and commits it, and the next run loads what was
committed.  The text of the store has no quoting: a path is written as it is, before a bar, and a record ends
with its line.  So the table comes back unchanged exactly when its paths have no bar and no line feed and none
of its digests ends in a carriage return, and a digest that a run has noted never does.
-/

namespace ScadManual.HashStore

/-! ## Using a store -/

/-- What a run does with a store before it commits it. -/
inductive Use where
  /-- Notes the digest that a source has on a disk. -/
  | check (d : Disk) (source : String)
  /-- Forgets a source. -/
  | invalidate (source : String)

/-- The store after one use. -/
def use (s : HashStore) : Use → HashStore
  | .check d source => (s.check d source).2
  | .invalidate source => s.invalidate source

/-- The store after several uses, one after the other. -/
def useAll (s : HashStore) (uses : List Use) : HashStore :=
  uses.foldl use s

theorem path_useAll (s : HashStore) (uses : List Use) : (s.useAll uses).path = s.path := by
  induction uses generalizing s with
  | nil => rfl
  | cons u uses ih =>
    apply (ih (s.use u)).trans
    cases u <;> rfl

/-- A table that has come about from the loaded one: each source has one entry, and a digest is as it is read back
unless it was loaded. -/
structure Noted (loaded table : Dict) : Prop where
  nodup : (table.entries.map Prod.fst).Nodup
  digest : ∀ e ∈ table.entries, Field e.2 ∧ (readBack e.2 = e.2 ∨ loaded.get? e.1 = some e.2)

section Noted

variable {loaded : Dict} {s : HashStore}

theorem Recordable.noted (h : Recordable loaded) : Noted loaded loaded where
  nodup := h.nodup
  digest e he := ⟨(h.field e he).2, .inr ((lookup_eq_some_iff_mem h.nodup).2 he)⟩

/-- The step of the run. -/
theorem Noted.use (h : Noted loaded s.current) (u : Use) : Noted loaded (s.use u).current := by
  cases u with
  | check d source =>
    refine ⟨nodup_insert h.nodup source (digestOf d source), fun e he => ?_⟩
    rcases mem_put he with hin | rfl
    · exact h.digest e hin
    · exact ⟨field_digestOf d source, .inl (readBack_digestOf d source)⟩
  | invalidate source =>
    refine ⟨nodup_erase h.nodup source, fun e he => ?_⟩
    exact h.digest e (List.mem_filter.1 he).1

theorem Noted.useAll (h : Noted loaded s.current) (uses : List Use) : Noted loaded (s.useAll uses).current := by
  induction uses generalizing s with
  | nil => exact h
  | cons u uses ih => exact ih (h.use u)

theorem noted_load (d : Disk) (path : String) (uses : List Use) :
    Noted (load d path).1.current ((load d path).1.useAll uses).current := by
  obtain ⟨hload, hcurrent, -⟩ := recordable_load d path
  rw [← hcurrent] at hload
  exact hload.noted.useAll uses

theorem Noted.get?_eq_some_iff {table : Dict} (h : Noted loaded table) {source digest : String} :
    table.get? source = some digest ↔ (source, digest) ∈ table.entries :=
  lookup_eq_some_iff_mem h.nodup

theorem Noted.recordable {table : Dict} (h : Noted loaded table)
    (hfield : ∀ source digest, table.get? source = some digest → Field source) : Recordable table := by
  refine ⟨h.nodup, fun e he => ⟨?_, (h.digest e he).1⟩⟩
  exact hfield e.1 e.2 (h.get?_eq_some_iff.2 he)

end Noted

/-! ## Loading what was committed -/

/-- No path that is loaded has a bar or a line feed. -/
theorem field_of_get?_load {d : Disk} {path source digest : String}
    (h : (load d path).1.get? source = some digest) : Field source := by
  obtain ⟨hload, hcurrent, -⟩ := recordable_load d path
  have hget : (load d path).1.previous.get? source = some digest := by
    rw [← hcurrent]
    exact h
  exact (hload.field (source, digest) ((lookup_eq_some_iff_mem hload.nodup).1 hget)).1

/-- Once a recordable table has been committed, each of its digests is loaded as it is read back. -/
theorem load_of_commit {s : HashStore} {d d' : Disk} (ht : Recordable s.current) (h : s.commit d = .ok d')
    (source : String) :
    (load d' s.path).1.get? source = (s.get? source).map readBack ∧ (load d' s.path).2 = [] := by
  obtain ⟨spot, hspot⟩ := commit_eq_ok h
  obtain ⟨-, hcurrent, -⟩ := recordable_load d' s.path
  obtain ⟨hget, hfound⟩ := load_of_readText ht hspot.readText source
  refine ⟨?_, hfound⟩
  show (load d' s.path).1.current.get? source = _
  rw [hcurrent]
  exact hget

/-- **A store comes back unchanged exactly when its text can tell its records apart.**  After any uses of a loaded
store, committing it and loading it again finds nothing and gives the same digest for every source if and only
if no source that it has holds a bar or a line feed and no digest of it ends in a carriage return; and a digest
that does was in the store before. -/
theorem load_commit_iff (start d d' : Disk) (path : String) (uses : List Use) :
    let s := (load start path).1.useAll uses
    s.commit d = .ok d' →
    (((load d' path).2 = [] ∧ ∀ source, (load d' path).1.get? source = s.get? source) ↔
      ∀ source digest, s.get? source = some digest → Field source ∧ readBack digest = digest) ∧
    ∀ source digest, s.get? source = some digest →
      readBack digest = digest ∨ (load start path).1.get? source = some digest := by
  intro s hcommit
  have hnoted : Noted (load start path).1.current s.current := noted_load start path uses
  have hpath : s.path = path := (path_useAll _ uses).trans (recordable_load start path).2.2
  refine ⟨⟨?_, ?_⟩, ?_⟩
  · rintro ⟨-, hsame⟩ source digest hget
    have hfield : ∀ source digest, s.get? source = some digest → Field source := by
      intro source digest hget
      exact field_of_get?_load ((hsame source).trans hget)
    refine ⟨hfield source digest hget, ?_⟩
    have hload := (load_of_commit (hnoted.recordable hfield) hcommit source).1
    rw [hpath, hsame source, hget] at hload
    exact (Option.some.inj hload).symm
  · intro htame
    have hload := load_of_commit (hnoted.recordable fun source digest hget => (htame source digest hget).1) hcommit
    rw [hpath] at hload
    refine ⟨(hload path).2, fun source => (hload source).1.trans ?_⟩
    cases hget : s.get? source with
    | none => rfl
    | some digest => exact congrArg some (htame source digest hget).2
  · intro source digest hget
    exact (hnoted.digest (source, digest) (hnoted.get?_eq_some_iff.1 hget)).2

/-- A source is noted, another one is forgotten, and the next run finds the digest of the first. -/
theorem load_commit_iff_noted :
    let start : Disk := ⟨[], []⟩
    let s := (load start "s").1.useAll [.check start "a.scad", .invalidate "b.scad"]
    ∃ d', s.commit start = .ok d' ∧ s.get? "a.scad" = some (digestOf start "a.scad") ∧
      (load d' "s").2 = [] ∧ ∀ source, (load d' "s").1.get? source = s.get? source := by
  intro start s
  have hcommit : (s.commit start).toOption.isSome = true := by decide +kernel
  have hentries : s.current.entries = [("a.scad", digestOf start "a.scad")] := by decide +kernel
  obtain ⟨d', hd'⟩ := Option.isSome_iff_exists.1 hcommit
  have hd' : s.commit start = .ok d' := ok_of_toOption hd'
  have hget (source : String) :
      s.get? source = if source = "a.scad" then some (digestOf start "a.scad") else none := by
    show s.current.entries.lookup source = _
    rw [hentries, lookup_cons, List.lookup_nil]
  refine ⟨d', hd', by rw [hget, if_pos rfl], ?_⟩
  refine (load_commit_iff start start d' "s" _ hd').1.2 fun source digest hsource => ?_
  rw [hget] at hsource
  split at hsource
  · next heq =>
    obtain rfl := Option.some.inj hsource
    exact ⟨heq ▸ by decide, readBack_digestOf start "a.scad"⟩
  · exact nomatch hsource

/-- A bar in the path of a source: the store that was committed is refused as corrupt, and the digest is lost. -/
theorem load_commit_bar :
    let start : Disk := ⟨[], []⟩
    let s := (load start "s").1.useAll [.check start "a|b"]
    s.get? "a|b" = some (digestOf start "a|b") ∧
      ∃ d', s.commit start = .ok d' ∧ (load d' "s").2 = [⟨⟨"s", 0⟩, .corruptStore "s" 1⟩] ∧
        (load d' "s").1.get? "a|b" = none := by
  intro start s
  have hnoted : s.get? "a|b" = some (digestOf start "a|b") := by decide +kernel
  have hloaded : ((s.commit start).toOption.any fun d' =>
      (load d' "s").2 == [⟨⟨"s", 0⟩, .corruptStore "s" 1⟩] && (load d' "s").1.get? "a|b" == none) = true := by
    decide +kernel
  obtain ⟨d', hd', hgood⟩ := (Option.any_eq_true _ _).1 hloaded
  exact ⟨hnoted, d', ok_of_toOption hd', by simpa using hgood⟩

end ScadManual.HashStore
