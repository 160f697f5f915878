import ScadManual.Proofs.IndexLinks

/-!
# The index of names

The alphabetical index is written from the items and their aliases, by way of a sort and of lists by letter.  The
register of names was filled while the sources were read, and the page never looks at it.  Still the page has one line
for each registered name, under the letter of the name, and it is the line of the item that the name stands for.
-/

namespace ScadManual

/-- The names of all items, each with its item, in the order of the document: those of one item together, its subtitle
before its aliases. -/
def Document.declared (d : Document) : List (String × NodeId) :=
  d.items.flatMap fun item => (d.namesOf item).map fun name => (name, item)

theorem Document.namesOf_item {d : Document} {id : NodeId} {n : Node} {info : ItemInfo} (hn : d.node? id = some n)
    (hinfo : n.item? = some info) : d.namesOf id = n.subtitle :: info.aliases := by
  rw [namesOf, hn, Option.map_some, Option.getD_some, Node.names, hinfo]

theorem Document.mem_declared {d : Document} {name : String} {id : NodeId} :
    (name, id) ∈ d.declared ↔ id ∈ d.items ∧ name ∈ d.namesOf id := by
  simp only [declared, List.mem_flatMap, List.mem_map, Prod.mk.injEq]
  constructor
  · rintro ⟨item, hitem, name', hname, rfl, rfl⟩
    exact ⟨hitem, hname⟩
  · rintro ⟨hitem, hname⟩
    exact ⟨id, hitem, name, hname, rfl, rfl⟩

theorem Document.map_fst_declared (d : Document) : d.declared.map Prod.fst = d.items.flatMap d.namesOf := by
  rw [declared, List.map_flatMap]
  refine List.flatMap_congr fun item _ => ?_
  rw [List.map_map]
  exact List.map_id _

namespace Page

/-! ## Names by letter -/

/-- The names under a letter, each with its item. -/
structure Bucket where
  letter : String
  names : List (String × NodeId)
deriving DecidableEq, Repr

/-- The buckets are an index of the names. -/
structure IsIndex (names : List (String × NodeId)) (buckets : List Bucket) : Prop where
  /-- Every name is in one bucket, and there once, -/
  perm : (buckets.flatMap Bucket.names).Perm names
  /-- in the bucket of its letter. -/
  letter : ∀ b ∈ buckets, ∀ p ∈ b.names, Setting.indexLetter p.1 = b.letter
  filled : ∀ b ∈ buckets, b.names ≠ []
  /-- Each letter has one bucket, and the letters increase. -/
  letters : (buckets.map Bucket.letter).Pairwise (· < ·)
  /-- The names of a bucket come in order, whatever their case, -/
  sorted : ∀ b ∈ buckets, b.names.Pairwise fun p q => Text.toLower p.1 ≤ Text.toLower q.1
  /-- and names that differ in case only come in the order they had. -/
  stable : ∀ b ∈ buckets, ∀ small, (b.names.filter fun p => Text.toLower p.1 == small) =
    names.filter fun p => Setting.indexLetter p.1 == b.letter && Text.toLower p.1 == small

namespace Setting

/-- The names under each letter. -/
def bucketsOf (names : List (String × NodeId)) : List Bucket :=
  (Text.sortedDistinct ((byName names).map fun p => indexLetter p.1)).map fun letter =>
    ⟨letter, (byName names).filter fun p => indexLetter p.1 == letter⟩

/-- Sorting first and taking what has one letter then makes an index. -/
theorem isIndex_bucketsOf (names : List (String × NodeId)) : IsIndex names (bucketsOf names) where
  perm := by
    have hall : ∀ p ∈ byName names,
        indexLetter p.1 ∈ Text.sortedDistinct ((byName names).map fun p => indexLetter p.1) := by
      intro p hp
      exact Text.mem_sortedDistinct.2 (List.mem_map.2 ⟨p, hp, rfl⟩)
    rw [bucketsOf, List.flatMap_map]
    exact (perm_flatMap_filter (nodup_eraseDups _) hall).trans (Text.sortBy_perm names)
  letter := by
    intro b hb p hp
    obtain ⟨letter, -, rfl⟩ := List.mem_map.1 hb
    exact eq_of_beq (List.mem_filter.1 hp).2
  filled := by
    intro b hb
    obtain ⟨letter, hletter, rfl⟩ := List.mem_map.1 hb
    obtain ⟨p, hp, rfl⟩ := List.mem_map.1 (Text.mem_sortedDistinct.1 hletter)
    apply List.ne_nil_of_mem (a := p)
    exact List.mem_filter.2 ⟨hp, beq_self_eq_true _⟩
  letters := by
    rw [bucketsOf, List.map_map]
    show (List.map id _).Pairwise _
    rw [List.map_id]
    exact Text.pairwise_sortedDistinct _
  sorted := by
    intro b hb
    obtain ⟨letter, -, rfl⟩ := List.mem_map.1 hb
    exact (Text.pairwise_sortBy names).filter _
  stable := by
    intro b hb small
    obtain ⟨letter, -, rfl⟩ := List.mem_map.1 hb
    have hsame : ((byName names).filter fun p => Text.toLower p.1 == small) =
        names.filter fun p => Text.toLower p.1 == small := Text.filter_sortBy names small
    calc ((byName names).filter fun p => indexLetter p.1 == letter).filter (fun p => Text.toLower p.1 == small)
        = ((byName names).filter fun p => Text.toLower p.1 == small).filter (fun p => indexLetter p.1 == letter) :=
          List.filter_comm _ _ _
      _ = names.filter fun p => indexLetter p.1 == letter && Text.toLower p.1 == small := by
          rw [hsame, List.filter_filter]

/-! ## The page -/

variable {s : Setting}

/-- The index with the lines of the buckets: links to the letters, then each letter with its names. -/
def indexOf (s : Setting) (buckets : List Bucket) : List String :=
  Dialect.header "Alphabetical Index" fileLevel true ++
    Dialect.paragraph ["An index of Functions, Modules, and Constants by name."] ++
    Dialect.paragraph
      [String.intercalate "  " (buckets.map fun b => s.dialect.link b.letter b.letter "" false)] ++
    buckets.flatMap fun b =>
      Dialect.header b.letter subsectionLevel true ++
        Dialect.bulletList (b.names.map fun p => s.indexLine p.2 (s.dialect.pageFile .alphabetical))

theorem namesOf_eq {item : NodeId} (h : item ∈ s.doc.items) : s.namesOf item = s.doc.namesOf item := by
  obtain ⟨n, info, hn, hinfo⟩ := mem_items.1 h
  rw [Document.namesOf_item hn hinfo]
  simp [namesOf, Document.subtitle, hn, hinfo]

theorem indexedNames_eq (s : Setting) : s.indexedNames = byName s.doc.declared := by
  rw [indexedNames, Document.declared]
  congr 1
  refine List.flatMap_congr fun item hitem => ?_
  rw [namesOf_eq hitem]

/-- The page is the one with the buckets of the declared names. -/
theorem alphabeticalPage_eq (s : Setting) : s.alphabeticalPage = s.indexOf (bucketsOf s.doc.declared) := by
  rw [alphabeticalPage, indexOf, bucketsOf, indexedNames_eq]
  simp only [List.map_map, List.flatMap_map]
  rfl

/-- **The index of names lists the registered names.**  The page has the lines of an index of all declared names, and
each of those lines is that of the item that the register has for the name.  No name is listed twice. -/
theorem index_lists_registered_names (settings : Settings) (inputs : List Manual.Input) (dialect : Dialect) :
    let m := (Manual.new settings).readAll inputs
    let s : Setting := ⟨m.library, dialect⟩
    ∃ buckets, s.alphabeticalPage = s.indexOf buckets ∧ IsIndex m.document.declared buckets ∧
      (∀ name id, (name, id) ∈ buckets.flatMap Bucket.names ↔ m.references.get? name = some id) ∧
      ((buckets.flatMap Bucket.names).map Prod.fst).Nodup := by
  intro m s
  have hnamed : m.Named := Manual.named_readAll settings inputs
  have hindex := isIndex_bucketsOf m.document.declared
  refine ⟨bucketsOf m.document.declared, s.alphabeticalPage_eq, hindex, ?_, ?_⟩
  · intro name id
    rw [hindex.perm.mem_iff, Document.mem_declared, hnamed.get?_eq_some_iff]
    constructor
    · rintro ⟨hitem, hname⟩
      obtain ⟨n, info, hn, hinfo⟩ := mem_items (s := s).1 hitem
      have hname' : name ∈ s.doc.namesOf id := hname
      rw [Document.namesOf_item hn hinfo] at hname'
      exact ⟨n, info, hn, hinfo, List.mem_cons.1 hname'⟩
    · rintro ⟨n, info, hn, hinfo, hname⟩
      rw [Document.namesOf_item hn hinfo]
      exact ⟨mem_items (s := s).2 ⟨n, info, hn, hinfo⟩, List.mem_cons.2 hname⟩
  · rw [(hindex.perm.map Prod.fst).nodup_iff, Document.map_fst_declared]
    exact hnamed.names_nodup

end Setting

end Page

end ScadManual
