import ScadManual.Proofs.Names

/-!
# Reading a source only adds

Blocks change nodes in place: a file learns its includes, an item its aliases, and every block is put below
whatever is open.  Yet a source cannot reach anything that was there before it.  At its start nothing is open,
so what it opens is new, and what it changes or puts something below is open.

`Document.Extends` says this of documents: the nodes of the first are the first nodes of the second, and no
later node stands below one of them.  From that alone the children, the counts of images and the files
of the old part are what they were.
-/

namespace ScadManual

namespace Document

theorem lt_size_of_parent? {d : Document} {id p : NodeId} (h : d.parent? id = some p) : id < d.size := by
  obtain ⟨x, hx, -⟩ := exists_footing? h
  exact lt_size_of_footing? hx

theorem size_modify (d : Document) (i : NodeId) (f : Node → Node) (hf : ∀ n, (f n).parent = n.parent) :
    (d.modify i f hf).size = d.size :=
  Array.size_modify

theorem parent?_modify (d : Document) (i : NodeId) {f : Node → Node} (hf : ∀ n, (f n).parent = n.parent)
    (id : NodeId) : (d.modify i f hf).parent? id = d.parent? id :=
  parent_modify d.nodes i hf id

/-- The way up from a node leads to earlier nodes only. -/
theorem fileOf_congr {d d' : Document} (id : NodeId) (h : ∀ i ≤ id, d'.parent? i = d.parent? i) :
    d'.fileOf id = d.fileOf id := by
  induction id using Nat.strongRecOn with
  | ind id ih =>
    rw [fileOf, h id (Nat.le_refl id), fileOf]
    cases d.parent? id with
    | none => rfl
    | some p =>
      simp only
      split
      · next hlt => exact ih p hlt fun i hi => h i (Nat.le_trans hi (Nat.le_of_lt hlt))
      · rfl

/-- The second document starts with the nodes of the first, and what follows stands apart from them. -/
structure Extends (d d' : Document) : Prop where
  size_le : d.size ≤ d'.size
  node? : ∀ {id}, id < d.size → d'.node? id = d.node? id
  apart : ∀ {id p}, d.size ≤ id → d'.parent? id = some p → d.size ≤ p

namespace Extends

variable {d d' : Document}

theorem refl (d : Document) : d.Extends d where
  size_le := Nat.le_refl d.size
  node? _ := rfl
  apart := by
    intro id p hid hp
    exact absurd (lt_size_of_parent? hp) (Nat.not_lt.2 hid)

theorem parent? (h : d.Extends d') {id : NodeId} (hid : id < d.size) : d'.parent? id = d.parent? id := by
  rw [Document.parent?, h.node? hid, Document.parent?]

theorem add (h : d.Extends d') {n : Node} (hn : ∀ p, n.parent = some p → d.size ≤ p) :
    d.Extends (d'.add n) := by
  constructor
  · have := h.size_le
    rw [size_add]
    omega
  · intro id hid
    have hne : id ≠ d'.size := Nat.ne_of_lt (Nat.lt_of_lt_of_le hid h.size_le)
    rw [node?_add, if_neg hne]
    exact h.node? hid
  · intro id p hid hp
    rw [Document.parent?, node?_add] at hp
    split at hp
    · exact hn p hp
    · exact h.apart hid hp

/-- A new node that keeps its parent may change in every other way. -/
theorem modify (h : d.Extends d') {i : NodeId} (hi : d.size ≤ i) {f : Node → Node}
    (hf : ∀ n, (f n).parent = n.parent) : d.Extends (d'.modify i f hf) := by
  constructor
  · rw [size_modify]
    exact h.size_le
  · intro id hid
    have hne : i ≠ id := (Nat.ne_of_lt (Nat.lt_of_lt_of_le hid hi)).symm
    rw [node?_modify, if_neg hne]
    exact h.node? hid
  · intro id p hid hp
    rw [parent?_modify] at hp
    exact h.apart hid hp

/-! ## What the old nodes show -/

theorem range_size (h : d.Extends d') :
    ∃ k, List.range d'.size = List.range d.size ++ (List.range k).map (d.size + ·) := by
  obtain ⟨k, hk⟩ := Nat.exists_eq_add_of_le h.size_le
  exact ⟨k, by rw [hk, List.range_add]⟩

/-- The children of an old node are those that it had. -/
theorem children (h : d.Extends d') {id : NodeId} (hid : id < d.size) : d'.children id = d.children id := by
  obtain ⟨k, hk⟩ := h.range_size
  have hnew : ((List.range k).map (d.size + ·)).filter
      (fun c => decide (id < c) && d'.parent? c == some id) = [] := by
    rw [List.filter_eq_nil_iff]
    intro c hc hbelow
    obtain ⟨j, -, rfl⟩ := List.mem_map.1 hc
    have hparent : d'.parent? (d.size + j) = some id := by simp at hbelow; exact hbelow.2
    exact absurd (h.apart (Nat.le_add_right d.size j) hparent) (Nat.not_le.2 hid)
  rw [children_eq, hk, List.filter_append, hnew, List.append_nil, children_eq]
  refine List.filter_congr fun c hc => ?_
  rw [h.parent? (List.mem_range.1 hc)]

/-- A child that a node did not have is a new node. -/
theorem size_le_of_new_child (h : d.Extends d') {id c : NodeId} (hc : c ∈ d'.children id)
    (hnew : c ∉ d.children id) : d.size ≤ c := by
  obtain ⟨-, hlt, hparent⟩ := mem_children.1 hc
  apply Nat.le_of_not_lt
  intro hold
  exact hnew (mem_children.2 ⟨hold, hlt, (h.parent? hold).symm.trans hparent⟩)

/-- An old node stays in its file. -/
theorem fileOf (h : d.Extends d') {id : NodeId} (hid : id < d.size) : d'.fileOf id = d.fileOf id :=
  fileOf_congr id fun _ hi => h.parent? (Nat.lt_of_le_of_lt hi hid)

/-- An old node counts the images that it counted. -/
theorem counted (h : d.Extends d') {id : NodeId} (hid : id < d.size) (kind : ImageKind) :
    d'.counted id kind = d.counted id kind := by
  rw [Document.counted, h.node? hid, Document.counted]

theorem files (h : d.Extends d') : d.files <+: d'.files := by
  obtain ⟨k, hk⟩ := h.range_size
  refine ⟨((List.range k).map (d.size + ·)).filter fun c => (d'.parent? c).isNone, ?_⟩
  rw [files_eq, files_eq, hk, List.filter_append]
  congr 1
  refine List.filter_congr fun c hc => ?_
  rw [h.parent? (List.mem_range.1 hc)]

end Extends

end Document

namespace Manual

/-! ## What is configured -/

/-- What a manual has from its settings and its configuration. -/
structure Configuration where
  settings : Settings
  pagesChosen : Bool
  baseRules : Registry
  tags : Dict
  ignoredPatterns : List String
  ignoredFiles : List String
  priorityFiles : List String

/-- What reading sources finds configured. -/
def configuration (m : Manual) : Configuration :=
  { settings := m.settings
    pagesChosen := m.pagesChosen
    baseRules := m.baseRules
    tags := m.tags
    ignoredPatterns := m.ignoredPatterns
    ignoredFiles := m.ignoredFiles
    priorityFiles := m.priorityFiles }

theorem Edit.configuration_eq {b : Block} {m m' : Manual} (h : Edit b m m') :
    m'.configuration = m.configuration := by
  cases h <;> rfl

/-! ## A source at work -/

/-- A manual has more than a document, with only new nodes open. -/
structure Adds (d : Document) (m : Manual) : Prop where
  document : d.Extends m.document
  opened : ∀ {id r}, (id, r) ∈ m.place.opened → d.size ≤ id

/-- What reading a source has made of a manual so far: more of the same, with only new nodes open. -/
structure Grows (m m' : Manual) : Prop extends Adds m.document m' where
  names : ∀ {name id}, m.references.get? name = some id → m'.references.get? name = some id
  configuration : m'.configuration = m.configuration

section Grows

variable {d : Document} {m m' m'' : Manual} {b : Block}

theorem adds_start {d : Document} {m : Manual} (h : d.Extends m.document) : Adds d m.start where
  document := h
  opened hid := absurd hid List.not_mem_nil

theorem Adds.close (h : Adds d m) : Adds d { m with place := m.place.closeItem } where
  document := h.document
  opened hid := h.opened (Place.opened_closeItem hid)

theorem grows_start (m : Manual) : m.Grows m.start where
  toAdds := adds_start (.refl m.document)
  names h := h
  configuration := rfl

theorem Grows.close (h : m.Grows m') : m.Grows { m' with place := m'.place.closeItem } where
  toAdds := h.toAdds.close
  names := h.names
  configuration := h.configuration

/-- Everything in the place that an edit leaves was open before or is the node it has just added. -/
theorem Edit.opened (he : Edit b m m') {id : NodeId} {r : Rank}
    (hid : (id, r) ∈ m'.place.opened) : (∃ r', (id, r') ∈ m.place.opened) ∨ id = m.document.size := by
  cases he with
  | openFile hf =>
    obtain ⟨rfl, -⟩ := Prod.mk.inj (List.mem_singleton.1 hid)
    exact .inr rfl
  | openSection hf title subtitle body =>
    have hfile := Place.opened_of_file? hf
    simp only [Place.opened_section, List.mem_cons, Prod.mk.injEq, List.not_mem_nil, or_false] at hid
    rcases hid with ⟨rfl, -⟩ | ⟨rfl, -⟩
    · exact .inl ⟨_, hfile⟩
    · exact .inr rfl
  | openSubsection hf hs =>
    have hfile := Place.opened_of_file? hf
    have hsect := Place.opened_of_section? hs
    simp only [Place.opened_subsection, List.mem_cons, Prod.mk.injEq, List.not_mem_nil, or_false] at hid
    rcases hid with ⟨rfl, -⟩ | ⟨rfl, -⟩ | ⟨rfl, -⟩
    · exact .inl ⟨_, hfile⟩
    · exact .inl ⟨_, hsect⟩
    · exact .inr rfl
  | openItem hf hs fresh =>
    have hfile := Place.opened_of_file? hf
    have hsect := Place.opened_of_section? hs
    simp only [Place.opened_item, List.mem_cons, Prod.mk.injEq, List.not_mem_nil, or_false] at hid
    rcases hid with ⟨rfl, -⟩ | ⟨rfl, -⟩ | ⟨rfl, -⟩
    · exact .inl ⟨_, hfile⟩
    · exact .inl ⟨_, hsect⟩
    · exact .inr rfl
  | rules | describeFile | describeItem | addAlias | image | child => exact .inl ⟨r, hid⟩

/-- The step of the run: one edit. -/
theorem Adds.edit (h : Adds d m) (he : Edit b m m') : Adds d m' := by
  -- a node is added below an open one, which is new
  have hbelow {d' : Document} (hd : d.Extends d') {n : Node} {parent : NodeId} {r : Rank}
      (hopen : (parent, r) ∈ m.place.opened) (hp : n.parent = some parent) : d.Extends (d'.add n) := by
    refine hd.add fun p hparent => ?_
    obtain rfl : parent = p := Option.some.inj (hp.symm.trans hparent)
    exact h.opened hopen
  have hitem {change : ItemInfo → ItemInfo} {item : NodeId} (hopen : m.place.item? = some item) :
      d.Extends (m.modifyItem item change).document :=
    h.document.modify (h.opened (Place.opened_of_item? hopen)) (·.parent_withItem change)
  refine ⟨?_, fun hid => ?_⟩
  · cases he with
    | rules hrules => exact h.document
    | openFile hf => exact h.document.add fun p hp => nomatch hp
    | openSection hf title subtitle body => exact hbelow h.document (Place.opened_of_file? hf) rfl
    | openSubsection hf hs => exact hbelow h.document (Place.opened_of_section? hs) rfl
    | openItem hf hs fresh => exact hbelow h.document (Place.opened_of_section? hs) rfl
    | describeFile hf change =>
      exact h.document.modify (h.opened (Place.opened_of_file? hf)) (·.parent_withFile change)
    | describeItem hi change hc => exact hitem hi
    | addAlias hi fresh => exact hitem hi
    | @image parent info n _ ht hp =>
      obtain ⟨r, hr, -⟩ := Place.opened_of_taker? ht
      exact hbelow (h.document.modify (h.opened hr) (·.parent_counting info.kind)) hr hp
    | child n ht hp =>
      obtain ⟨r, hr, -⟩ := Place.opened_of_taker? ht
      exact hbelow h.document hr hp
  · rcases he.opened hid with ⟨r', hold⟩ | rfl
    · exact h.opened hold
    · exact h.document.size_le

theorem Grows.edit (h : m.Grows m') (he : Edit b m' m'') : m.Grows m'' where
  toAdds := h.toAdds.edit he
  names hname := get?_edit he (h.names hname)
  configuration := he.configuration_eq.trans h.configuration

end Grows

/-- What its single edits keep, a block of a source keeps. -/
theorem take_code_keeps {P : Manual → Prop} {b : Block} (edit : ∀ {m m'}, Edit b m m' → P m → P m') {m : Manual}
    (h : P m) : P (m.take .code b).manual := by
  rw [take, manual_build, accept]
  split
  · exact h
  · exact edits_keep edit (addBlock_edits m b) h

/-- The run: what single edits and the end of an item keep, the blocks of a source keep. -/
theorem stepAll_code_keeps {P : Manual → Prop} (edit : ∀ {m m' b}, Edit b m m' → P m → P m')
    (close : ∀ {m}, P m → P { m with place := m.place.closeItem }) {m : Manual} (events : List Event)
    (h : P m) : P (m.stepAll .code events).1 := by
  induction events generalizing m with
  | nil => exact h
  | cons event events ih =>
    apply ih
    cases event with
    | gap => exact close h
    | shallow title origin => exact h
    | block b => exact take_code_keeps edit h

theorem grows_readCode (m : Manual) (file : String) (lines : List String) :
    m.Grows (m.readCode file lines).1 :=
  stepAll_code_keeps (fun he h => h.edit he) (fun h => h.close) _ (grows_start m)

theorem invariant_adds (d : Document) : Invariant fun _ _ m => Adds d m where
  later _ h := h
  frame := by
    intro file l m m' ⟨hlib, hplace⟩ h
    constructor
    · rw [document, hlib]
      exact h.document
    · intro id r hid
      rw [hplace] at hid
      exact h.opened hid
  close h := h.close
  edit _ he h := h.edit he

/-- Whatever is read, the document is only added to. -/
theorem extends_readAll (m : Manual) (inputs : List Input) : m.document.Extends (m.readAll inputs).document := by
  refine (invariant_adds m.document).readAll (P := fun m' => m.document.Extends m'.document)
    (fun _ h => adds_start h) ?_ (.refl m.document) inputs
  intro file l m₁ m₂ h hlib
  have hdocument : m₂.document = m₁.document := congrArg Library.document hlib
  rw [hdocument]
  exact h.document

/-! ## What is left as it was -/

/-- The second manual has everything that the first has, unchanged. -/
structure OnlyAdds (m m' : Manual) : Prop where
  /-- Every node is as it was, with its title, subtitle, body, kind, origin and parent; -/
  node? : ∀ id < m.document.size, m'.document.node? id = m.document.node? id
  /-- so are its children -/
  children : ∀ id < m.document.size, m'.document.children id = m.document.children id
  /-- and its counts of figures and examples. -/
  counted : ∀ id < m.document.size, ∀ kind, m'.document.counted id kind = m.document.counted id kind
  /-- New files come after the old ones. -/
  files : m.document.files <+: m'.document.files
  /-- A name keeps its item. -/
  names : ∀ name id, m.references.get? name = some id → m'.references.get? name = some id
  settings : m'.settings = m.settings
  pagesChosen : m'.pagesChosen = m.pagesChosen
  baseRules : m'.baseRules = m.baseRules
  tags : m'.tags = m.tags
  ignoredPatterns : m'.ignoredPatterns = m.ignoredPatterns
  ignoredFiles : m'.ignoredFiles = m.ignoredFiles
  priorityFiles : m'.priorityFiles = m.priorityFiles

/-- **Reading a source only adds.**  Whatever its lines are, no node that was there before changes or gets
another child, no name changes hands, and all that was configured stays. -/
theorem readCode_only_adds (m : Manual) (file : String) (lines : List String) :
    m.OnlyAdds (m.readCode file lines).1 := by
  have h := grows_readCode m file lines
  constructor
  · exact fun id hid => h.document.node? hid
  · exact fun id hid => h.document.children hid
  · exact fun id hid kind => h.document.counted hid kind
  · exact h.document.files
  · exact fun name id hname => h.names hname
  · exact congrArg Configuration.settings h.configuration
  · exact congrArg Configuration.pagesChosen h.configuration
  · exact congrArg Configuration.baseRules h.configuration
  · exact congrArg Configuration.tags h.configuration
  · exact congrArg Configuration.ignoredPatterns h.configuration
  · exact congrArg Configuration.ignoredFiles h.configuration
  · exact congrArg Configuration.priorityFiles h.configuration

end Manual

end ScadManual
