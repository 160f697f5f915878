import ScadManual.Proofs.Additions
import ScadManual.Proofs.Reading

/-!
# What is put below an item

A block is put below the item that is open, and an alias is registered for it.  `Attached` says what there is
to say of such pairs once and for all: something `W` of the origin of the open item, and something `B` of the
origins of an item and of whatever the source has put below it.  It is kept by every block as long as `W` holds
of the block's own line and gives `B` between the open item and that line.

The first use is made here: the open item is the last one that was *declared*.  A header of an item that is
refused declares nothing, and it does not close the item before it either, so what follows in the same comments
goes to that item.  Between an item and what stands below it there may hence be headers of other items, but only
refused ones.
-/

namespace ScadManual

/-! ## Pairs of origins -/

theorem Place.item?_of_opened {p : Place} {id : NodeId} (h : (id, .item) ∈ p.opened) :
    p.item? = some id := by
  cases p <;> simp_all [Place.item?, Place.opened]

theorem Place.item?_closeItem (p : Place) : p.closeItem.item? = none := by
  cases p <;> rfl

namespace Manual

variable {d : Document} {W : Origin → Prop} {B : Origin → Origin → Prop} {file : String} {l : Nat} {m : Manual}

/-- `W` holds of the origin of the open item, and `B` of the origins of an item and of everything that stands
below it and is not in the document `d` from before the source. -/
structure Attached (d : Document) (W : Origin → Prop) (B : Origin → Origin → Prop) (m : Manual) : Prop where
  window : ∀ {i x}, m.place.item? = some i → m.document.footing? i = some x → W x.origin
  below : ∀ {id i x y}, d.size ≤ id → m.document.footing? id = some x → x.parent = some i →
    m.document.footing? i = some y → y.rank = .item → B y.origin x.origin

theorem attached_start (m : Manual) : Attached m.document W B m.start where
  window hi := nomatch hi
  below := by
    intro id i x y hid hx
    exact absurd (Document.lt_size_of_footing? hx) (Nat.not_lt.2 hid)

theorem Attached.mono {W' : Origin → Prop} {B' : Origin → Origin → Prop} (h : Attached d W B m)
    (hw : ∀ o, W o → W' o) (hb : ∀ o o', B o o' → B' o o') : Attached d W' B' m where
  window hi hx := hw _ (h.window hi hx)
  below hid hx hparent hy hitem := hb _ _ (h.below hid hx hparent hy hitem)

/-- When the open item ends, nothing is asked of it any more. -/
theorem Attached.close {W' : Origin → Prop} (h : Attached d W B m) :
    Attached d W' B { m with place := m.place.closeItem } where
  window := by
    intro i x hi
    have hnone : m.place.closeItem.item? = none := m.place.item?_closeItem
    exact absurd (hnone.symm.trans hi) (by simp)
  below := h.below

theorem Attached.congr {m' : Manual} (h : Attached d W B m)
    (hf : ∀ id, m'.document.footing? id = m.document.footing? id) (hp : m'.place = m.place) :
    Attached d W B m' where
  window := by
    intro i x hi hx
    rw [hp] at hi
    rw [hf] at hx
    exact h.window hi hx
  below := by
    intro id i x y hid hx hparent hy hitem
    rw [hf] at hx hy
    exact h.below hid hx hparent hy hitem

/-- Whatever is put below an item is put below the open one. -/
theorem Attached.below_add {n : Node} (h : Attached d W B m) (hs : Standing file l m)
    (htake : ∀ o, W o → B o ⟨file, l⟩) (ho : n.origin = ⟨file, l⟩)
    (hp : ∀ p, n.parent = some p → ∃ r, (p, r) ∈ m.place.opened) {id i : NodeId} {x y : Footing}
    (hid : d.size ≤ id) (hx : (m.document.add n).footing? id = some x) (hparent : x.parent = some i)
    (hy : (m.document.add n).footing? i = some y) (hitem : y.rank = .item) : B y.origin x.origin := by
  have hold {p : NodeId} {z : Footing} (hz : m.document.footing? p = some z)
      (hadd : (m.document.add n).footing? p = some y) : z = y :=
    Option.some.inj ((Document.footing?_add_of_lt n hz).symm.trans hadd)
  rw [Document.footing?_add] at hx
  split at hx
  · obtain rfl := Option.some.inj hx
    -- the parent is open, and its rank tells that it is the open item
    obtain ⟨r, hopen⟩ := hp i hparent
    obtain ⟨z, hz, hrank⟩ := (hs.opened hopen).rank
    obtain rfl := hold hz hy
    obtain rfl : r = .item := hrank.symm.trans hitem
    show B z.origin n.origin
    rw [ho]
    apply htake
    exact h.window (Place.item?_of_opened hopen) hz
  · by_cases hi : i < m.document.size
    · obtain ⟨p, hp'⟩ := Document.exists_node? hi
      have hz := Document.footing?_of_node? hp'
      obtain rfl := hold hz hy
      exact h.below hid hx hparent hz hitem
    · -- an old node never stands below the one that is added now
      have hlt : i < id := (hs.forest.below hx hparent).1
      exact absurd (Nat.lt_trans hlt (Document.lt_size_of_footing? hx)) hi

/-- A node is added; it may become the open item, and what was open may stay so. -/
theorem Attached.add {n : Node} {place : Place} (h : Attached d W B m) (hs : Standing file l m)
    (hopen : W ⟨file, l⟩) (htake : ∀ o, W o → B o ⟨file, l⟩) (ho : n.origin = ⟨file, l⟩)
    (hp : ∀ p, n.parent = some p → ∃ r, (p, r) ∈ m.place.opened)
    (hplace : ∀ i, place.item? = some i → m.place.item? = some i ∨ i = m.document.size) :
    Attached d W B { m.addNode n with place } where
  below := h.below_add hs htake ho hp
  window := by
    intro i x hi hx
    change (m.document.add n).footing? i = some x at hx
    rw [Document.footing?_add] at hx
    split at hx
    · obtain rfl := Option.some.inj hx
      show W n.origin
      rw [ho]
      exact hopen
    · next hne =>
      rcases hplace i hi with hstill | hsize
      · exact h.window hstill hx
      · exact absurd hsize hne

/-- The step of the run: one edit of the block on line `l`. -/
theorem Attached.edit {m' : Manual} {b : Block} (h : Attached d W B m) (hs : Standing file l m)
    (hopen : W ⟨file, l⟩) (htake : ∀ o, W o → B o ⟨file, l⟩) (hb : b.origin = ⟨file, l⟩) (he : Edit b m m') :
    Attached d W B m' := by
  have hparent {p : NodeId} {r : Rank} (hmem : (p, r) ∈ m.place.opened) :
      ∀ q, some p = some q → ∃ r, (q, r) ∈ m.place.opened := by
    intro q hq
    obtain rfl := Option.some.inj hq
    exact ⟨r, hmem⟩
  cases he with
  | rules hrules => exact ⟨h.window, h.below⟩
  | openFile hf => exact h.add hs hopen htake hb (fun p hp => nomatch hp) fun i hi => nomatch hi
  | openSection hf title subtitle body =>
    exact h.add hs hopen htake hb (hparent (Place.opened_of_file? hf)) fun i hi => nomatch hi
  | openSubsection hf hsect =>
    exact h.add hs hopen htake hb (hparent (Place.opened_of_section? hsect)) fun i hi => nomatch hi
  | @openItem f s hf hsect fresh =>
    have hadd : Attached d W B { m.addNode (b.node (.item ItemInfo.empty) (some s)) with
        place := .item f s m.document.size } := by
      refine h.add hs hopen htake hb (hparent (Place.opened_of_section? hsect)) fun i hi => ?_
      exact .inr (Option.some.inj hi).symm
    exact ⟨hadd.window, hadd.below⟩
  | describeFile hf change => exact h.congr (fun id => footing?_modifyFile m _ id change) rfl
  | describeItem hi change hc => exact h.congr (fun id => footing?_modifyItem m _ id change) rfl
  | addAlias hi fresh => exact h.congr (fun id => footing?_modifyItem _ _ id _) rfl
  | @image parent info n _ ht hp ho =>
    have hfooting (id : NodeId) := footing?_countImage m parent id info.kind
    have hcounted : Attached d W B (m.countImage parent info.kind) := h.congr hfooting rfl
    obtain ⟨r, hr, -⟩ := Place.opened_of_taker? ht
    exact hcounted.add (hs.congr hfooting rfl) hopen htake (ho.trans hb) (hp ▸ hparent hr) fun i hi => .inl hi
  | child n ht hp ho =>
    obtain ⟨r, hr, -⟩ := Place.opened_of_taker? ht
    exact h.add hs hopen htake (ho.trans hb) (hp ▸ hparent hr) fun i hi => .inl hi

/-- The step for a whole block. -/
theorem Attached.take {b : Block} (h : Attached d W B m) (hs : Standing file l m) (hopen : W ⟨file, l⟩)
    (htake : ∀ o, W o → B o ⟨file, l⟩) (hb : b.origin = ⟨file, l⟩) :
    Attached d W B (m.take .code b).manual := by
  have hboth := take_code_keeps (P := fun m => Standing file l m ∧ Attached d W B m) (b := b)
    (fun he hm => ⟨hm.1.edit hb he, hm.2.edit hm.1 hopen htake hb he⟩) ⟨hs, h⟩
  exact hboth.2

/-! ## Names that a block registers -/

/-- No edit changes a footing. -/
theorem Edit.footing? {m' : Manual} {b : Block} (he : Edit b m m') {id : NodeId} {x : Footing}
    (h : m.document.footing? id = some x) : m'.document.footing? id = some x := by
  cases he with
  | rules hrules => exact h
  | openFile | openSection | openSubsection | openItem | child => exact Document.footing?_add_of_lt _ h
  | @image parent info =>
    exact Document.footing?_add_of_lt _ ((footing?_countImage m parent id info.kind).trans h)
  | describeFile hf change => exact (footing?_modifyFile m _ id change).trans h
  | describeItem hi change hc => exact (footing?_modifyItem m _ id change).trans h
  | addAlias hi fresh => exact (footing?_modifyItem _ _ id _).trans h

/-- A name that an edit registers is that of an item: the open one, or the one that is opened. -/
theorem Attached.registers {m' : Manual} {b : Block} (h : Attached d W B m) (hs : Standing file l m)
    (hopen : W ⟨file, l⟩) (hb : b.origin = ⟨file, l⟩) (he : Edit b m m') {name : String} {i : NodeId}
    (hold : m.references.get? name = none) (hnew : m'.references.get? name = some i) :
    ∃ x, m'.document.footing? i = some x ∧ x.rank = .item ∧ W x.origin := by
  have happend {key : String} {id : NodeId}
      (hget : (m.references.entries ++ [(key, id)]).lookup name = some i) : id = i := by
    rw [List.lookup_append] at hget
    have hnone : m.references.entries.lookup name = none := hold
    rw [hnone, Option.none_or, lookup_cons, List.lookup_nil] at hget
    split at hget
    · exact Option.some.inj hget
    · simp at hget
  cases he with
  | openItem hf hsect fresh =>
    obtain rfl := happend hnew
    refine ⟨_, (Document.footing?_add _ _ _).trans (if_pos rfl), rfl, ?_⟩
    show W b.origin
    rw [hb]
    exact hopen
  | addAlias hi fresh =>
    obtain rfl := happend hnew
    obtain ⟨x, hx, hrank⟩ := (hs.opened (Place.opened_of_item? hi)).rank
    exact ⟨x, (footing?_modifyItem _ _ _ _).trans hx, hrank, h.window hi hx⟩
  | rules | openFile | openSection | openSubsection | describeFile | describeItem | image | child =>
    exact absurd (hold.symm.trans hnew) (by simp)

/-- A name that a block registers is that of an item for which `W` holds. -/
theorem Attached.take_registers {b : Block} (h : Attached d W B m) (hs : Standing file l m) (hopen : W ⟨file, l⟩)
    (htake : ∀ o, W o → B o ⟨file, l⟩) (hb : b.origin = ⟨file, l⟩) {name : String} {i : NodeId}
    (hold : m.references.get? name = none)
    (hnew : (m.take .code b).manual.references.get? name = some i) :
    ∃ x, (m.take .code b).manual.document.footing? i = some x ∧ x.rank = .item ∧ W x.origin := by
  have hall := take_code_keeps
    (P := fun m' => Standing file l m' ∧ Attached d W B m' ∧ ∀ i, m'.references.get? name = some i →
      ∃ x, m'.document.footing? i = some x ∧ x.rank = .item ∧ W x.origin)
    (b := b) (m := m) ?_ ⟨hs, h, fun i hi => absurd (hold.symm.trans hi) (by simp)⟩
  · exact hall.2.2 i hnew
  · rintro m' m'' he ⟨hs', h', hnames⟩
    refine ⟨hs'.edit hb he, h'.edit hs' hopen htake hb he, fun j hj => ?_⟩
    cases hbefore : m'.references.get? name with
    | none => exact h'.registers hs' hopen hb he hbefore hj
    | some k =>
      obtain rfl : k = j := Option.some.inj ((get?_edit he hbefore).symm.trans hj)
      obtain ⟨x, hx, hrank, hw⟩ := hnames k hbefore
      exact ⟨x, he.footing? hx, hrank, hw⟩

/-! ## Declarations -/

section Declarations

variable {b : Block}

/-- A header with the title of an item for which there is no rule declares an item or is refused. -/
theorem exec_accept_of_itemTitle (ht : b.title ∈ itemTitles) (hr : m.rules.get? b.title = none) :
    (accept .code b).exec m =
      if m.place.file?.isNone && m.settings.strict then (.error (.structural b.title .fileMissing), m)
      else (declareItem b).exec m := by
  have hblock : (accept .code b).exec m =
      if m.place.file?.isNone && m.settings.strict then (.error (.structural b.title .fileMissing), m)
      else (addTitled b).exec m := by
    obtain ⟨title, info, subtitle, body, origin⟩ := b
    simp only [itemTitles, List.mem_cons, List.not_mem_nil, or_false] at ht
    rcases ht with rfl | rfl | rfl | rfl <;> exact Work.exec_ite _ _ _ m
  have htitled : (addTitled b).exec m = (declareItem b).exec m := by
    have hc : itemTitles.contains b.title = true := List.contains_iff_mem.2 ht
    rw [addTitled, Work.exec_read_bind]
    simp only [hr, hc, if_true]
  rw [hblock, htitled]

/-- An item that is declared is open, and its header is that of the block. -/
theorem declareItem_opens {m' : Manual} {u : Unit} (h : (declareItem b).exec m = (.ok u, m')) :
    ∃ i x, m'.place.item? = some i ∧ m'.document.footing? i = some x ∧ x.origin = b.origin := by
  obtain ⟨file, m₁, hfile, hchecks⟩ := Work.exec_bind_eq_ok h
  obtain ⟨hf, rfl⟩ := exec_requireFile_eq_ok hfile
  rw [Work.exec_read_bind] at hchecks
  obtain ⟨_, hfree, hbody⟩ := Work.exec_lift_bind_eq_ok hchecks
  obtain ⟨-, -, hchanges⟩ := Work.exec_lift_bind_eq_ok hbody
  obtain ⟨sect, m₂, hsect, hitem⟩ := Work.exec_bind_eq_ok hchanges
  obtain ⟨-, -, hreferences⟩ := (itemSection_edits (b := b) hf).2 sect m₂ hsect
  rw [exec_openItem (by rw [hreferences, requireFree_eq_ok_iff.1 hfree])] at hitem
  obtain rfl := (Prod.mk.inj hitem).2
  exact ⟨_, _, rfl, (Document.footing?_add _ _ _).trans (if_pos rfl), rfl⟩

theorem take_opens (ht : b.title ∈ itemTitles) (hr : m.rules.get? b.title = none)
    (he : (m.take .code b).error = none) :
    ∃ i x, (m.take .code b).manual.place.item? = some i ∧
      (m.take .code b).manual.document.footing? i = some x ∧ x.origin = b.origin := by
  rw [take, error_build_eq_none_iff] at he
  rw [take, manual_build]
  rw [exec_accept_of_itemTitle ht hr] at he ⊢
  split at he
  · exact absurd he (by simp)
  · next hstrict =>
    rw [if_neg hstrict]
    exact declareItem_opens (Prod.ext he rfl)

end Declarations

end Manual

/-- The title of the header of an event; a gap has none. -/
def Event.title? : Event → Option String
  | .block b => some b.title
  | .shallow title _ => some title
  | .gap => none

namespace Manual

/-- Does the turn take the header of an item?  The title is one of an item, and no rule is defined for it. -/
def Turn.takesItemHeader (t : Turn) : Bool :=
  t.event.title?.any fun title => itemTitles.contains title && (t.before.rules.get? title).isNone

/-- The turn takes the header of an item on the line, and it is not refused. -/
def Turn.DeclaresAt (t : Turn) (l : Nat) : Prop :=
  t.takesItemHeader = true ∧ t.found = [] ∧ ∃ origin, t.event.origin? = some origin ∧ origin.line = l

/-- The turns declare no item between the line `first` and the line `stop`: every header of an item that they
take there is refused. -/
def NoneDeclared (ts : List Turn) (first stop : Nat) : Prop :=
  ∀ t ∈ ts, ∀ l, t.DeclaresAt l → l < stop → l ≤ first

theorem noneDeclared_concat {ts : List Turn} {t : Turn} {first stop : Nat} (h : NoneDeclared ts first stop)
    (ht : ∀ l, t.DeclaresAt l → l < stop → l ≤ first) : NoneDeclared (ts ++ [t]) first stop := by
  intro t' ht' l hl hstop
  rcases List.mem_append.1 ht' with hmem | hmem
  · exact h t' hmem l hl hstop
  · obtain rfl := List.mem_singleton.1 hmem
    exact ht l hl hstop

/-- An origin is the last declaration before another: both are in the file, in this order, and nothing is
declared between them. -/
structure LastBefore (file : String) (ts : List Turn) (o o' : Origin) : Prop where
  file_left : o.file = file
  file_right : o'.file = file
  le : o.line ≤ o'.line
  none : NoneDeclared ts o.line o'.line

section Latest

variable {ts : List Turn} {stop : Nat}

/-- The turns have been taken and the reader stands before the line `stop`.  The open item is the last one that
was declared, and so was, at its time, the item above any node and that of any name. -/
structure Latest (d : Document) (file : String) (ts : List Turn) (stop : Nat) (m : Manual) : Prop where
  past : ∀ t ∈ ts, ∀ l, t.DeclaresAt l → l < stop
  attached : Attached d (fun o => o.line < stop ∧ LastBefore file ts o ⟨file, stop⟩)
    (fun o o' => o'.line < stop ∧ LastBefore file ts o o') m
  named : ∀ t ∈ ts, ∀ origin, t.event.origin? = some origin → ∀ name i,
    t.before.references.get? name = none → t.after.references.get? name = some i →
    ∃ x, m.document.footing? i = some x ∧ x.rank = .item ∧ origin.line < stop ∧ LastBefore file ts x.origin origin

theorem latest_start (m : Manual) (file : String) (stop : Nat) : Latest m.document file [] stop m.start where
  past _ ht := absurd ht List.not_mem_nil
  attached := attached_start m
  named _ ht := absurd ht List.not_mem_nil

/-- The reader moves on. -/
theorem Latest.later {stop' : Nat} (h : Latest d file ts stop m) (hle : stop ≤ stop') :
    Latest d file ts stop' m where
  past t ht l hl := Nat.lt_of_lt_of_le (h.past t ht l hl) hle
  attached := by
    refine h.attached.mono (fun o ho => ?_) (fun o o' ho => ⟨Nat.lt_of_lt_of_le ho.1 hle, ho.2⟩)
    obtain ⟨hlt, hlast⟩ := ho
    have hnone : NoneDeclared ts o.line stop' := by
      intro t ht l hl _
      exact hlast.none t ht l hl (h.past t ht l hl)
    exact ⟨Nat.lt_of_lt_of_le hlt hle, hlast.file_left, rfl, Nat.le_trans hlast.le hle, hnone⟩
  named := by
    intro t ht origin horigin name i hold hnew
    obtain ⟨x, hx, hrank, hlt, hlast⟩ := h.named t ht origin horigin name i hold hnew
    exact ⟨x, hx, hrank, Nat.lt_of_lt_of_le hlt hle, hlast⟩

/-- One more turn has been taken, on line `l` or at a gap: what it declared is open, and what it named is the
item that was open. -/
theorem Latest.concat {t : Turn} (h : Latest d file ts (l + 1) m)
    (hline : ∀ origin, t.event.origin? = some origin → origin = ⟨file, l⟩)
    (hopen : ∀ k, t.DeclaresAt k → ∀ i x, m.place.item? = some i → m.document.footing? i = some x →
      x.origin.line = l)
    (hnames : ∀ name i, t.before.references.get? name = none → t.after.references.get? name = some i →
      ∃ x, m.document.footing? i = some x ∧ x.rank = .item ∧ LastBefore file ts x.origin ⟨file, l⟩) :
    Latest d file (ts ++ [t]) (l + 1) m := by
  have heq {k : Nat} (hk : t.DeclaresAt k) : k = l := by
    obtain ⟨-, -, origin, ho, rfl⟩ := hk
    rw [hline origin ho]
  -- up to a line that the reader has passed, the new turn declares nothing
  have hbefore {o o' : Origin} (hlt : o'.line < l + 1) (hlast : LastBefore file ts o o') :
      LastBefore file (ts ++ [t]) o o' := by
    refine ⟨hlast.file_left, hlast.file_right, hlast.le, noneDeclared_concat hlast.none fun k hk hk' => ?_⟩
    have := heq hk
    omega
  constructor
  · intro t' ht' k hk
    rcases List.mem_append.1 ht' with hmem | hmem
    · exact h.past t' hmem k hk
    · obtain rfl := List.mem_singleton.1 hmem
      have := heq hk
      omega
  · constructor
    · intro i x hi hx
      obtain ⟨hlt, hlast⟩ := h.attached.window hi hx
      refine ⟨hlt, hlast.file_left, rfl, hlast.le, noneDeclared_concat hlast.none fun k hk _ => ?_⟩
      have hat := hopen k hk i x hi hx
      have := heq hk
      omega
    · intro id i x y hid hx hparent hy hitem
      obtain ⟨hlt, hlast⟩ := h.attached.below hid hx hparent hy hitem
      exact ⟨hlt, hbefore hlt hlast⟩
  · intro t' ht' origin horigin name i hold hnew
    rcases List.mem_append.1 ht' with hmem | hmem
    · obtain ⟨x, hx, hrank, hlt, hlast⟩ := h.named t' hmem origin horigin name i hold hnew
      exact ⟨x, hx, hrank, hlt, hbefore hlt hlast⟩
    · obtain rfl := List.mem_singleton.1 hmem
      obtain ⟨x, hx, hrank, hlast⟩ := hnames name i hold hnew
      obtain rfl := hline origin horigin
      exact ⟨x, hx, hrank, Nat.lt_succ_self l, hbefore (Nat.lt_succ_self l) hlast⟩

/-- At a gap the open item ends. -/
theorem Latest.step_gap (h : Latest d file ts l m) :
    Latest d file (ts ++ [⟨m, .gap, (m.step .code .gap).1, (m.step .code .gap).2⟩]) (l + 1)
      (m.step .code .gap).1 := by
  have hlater := h.later (Nat.le_succ l)
  have hclosed : Latest d file ts (l + 1) (m.step .code .gap).1 :=
    ⟨hlater.past, hlater.attached.close, hlater.named⟩
  refine hclosed.concat (fun origin ho => nomatch ho) (fun k hk => ?_) (fun name i hold hnew => ?_)
  · exact absurd hk.1 (by simp [Turn.takesItemHeader, Event.title?])
  · exact absurd (hold.symm.trans hnew) (by simp)

/-- The step for a block on line `l`.  A header of an item that nothing is found about has opened an item, and any
other block leaves the open item as it is or closes it. -/
theorem Latest.step_block {b : Block} (h : Latest d file ts l m) (hs : Standing file l m)
    (hb : b.origin = ⟨file, l⟩) :
    Latest d file (ts ++ [⟨m, .block b, (m.step .code (.block b)).1, (m.step .code (.block b)).2⟩]) (l + 1)
      (m.step .code (.block b)).1 := by
  have hlater := h.later (Nat.le_succ l)
  have hself : l < l + 1 ∧ LastBefore file ts ⟨file, l⟩ ⟨file, l + 1⟩ := by
    refine ⟨Nat.lt_succ_self l, rfl, rfl, Nat.le_succ l, fun t ht k hk _ => ?_⟩
    exact Nat.le_of_lt (h.past t ht k hk)
  have htake (o : Origin) (ho : o.line < l + 1 ∧ LastBefore file ts o ⟨file, l + 1⟩) :
      l < l + 1 ∧ LastBefore file ts o ⟨file, l⟩ := by
    refine ⟨Nat.lt_succ_self l, ho.2.file_left, rfl, Nat.le_of_lt_succ ho.1, fun t ht k hk hlt => ?_⟩
    exact ho.2.none t ht k hk (Nat.lt_succ_of_lt hlt)
  have hfooting {id : NodeId} {x : Footing} (hx : m.document.footing? id = some x) :
      (m.take .code b).manual.document.footing? id = some x :=
    take_code_keeps (P := fun m => m.document.footing? id = some x) (fun he hm => he.footing? hm) hx
  have htaken : Latest d file ts (l + 1) (m.take .code b).manual := by
    refine ⟨hlater.past, hlater.attached.take hs hself htake hb, fun t ht origin ho name i hold hnew => ?_⟩
    obtain ⟨x, hx, hrank, hrest⟩ := hlater.named t ht origin ho name i hold hnew
    exact ⟨x, hfooting hx, hrank, hrest⟩
  refine htaken.concat (fun origin ho => ?_) (fun k hk i x hi hx => ?_) (fun name i hold hnew => ?_)
  · obtain rfl := Option.some.inj ho
    exact hb
  · obtain ⟨hheader, hfound, -⟩ := hk
    have hitem : b.title ∈ itemTitles ∧ m.rules.get? b.title = none := by
      simpa [Turn.takesItemHeader, Event.title?] using hheader
    have hnone : (m.take .code b).error = none := by simpa [step] using hfound
    obtain ⟨j, y, hj, hy, horigin⟩ := take_opens hitem.1 hitem.2 hnone
    obtain rfl : j = i := Option.some.inj (hj.symm.trans hi)
    obtain rfl : y = x := Option.some.inj (hy.symm.trans hx)
    rw [horigin, hb]
  · obtain ⟨x, hx, hrank, hw⟩ := hlater.attached.take_registers hs hself htake hb hold hnew
    exact ⟨x, hx, hrank, (htake x.origin hw).2⟩

theorem Latest.step_header (h : Latest d file ts l m) (hs : Standing file l m) (hd : Header)
    (below : List String) :
    let event := Source.headerEvent file l hd below
    Latest d file (ts ++ [⟨m, event, (m.step .code event).1, (m.step .code event).2⟩]) (l + 1)
      (m.step .code event).1 := by
  intro event
  cases hread : Body.read l below with
  | ok body =>
    have hevent : event = .block ⟨hd.title, hd.metadata, hd.subtitle, body.lines, ⟨file, l⟩⟩ := by
      simp only [event, Source.headerEvent, hread]
    rw [hevent]
    exact h.step_block hs rfl
  | error k =>
    have hevent : event = .shallow hd.title ⟨file, l⟩ := by
      simp only [event, Source.headerEvent, hread]
    rw [hevent]
    refine (h.later (Nat.le_succ l)).concat (fun origin ho => ?_) (fun k hk => ?_) (fun name i hold hnew => ?_)
    · exact (Option.some.inj ho).symm
    · exact absurd hk.2.1 (by simp [step])
    · exact absurd (hold.symm.trans hnew) (by simp)

/-- The run: from any line on. -/
theorem Latest.stepAll (d : Document) (file : String) (line : Nat) (lines : List String) :
    ∀ ts m, Standing file line m → Latest d file ts line m →
      ∃ stop, Latest d file (ts ++ m.turns .code (Source.eventsFrom file line lines)) stop
        (m.stepAll .code (Source.eventsFrom file line lines)).1 := by
  induction line, lines using Source.lines_induction with
  | nil line =>
    intro ts m hs h
    rw [Source.eventsFrom]
    exact ⟨line + 1, h.step_gap⟩
  | header line text rest hd hh ih =>
    intro ts m hs h
    have hle := Body.le_next line rest
    rw [Source.eventsFrom_header hh, turns, List.append_cons]
    refine ih _ _ (invariant_standing.later (by omega) (invariant_standing.step_header .code hd rest hs)) ?_
    exact (h.step_header hs hd rest).later (by omega)
  | other line text rest hh ih =>
    intro ts m hs h
    rw [Source.eventsFrom_other hh]
    split
    · exact ih ts m (invariant_standing.later (by omega) hs) (h.later (by omega))
    · rw [turns, List.append_cons]
      exact ih _ _ (invariant_standing.later (by omega) (invariant_standing.close hs)) h.step_gap

end Latest

/-- Reading one more source after any others keeps to the last declaration. -/
theorem latest_readCode (settings : Settings) (inputs : List Input) (file : String) (lines : List String) :
    let before := (new settings).readAll inputs
    ∃ stop, Latest before.document file (before.start.turns .code (Source.events file lines)) stop
      (before.readCode file lines).1 := by
  intro before
  have hstanding : Standing file 1 before.start :=
    ⟨forest_readAll settings inputs, fun hid => absurd hid List.not_mem_nil⟩
  exact Latest.stepAll before.document file 1 lines [] _ hstanding (latest_start before file 1)

/-- **Between an item and what is attached to it, every other declaration of an item was refused.**  A node that
a source puts below an item, and a block that gives it a name, follow its header in the same source, and
whenever the header of an item stands between the two, there is a finding about it. -/
theorem attached_to_last_accepted (settings : Settings) (inputs : List Input) (file : String)
    (lines : List String) :
    let before := (new settings).readAll inputs
    let after := (before.readCode file lines).1
    let turns := before.start.turns .code (Source.events file lines)
    (∀ i id item child, id ∈ after.document.children i → id ∉ before.document.children i →
      after.document.node? i = some item → item.isItem = true → after.document.node? id = some child →
      LastBefore file turns item.origin child.origin) ∧
    (∀ t ∈ turns, ∀ origin, t.event.origin? = some origin → ∀ name i,
      t.before.references.get? name = none → t.after.references.get? name = some i →
      ∃ item, after.document.node? i = some item ∧ item.isItem = true ∧
        LastBefore file turns item.origin origin) := by
  intro before after turns
  obtain ⟨stop, hlatest⟩ := latest_readCode settings inputs file lines
  constructor
  · intro i id item child hchild hnew hitem hkind hnode
    have hsize := (grows_readCode before file lines).document.size_le_of_new_child hchild hnew
    have hparent := (Document.mem_children.1 hchild).2.2
    have hown : child.parent = some i := by
      rw [Document.parent?, hnode] at hparent
      exact hparent
    have hbelow := hlatest.attached.below hsize (Document.footing?_of_node? hnode) hown
      (Document.footing?_of_node? hitem) (Node.rank_of_isItem hkind)
    exact hbelow.2
  · intro t ht origin horigin name i hold hnew
    obtain ⟨x, hx, hrank, -, hlast⟩ := hlatest.named t ht origin horigin name i hold hnew
    obtain ⟨item, hitem, rfl⟩ := Option.map_eq_some_iff.1 hx
    exact ⟨item, hitem, Node.isItem_of_rank hrank, hlast⟩

/-- The second declaration of `a()` is refused, and the alias after it is one of `b()`. -/
theorem attached_to_last_accepted_alias :
    let lines := ["// File: a.scad", "// Module: a()", "", "// Module: b()", "// Module: a()", "// Alias: c()"]
    let before := (new Settings.default).readAll []
    let after := (before.readCode "a.scad" lines).1
    let turns := before.start.turns .code (Source.events "a.scad" lines)
    (∃ item child, after.document.node? 3 = some item ∧ item.isItem = true ∧ item.origin.line = 4 ∧
      after.document.node? 4 = some child ∧ child.origin.line = 6 ∧
      LastBefore "a.scad" turns item.origin child.origin) ∧
    (∃ t ∈ turns, t.before.references.get? "c()" = none ∧ t.after.references.get? "c()" = some 3 ∧
      ∃ item, after.document.node? 3 = some item ∧ item.isItem = true ∧
        LastBefore "a.scad" turns item.origin ⟨"a.scad", 6⟩) := by
  intro lines before after turns
  have hrun :
      ((∃ item, after.document.node? 3 = some item ∧ item.isItem = true ∧ item.origin.line = 4) ∧
        (∃ child, after.document.node? 4 = some child ∧ child.origin.line = 6) ∧
        after.document.children 3 = [4] ∧ before.document.children 3 = []) ∧
      (turns.any fun t => t.event.origin? == some ⟨"a.scad", 6⟩ &&
        (t.before.references.get? "c()").isNone && t.after.references.get? "c()" == some 3) = true := by
    decide +kernel
  obtain ⟨⟨⟨item, hi, hkind, hiline⟩, ⟨child, hc, hcline⟩, hchildren, hnone⟩, hturn⟩ := hrun
  have htheorem := attached_to_last_accepted Settings.default [] "a.scad" lines
  constructor
  · refine ⟨item, child, hi, hkind, hiline, hc, hcline, ?_⟩
    exact htheorem.1 3 4 item child (by rw [hchildren]; exact List.mem_singleton.2 rfl)
      (by rw [hnone]; exact List.not_mem_nil) hi hkind hc
  · obtain ⟨t, ht, hgood⟩ := List.any_eq_true.1 hturn
    simp only [Bool.and_eq_true, beq_iff_eq, Option.isNone_iff_eq_none] at hgood
    obtain ⟨⟨horigin, hold⟩, hnew⟩ := hgood
    exact ⟨t, ht, hold, hnew, htheorem.2 t ht _ horigin "c()" 3 hold hnew⟩

/-- The refused header of `a()` on line 5 stands between `b()` and the alias that becomes its child. -/
theorem attached_past_refused_declaration :
    let lines := ["// File: a.scad", "// Module: a()", "", "// Module: b()", "// Module: a()", "// Alias: c()"]
    let before := new Settings.default
    let after := (before.readCode "a.scad" lines).1
    let turns := before.start.turns .code (Source.events "a.scad" lines)
    after.document.children 3 = [4] ∧ after.references.get? "c()" = some 3 ∧
      (∃ item, after.document.node? 3 = some item ∧ item.isItem = true ∧ item.origin = ⟨"a.scad", 4⟩) ∧
      (∃ child, after.document.node? 4 = some child ∧ child.origin = ⟨"a.scad", 6⟩) ∧
      ∃ t ∈ turns, t.takesItemHeader = true ∧ t.event.origin? = some ⟨"a.scad", 5⟩ := by
  intro lines before after turns
  have hrun : (after.document.children 3 = [4] ∧ after.references.get? "c()" = some 3 ∧
      (∃ item, after.document.node? 3 = some item ∧ item.isItem = true ∧ item.origin = ⟨"a.scad", 4⟩) ∧
      (∃ child, after.document.node? 4 = some child ∧ child.origin = ⟨"a.scad", 6⟩)) ∧
      (turns.any fun t => t.takesItemHeader && t.event.origin? == some ⟨"a.scad", 5⟩) = true := by
    decide +kernel
  obtain ⟨⟨hchildren, hname, hitem, hchild⟩, hturn⟩ := hrun
  obtain ⟨t, ht, hgood⟩ := List.any_eq_true.1 hturn
  rw [Bool.and_eq_true, beq_iff_eq] at hgood
  exact ⟨hchildren, hname, hitem, hchild, t, ht, hgood⟩

end Manual

end ScadManual
