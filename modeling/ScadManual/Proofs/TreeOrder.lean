import ScadManual.Proofs.Additions

/-!
# Trees in the order of their making

Nodes are numbered as they are made, and the tree of a file is walked from the top down.  These are two orders, and
they need not agree: something might be put below a node when a later one already stands beside it.  Only includes
come late in this way.  They stand right below the file, wherever reading is, and reading then goes on where it was.
In everything else a block is put below one of the open nodes, and beside an open node nothing but includes comes
after it.

`Document.InTurn` says so of a document, and `Manual.AtEdge` of the place where the next block will land.  So a walk
that passes over the includes meets the nodes of a tree in the order of their numbers, and of their lines.
-/

namespace ScadManual

namespace Document

variable {d : Document} {a b c id p q : NodeId} {n : Node} {x y : Footing}

/-! ## Standing in a tree -/

/-- A node stands in the tree of another: it is that node, or it stands below it at some depth. -/
def StandsIn (d : Document) (c a : NodeId) : Prop :=
  Relation.ReflTransGen (fun x y => d.parent? x = some y) c a

theorem StandsIn.refl (d : Document) (a : NodeId) : d.StandsIn a a := Relation.ReflTransGen.refl

theorem StandsIn.cases (h : d.StandsIn c a) : c = a ∨ ∃ p, d.parent? c = some p ∧ d.StandsIn p a :=
  Relation.ReflTransGen.cases_head h

theorem StandsIn.lt_size (h : d.StandsIn c a) (ha : a < d.size) : c < d.size := by
  rcases h.cases with rfl | ⟨p, hp, -⟩
  · exact ha
  · exact lt_size_of_parent? hp

/-- What stands in a tree comes after its root. -/
theorem Forest.le_of_standsIn (hd : d.Forest) (h : d.StandsIn c a) : a ≤ c := by
  induction h with
  | refl => exact Nat.le_refl c
  | tail _ hp ih => exact Nat.le_trans (Nat.le_of_lt (hd.parent_lt hp)) ih

theorem parent?_add_of_lt (n : Node) (hc : c < d.size) : (d.add n).parent? c = d.parent? c := by
  rw [parent?, node?_add, if_neg (Nat.ne_of_lt hc), parent?]

theorem parent?_add_size (d : Document) (n : Node) : (d.add n).parent? d.size = n.parent := by
  rw [parent?, node?_add, if_pos rfl, Option.bind_some]

/-- The way up from an old node leads past old nodes only. -/
theorem Forest.standsIn_of_add (hd : d.Forest) (hc : c < d.size) (h : (d.add n).StandsIn c a) : d.StandsIn c a := by
  induction h using Relation.ReflTransGen.head_induction_on with
  | refl => exact .refl d a
  | head hp _ ih =>
    rw [parent?_add_of_lt n hc] at hp
    exact .head hp (ih (Nat.lt_trans (hd.parent_lt hp) hc))

/-- From a new node the way up starts with the node it is put below. -/
theorem Forest.standsIn_of_add_size (hd : d.Forest) (hd' : (d.add n).Forest) (h : (d.add n).StandsIn d.size a) :
    d.size = a ∨ ∃ q, n.parent = some q ∧ d.StandsIn q a := by
  rcases h.cases with heq | ⟨q, hq, hqa⟩
  · exact .inl heq
  · have hlt : q < d.size := hd'.parent_lt hq
    rw [parent?_add_size] at hq
    exact .inr ⟨q, hq, hd.standsIn_of_add hlt hqa⟩

/-- A node of the longer document is an old one or the new one. -/
theorem footing?_add_cases (h : (d.add n).footing? id = some x) :
    id < d.size ∧ d.footing? id = some x ∨ id = d.size ∧ x = n.footing := by
  rw [footing?_add] at h
  split at h
  · next hid => exact .inr ⟨hid, (Option.some.inj h).symm⟩
  · exact .inl ⟨lt_size_of_footing? h, h⟩

theorem standsIn_congr {d' : Document} (hf : ∀ id, d'.footing? id = d.footing? id) (h : d'.StandsIn c a) :
    d.StandsIn c a := by
  have hp : d'.parent? = d.parent? := by
    funext id
    rw [parent?_eq_footing, hf, ← parent?_eq_footing]
  rw [StandsIn, hp] at h
  exact h

/-! ## Trees made in turn -/

/-- Beside a node, only includes come after it. -/
def LastBeside (d : Document) (id : NodeId) : Prop :=
  ∀ b x y p, id < b → d.footing? id = some x → d.footing? b = some y → x.parent = some p → y.parent = some p →
    y.rank = .includes

/-- The trees of a document were made in turn. -/
structure InTurn (d : Document) : Prop where
  /-- Once something else than includes stands beside a node, nothing is put into the tree of that node. -/
  settled : ∀ {a b c p x y}, a < b → d.footing? a = some x → d.footing? b = some y → x.parent = some p →
    y.parent = some p → y.rank ≠ .includes → d.StandsIn c a → c < b
  /-- In any tree, lines never go back. -/
  lines : ∀ {a b r x y}, a < b → d.StandsIn a r → d.StandsIn b r → d.footing? a = some x → d.footing? b = some y →
    x.origin.line ≤ y.origin.line

theorem InTurn.empty : Document.empty.InTurn := by
  constructor <;> simp [Document.empty, footing?, node?]

theorem InTurn.congr {d' : Document} (h : d.InTurn) (hf : ∀ id, d'.footing? id = d.footing? id) : d'.InTurn where
  settled := by
    intro a b c p x y hab hx hy hxp hyp hrank hc
    rw [hf] at hx hy
    exact h.settled hab hx hy hxp hyp hrank (standsIn_congr hf hc)
  lines := by
    intro a b r x y hab har hbr hx hy
    rw [hf] at hx hy
    exact h.lines hab (standsIn_congr hf har) (standsIn_congr hf hbr) hx hy

/-- A node is added below a node such that, all the way up, only includes stand beside that come later, and no line
goes back. -/
theorem InTurn.add (h : d.InTurn) (hd : d.Forest) (hd' : (d.add n).Forest)
    (hedge : ∀ q, n.parent = some q → ∀ a, d.StandsIn q a → d.LastBeside a ∧
      ∀ c x, a ≤ c → d.footing? c = some x → x.origin.line ≤ n.origin.line) : (d.add n).InTurn := by
  -- the new node is the last, so it is not the earlier of two
  have hearlier {a b : NodeId} {x y : Footing} (hab : a < b) (hx : (d.add n).footing? a = some x)
      (hy : (d.add n).footing? b = some y) : a < d.size ∧ d.footing? a = some x := by
    have hb := lt_size_of_footing? hy
    rw [size_add] at hb
    rcases footing?_add_cases hx with hold | ⟨rfl, -⟩
    · exact hold
    · exact absurd (Nat.le_of_lt_succ hb) (Nat.not_le.2 hab)
  constructor
  · intro a b c p x y hab hx hy hxp hyp hrank hc
    obtain ⟨ha, hx⟩ := hearlier hab hx hy
    have hsize : c < d.size + 1 := size_add d n ▸ hc.lt_size (size_add d n ▸ Nat.lt_succ_of_lt ha)
    rcases Nat.lt_or_eq_of_le (Nat.le_of_lt_succ hsize) with hold | rfl
    · rcases footing?_add_cases hy with ⟨-, hy⟩ | ⟨rfl, -⟩
      · exact h.settled hab hx hy hxp hyp hrank (hd.standsIn_of_add hold hc)
      · exact hold
    · rcases hd.standsIn_of_add_size hd' hc with rfl | ⟨q, hq, hqa⟩
      · exact absurd ha (Nat.lt_irrefl _)
      · rcases footing?_add_cases hy with ⟨-, hy⟩ | ⟨rfl, rfl⟩
        · exact absurd ((hedge q hq a hqa).1 b x y p hab hx hy hxp hyp) hrank
        · -- the new node would stand below the node that it stands beside
          obtain rfl : q = p := Option.some.inj (hq.symm.trans hyp)
          exact absurd (hd.le_of_standsIn hqa) (Nat.not_le.2 (hd.below hx hxp).1)
  · intro a b r x y hab har hbr hx hy
    obtain ⟨ha, hx⟩ := hearlier hab hx hy
    have har := hd.standsIn_of_add ha har
    rcases footing?_add_cases hy with ⟨hb, hy⟩ | ⟨rfl, rfl⟩
    · exact h.lines hab har (hd.standsIn_of_add hb hbr) hx hy
    · rcases hd.standsIn_of_add_size hd' hbr with rfl | ⟨q, hq, hqr⟩
      · exact absurd (hd.le_of_standsIn har) (Nat.not_le.2 hab)
      · exact (hedge q hq r hqr).2 a x (hd.le_of_standsIn har) hx

theorem lastBeside_size (d : Document) (n : Node) : (d.add n).LastBeside d.size := by
  intro b x y p hlt _ hy
  have hb := lt_size_of_footing? hy
  rw [size_add] at hb
  exact absurd (Nat.le_of_lt_succ hb) (Nat.not_le.2 hlt)

/-- A node that is put below a later one, or is an include, does not stand beside and after a node in other ways. -/
theorem LastBeside.add (h : d.LastBeside id) (hd : d.Forest)
    (hn : n.kind.rank = .includes ∨ ∀ q, n.parent = some q → id ≤ q) : (d.add n).LastBeside id := by
  intro b x y p hlt hx hy hxp hyp
  rcases footing?_add_cases hx with ⟨-, hx⟩ | ⟨rfl, -⟩
  · rcases footing?_add_cases hy with ⟨-, hy⟩ | ⟨rfl, rfl⟩
    · exact h b x y p hlt hx hy hxp hyp
    · rcases hn with hrank | hle
      · exact hrank
      · exact absurd (hd.below hx hxp).1 (Nat.not_lt.2 (hle p hyp))
  · exact lastBeside_size d n b x y p hlt hx hy hxp hyp

end Document

/-! ## The edge of a tree -/

/-- What stands right below what among the open nodes. -/
def Place.chain : Place → List (NodeId × NodeId)
  | .outside | .file _ => []
  | .section f s => [(s, f)]
  | .subsection f s t => [(s, f), (t, s)]
  | .item f s i => [(s, f), (i, s)]

namespace Place

variable {p : Place} {f s id c q : NodeId} {r : Rank}

theorem chain_of_section? (hf : p.file? = some f) (hs : p.section? = some s) : (s, f) ∈ p.chain := by
  cases p <;> simp_all [file?, section?, chain]

theorem chain_closeItem (h : (c, q) ∈ p.closeItem.chain) : (c, q) ∈ p.chain := by
  match p with
  | .outside | .file _ | .section _ _ | .subsection _ _ _ => exact h
  | .item f s i => exact List.mem_append_left [(i, s)] h

/-- An open node is the file or stands below an open node. -/
theorem opened_cases (h : (id, r) ∈ p.opened) :
    r = .file ∨ ∃ q r', (id, q) ∈ p.chain ∧ (q, r') ∈ p.opened := by
  match p with
  | .file f => exact .inl (Prod.mk.inj (List.mem_singleton.1 h)).2
  | .section f s =>
    simp only [opened, List.mem_cons, Prod.mk.injEq, List.not_mem_nil, or_false] at h
    rcases h with ⟨-, rfl⟩ | ⟨rfl, -⟩
    · exact .inl rfl
    · exact .inr ⟨f, .file, by simp [chain], by simp [opened]⟩
  | .subsection f s t | .item f s t =>
    simp only [opened, List.mem_cons, Prod.mk.injEq, List.not_mem_nil, or_false] at h
    rcases h with ⟨-, rfl⟩ | ⟨rfl, -⟩ | ⟨rfl, -⟩
    · exact .inl rfl
    · exact .inr ⟨f, .file, by simp [chain], by simp [opened]⟩
    · exact .inr ⟨s, .section, by simp [chain], by simp [opened]⟩

/-- Where open nodes come after those they stand below, the innermost is the last. -/
theorem le_of_opened (hchain : ∀ c q, (c, q) ∈ p.chain → q < c) (h : (id, r) ∈ p.opened)
    (hq : p.parent? = some q) : id ≤ q := by
  match p with
  | .file f =>
    obtain ⟨rfl, -⟩ := Prod.mk.inj (List.mem_singleton.1 h)
    exact Nat.le_of_eq (Option.some.inj hq)
  | .section f s =>
    have hfs : f < s := hchain s f (by simp [chain])
    obtain rfl : s = q := Option.some.inj hq
    simp only [opened, List.mem_cons, Prod.mk.injEq, List.not_mem_nil, or_false] at h
    rcases h with ⟨rfl, -⟩ | ⟨rfl, -⟩
    · exact Nat.le_of_lt hfs
    · exact Nat.le_refl _
  | .subsection f s t | .item f s t =>
    have hfs : f < s := hchain s f (by simp [chain])
    have hst : s < t := hchain t s (by simp [chain])
    obtain rfl : t = q := Option.some.inj hq
    simp only [opened, List.mem_cons, Prod.mk.injEq, List.not_mem_nil, or_false] at h
    rcases h with ⟨rfl, -⟩ | ⟨rfl, -⟩ | ⟨rfl, -⟩
    · exact Nat.le_of_lt (Nat.lt_trans hfs hst)
    · exact Nat.le_of_lt hst
    · exact Nat.le_refl _

/-- Everything but includes is put below the innermost open node. -/
theorem parent?_of_taker? {k : Kind} (h : p.taker? k = some q) : k.rank = .includes ∨ p.parent? = some q := by
  match k with
  | .includes => exact .inl rfl
  | .synopsis | .tags | .topics | .seeAlso => exact .inr (parent?_of_item? h)
  | .image info =>
    rw [taker?] at h
    cases hk : info.kind <;> rw [hk] at h
    · exact .inr h
    · exact .inr (parent?_of_item? h)
  | .generic | .label | .text | .headerless | .bulletList | .numberedList | .table _ => exact .inr h

end Place

namespace Manual

variable {m m' : Manual} {file : String} {l : Nat} {b : Block}

/-- The trees were made in turn, and the place is at their edge: the open nodes stand below one another, and
beside them only includes come after them. -/
structure AtEdge (m : Manual) : Prop where
  inTurn : m.document.InTurn
  chain : ∀ {c p}, (c, p) ∈ m.place.chain → m.document.parent? c = some p
  last : ∀ {id r}, (id, r) ∈ m.place.opened → m.document.LastBeside id

theorem AtEdge.congr (h : AtEdge m) (hf : ∀ id, m'.document.footing? id = m.document.footing? id)
    (hp : m'.place = m.place) : AtEdge m' where
  inTurn := h.inTurn.congr hf
  chain := by
    intro c p hc
    rw [hp] at hc
    rw [Document.parent?_eq_footing, hf, ← Document.parent?_eq_footing]
    exact h.chain hc
  last := by
    intro id r hid
    rw [hp] at hid
    intro b x y p hlt hx hy
    rw [hf] at hx hy
    exact h.last hid b x y p hlt hx hy

/-- Going up from an open node leads to open nodes. -/
theorem AtEdge.opened_of_standsIn (h : AtEdge m) (hs : Standing file l m) {q a : NodeId} {r : Rank}
    (hq : (q, r) ∈ m.place.opened) (ha : m.document.StandsIn q a) : ∃ r', (a, r') ∈ m.place.opened := by
  induction ha using Relation.ReflTransGen.head_induction_on generalizing r with
  | refl => exact ⟨r, hq⟩
  | head hp _ ih =>
    rcases Place.opened_cases hq with rfl | ⟨q', r', hchain, hopen⟩
    · -- a file stands below nothing
      obtain ⟨x, hx, hrank⟩ := (hs.opened hq).rank
      rw [Document.parent?_eq_footing, hx] at hp
      obtain ⟨-, y, -, hbelow, -⟩ := hs.forest.below hx hp
      rw [hrank] at hbelow
      exact absurd hbelow (by simp [Rank.mayStandBelow])
    · obtain rfl := Option.some.inj (hp.symm.trans (h.chain hchain))
      exact ih hopen

/-- The innermost open node is the last of them. -/
theorem AtEdge.le_parent (h : AtEdge m) (hs : Standing file l m) {id q : NodeId} {r : Rank}
    (hid : (id, r) ∈ m.place.opened) (hq : m.place.parent? = some q) : id ≤ q :=
  Place.le_of_opened (fun _ _ hc => hs.forest.parent_lt (h.chain hc)) hid hq

/-- A node is put below an open one, and the place may move to it. -/
theorem AtEdge.add (h : AtEdge m) (hs : Standing file l m) {n : Node} {q : NodeId} {r : Rank} {place : Place}
    (hd : (m.document.add n).Forest) (hopen : (q, r) ∈ m.place.opened) (hp : n.parent = some q)
    (ho : n.origin = ⟨file, l⟩)
    (hchain : ∀ {c p}, (c, p) ∈ place.chain → (c, p) ∈ m.place.chain ∨ (c, p) = (m.document.size, q))
    (hplace : ∀ {id r'}, (id, r') ∈ place.opened → id = m.document.size ∨
      (id, r') ∈ m.place.opened ∧ (n.kind.rank = .includes ∨ id ≤ q)) :
    AtEdge { m.addNode n with place } := by
  have hparent : ∀ q', n.parent = some q' → q' = q := fun q' hq' => Option.some.inj (hq'.symm.trans hp)
  constructor
  · refine h.inTurn.add hs.forest hd fun q' hq' a ha => ?_
    obtain rfl := hparent q' hq'
    obtain ⟨r', ha'⟩ := h.opened_of_standsIn hs hopen ha
    refine ⟨h.last ha', fun c x hac hx => ?_⟩
    rw [ho]
    exact ((hs.opened ha').since hac hx).2
  · intro c p hc
    rcases hchain hc with hold | hnew
    · have hcp := h.chain hold
      exact (Document.parent?_add_of_lt n (Document.lt_size_of_parent? hcp)).trans hcp
    · obtain ⟨rfl, rfl⟩ := Prod.mk.inj hnew
      exact (Document.parent?_add_size m.document n).trans hp
  · intro id r' hid
    rcases hplace hid with rfl | ⟨hold, hn⟩
    · exact Document.lastBeside_size m.document n
    · refine (h.last hold).add hs.forest (hn.imp_right fun hle q' hq' => ?_)
      obtain rfl := hparent q' hq'
      exact hle

/-- A subsection or an item is opened below the open section. -/
theorem AtEdge.add_inSection (h : AtEdge m) (hs : Standing file l m) {n : Node} {f s : NodeId} {r : Rank}
    {place : Place} (hd : (m.document.add n).Forest) (hf : m.place.file? = some f) (hsect : m.place.section? = some s)
    (hp : n.parent = some s) (ho : n.origin = ⟨file, l⟩)
    (hchain : place.chain = [(s, f), (m.document.size, s)])
    (hplace : place.opened = [(f, .file), (s, .section), (m.document.size, r)]) :
    AtEdge { m.addNode n with place } := by
  have hsf := Place.chain_of_section? hf hsect
  have hlt : f < s := hs.forest.parent_lt (h.chain hsf)
  refine h.add hs hd (Place.opened_of_section? hsect) hp ho (fun hc => ?_) fun hid => ?_
  · rw [hchain] at hc
    rcases List.mem_cons.1 hc with hc | hc
    · rw [hc]
      exact .inl hsf
    · exact .inr (List.mem_singleton.1 hc)
  · rw [hplace] at hid
    simp only [List.mem_cons, Prod.mk.injEq, List.not_mem_nil, or_false] at hid
    rcases hid with ⟨rfl, rfl⟩ | ⟨rfl, rfl⟩ | ⟨rfl, -⟩
    · exact .inr ⟨Place.opened_of_file? hf, .inr (Nat.le_of_lt hlt)⟩
    · exact .inr ⟨Place.opened_of_section? hsect, .inr (Nat.le_refl _)⟩
    · exact .inl rfl

/-- A node is put where the place takes it. -/
theorem AtEdge.add_taken (h : AtEdge m) (hs : Standing file l m) {n : Node} {q : NodeId}
    (hd : (m.document.add n).Forest) (ht : m.place.taker? n.kind = some q) (hp : n.parent = some q)
    (ho : n.origin = ⟨file, l⟩) : AtEdge (m.addNode n) := by
  obtain ⟨r, hr, -⟩ := Place.opened_of_taker? ht
  refine h.add hs hd hr hp ho (fun hc => .inl hc) fun hid => .inr ⟨hid, ?_⟩
  rcases Place.parent?_of_taker? ht with hincludes | hparent
  · exact .inl hincludes
  · exact .inr (h.le_parent hs hid hparent)

/-- The step of the run: one edit. -/
theorem AtEdge.edit (h : AtEdge m) (hs : Standing file l m) (hb : b.origin = ⟨file, l⟩) (he : Edit b m m') :
    AtEdge m' := by
  have hforest := (hs.edit hb he).forest
  cases he with
  | rules hrules => exact ⟨h.inTurn, h.chain, h.last⟩
  | openFile hf =>
    constructor
    · exact h.inTurn.add hs.forest hforest fun q hq => absurd hq (by simp [Block.node])
    · intro c p hc
      exact absurd hc List.not_mem_nil
    · intro id r hid
      obtain ⟨rfl, -⟩ := Prod.mk.inj (List.mem_singleton.1 hid)
      exact Document.lastBeside_size m.document _
  | openSection hf title subtitle body =>
    have hfile := Place.opened_of_file? hf
    refine h.add hs hforest hfile rfl hb (fun hc => .inr (List.mem_singleton.1 hc)) fun hid => ?_
    rcases List.mem_cons.1 hid with hid | hid
    · obtain ⟨rfl, rfl⟩ := Prod.mk.inj hid
      exact .inr ⟨hfile, .inr (Nat.le_refl _)⟩
    · exact .inl (Prod.mk.inj (List.mem_singleton.1 hid)).1
  | openSubsection hf hs' => exact h.add_inSection hs hforest hf hs' rfl hb rfl rfl
  | @openItem f s hf hs' fresh =>
    have hadd : AtEdge { m.addNode (b.node (.item ItemInfo.empty) (some s)) with
        place := .item f s m.document.size } := h.add_inSection hs hforest hf hs' rfl hb rfl rfl
    exact ⟨hadd.inTurn, hadd.chain, hadd.last⟩
  | describeFile hf change => exact h.congr (fun id => footing?_modifyFile m _ id change) rfl
  | describeItem hi change hc => exact h.congr (fun id => footing?_modifyItem m _ id change) rfl
  | addAlias hi fresh => exact h.congr (fun id => footing?_modifyItem _ _ id _) rfl
  | @image parent info n _ ht hp ho =>
    -- the counter is no matter of where nodes stand
    have hfooting (id : NodeId) := footing?_countImage m parent id info.kind
    exact (h.congr hfooting rfl).add_taken (hs.congr hfooting rfl) hforest ht hp (ho.trans hb)
  | child n ht hp ho => exact h.add_taken hs hforest ht hp (ho.trans hb)

theorem invariant_atEdge : Invariant fun file l m => Standing file l m ∧ AtEdge m where
  later hl h := ⟨invariant_standing.later hl h.1, h.2⟩
  frame := by
    intro file l m m' hsame h
    refine ⟨invariant_standing.frame hsame h.1, h.2.congr (fun id => ?_) hsame.2⟩
    rw [document, hsame.1, document]
  close h := ⟨invariant_standing.close h.1, h.2.inTurn, fun hc => h.2.chain (Place.chain_closeItem hc),
    fun hid => h.2.last (Place.opened_closeItem hid)⟩
  edit hb he h := ⟨h.1.edit hb he, h.2.edit h.1 hb he⟩

/-- Whatever is read, trees are made in turn. -/
theorem inTurn_readAll (settings : Settings) (inputs : List Input) :
    ((new settings).readAll inputs).document.InTurn := by
  have hreached := invariant_atEdge.reached (P := fun m => m.document.Forest ∧ m.document.InTurn)
    (fun file h => ⟨⟨h.1, fun hid => absurd hid List.not_mem_nil⟩, h.2, fun hc => absurd hc List.not_mem_nil,
      fun hid => absurd hid List.not_mem_nil⟩)
    (by
      intro file l m m' h hlib
      rw [document, hlib]
      exact ⟨h.1.forest, h.2.inTurn⟩)
    settings ⟨.empty, .empty⟩ inputs
  exact hreached.2

end Manual

end ScadManual
