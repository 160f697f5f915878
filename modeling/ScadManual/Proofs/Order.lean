import Mathlib.Data.Finset.Card
import Mathlib.Logic.Equiv.Basic
import ScadManual.Proofs.Abreast
import ScadManual.Proofs.Stance

/-!
# The order of sources

All sources go into one document and one register, so what was read before could show in what is read after.
It does so only through names: sources that declare different names can be read in any order, and lead to the
same manual up to the numbers of the nodes.

The argument is about two neighbours, `x` and `y`.  Read after `x`, the nodes of `y` get higher numbers and are
otherwise those that `y` makes alone, and the same holds of `x` after `y`.  So both orders hold the same two
groups of nodes, which change places.  Any other order is reached by changing neighbours.
-/

namespace ScadManual

/-! ## Numbers that change -/

/-- Numbers from `n` on make room for `k` nodes. -/
def shift (n k : Nat) (i : Nat) : Nat := if i < n then i else i + k

theorem shift_of_lt {n i : Nat} (h : i < n) (k : Nat) : shift n k i = i := if_pos h

theorem shift_add (n k j : Nat) : shift n k (n + j) = n + j + k := if_neg (by omega)

theorem shift_injective (n k : Nat) : Function.Injective (shift n k) := by
  intro i j h
  unfold shift at h
  split at h <;> split at h <;> omega

/-- The `a` numbers from `n` on change places with the `b` numbers after them. -/
def exchange (n a b : Nat) : Equiv.Perm Nat where
  toFun i := if i < n then i else if i < n + a then i + b else if i < n + a + b then i - a else i
  invFun i := if i < n then i else if i < n + b then i + a else if i < n + b + a then i - b else i
  left_inv i := by
    dsimp only
    split_ifs <;> omega
  right_inv i := by
    dsimp only
    split_ifs <;> omega

theorem exchange_apply (n a b i : Nat) : exchange n a b i =
    if i < n then i else if i < n + a then i + b else if i < n + a + b then i - a else i :=
  rfl

section Exchange

variable {n a b i : Nat}

/-- The first group makes room for the second, -/
theorem exchange_of_lt (h : i < n + a) : exchange n a b i = shift n b i := by
  rw [exchange_apply, shift]
  split_ifs <;> omega

/-- which takes back the room it has made. -/
theorem exchange_shift (h : i < n + b) : exchange n a b (shift n a i) = i := by
  rw [exchange_apply, shift]
  split_ifs <;> omega

theorem exchange_of_le (h : n + a + b ≤ i) : exchange n a b i = i := by
  rw [exchange_apply]
  split_ifs <;> omega

/-- A number belongs to the first group or comes from the second. -/
theorem lt_or_eq_shift (h : i < n + a + b) : i < n + a ∨ ∃ j < n + b, shift n a j = i := by
  by_cases hfirst : i < n + a
  · exact .inl hfirst
  · refine .inr ⟨i - a, by omega, ?_⟩
    rw [shift]
    split_ifs <;> omega

end Exchange

/-! ## Documents -/

namespace Document

theorem parent?_of_node? {d : Document} {i : NodeId} {n : Node} (hn : d.node? i = some n) :
    d.parent? i = n.parent := by
  rw [parent?, hn, Option.bind_some]

/-- A document is carried into one that it is the start of, with room made for what was added. -/
theorem Extends.carried {d d' : Document} (h : d.Extends d') (hd : d.Forest) {k : Nat}
    (hk : d'.size = d.size + k) : d.Carried (shift d.size k) d' where
  injective := shift_injective d.size k
  next := by
    intro j
    rw [shift_add, hk, Nat.add_right_comm]
  node? := by
    intro i n hn
    have hi := lt_size_of_node? hn
    have hparent : n.renumber (shift d.size k) = n := by
      refine Node.renumber_eq_self fun p hp => shift_of_lt ?_ k
      exact Nat.lt_trans (hd.parent_lt ((parent?_of_node? hn).trans hp)) hi
    rw [shift_of_lt hi, hparent, h.node? hi, hn]
  children := by
    intro i hi
    have hsame : (d.children i).map (shift d.size k) = (d.children i).map id :=
      List.map_congr_left fun c hc => shift_of_lt (mem_children.1 hc).1 k
    rw [shift_of_lt hi, h.children hi, hsame, List.map_id]
  ascends := by
    intro i p hp
    have hi := lt_size_of_parent? hp
    have hlt := hd.parent_lt hp
    rw [shift_of_lt hi, shift_of_lt (Nat.lt_trans hlt hi)]
    exact ⟨hlt, hlt⟩

/-! Two documents have a common start of `n` nodes.  One goes on with `a` nodes, the other with `b`, and
each is then followed by what the other has more. -/

section Exchange

variable {dx dy dxy dyx : Document} {n a b : Nat} (hx : dx.size = n + a) (hy : dy.size = n + b)
  (hxy : dx.Extends dxy) (hyx : dy.Extends dyx) (hsecond : dy.Carried (shift n a) dxy)
  (hfirst : dx.Carried (shift n b) dyx)

include hy hsecond in
theorem size_exchange : dxy.size = n + a + b := by
  rw [← hsecond.next_zero, hy, shift_add, Nat.add_right_comm]

include hx hy hxy hyx hsecond hfirst

/-- A node of the first group moves up by the size of the second, and one of the second moves back. -/
theorem node?_exchange {i : NodeId} {m : Node} (hm : dxy.node? i = some m) :
    dyx.node? (exchange n a b i) = some (m.renumber (exchange n a b)) := by
  have hi := lt_size_of_node? hm
  rw [size_exchange hy hsecond] at hi
  rcases lt_or_eq_shift hi with hlt | ⟨j, hj, rfl⟩
  · have hold : dx.node? i = some m := (hxy.node? (by rw [hx]; exact hlt)).symm.trans hm
    rw [exchange_of_lt hlt, hfirst.node? hold]
    refine congrArg some (Node.renumber_congr fun p hp => (exchange_of_lt ?_).symm)
    exact Nat.lt_trans (hfirst.ascends ((parent?_of_node? hold).trans hp)).1 hlt
  · rw [← hy] at hj
    obtain ⟨old, hold⟩ := exists_node? hj
    obtain rfl : old.renumber (shift n a) = m := Option.some.inj ((hsecond.node? hold).symm.trans hm)
    rw [exchange_shift (by rw [← hy]; exact hj), hyx.node? hj, hold, Node.renumber_renumber]
    refine congrArg some (Node.renumber_eq_self fun p hp => exchange_shift ?_).symm
    rw [← hy]
    exact Nat.lt_trans (hsecond.ascends ((parent?_of_node? hold).trans hp)).1 hj

/-- Children move along with their parent, in their order. -/
theorem children_exchange {i : NodeId} (hi : i < dxy.size) :
    dyx.children (exchange n a b i) = (dxy.children i).map (exchange n a b) := by
  rw [size_exchange hy hsecond] at hi
  rcases lt_or_eq_shift hi with hlt | ⟨j, hj, rfl⟩
  · rw [← hx] at hlt
    rw [exchange_of_lt (by rw [← hx]; exact hlt), hfirst.children hlt, hxy.children hlt]
    refine List.map_congr_left fun c hc => (exchange_of_lt ?_).symm
    rw [← hx]
    exact (mem_children.1 hc).1
  · rw [← hy] at hj
    rw [exchange_shift (by rw [← hy]; exact hj), hyx.children hj, hsecond.children hj, List.map_map]
    refine (List.map_id _).symm.trans (List.map_congr_left fun c hc => (exchange_shift ?_).symm)
    rw [← hy]
    exact (mem_children.1 hc).1

/-- One document is the other with the two groups exchanged. -/
theorem carried_exchange (hdxy : dxy.Forest) (hdyx : dyx.Forest) : dxy.Carried (exchange n a b) dyx where
  injective := (exchange n a b).injective
  next := by
    intro k
    rw [size_exchange hy hsecond, size_exchange hx hfirst, Nat.add_right_comm n b a]
    exact exchange_of_le (Nat.le_add_right _ k)
  node? := node?_exchange hx hy hxy hyx hsecond hfirst
  children := children_exchange hx hy hxy hyx hsecond hfirst
  ascends := by
    intro i p hp
    refine ⟨hdxy.parent_lt hp, hdyx.parent_lt ?_⟩
    obtain ⟨m, hm⟩ := exists_node? (lt_size_of_parent? hp)
    rw [parent?_of_node? (node?_exchange hx hy hxy hyx hsecond hfirst hm)]
    show m.parent.map _ = _
    rw [← parent?_of_node? hm, hp, Option.map_some]

end Exchange

end Document

namespace Manual

/-! ## Manuals that can come about -/

/-- The manual comes about by reading inputs. -/
def Reachable (m : Manual) : Prop := ∃ settings inputs, m = (new settings).readAll inputs

section Reachable

variable {m : Manual}

theorem Reachable.readAll (h : m.Reachable) (more : List Input) : (m.readAll more).Reachable := by
  obtain ⟨settings, inputs, rfl⟩ := h
  exact ⟨settings, inputs ++ more, (readAll_append _ inputs more).symm⟩

theorem Reachable.readCode (h : m.Reachable) (file : String) (lines : List String) :
    (m.readCode file lines).1.Reachable :=
  h.readAll [.code file lines]

theorem Reachable.forest (h : m.Reachable) : m.document.Forest := by
  obtain ⟨settings, inputs, rfl⟩ := h
  exact forest_readAll settings inputs

theorem Reachable.listed (h : m.Reachable) {name : String} {i : NodeId} (hi : m.references.get? name = some i) :
    i < m.document.size := by
  obtain ⟨settings, inputs, rfl⟩ := h
  obtain ⟨n, -, hn, -⟩ := ((named_readAll settings inputs).get?_eq_some_iff name i).1 hi
  exact Document.lt_size_of_node? hn

theorem Reachable.aliasesByTitle (h : m.Reachable) :
    m.rules.AliasesByTitle ∧ m.baseRules.AliasesByTitle := by
  obtain ⟨settings, inputs, rfl⟩ := h
  exact kept_aliasesByTitle.reached settings
    ⟨Registry.aliasesByTitle_empty, Registry.aliasesByTitle_builtin⟩ inputs

theorem Reachable.carried_self (h : m.Reachable) (S : String → Prop) : m.Carried S id m where
  document := .refl h.forest
  names _ _ := (congrFun Option.map_id _).symm
  listed _ _ := h.listed
  configuration := rfl

/-- A source leaves alone what it does not declare. -/
theorem Reachable.get?_readCode (h : m.Reachable) (file : String) {lines : List String} {name : String}
    (hname : name ∉ declaredNames lines) :
    (m.readCode file lines).1.references.get? name = m.references.get? name :=
  ((h.carried_self (· ∈ declaredNames lines)).readCode h.aliasesByTitle file lines fun _ hin => hin).2.2 name hname

/-- To other sources, a manual looks the same before and after a source. -/
theorem Reachable.carried_readCode (h : m.Reachable) (file : String) (lines : List String) {k : Nat}
    (hk : (m.readCode file lines).1.document.size = m.document.size + k) :
    m.Carried (· ∉ declaredNames lines) (shift m.document.size k) (m.readCode file lines).1 where
  document := (grows_readCode m file lines).document.carried h.forest hk
  names := by
    intro name hname
    rw [h.get?_readCode file hname]
    cases hget : m.references.get? name with
    | none => rfl
    | some i => rw [Option.map_some, shift_of_lt (h.listed hget)]
  listed _ _ := h.listed
  configuration := (grows_readCode m file lines).configuration

end Reachable

/-! ## Two neighbours -/

/-- Sources, each a name and lines, that declare no name in common. -/
def DeclareApart (x y : String × List String) : Prop := ∀ name ∈ declaredNames x.2, name ∉ declaredNames y.2

instance (x y : String × List String) : Decidable (DeclareApart x y) :=
  inferInstanceAs (Decidable (∀ name ∈ declaredNames x.2, name ∉ declaredNames y.2))

theorem DeclareApart.symm {x y : String × List String} (h : DeclareApart x y) : DeclareApart y x :=
  fun name hy hx => h name hx hy

/-- The second of two sources finds what it would find without the first, and what it makes is only shifted. -/
theorem Reachable.readCode_after {m : Manual} (h : m.Reachable) {x y : String × List String}
    (hxy : DeclareApart x y) {a : Nat}
    (ha : (m.readCode x.1 x.2).1.document.size = m.document.size + a) :
    (m.readCode y.1 y.2).1.Carried (· ∉ declaredNames x.2) (shift m.document.size a)
        ((m.readCode x.1 x.2).1.readCode y.1 y.2).1 ∧
      ((m.readCode x.1 x.2).1.readCode y.1 y.2).2 = (m.readCode y.1 y.2).2 := by
  obtain ⟨hcarried, hfound, -⟩ := (h.carried_readCode x.1 x.2 ha).readCode h.aliasesByTitle y.1 y.2 hxy.symm
  exact ⟨hcarried, hfound⟩

/-- **Neighbours that declare different names can change places.** -/
theorem Reachable.swap {m : Manual} (h : m.Reachable) {x y : String × List String} (hxy : DeclareApart x y) :
    ∃ τ : Equiv.Perm NodeId, (∀ i < m.document.size, τ i = i) ∧
      ((m.readCode x.1 x.2).1.readCode y.1 y.2).1.Carried (fun _ => True) τ
        ((m.readCode y.1 y.2).1.readCode x.1 x.2).1 := by
  obtain ⟨a, ha⟩ := Nat.exists_eq_add_of_le (grows_readCode m x.1 x.2).document.size_le
  obtain ⟨b, hb⟩ := Nat.exists_eq_add_of_le (grows_readCode m y.1 y.2).document.size_le
  obtain ⟨hsecond, -⟩ := h.readCode_after hxy ha
  obtain ⟨hfirst, -⟩ := h.readCode_after hxy.symm hb
  have hx := h.readCode x.1 x.2
  have hy := h.readCode y.1 y.2
  have hgrowsx := grows_readCode (m.readCode x.1 x.2).1 y.1 y.2
  have hgrowsy := grows_readCode (m.readCode y.1 y.2).1 x.1 x.2
  refine ⟨exchange m.document.size a b, fun i hi => ?_, ?_, fun name _ => ?_, ?_, ?_⟩
  · rw [exchange_of_lt (Nat.lt_add_right a hi), shift_of_lt hi]
  · exact Document.carried_exchange ha hb hgrowsx.document hgrowsy.document hsecond.document hfirst.document
      (hx.readCode y.1 y.2).forest (hy.readCode x.1 x.2).forest
  · by_cases hname : name ∈ declaredNames y.2
    · -- a name of the second source, whose nodes are shifted when it comes second
      have hnot := hxy.symm name hname
      rw [hy.get?_readCode x.1 hnot, hsecond.names name hnot, Option.map_map]
      cases hget : (m.readCode y.1 y.2).1.references.get? name with
      | none => rfl
      | some i =>
        have hlt := hy.listed hget
        rw [hb] at hlt
        rw [Option.map_some, Function.comp_apply, exchange_shift hlt]
    · rw [hfirst.names name hname, hx.get?_readCode y.1 hname]
      cases hget : (m.readCode x.1 x.2).1.references.get? name with
      | none => rfl
      | some i =>
        have hlt := hx.listed hget
        rw [ha] at hlt
        rw [Option.map_some, Option.map_some, exchange_of_lt hlt]
  · exact fun _ _ => (hx.readCode y.1 y.2).listed
  · rw [hgrowsx.configuration, hgrowsy.configuration, (grows_readCode m x.1 x.2).configuration,
      (grows_readCode m y.1 y.2).configuration]

/-! ## Any order -/

/-- Sources as inputs. -/
def codeInputs (sources : List (String × List String)) : List Input :=
  sources.map fun s => .code s.1 s.2

theorem foundAll_codeInputs_cons (m : Manual) (s : String × List String) (sources : List (String × List String)) :
    m.foundAll (codeInputs (s :: sources)) =
      (m.readCode s.1 s.2).2 ++ (m.readCode s.1 s.2).1.foundAll (codeInputs sources) :=
  rfl

/-- The same sources, read into two manuals that are the same up to numbers. -/
theorem Carried.readAll {σ : NodeId → NodeId} {m m' : Manual} (h : m.Carried (fun _ => True) σ m')
    (hm : m.Reachable) (sources : List (String × List String)) :
    (m.readAll (codeInputs sources)).Carried (fun _ => True) σ (m'.readAll (codeInputs sources)) ∧
      m'.foundAll (codeInputs sources) = m.foundAll (codeInputs sources) := by
  induction sources generalizing m m' with
  | nil => exact ⟨h, rfl⟩
  | cons s sources ih =>
    obtain ⟨hfirst, hfound, -⟩ := h.readCode hm.aliasesByTitle s.1 s.2 fun _ _ => trivial
    obtain ⟨hrest, hmore⟩ := ih hfirst (hm.readCode s.1 s.2)
    refine ⟨hrest, ?_⟩
    rw [foundAll_codeInputs_cons, hfound, hmore, foundAll_codeInputs_cons]

theorem Carried.trans {S : String → Prop} {σ τ : NodeId → NodeId} {m m' m'' : Manual} (h : m.Carried S σ m')
    (h' : m'.Carried S τ m'') : m.Carried S (τ ∘ σ) m'' where
  document := h.document.trans h'.document
  names := by
    intro name hname
    rw [h'.names name hname, h.names name hname, Option.map_map]
  listed := h.listed
  configuration := h'.configuration.trans h.configuration

/-- What changing neighbours keeps, any change of order keeps. -/
theorem readAll_perm {sources sources' : List (String × List String)} (hperm : sources.Perm sources') {m : Manual}
    (h : m.Reachable) (hapart : sources.Pairwise DeclareApart) :
    ∃ τ : Equiv.Perm NodeId, (∀ i < m.document.size, τ i = i) ∧
      (m.readAll (codeInputs sources)).Carried (fun _ => True) τ (m.readAll (codeInputs sources')) ∧
      (m.foundAll (codeInputs sources)).Perm (m.foundAll (codeInputs sources')) := by
  induction hperm generalizing m with
  | nil => exact ⟨Equiv.refl _, fun _ _ => rfl, h.carried_self _, .refl _⟩
  | cons s _ ih =>
    obtain ⟨τ, hfix, hcarried, hfound⟩ := ih (h.readCode s.1 s.2) hapart.of_cons
    refine ⟨τ, fun i hi => hfix i ?_, hcarried, hfound.append_left (m.readCode s.1 s.2).2⟩
    exact Nat.lt_of_lt_of_le hi (grows_readCode m s.1 s.2).document.size_le
  | swap x y rest =>
    have hyx : DeclareApart y x := (List.pairwise_cons.1 hapart).1 x List.mem_cons_self
    obtain ⟨τ, hfix, hswap⟩ := h.swap hyx
    have hreached := (h.readCode y.1 y.2).readCode x.1 x.2
    obtain ⟨hcarried, hrest⟩ := hswap.readAll hreached rest
    refine ⟨τ, hfix, hcarried, ?_⟩
    -- each of the two finds the same in both orders, and so does what follows
    obtain ⟨a, ha⟩ := Nat.exists_eq_add_of_le (grows_readCode m x.1 x.2).document.size_le
    obtain ⟨b, hb⟩ := Nat.exists_eq_add_of_le (grows_readCode m y.1 y.2).document.size_le
    have hx : ((m.readCode y.1 y.2).1.readCode x.1 x.2).2 = (m.readCode x.1 x.2).2 := (h.readCode_after hyx hb).2
    have hy : ((m.readCode x.1 x.2).1.readCode y.1 y.2).2 = (m.readCode y.1 y.2).2 :=
      (h.readCode_after hyx.symm ha).2
    rw [foundAll_codeInputs_cons, foundAll_codeInputs_cons, hx, foundAll_codeInputs_cons,
      foundAll_codeInputs_cons, hy, hrest]
    exact List.perm_append_comm_assoc _ _ _
  | trans hfirst _ ih ih' =>
    have hapart' := hfirst.pairwise hapart fun hxy => hxy.symm
    obtain ⟨τ, hfix, hcarried, hfound⟩ := ih h hapart
    obtain ⟨τ', hfix', hcarried', hfound'⟩ := ih' h hapart'
    refine ⟨τ.trans τ', fun i hi => ?_, hcarried.trans hcarried', hfound.trans hfound'⟩
    rw [Equiv.trans_apply, hfix i hi, hfix' i hi]

/-! ## The same manual -/

/-- The second manual is the first one with its nodes numbered otherwise. -/
structure Renumbered (τ : Equiv.Perm NodeId) (m m' : Manual) : Prop where
  size : m'.document.size = m.document.size
  /-- Nodes have the same title, subtitle, body, kind and origin, and corresponding parents -/
  node? : ∀ i, m'.document.node? (τ i) = (m.document.node? i).map (Node.renumber τ)
  /-- and children, in the same order. -/
  children : ∀ i, m'.document.children (τ i) = (m.document.children i).map τ
  counted : ∀ i kind, m'.document.counted (τ i) kind = m.document.counted i kind
  files : ∀ i, τ i ∈ m'.document.files ↔ i ∈ m.document.files
  /-- The same names stand for corresponding nodes. -/
  names : ∀ name, m'.references.get? name = (m.references.get? name).map τ
  configuration : m'.configuration = m.configuration

section Renumbered

variable {τ : Equiv.Perm NodeId}

/-- Numbers beyond the nodes correspond, so there are as many nodes. -/
theorem size_eq_of_carried {d d' : Document} (h : d.Carried τ d') : d'.size = d.size := by
  have hrange : (Finset.range d.size).map τ.toEmbedding = Finset.range d'.size := by
    ext i
    simp only [Finset.mem_map, Finset.mem_range, Equiv.coe_toEmbedding]
    constructor
    · rintro ⟨j, hj, rfl⟩
      exact h.lt_size hj
    · intro hi
      refine ⟨τ.symm i, Nat.lt_of_not_le fun hle => ?_, τ.apply_symm_apply i⟩
      obtain ⟨k, hk⟩ := Nat.exists_eq_add_of_le hle
      have hbeyond := h.next k
      rw [← hk, τ.apply_symm_apply] at hbeyond
      exact absurd hi (Nat.not_lt.2 (hbeyond ▸ Nat.le_add_right _ k))
  rw [← Finset.card_range d'.size, ← hrange, Finset.card_map, Finset.card_range]

theorem Carried.renumbered {m m' : Manual} (h : m.Carried (fun _ => True) τ m') : m.Renumbered τ m' := by
  have hd := h.document
  have hsize := size_eq_of_carried hd
  have hbeyond {i : NodeId} (hi : m.document.size ≤ i) : m'.document.size ≤ τ i := by
    obtain ⟨k, rfl⟩ := Nat.exists_eq_add_of_le hi
    rw [hd.next]
    exact Nat.le_add_right _ k
  constructor
  · exact hsize
  · intro i
    by_cases hi : i < m.document.size
    · exact hd.node?_eq hi
    · have hle := Nat.le_of_not_lt hi
      rw [Document.node?_of_size_le hle, Document.node?_of_size_le (hbeyond hle), Option.map_none]
  · intro i
    by_cases hi : i < m.document.size
    · exact hd.children hi
    · have hle := Nat.le_of_not_lt hi
      rw [Document.children_of_size_le hle, Document.children_of_size_le (hbeyond hle), List.map_nil]
  · intro i kind
    by_cases hi : i < m.document.size
    · exact hd.counted_eq hi kind
    · have hle := Nat.le_of_not_lt hi
      rw [Document.counted, Document.node?_of_size_le (hbeyond hle), Document.counted,
        Document.node?_of_size_le hle]
  · intro i
    by_cases hi : i < m.document.size
    · simp [Document.files_eq, hi, hd.lt_size hi, hd.parent?_eq hi]
    · have hi' : ¬τ i < m'.document.size := Nat.not_lt.2 (hbeyond (Nat.le_of_not_lt hi))
      simp [Document.files_eq, hi, hi']
  · exact fun name => h.names name trivial
  · exact h.configuration

end Renumbered

/-- **Sources that declare different names can be read in any order.**  In both orders the manual is the same up
to the numbers of its nodes, of which those that were there before keep theirs, and the log gets the same
entries.  The sources may define headers of their own, and may be refused in part. -/
theorem reading_order_irrelevant (settings : Settings) (inputs : List Input)
    {sources sources' : List (String × List String)} (hperm : sources.Perm sources')
    (hapart : sources.Pairwise DeclareApart) (log : Log) :
    let m := (new settings).readAll inputs
    ∃ τ : Equiv.Perm NodeId, (∀ i < m.document.size, τ i = i) ∧
      (m.readAll (codeInputs sources)).Renumbered τ (m.readAll (codeInputs sources')) ∧
      ∀ e, e ∈ (log.recordAll (m.foundAll (codeInputs sources'))).entries ↔
        e ∈ (log.recordAll (m.foundAll (codeInputs sources))).entries := by
  intro m
  obtain ⟨τ, hfix, hcarried, hfound⟩ := readAll_perm hperm (m := m) ⟨settings, inputs, rfl⟩ hapart
  refine ⟨τ, hfix, hcarried.renumbered, fun e => ?_⟩
  rw [Log.mem_recordAll, Log.mem_recordAll]
  refine or_congr_right (exists_congr fun f => and_congr_left fun _ => ?_)
  exact hfound.symm.mem_iff

/-- Three sources, one of which declares a name twice and one of which defines a header for itself: in another
order the numbers differ, and nothing else does. -/
theorem reading_order_irrelevant_three :
    let a := ("a.scad", ["// File: a.scad", "// Module: m()", "// Aliases: n(), m()", "// Usage: m();"])
    let b := ("b.scad", ["// DefineHeader(Text): Hint", "// File: b.scad", "// Constant: K", "// Hint: text"])
    let c := ("c.scad", ["// File: c.scad", "// Function: f()", "// Hint: text"])
    let m := (new Settings.default).readAll []
    [a, b, c].Perm [c, a, b] ∧ [a, b, c].Pairwise DeclareApart ∧
      (m.readAll (codeInputs [a, b, c])).references.get? "n()" = some 2 ∧
      (m.readAll (codeInputs [c, a, b])).references.get? "n()" = some 5 ∧
      (m.foundAll (codeInputs [a, b, c])).length = 2 ∧
      ∃ τ : Equiv.Perm NodeId, (∀ i < m.document.size, τ i = i) ∧
        (m.readAll (codeInputs [a, b, c])).Renumbered τ (m.readAll (codeInputs [c, a, b])) ∧
        ∀ e, e ∈ (Log.empty.recordAll (m.foundAll (codeInputs [c, a, b]))).entries ↔
          e ∈ (Log.empty.recordAll (m.foundAll (codeInputs [a, b, c]))).entries := by
  intro a b c m
  have hperm : [a, b, c].Perm [c, a, b] := by decide +kernel
  have hapart : [a, b, c].Pairwise DeclareApart := by decide +kernel
  refine ⟨hperm, hapart, by decide +kernel, by decide +kernel, by decide +kernel, ?_⟩
  exact reading_order_irrelevant Settings.default [] hperm hapart Log.empty

end Manual

end ScadManual
