import ScadManual.Proofs.HeaderLines
import ScadManual.Proofs.Links

/-!
# The expansion of links

Links are looked for from left to right: the first place where one starts is the next link, and the search goes on
behind it.  That search finds the cut of the text.  So an expanded text is the escaped plain pieces with, between them,
what each name stands for; what a link puts in is not looked at, and what is found are the names that stand for nothing.
-/

namespace ScadManual.Link

/-! ## The search from the left -/

/-- A character of the name of a link: an ASCII letter or digit, `_` or a parenthesis. -/
def NameChar (x : Char) : Prop :=
  ('A' ≤ x ∧ x ≤ 'Z') ∨ ('a' ≤ x ∧ x ≤ 'z') ∨ ('0' ≤ x ∧ x ≤ '9') ∨ x ∈ ['_', '(', ')']

theorem isNameChar_iff {x : Char} : isNameChar x = true ↔ NameChar x := by
  show (((x.isUpper || x.isLower) || x.isDigit) || x == '_' || x == '(' || x == ')') = true ↔ _
  simp only [Bool.or_eq_true, Header.isUpper_iff, Header.isLower_iff, Header.isDigit_iff, beq_iff_eq, NameChar,
    List.mem_cons, List.not_mem_nil, or_false, or_assoc]

theorem isName_iff {name : List Char} : IsName name ↔ name ≠ [] ∧ ∀ x ∈ name, NameChar x := by
  simp only [IsName, isNameChar_iff]

/-- A link starts at the front of the characters. -/
def Starts (cs : List Char) : Prop := ∃ name, IsName name ∧ token name <+: cs

/-- The cut that the search from the left finds. -/
inductive Leftmost : List Char → Cut → Prop
  | none {cs : List Char} (hnone : ∀ front back, cs = front ++ back → ¬Starts back) : Leftmost cs ⟨cs, []⟩
  /-- No link starts before the first one, and what follows it is searched by itself. -/
  | link {head name rest : List Char} {c : Cut} (hname : IsName name)
      (hfirst : ∀ front back, head ++ (token name ++ rest) = front ++ back → front.length < head.length → ¬Starts back)
      (hrest : Leftmost rest c) : Leftmost (head ++ (token name ++ rest)) ⟨head, (name, c.head) :: c.links⟩

section Search

variable {cs : List Char} {c : Cut}

theorem starts_iff : Starts cs ↔ token? cs ≠ none := by
  rw [Option.ne_none_iff_exists']
  constructor
  · rintro ⟨name, hname, rest, rfl⟩
    exact ⟨(name, rest), token?_eq_some_iff.2 ⟨hname, rfl⟩⟩
  · rintro ⟨⟨name, rest⟩, htoken⟩
    obtain ⟨hname, rfl⟩ := token?_eq_some_iff.1 htoken
    exact ⟨name, hname, List.prefix_append _ _⟩

/-- A link somewhere starts somewhere, before the end. -/
theorem exists_starts (h : HasLink cs) : ∃ front back, cs = front ++ back ∧ front.length < cs.length ∧ Starts back := by
  obtain ⟨name, hname, before, after, rfl⟩ := h
  refine ⟨before, token name ++ after, List.append_assoc _ _ _, ?_, name, hname, List.prefix_append _ _⟩
  simp only [token, List.length_append, List.length_cons]
  omega

/-- What the search finds divides the text at all its links. -/
theorem Leftmost.divides (h : Leftmost cs c) : c.Divides cs := by
  induction h with
  | @none cs hnone =>
    refine ⟨List.append_nil cs, by simp, fun hlink => ?_, by simp⟩
    obtain ⟨front, back, hsplit, -, hstarts⟩ := exists_starts hlink
    exact hnone front back hsplit hstarts
  | @link head name rest c hname hfirst _ ih =>
    refine ⟨?_, List.forall_mem_cons.2 ⟨hname, ih.names⟩, fun hlink => ?_,
      List.forall_mem_cons.2 ⟨ih.head, ih.between⟩⟩
    · have hjoined := ih.joined
      simp only [Cut.joined, List.flatMap_cons, List.append_assoc] at hjoined ⊢
      rw [hjoined]
    · -- a link inside the plain text in front would start before the first one
      obtain ⟨front, back, rfl, hlt, inner, hinner, hprefix⟩ := exists_starts hlink
      refine hfirst front (back ++ (token name ++ rest)) (List.append_assoc _ _ _) hlt ⟨inner, hinner, ?_⟩
      exact hprefix.trans (List.prefix_append _ _)

/-- A character in front of which nothing starts belongs to the plain text before the first link. -/
theorem Leftmost.cons {x : Char} (hx : ¬Starts (x :: cs)) (h : Leftmost cs c) :
    Leftmost (x :: cs) ⟨x :: c.head, c.links⟩ := by
  cases h with
  | none hnone =>
    refine .none fun front back hsplit => ?_
    cases front with
    | nil => exact (List.nil_append back ▸ hsplit) ▸ hx
    | cons y front => exact hnone front back (List.cons.inj hsplit).2
  | @link head name rest c hname hfirst hrest =>
    refine @Leftmost.link (x :: head) name rest c hname (fun front back hsplit hlt => ?_) hrest
    cases front with
    | nil => exact (List.nil_append back ▸ hsplit) ▸ hx
    | cons y front => exact hfirst front back (List.cons.inj hsplit).2 (Nat.lt_of_succ_lt_succ hlt)

theorem leftmost_cut (cs : List Char) : Leftmost cs (cut cs) := by
  induction cs using text_induction with
  | nil =>
    rw [cut_nil]
    refine .none fun front back hsplit hstarts => ?_
    obtain ⟨-, rfl⟩ := List.append_eq_nil_iff.1 hsplit.symm
    exact starts_iff.1 hstarts rfl
  | link name rest hname ih =>
    rw [cut_token hname]
    exact @Leftmost.link [] name rest _ hname (fun _ _ _ hlt => absurd hlt (Nat.not_lt_zero _)) ih
  | plain x cs hnone ih =>
    rw [cut_cons hnone]
    exact ih.cons fun hstarts => starts_iff.1 hstarts hnone

theorem leftmost_iff : Leftmost cs c ↔ c = cut cs :=
  ⟨fun h => h.divides.eq_cut, fun h => h ▸ leftmost_cut cs⟩

end Search

/-! ## Expanded texts -/

namespace Cut

/-- The text with its plain pieces escaped and its links as `write` has them. -/
def expanded (escape write : String → String) (c : Cut) : String :=
  escape (String.ofList c.head) ++
    String.join (c.links.map fun l => write (String.ofList l.1) ++ escape (String.ofList l.2))

/-- The pieces of the expanded text: escaped text, and the items whose links stand between. -/
def pieces (refs : References) (escape : String → String) (c : Cut) : List (String ⊕ NodeId) :=
  .inl (escape (String.ofList c.head)) :: c.links.flatMap fun l =>
    [(refs.get? (String.ofList l.1)).elim (.inl (escape (String.ofList l.1))) .inr, .inl (escape (String.ofList l.2))]

variable {c : Cut} {refs : References} {escape : String → String}

theorem expanded_congr {write write' : String → String} (h : ∀ name ∈ c.names, write name = write' name) :
    c.expanded escape write = c.expanded escape write' := by
  rw [expanded, expanded]
  congr 2
  refine List.map_congr_left fun l hl => ?_
  rw [h _ (List.mem_map_of_mem hl)]

/-- With its links written back a text is as it was. -/
theorem expanded_spelled {text : String} (h : c.Divides text.toList) : c.expanded id spelled = text := by
  rw [← String.toList_inj, ← h.joined, expanded, joined, String.toList_append, id, String.toList_ofList,
    String.toList_join, List.flatMap_map]
  congr 2
  funext l
  rw [String.toList_append, toList_spelled, String.toList_ofList, id, String.toList_ofList]

theorem items_pieces : (c.pieces refs escape).filterMap Sum.getRight? = c.names.filterMap refs.get? := by
  rw [pieces, List.filterMap_cons_none rfl, List.filterMap_flatMap, names, List.filterMap_map,
    List.filterMap_eq_flatMap_toList]
  congr 1
  funext l
  show _ = (refs.get? (String.ofList l.1)).toList
  cases refs.get? (String.ofList l.1) <;> rfl

theorem expanded_eq_pieces (link : NodeId → String) :
    c.expanded escape (fun name => (refs.get? name).elim (escape name) link) =
      String.join ((c.pieces refs escape).map (Sum.elim id link)) := by
  rw [← String.toList_inj, expanded, pieces, List.map_cons, String.join_cons, String.toList_append,
    String.toList_append, String.toList_join, String.toList_join, List.flatMap_map, List.map_flatMap,
    List.flatMap_assoc]
  congr 2
  funext l
  cases refs.get? (String.ofList l.1) <;> simp

end Cut

theorem render_eq (refs : References) (escape : String → String) (link : NodeId → String) (text : String) :
    render refs escape link text =
      (cut text.toList).expanded escape fun name => (refs.get? name).elim (escape name) link := by
  have hlink : renderLink refs escape link = fun name => (refs.get? name).elim (escape name) link := by
    funext name
    rw [renderLink]
    cases refs.get? name <;> rfl
  rw [render, hlink]
  rfl

/-- **A text is expanded at the links that the search from the left finds, and nowhere else.**  These are the only cut
of the text at all its links, whose names are of letters, digits, `_` and parentheses.  Plain pieces and names that
stand for nothing are escaped, and each such name is found once, in order; every other name becomes the link of its
item.  Which items are linked to, and the text around their links, does not depend on what a link is.  Written back, the
links give the text again. -/
theorem expanded_at_leftmost_links (refs : References) (text : String) :
    (∀ name, IsName name ↔ name ≠ [] ∧ ∀ x ∈ name, NameChar x) ∧
    ∃ c : Cut, (∀ d, Leftmost text.toList d ↔ d = c) ∧ (∀ d : Cut, d.Divides text.toList ↔ d = c) ∧
      (∀ escape link, render refs escape link text =
        c.expanded escape fun name => (refs.get? name).elim (escape name) link) ∧
      (∀ escape link origin, expand refs escape link origin text =
        ⟨render refs escape link text, (c.names.filter fun name => (refs.get? name).isNone).map fun name =>
          ⟨origin, .reference (spelled name)⟩⟩) ∧
      (∀ escape, ∃ pieces : List (String ⊕ NodeId), pieces.filterMap Sum.getRight? = c.names.filterMap refs.get? ∧
        ∀ link, render refs escape link text = String.join (pieces.map (Sum.elim id link))) ∧
      ∀ link, (∀ name ∈ c.names, ∃ item, refs.get? name = some item ∧ link item = spelled name) →
        render refs id link text = text := by
  refine ⟨fun name => isName_iff, cut text.toList, fun d => leftmost_iff, fun d => divides_iff,
    fun escape link => render_eq .., ?_, ?_, ?_⟩
  · intro escape link origin
    rfl
  · intro escape
    refine ⟨(cut text.toList).pieces refs escape, Cut.items_pieces, fun link => ?_⟩
    rw [render_eq, Cut.expanded_eq_pieces]
  · intro link hnames
    have hback : ∀ name ∈ (cut text.toList).names, (refs.get? name).elim (id name) link = spelled name := by
      intro name hmem
      obtain ⟨item, hget, hlink⟩ := hnames name hmem
      rw [hget]
      exact hlink
    rw [render_eq, Cut.expanded_congr hback]
    exact Cut.expanded_spelled (divides_cut _)

/-- A link with a brace more on either side and another right behind it, one not closed and one without a name. -/
theorem expanded_at_leftmost_links_braces :
    let refs : References := ⟨[("foo()", 0), ("b", 1)]⟩
    let link : NodeId → String := fun item => if item = 0 then spelled "foo()" else spelled "b"
    let text := "\x7b\x7b\x7bfoo()\x7d\x7d\x7d\x7b\x7bb\x7d\x7d \x7b\x7bb\x7d \x7b\x7b\x7d\x7d"
    render refs id link text = text ∧
      render refs id (fun _ => "\x7b\x7bb\x7d\x7d") text =
        "\x7b\x7b\x7bb\x7d\x7d\x7d\x7b\x7bb\x7d\x7d \x7b\x7bb\x7d \x7b\x7b\x7d\x7d" := by
  intro refs link text
  obtain ⟨-, c, hleftmost, -, hrender, -, -, hback⟩ := expanded_at_leftmost_links refs text
  obtain rfl : cut text.toList = c := (hleftmost _).1 (leftmost_cut _)
  have hnames : (cut text.toList).names = ["foo()", "b"] := by decide +kernel
  refine ⟨hback link fun name hmem => ?_, ?_⟩
  · rw [hnames] at hmem
    simp only [List.mem_cons, List.not_mem_nil, or_false] at hmem
    rcases hmem with rfl | rfl
    · exact ⟨0, rfl, rfl⟩
    · exact ⟨1, rfl, rfl⟩
  · rw [hrender]
    decide +kernel

end ScadManual.Link
