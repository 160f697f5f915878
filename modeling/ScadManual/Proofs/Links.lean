import Mathlib.Data.List.Infix
import Mathlib.Data.List.TakeWhile
import ScadManual.Page.File
import ScadManual.Proofs.Runs

/-!
# Links in text

A text is cut at its links in one way only: the names are such as a link can have, and no link is left in what
stands between them.  So what becomes of a text can be said without the search that finds the links.  Names of
items are free text, while those of links are of a few characters: an item can be linked to under a name exactly
when the name has only these.
-/

namespace ScadManual.Link

/-! ## Names and links -/

/-- A name that a link can have. -/
def IsName (name : List Char) : Prop := name ≠ [] ∧ ∀ c ∈ name, isNameChar c = true

instance (name : List Char) : Decidable (IsName name) :=
  decidable_of_iff (name ≠ [] ∧ name.all isNameChar = true) (by rw [IsName, List.all_eq_true])

/-- A link with the name. -/
def token (name : List Char) : List Char := '\x7b' :: '\x7b' :: (name ++ ['\x7d', '\x7d'])

/-- Is there a link somewhere? -/
def HasLink (cs : List Char) : Prop := ∃ name, IsName name ∧ token name <:+: cs

section Token

variable {name rest cs : List Char}

theorem toList_spelled (name : String) : (spelled name).toList = token name.toList := by
  simp [spelled, token]

theorem token_append (name rest : List Char) :
    token name ++ rest = '\x7b' :: '\x7b' :: (name ++ '\x7d' :: '\x7d' :: rest) := by
  simp [token]

theorem token_inj {a b : List Char} (h : token a = token b) : a = b := by
  simpa [token] using h

/-- A link starts here just when the characters begin with one. -/
theorem token?_eq_some_iff : token? cs = some (name, rest) ↔ IsName name ∧ cs = token name ++ rest := by
  constructor
  · intro h
    unfold token? at h
    split at h
    · next inner =>
      simp only at h
      split at h
      · next c more after hname hafter =>
        obtain ⟨rfl, rfl⟩ := Prod.mk.inj (Option.some.inj h)
        refine ⟨⟨by rw [hname]; exact List.cons_ne_nil _ _, fun x hx => List.mem_takeWhile_imp hx⟩, ?_⟩
        rw [token_append, ← hafter, List.takeWhile_append_dropWhile]
      · exact nomatch h
    · exact nomatch h
  · rintro ⟨⟨hne, hchars⟩, rfl⟩
    have hstop : isNameChar '\x7d' = false := by decide
    have htake : (name ++ '\x7d' :: '\x7d' :: rest).takeWhile isNameChar = name := by
      rw [List.takeWhile_append_of_pos hchars, List.takeWhile_cons_of_neg (by simp [hstop]), List.append_nil]
    have hdrop : (name ++ '\x7d' :: '\x7d' :: rest).dropWhile isNameChar = '\x7d' :: '\x7d' :: rest := by
      rw [List.dropWhile_append_of_pos hchars, List.dropWhile_cons_of_neg (by simp [hstop])]
    obtain ⟨c, more, rfl⟩ := List.exists_cons_of_ne_nil hne
    rw [token_append, token?]
    simp only [htake, hdrop]

/-- Behind a character at which no link starts there are no links but those of the rest. -/
theorem hasLink_cons_iff {c : Char} (h : token? (c :: cs) = none) : HasLink (c :: cs) ↔ HasLink cs := by
  constructor
  · rintro ⟨name, hname, hinfix⟩
    rcases List.infix_cons_iff.1 hinfix with ⟨rest, hrest⟩ | hinside
    · rw [token?_eq_some_iff.2 ⟨hname, hrest.symm⟩] at h
      exact nomatch h
    · exact ⟨name, hname, hinside⟩
  · rintro ⟨name, hname, hinfix⟩
    exact ⟨name, hname, List.infix_cons hinfix⟩

end Token

/-! ## The cut -/

namespace Cut

/-- The names of the links. -/
def names (c : Cut) : List String := c.links.map fun l => String.ofList l.1

/-- The characters that a cut divides. -/
def joined (c : Cut) : List Char := c.head ++ c.links.flatMap fun l => token l.1 ++ l.2

/-- The cut divides the characters at all their links. -/
structure Divides (c : Cut) (cs : List Char) : Prop where
  joined : c.joined = cs
  names : ∀ l ∈ c.links, IsName l.1
  head : ¬HasLink c.head
  between : ∀ l ∈ c.links, ¬HasLink l.2

end Cut

theorem not_hasLink_nil : ¬HasLink [] := by
  rintro ⟨name, -, hinfix⟩
  simp [token] at hinfix

theorem cut_token {name : List Char} (hname : IsName name) (rest : List Char) :
    cut (token name ++ rest) = ⟨[], (name, (cut rest).head) :: (cut rest).links⟩ := by
  have htoken : token? (token name ++ rest) = some (name, rest) := token?_eq_some_iff.2 ⟨hname, rfl⟩
  rw [cut]
  split
  · next heq =>
    obtain ⟨rfl, rfl⟩ := Prod.mk.inj (Option.some.inj (heq.symm.trans htoken))
    rfl
  · next heq => simp [htoken] at heq

theorem cut_cons {c : Char} {cs : List Char} (h : token? (c :: cs) = none) :
    cut (c :: cs) = ⟨c :: (cut cs).head, (cut cs).links⟩ := by
  rw [cut]
  split
  · next heq => simp [h] at heq
  · rfl

theorem cut_nil : cut [] = ⟨[], []⟩ := by
  rw [cut]
  split
  · next heq => simp [token?] at heq
  · rfl

/-- Cases of a text, from the front: it is at its end, a link starts, or a character stands before any link. -/
theorem text_induction {P : List Char → Prop} (nil : P [])
    (link : ∀ name rest, IsName name → P rest → P (token name ++ rest))
    (plain : ∀ c cs, token? (c :: cs) = none → P cs → P (c :: cs)) (cs : List Char) : P cs := by
  induction cs using cut.induct with
  | case1 cs name rest h _ ih =>
    obtain ⟨hname, rfl⟩ := token?_eq_some_iff.1 h
    exact link name rest hname ih
  | case2 => exact nil
  | case3 c cs h ih => exact plain c cs h ih

theorem divides_cut (cs : List Char) : (cut cs).Divides cs := by
  induction cs using text_induction with
  | nil =>
    rw [cut_nil]
    exact ⟨rfl, by simp, not_hasLink_nil, by simp⟩
  | link name rest hname ih =>
    rw [cut_token hname]
    refine ⟨?_, List.forall_mem_cons.2 ⟨hname, ih.names⟩, not_hasLink_nil,
      List.forall_mem_cons.2 ⟨ih.head, ih.between⟩⟩
    have hjoined := ih.joined
    simp only [Cut.joined, List.flatMap_cons, List.nil_append, List.append_assoc] at hjoined ⊢
    rw [hjoined]
  | plain c cs hnone ih =>
    rw [cut_cons hnone]
    refine ⟨congrArg (c :: ·) ih.joined, ih.names, ?_, ih.between⟩
    -- a link at the front of the head would be one at the front of the text
    have hhead : token? (c :: (cut cs).head) = none := by
      rw [Option.eq_none_iff_forall_ne_some]
      rintro ⟨name, after⟩ hstart
      obtain ⟨hname, hstart⟩ := token?_eq_some_iff.1 hstart
      have htext : c :: cs = token name ++ (after ++ (cut cs).links.flatMap fun l => token l.1 ++ l.2) := by
        rw [← List.append_assoc, ← hstart, List.cons_append]
        exact congrArg (c :: ·) ih.joined.symm
      rw [token?_eq_some_iff.2 ⟨hname, htext⟩] at hnone
      exact nomatch hnone
    rw [hasLink_cons_iff hhead]
    exact ih.head

/-! ## There is no other cut -/

/-- The characters around the name of a link. -/
def IsBrace (c : Char) : Prop := c = '\x7b' ∨ c = '\x7d'

theorem IsName.brace_not_mem {name : List Char} (hname : IsName name) {c : Char} (hc : IsBrace c) : c ∉ name := by
  intro hmem
  have hchar := hname.2 c hmem
  rcases hc with rfl | rfl <;> exact absurd hchar (by decide)

theorem count_token {name : List Char} {c : Char} (hc : IsBrace c) (hname : c ∉ name) : (token name).count c = 2 := by
  rcases hc with rfl | rfl <;> simp [token, List.count_append, List.count_eq_zero.2 hname]

/-- A link does not begin in one piece of plain text and end behind it. -/
theorem token?_append {head links : List Char} (hne : head ≠ []) (hhead : ¬HasLink head)
    (hlinks : links = [] ∨ ∃ name rest, links = token name ++ rest) : token? (head ++ links) = none := by
  rw [Option.eq_none_iff_forall_ne_some]
  rintro ⟨name, rest⟩ hstart
  obtain ⟨hname, hsame⟩ := token?_eq_some_iff.1 hstart
  rcases List.append_eq_append_iff.1 hsame with ⟨left, htoken, hleft⟩ | ⟨more, rfl, -⟩
  · cases left with
    | nil =>
      rw [List.append_nil] at htoken
      exact hhead ⟨name, hname, htoken ▸ List.infix_refl _⟩
    | cons c left =>
      -- what is left of the link would begin the next one, so it would have a third opening brace
      obtain rfl | ⟨next, after, rfl⟩ := hlinks
      · exact nomatch hleft
      · rw [token_append, List.cons_append, List.cons.injEq] at hleft
        obtain ⟨rfl, hleft⟩ := hleft
        obtain ⟨x, head, rfl⟩ := List.exists_cons_of_ne_nil hne
        have hcount := count_token (.inl rfl) (hname.brace_not_mem (.inl rfl))
        cases left with
        | nil =>
          have hlast := congrArg List.getLast? htoken
          simp [token, List.getLast?_cons] at hlast
        | cons c left =>
          obtain ⟨rfl, -⟩ := List.cons.inj hleft
          have hfirst : x = '\x7b' := (List.cons.inj htoken).1.symm
          rw [htoken, hfirst] at hcount
          simp only [List.cons_append, List.count_append, List.count_cons_self] at hcount
          omega
  · exact hhead ⟨name, hname, List.infix_append' [] _ _⟩

namespace Cut

variable {c : Cut} {cs : List Char}

/-- What follows the head of a cut is nothing or begins with a link. -/
theorem begins_with_token (links : List (List Char × List Char)) :
    links.flatMap (fun l => token l.1 ++ l.2) = [] ∨
      ∃ name rest, links.flatMap (fun l => token l.1 ++ l.2) = token name ++ rest := by
  cases links with
  | nil => exact .inl rfl
  | cons l links => exact .inr ⟨l.1, _, by rw [List.flatMap_cons, List.append_assoc]⟩

theorem Divides.eq_cut (h : c.Divides cs) : c = cut cs := by
  obtain ⟨head, links⟩ := c
  -- from the front: a text with a link there has an empty head, one with a plain character has not
  induction cs using text_induction generalizing head links with
  | nil =>
    obtain ⟨hhead, hlinks⟩ := List.append_eq_nil_iff.1 h.joined
    cases links with
    | nil => rw [cut_nil]; exact congrArg (Cut.mk · []) hhead
    | cons l links => simp [token] at hlinks
  | link name rest hname ih =>
    have htoken : token? (token name ++ rest) = some (name, rest) := token?_eq_some_iff.2 ⟨hname, rfl⟩
    rw [← h.joined] at htoken
    have hempty : head = [] := by
      by_contra hne
      rw [Cut.joined, token?_append hne h.head (begins_with_token links)] at htoken
      exact nomatch htoken
    subst hempty
    cases links with
    | nil => simp [Cut.joined, token?] at htoken
    | cons l links =>
      have hfirst : token? (Cut.joined ⟨[], l :: links⟩) = some (l.1, Cut.joined ⟨l.2, links⟩) := by
        refine token?_eq_some_iff.2 ⟨h.names l List.mem_cons_self, ?_⟩
        simp [Cut.joined]
      obtain ⟨hl, hrest⟩ := Prod.mk.inj (Option.some.inj (hfirst.symm.trans htoken))
      have hdivides : Divides ⟨l.2, links⟩ rest :=
        ⟨hrest, fun x hx => h.names x (List.mem_cons_of_mem _ hx), h.between l List.mem_cons_self,
          fun x hx => h.between x (List.mem_cons_of_mem _ hx)⟩
      rw [cut_token hname, ← ih _ _ hdivides, ← hl]
  | plain x cs hnone ih =>
    cases head with
    | nil =>
      have hjoined : links.flatMap (fun l => token l.1 ++ l.2) = x :: cs := h.joined
      cases links with
      | nil => exact nomatch hjoined
      | cons l links =>
        rw [List.flatMap_cons, List.append_assoc] at hjoined
        rw [token?_eq_some_iff.2 ⟨h.names l List.mem_cons_self, hjoined.symm⟩] at hnone
        exact nomatch hnone
    | cons y head =>
      obtain ⟨rfl, hjoined⟩ := List.cons.inj h.joined
      have hhead : ¬HasLink head := by
        rintro ⟨name, hname, hinfix⟩
        exact h.head ⟨name, hname, List.infix_cons hinfix⟩
      rw [cut_cons hnone, ← ih head links ⟨hjoined, h.names, hhead, h.between⟩]

end Cut

/-- **A text is cut at its links in one way only.** -/
theorem divides_iff {c : Cut} {cs : List Char} : c.Divides cs ↔ c = cut cs :=
  ⟨Cut.Divides.eq_cut, fun h => h ▸ divides_cut cs⟩

theorem cut_of_not_hasLink {cs : List Char} (h : ¬HasLink cs) : cut cs = ⟨cs, []⟩ := by
  have hdivides : Cut.Divides ⟨cs, []⟩ cs := ⟨List.append_nil cs, by simp, h, by simp⟩
  exact hdivides.eq_cut.symm

/-! ## The link with the name of an item -/

section Expand

variable {refs : References} {escape : String → String} {link : NodeId → String} {origin : Origin}

/-- A text without links stays as it is, and nothing is found. -/
theorem expand_of_not_hasLink {text : String} (h : ¬HasLink text.toList) :
    expand refs escape link origin text = ⟨escape text, []⟩ := by
  simp [expand, render, unknown, cut_of_not_hasLink h]

theorem expand_spelled {name : String} (hname : IsName name.toList) {item : NodeId}
    (hget : refs.get? name = some item) :
    expand refs id link origin (spelled name) = ⟨link item, []⟩ := by
  have hcut : cut (spelled name).toList = ⟨[], [(name.toList, [])]⟩ := by
    rw [toList_spelled, ← List.append_nil (token name.toList), cut_token hname, cut_nil]
  simp [expand, render, unknown, hcut, renderLink, hget]

/-- A link between plain braces is a link of the characters between them. -/
theorem isName_of_hasLink_token {name : List Char} (hopen : '\x7b' ∉ name) (hclose : '\x7d' ∉ name)
    (h : HasLink (token name)) : IsName name := by
  obtain ⟨inner, hinner, before, after, htoken⟩ := h
  -- both links have two braces of a kind, so none is left for what stands around the inner one
  have hbraces (c : Char) (hc : IsBrace c) (hname : c ∉ name) : c ∉ before ∧ c ∉ after := by
    have htwo := count_token hc hname
    rw [← htoken, List.count_append, List.count_append, count_token hc (hinner.brace_not_mem hc)] at htwo
    exact ⟨List.count_eq_zero.1 (by omega), List.count_eq_zero.1 (by omega)⟩
  have hbefore : before = [] := by
    have hnone := (hbraces '\x7b' (.inl rfl) hopen).1
    cases before with
    | nil => rfl
    | cons c before =>
      obtain rfl : c = '\x7b' := (List.cons.inj htoken).1
      exact absurd List.mem_cons_self hnone
  have hafter : after = [] := by
    have hnone := (hbraces '\x7d' (.inr rfl) hclose).2
    rcases List.eq_nil_or_concat after with rfl | ⟨front, c, rfl⟩
    · rfl
    · have hlast := congrArg List.getLast? htoken
      rw [List.concat_eq_append, ← List.append_assoc, List.getLast?_concat] at hlast
      obtain rfl : c = '\x7d' := by simpa [token, List.getLast?_cons] using hlast
      exact absurd (by simp) hnone
  rw [hbefore, hafter, List.nil_append, List.append_nil] at htoken
  exact token_inj htoken ▸ hinner

/-- When the link with a name becomes the link of its item, whatever that is, the name is one for links: some item
has a link of one character, and a text that becomes one character has one link and nothing else. -/
theorem isName_of_expand_spelled {name : String} {item : NodeId}
    (h : ∀ link origin, expand refs id link origin (spelled name) = ⟨link item, []⟩) : IsName name.toList := by
  have hdivides := divides_cut (spelled name).toList
  have hone := congrArg (fun n => n.value.length) (h (fun _ => "x") ⟨"", 0⟩)
  have hfound := congrArg Noted.findings (h (fun _ => "x") ⟨"", 0⟩)
  have hx : "x".length = 1 := by decide
  simp only [expand, render, unknown, List.map_eq_nil_iff, List.filter_eq_nil_iff, hx] at hone hfound
  generalize cut (spelled name).toList = c at hdivides hone hfound
  obtain ⟨head, links⟩ := c
  have hjoined : head ++ links.flatMap (fun l => token l.1 ++ l.2) = token name.toList :=
    hdivides.joined.trans (toList_spelled name)
  have hshown : ∀ l ∈ links, (renderLink refs id (fun _ => "x") (String.ofList l.1)).length = 1 := by
    intro l hl
    have hknown := hfound (String.ofList l.1) (List.mem_map_of_mem hl)
    rw [Option.isNone_iff_eq_none] at hknown
    obtain ⟨target, htarget⟩ := Option.ne_none_iff_exists'.1 hknown
    rw [renderLink, htarget]
    exact hx
  cases links with
  | nil =>
    have hlength := congrArg List.length hjoined
    simp [token] at hone hlength
    omega
  | cons l links =>
    have hfirst := hshown l List.mem_cons_self
    simp only [List.map_cons, String.join_cons, String.length_append, hfirst, id, String.length_ofList] at hone
    cases links with
    | nil =>
      have hhead : head = [] := List.length_eq_zero_iff.1 (by omega)
      have hafter : l.2 = [] := List.length_eq_zero_iff.1 (by omega)
      simp only [hhead, hafter, List.flatMap_cons, List.flatMap_nil, List.append_nil, List.nil_append] at hjoined
      exact token_inj hjoined ▸ hdivides.names l List.mem_cons_self
    | cons l' links =>
      have hsecond := hshown l' (List.mem_cons_of_mem _ List.mem_cons_self)
      simp only [List.map_cons, String.join_cons, String.length_append] at hone
      omega

end Expand

/-- **An item can be linked to under a name exactly when the name is one for links.**  Then a link with the name
becomes the link of the item, whatever that is, and nothing is found.  Otherwise the text asks for other names at
most, and where the name has no braces it is left as it stands, without a finding. -/
theorem linked_under_name_iff (m : Manual) (name : String) (item : NodeId)
    (h : m.references.get? name = some item) :
    ((∀ link origin, expand m.references id link origin (spelled name) = ⟨link item, []⟩) ↔
        IsName name.toList) ∧
      (¬IsName name.toList → (∀ l ∈ (cut (spelled name).toList).links, String.ofList l.1 ≠ name) ∧
        ('\x7b' ∉ name.toList → '\x7d' ∉ name.toList → ∀ link origin,
          expand m.references id link origin (spelled name) = ⟨spelled name, []⟩)) := by
  refine ⟨⟨isName_of_expand_spelled, fun hname link origin => expand_spelled hname h⟩, fun hname => ⟨?_, ?_⟩⟩
  · rintro l hl rfl
    rw [String.toList_ofList] at hname
    exact hname ((divides_cut _).names l hl)
  · intro hopen hclose link origin
    refine expand_of_not_hasLink fun hlink => hname ?_
    rw [toList_spelled] at hlink
    exact isName_of_hasLink_token hopen hclose hlink

/-- A function can be linked to under its alias and not under its own name, which has arguments. -/
theorem linked_under_name_iff_alias :
    let m := (Manual.new Settings.default).readAll
      [.code "a.scad" ["// File: a.scad", "// Function: foo(a, b)", "// Alias: foo_2()"]]
    m.references.get? "foo_2()" = some 2 ∧ m.references.get? "foo(a, b)" = some 2 ∧
      (∀ link origin, expand m.references id link origin (spelled "foo_2()") = ⟨link 2, []⟩) ∧
      ∀ link origin, expand m.references id link origin (spelled "foo(a, b)") = ⟨spelled "foo(a, b)", []⟩ := by
  intro m
  have hnames : m.references.get? "foo_2()" = some 2 ∧ m.references.get? "foo(a, b)" = some 2 := by
    decide +kernel
  refine ⟨hnames.1, hnames.2, ?_, ?_⟩
  · exact (linked_under_name_iff m _ _ hnames.1).1.2 (by decide)
  · exact ((linked_under_name_iff m _ _ hnames.2).2 (by decide)).2 (by decide) (by decide)

/-- The page of a function with arguments that mentions itself: the braces stay on the page, and nothing is found. -/
theorem link_with_arguments_stays :
    let m := (Manual.new Settings.default).readAll
      [.code "a.scad" ["// File: a.scad", "// Function: foo(a, b)", "// Description:",
        "//   See \x7b\x7bfoo(a, b)\x7d\x7d."]]
    let s : Page.Setting := ⟨m.library, .wiki⟩
    m.references.get? "foo(a, b)" = some 2 ∧
      (s.filePage 0).value =
        ["# File: a.scad", "", "", "## File Contents", "", "- [`foo(a, b)`](#function-fooa-b)", "", "",
          "### Function: foo()", "", "**Description:** ", "", "See \x7b\x7bfoo(a, b)\x7d\x7d.", "", "---", ""] ∧
      (s.filePage 0).findings = [] ∧ (s.links ⟨"a.scad", 3⟩ (spelled "foo(a, b)")).value = spelled "foo(a, b)" ∧
      s.itemLink 2 (some "a.scad") none true = "[`foo(a, b)`](#function-fooa-b)" := by
  decide +kernel

end ScadManual.Link
