import ScadManual.Markup
import ScadManual.Proofs.Text

/-!
# Escapes and code spans

Ticks divide a text into plain text and code spans in one way: in pairs, from the left, with at most one tick left over.
Escaping changes the plain text only and leaves the ticks where they are, so the escaped text has the same code spans.
In plain text every escape can be told from what it stands for, so the text can be read back from what escaping made
of it.
-/

namespace ScadManual.Markup

/-! ## Code spans -/

/-- A text by its code spans: for each the plain text in front and the code in it, and the text behind the last. -/
structure Spans where
  spans : List (List Char × List Char)
  tail : List Char
deriving DecidableEq, Repr

namespace Spans

/-- The text with a span in front. -/
def cons (plain code : List Char) (s : Spans) : Spans := ⟨(plain, code) :: s.spans, s.tail⟩

/-- The characters of the text. -/
def joined (s : Spans) : List Char :=
  s.spans.flatMap (fun p => p.1 ++ tick :: (p.2 ++ [tick])) ++ s.tail

/-- What the spans hold, in order. -/
def codes (s : Spans) : List (List Char) := s.spans.map Prod.snd

/-- The plain text before, between and behind the spans. -/
def plains (s : Spans) : List (List Char) := s.spans.map Prod.fst ++ [s.tail]

/-- The text with its plain text changed. -/
def mapPlain (f : List Char → List Char) (s : Spans) : Spans :=
  ⟨s.spans.map fun p => (f p.1, p.2), f s.tail⟩

/-- The spans divide the characters: no tick is inside of a part, and one at most is left over. -/
structure Divides (s : Spans) (cs : List Char) : Prop where
  joined : s.joined = cs
  plain : ∀ p ∈ s.spans, tick ∉ p.1
  code : ∀ p ∈ s.spans, tick ∉ p.2
  tail : s.tail.count tick ≤ 1

end Spans

/-- The code spans of a text. -/
def spansOf (cs : List Char) : Spans :=
  match h : Text.cutChars? tick cs with
  | none => ⟨[], cs⟩
  | some (plain, rest) =>
    match h' : Text.cutChars? tick rest with
    | none => ⟨[], cs⟩
    | some (code, tail) =>
      have := Text.length_lt_of_cutChars? h
      have := Text.length_lt_of_cutChars? h'
      (spansOf tail).cons plain code
termination_by cs.length

section Spans

variable {cs plain code rest : List Char} {s r : Spans} {f : List Char → List Char}

theorem count_of_uncut (h : Text.cutChars? tick cs = none) : cs.count tick = 0 :=
  List.count_eq_zero.2 (Text.cutChars?_eq_none_iff.1 h)

/-- A tick without a partner is the only one. -/
theorem count_of_cut_once (h : Text.cutChars? tick cs = some (plain, rest)) (h' : Text.cutChars? tick rest = none) :
    cs.count tick = 1 := by
  obtain ⟨hplain, rfl⟩ := Text.cutChars?_eq_some_iff.1 h
  rw [List.count_append, List.count_cons_self, List.count_eq_zero.2 hplain, count_of_uncut h']

theorem spansOf_tail (h : cs.count tick ≤ 1) : spansOf cs = ⟨[], cs⟩ := by
  rw [spansOf]
  split
  · rfl
  · next plain rest hcut =>
    split
    · rfl
    · next code tail hcut' =>
      -- two cuts take two ticks
      obtain ⟨-, rfl⟩ := Text.cutChars?_eq_some_iff.1 hcut
      obtain ⟨-, rfl⟩ := Text.cutChars?_eq_some_iff.1 hcut'
      simp only [List.count_append, List.count_cons_self] at h
      omega

theorem spansOf_span (hplain : tick ∉ plain) (hcode : tick ∉ code) :
    spansOf (plain ++ tick :: (code ++ tick :: rest)) = (spansOf rest).cons plain code := by
  have hcut : Text.cutChars? tick (plain ++ tick :: (code ++ tick :: rest)) = some (plain, code ++ tick :: rest) :=
    Text.cutChars?_eq_some_iff.2 ⟨hplain, rfl⟩
  have hcut' : Text.cutChars? tick (code ++ tick :: rest) = some (code, rest) :=
    Text.cutChars?_eq_some_iff.2 ⟨hcode, rfl⟩
  rw [spansOf]
  split
  · next heq => simp [hcut] at heq
  · next heq =>
    obtain ⟨rfl, rfl⟩ := Prod.mk.inj (Option.some.inj (hcut.symm.trans heq))
    split
    · next heq' => simp [hcut'] at heq'
    · next heq' =>
      obtain ⟨rfl, rfl⟩ := Prod.mk.inj (Option.some.inj (hcut'.symm.trans heq'))
      rfl

/-- Cases of a text, from the front: no pair of ticks is left, or a code span follows plain text. -/
theorem ticks_induction {P : List Char → Prop} (tail : ∀ cs, cs.count tick ≤ 1 → P cs)
    (span : ∀ plain code rest, tick ∉ plain → tick ∉ code → P rest → P (plain ++ tick :: (code ++ tick :: rest)))
    (cs : List Char) : P cs := by
  induction cs using spansOf.induct with
  | case1 cs hcut => exact tail cs (by rw [count_of_uncut hcut]; exact Nat.zero_le 1)
  | case2 cs plain rest hcut hcut' => exact tail cs (Nat.le_of_eq (count_of_cut_once hcut hcut'))
  | case3 cs plain rest hcut code after hcut' _ _ ih =>
    obtain ⟨hplain, rfl⟩ := Text.cutChars?_eq_some_iff.1 hcut
    obtain ⟨hcode, rfl⟩ := Text.cutChars?_eq_some_iff.1 hcut'
    exact span plain code after hplain hcode ih

namespace Spans

theorem joined_cons : (s.cons plain code).joined = plain ++ tick :: (code ++ tick :: s.joined) := by
  simp [cons, joined]

theorem mapPlain_cons : (s.cons plain code).mapPlain f = (s.mapPlain f).cons (f plain) code := rfl

theorem Divides.cons (h : s.Divides rest) (hplain : tick ∉ plain) (hcode : tick ∉ code) :
    (s.cons plain code).Divides (plain ++ tick :: (code ++ tick :: rest)) :=
  ⟨by rw [joined_cons, h.joined], List.forall_mem_cons.2 ⟨hplain, h.plain⟩, List.forall_mem_cons.2 ⟨hcode, h.code⟩,
    h.tail⟩

end Spans

theorem divides_spansOf (cs : List Char) : (spansOf cs).Divides cs := by
  induction cs using ticks_induction with
  | tail cs hcount =>
    rw [spansOf_tail hcount]
    exact ⟨rfl, by simp, by simp, hcount⟩
  | span plain code rest hplain hcode ih =>
    rw [spansOf_span hplain hcode]
    exact ih.cons hplain hcode

theorem Spans.Divides.eq_spansOf (h : s.Divides cs) : s = spansOf cs := by
  obtain ⟨spans, tail⟩ := s
  induction spans generalizing cs with
  | nil =>
    obtain rfl : tail = cs := h.joined
    exact (spansOf_tail h.tail).symm
  | cons p spans ih =>
    obtain ⟨hplain, hplains⟩ := List.forall_mem_cons.1 h.plain
    obtain ⟨hcode, hcodes⟩ := List.forall_mem_cons.1 h.code
    have hrest := ih ⟨rfl, hplains, hcodes, h.tail⟩
    have hjoined : Spans.joined ⟨p :: spans, tail⟩ = _ := Spans.joined_cons (s := ⟨spans, tail⟩)
    rw [← h.joined, hjoined, spansOf_span hplain hcode, ← hrest]
    rfl

/-- **A text has code spans in one way only.** -/
theorem spans_divide_iff : s.Divides cs ↔ s = spansOf cs :=
  ⟨Spans.Divides.eq_spansOf, fun h => h ▸ divides_spansOf cs⟩

end Spans

/-! ## Escaped plain text -/

/-- Escapes a text without code spans. -/
def escapePlain (cs : List Char) : List Char := cs.flatMap escapeChar

/-- The characters that become entities, and what stands behind the ampersand of each. -/
def entities : List (Char × String) := [('&', "amp;"), ('<', "lt;"), ('>', "gt;")]

/-- Text in which nothing is left to escape. -/
structure Escaped (piece : List Char) : Prop where
  angles : '<' ∉ piece ∧ '>' ∉ piece
  ampersand : ∀ front back, piece = front ++ '&' :: back → ∃ e ∈ entities, e.2.toList <+: back
  underscore : ∀ front back, piece = front ++ '_' :: back → ∃ before, front = before ++ ['\\']

section Plain

variable {c : Char} {cs a b : List Char}

/-- What a character becomes: a backslash stands before an underscore, three others become entities, and the rest stay
as they are. -/
theorem escapeChar_cases (c : Char) :
    (c = '_' ∧ escapeChar c = ['\\', '_']) ∨ (∃ e ∈ entities, c = e.1 ∧ escapeChar c = '&' :: e.2.toList) ∨
      (c ≠ '_' ∧ (∀ e ∈ entities, c ≠ e.1) ∧ escapeChar c = [c]) := by
  unfold escapeChar
  by_cases hline : c = '_'
  · exact .inl ⟨hline, if_pos hline⟩
  rw [if_neg hline]
  by_cases hentity : ∃ e ∈ entities, c = e.1
  · obtain ⟨e, he, rfl⟩ := hentity
    refine .inr (.inl ⟨e, he, rfl, ?_⟩)
    simp only [entities, List.mem_cons, List.not_mem_nil, or_false] at he
    rcases he with rfl | rfl | rfl <;> decide
  · have hother : ∀ e ∈ entities, c ≠ e.1 := fun e he hc => hentity ⟨e, he, hc⟩
    refine .inr (.inr ⟨hline, hother, ?_⟩)
    rw [if_neg (hother ('&', "amp;") (by simp [entities])), if_neg (hother ('<', "lt;") (by simp [entities])),
      if_neg (hother ('>', "gt;") (by simp [entities]))]

theorem escapePlain_cons : escapePlain (c :: cs) = escapeChar c ++ escapePlain cs := List.flatMap_cons

theorem escapePlain_append : escapePlain (a ++ b) = escapePlain a ++ escapePlain b := List.flatMap_append

/-- Escaping neither adds nor removes ticks. -/
theorem count_escapePlain (cs : List Char) : (escapePlain cs).count tick = cs.count tick := by
  have hentities : ∀ e ∈ entities, ('&' :: e.2.toList).count tick = [e.1].count tick := by decide
  induction cs with
  | nil => rfl
  | cons c cs ih =>
    have hchar : (escapeChar c).count tick = [c].count tick := by
      rcases escapeChar_cases c with ⟨rfl, heq⟩ | ⟨e, he, rfl, heq⟩ | ⟨-, -, heq⟩
      · rw [heq]
        decide
      · rw [heq, hentities e he]
      · rw [heq]
    calc (escapePlain (c :: cs)).count tick
        = (escapeChar c).count tick + (escapePlain cs).count tick := by rw [escapePlain_cons, List.count_append]
      _ = [c].count tick + cs.count tick := by rw [hchar, ih]
      _ = (c :: cs).count tick := by rw [← List.count_append, List.singleton_append]

/-- A character of a text in two parts is one of the first part or of the second. -/
theorem append_eq_append_cons {x : Char} {front back : List Char} (h : a ++ b = front ++ x :: back) :
    (∃ more, a = front ++ x :: more ∧ back = more ++ b) ∨ ∃ more, front = a ++ more ∧ b = more ++ x :: back := by
  rcases List.append_eq_append_iff.1 h with ⟨more, hfront, hb⟩ | ⟨more, ha, hback⟩
  · exact .inr ⟨more, hfront, hb⟩
  · cases more with
    | nil =>
      rw [List.append_nil] at ha
      exact .inr ⟨[], by rw [ha, List.append_nil], hback.symm⟩
    | cons y more =>
      obtain ⟨rfl, rfl⟩ := List.cons.inj hback
      exact .inl ⟨more, ha, rfl⟩

theorem mem_of_split {x : Char} {front back : List Char} (h : cs = front ++ x :: back) : x ∈ cs := by
  rw [h]
  exact List.mem_append_right front List.mem_cons_self

theorem escaped_nil : Escaped [] :=
  ⟨by simp, by simp, by simp⟩

theorem Escaped.append (ha : Escaped a) (hb : Escaped b) : Escaped (a ++ b) := by
  refine ⟨?_, fun front back h => ?_, fun front back h => ?_⟩
  · simp only [List.mem_append, not_or]
    exact ⟨⟨ha.angles.1, hb.angles.1⟩, ha.angles.2, hb.angles.2⟩
  · rcases append_eq_append_cons h with ⟨more, hin, rfl⟩ | ⟨more, -, hin⟩
    · obtain ⟨e, he, hstart⟩ := ha.ampersand front more hin
      exact ⟨e, he, hstart.trans (List.prefix_append _ _)⟩
    · exact hb.ampersand more back hin
  · rcases append_eq_append_cons h with ⟨more, hin, -⟩ | ⟨more, rfl, hin⟩
    · exact ha.underscore front more hin
    · obtain ⟨before, rfl⟩ := hb.underscore more back hin
      exact ⟨a ++ before, (List.append_assoc _ _ _).symm⟩

theorem escaped_escapeChar (c : Char) : Escaped (escapeChar c) := by
  rcases escapeChar_cases c with ⟨-, heq⟩ | ⟨e, he, -, heq⟩ | ⟨hline, hother, heq⟩
  · rw [heq]
    refine ⟨by decide, fun front back h => absurd (mem_of_split h) (by decide), fun front back h => ?_⟩
    match front, h with
    | [d], h =>
      obtain ⟨rfl, -⟩ := List.cons.inj h
      exact ⟨[], rfl⟩
    | [], h => exact absurd (List.cons.inj h).1 (by decide)
    | _ :: _ :: front, h => simp at h
  · have hfree : ∀ e ∈ entities, '&' ∉ e.2.toList ∧ '_' ∉ e.2.toList ∧ '<' ∉ e.2.toList ∧ '>' ∉ e.2.toList := by
      decide
    obtain ⟨hamp, hunder, hlt, hgt⟩ := hfree e he
    rw [heq]
    refine ⟨by simp [hlt, hgt], fun front back h => ?_, fun front back h => absurd (mem_of_split h) (by simp [hunder])⟩
    cases front with
    | nil => exact ⟨e, he, (List.cons.inj h).2 ▸ List.prefix_refl _⟩
    | cons d front => exact absurd (mem_of_split (List.cons.inj h).2) hamp
  · have hnot : c ≠ '&' ∧ c ≠ '<' ∧ c ≠ '>' := by simpa [entities] using hother
    rw [heq]
    exact ⟨by simp [hnot.2.1.symm, hnot.2.2.symm],
      fun front back h => absurd (mem_of_split h) (by simp [hnot.1.symm]),
      fun front back h => absurd (mem_of_split h) (by simp [Ne.symm hline])⟩

theorem escaped_escapePlain (cs : List Char) : Escaped (escapePlain cs) := by
  induction cs with
  | nil => exact escaped_nil
  | cons c cs ih =>
    rw [escapePlain_cons]
    exact (escaped_escapeChar c).append ih

/-! ## Reading back -/

/-- Plain text without its escapes. -/
def unescapePlain : List Char → List Char
  | '\\' :: '_' :: cs => '_' :: unescapePlain cs
  | '&' :: 'a' :: 'm' :: 'p' :: ';' :: cs => '&' :: unescapePlain cs
  | '&' :: 'l' :: 't' :: ';' :: cs => '<' :: unescapePlain cs
  | '&' :: 'g' :: 't' :: ';' :: cs => '>' :: unescapePlain cs
  | c :: cs => c :: unescapePlain cs
  | [] => []

/-- The text that was escaped. -/
def unescape (s : String) : String :=
  String.ofList ((spansOf s.toList).mapPlain unescapePlain).joined

theorem unescapePlain_entity : ∀ e ∈ entities, unescapePlain ('&' :: e.2.toList ++ cs) = e.1 :: unescapePlain cs := by
  intro e he
  simp only [entities, List.mem_cons, List.not_mem_nil, or_false] at he
  rcases he with rfl | rfl | rfl <;> rfl

theorem unescapePlain_cons (hamp : c ≠ '&') (hline : cs.head? ≠ some '_') :
    unescapePlain (c :: cs) = c :: unescapePlain cs := by
  rw [unescapePlain]
  · rintro more rfl rfl
    exact hline rfl
  · exact fun more hc _ => hamp hc
  · exact fun more hc _ => hamp hc
  · exact fun more hc _ => hamp hc

/-- An underscore never comes first: its backslash does. -/
theorem head?_escapePlain (cs : List Char) : (escapePlain cs).head? ≠ some '_' := by
  intro hhead
  obtain ⟨back, hback⟩ := List.head?_eq_some_iff.1 hhead
  obtain ⟨before, hnil⟩ := (escaped_escapePlain cs).underscore [] back hback
  simp at hnil

theorem unescapePlain_escapePlain (cs : List Char) : unescapePlain (escapePlain cs) = cs := by
  induction cs with
  | nil => rfl
  | cons c cs ih =>
    rw [escapePlain_cons]
    rcases escapeChar_cases c with ⟨rfl, heq⟩ | ⟨e, he, rfl, heq⟩ | ⟨-, hother, heq⟩
    · rw [heq]
      show '_' :: unescapePlain (escapePlain cs) = '_' :: cs
      rw [ih]
    · rw [heq, unescapePlain_entity e he, ih]
    · rw [heq, List.singleton_append, unescapePlain_cons (hother ('&', "amp;") List.mem_cons_self)
        (head?_escapePlain cs), ih]

end Plain

/-! ## Escaped texts -/

namespace Spans

variable {s r : Spans} {cs ds : List Char} {f g : List Char → List Char}

theorem codes_mapPlain : (s.mapPlain f).codes = s.codes := by
  simp [codes, mapPlain]

theorem plains_mapPlain : (s.mapPlain f).plains = s.plains.map f := by
  simp [plains, mapPlain]

theorem mapPlain_mapPlain (h : ∀ piece, g (f piece) = piece) : (s.mapPlain f).mapPlain g = s := by
  simp [mapPlain, h, Function.comp_def]

/-- What keeps the ticks of plain text keeps the code spans. -/
theorem Divides.mapPlain (h : s.Divides cs) (hf : ∀ piece, (f piece).count tick = piece.count tick) :
    (s.mapPlain f).Divides (s.mapPlain f).joined := by
  refine ⟨rfl, fun p hp => ?_, fun p hp => ?_, ?_⟩
  · obtain ⟨q, hq, rfl⟩ := List.mem_map.1 hp
    rw [← List.count_eq_zero, hf, List.count_eq_zero]
    exact h.plain q hq
  · obtain ⟨q, hq, rfl⟩ := List.mem_map.1 hp
    exact h.code q hq
  · rw [Spans.mapPlain, hf]
    exact h.tail

end Spans

section Texts

variable {cs plain code rest : List Char}

theorem escapeChars_eq (cs : List Char) : escapeChars cs = ((spansOf cs).mapPlain escapePlain).joined := by
  fun_induction escapeChars cs with
  | case1 cs hcut =>
    rw [spansOf_tail (by rw [count_of_uncut hcut]; exact Nat.zero_le 1)]
    rfl
  | case2 cs plain rest hcut hcut' =>
    rw [spansOf_tail (Nat.le_of_eq (count_of_cut_once hcut hcut'))]
    rfl
  | case3 cs plain rest hcut code tail hcut' _ _ ih =>
    obtain ⟨hplain, rfl⟩ := Text.cutChars?_eq_some_iff.1 hcut
    obtain ⟨hcode, rfl⟩ := Text.cutChars?_eq_some_iff.1 hcut'
    rw [ih, spansOf_span hplain hcode, Spans.mapPlain_cons, Spans.joined_cons, List.append_assoc]
    rfl

theorem escapeChars_tail (h : cs.count tick ≤ 1) : escapeChars cs = escapePlain cs := by
  rw [escapeChars_eq, spansOf_tail h]
  rfl

theorem escapeChars_span (hplain : tick ∉ plain) (hcode : tick ∉ code) :
    escapeChars (plain ++ tick :: (code ++ tick :: rest)) =
      escapePlain plain ++ tick :: (code ++ tick :: escapeChars rest) := by
  rw [escapeChars_eq, spansOf_span hplain hcode, Spans.mapPlain_cons, Spans.joined_cons, ← escapeChars_eq]

/-- The code spans of an escaped text are those of the text, and its plain text is escaped. -/
theorem spansOf_escapeChars (cs : List Char) : spansOf (escapeChars cs) = (spansOf cs).mapPlain escapePlain := by
  rw [escapeChars_eq]
  exact ((divides_spansOf cs).mapPlain count_escapePlain).eq_spansOf.symm

theorem unescape_escape (text : String) : unescape (escape text) = text := by
  rw [unescape, escape, String.toList_ofList, spansOf_escapeChars, Spans.mapPlain_mapPlain unescapePlain_escapePlain,
    (divides_spansOf text.toList).joined, String.ofList_toList]

/-- Plain text without ticks is escaped by itself, whatever follows. -/
theorem escapeChars_append_plain (hplain : tick ∉ plain) (cs : List Char) :
    escapeChars (plain ++ cs) = escapePlain plain ++ escapeChars cs := by
  induction cs using ticks_induction with
  | tail cs hcount =>
    have hboth : (plain ++ cs).count tick ≤ 1 := by
      rw [List.count_append, List.count_eq_zero.2 hplain, Nat.zero_add]
      exact hcount
    rw [escapeChars_tail hboth, escapeChars_tail hcount, escapePlain_append]
  | span more code rest hmore hcode _ =>
    have hfront : tick ∉ plain ++ more := by
      rw [List.mem_append, not_or]
      exact ⟨hplain, hmore⟩
    rw [← List.append_assoc, escapeChars_span hfront hcode, escapeChars_span hmore hcode, escapePlain_append,
      List.append_assoc]

/-- A text whose ticks come in pairs is escaped by itself, whatever follows. -/
theorem escapeChars_append (hpairs : cs.count tick % 2 = 0) (ds : List Char) :
    escapeChars (cs ++ ds) = escapeChars cs ++ escapeChars ds := by
  induction cs using ticks_induction with
  | tail cs hcount =>
    have hnone : tick ∉ cs := List.count_eq_zero.1 (by omega)
    rw [escapeChars_append_plain hnone, escapeChars_tail hcount]
  | span plain code rest hplain hcode ih =>
    have hrest : rest.count tick % 2 = 0 := by
      simp only [List.count_append, List.count_cons_self, List.count_eq_zero.2 hplain, List.count_eq_zero.2 hcode]
        at hpairs
      omega
    simp only [List.append_assoc, List.cons_append]
    rw [escapeChars_span hplain hcode, escapeChars_span hplain hcode, ih hrest]
    simp only [List.append_assoc, List.cons_append]

end Texts

/-- **What was escaped can be read back.**  The escaped text has the code spans of the text, unchanged and in order, and
outside of them nothing is left to escape.  A text with ticks in pairs can be escaped apart from what follows. -/
theorem escape_reversible :
    Function.LeftInverse unescape escape ∧ Function.Injective escape ∧
      (∀ text : String, ∃ s r : Spans, (∀ s' : Spans, s'.Divides text.toList ↔ s' = s) ∧
        (∀ r' : Spans, r'.Divides (escape text).toList ↔ r' = r) ∧ r.codes = s.codes ∧
        ∀ piece ∈ r.plains, Escaped piece) ∧
      ∀ a b : String, a.toList.count tick % 2 = 0 → escape (a ++ b) = escape a ++ escape b := by
  have hleft : Function.LeftInverse unescape escape := unescape_escape
  refine ⟨hleft, hleft.injective, fun text => ?_, fun a b hpairs => ?_⟩
  · refine ⟨spansOf text.toList, (spansOf text.toList).mapPlain escapePlain, fun s => spans_divide_iff, fun r => ?_,
      Spans.codes_mapPlain, fun piece hpiece => ?_⟩
    · rw [spans_divide_iff, escape, String.toList_ofList, spansOf_escapeChars]
    · rw [Spans.plains_mapPlain] at hpiece
      obtain ⟨plain, -, rfl⟩ := List.mem_map.1 hpiece
      exact escaped_escapePlain plain
  · rw [escape, String.toList_append, escapeChars_append hpairs, String.ofList_append]
    rfl

/-- Escapes in the text itself, a code span, and a tick without a partner in the second text. -/
theorem escape_reversible_unclosed :
    let a := "\\_ &amp; `a_<b>` _"
    let b := "<`&_"
    escape (a ++ b) = escape a ++ escape b ∧ escape (a ++ b) = "\\\\_ &amp;amp; `a_<b>` \\_&lt;`&amp;\\_" ∧
      unescape "\\\\_ &amp;amp; `a_<b>` \\_&lt;`&amp;\\_" = a ++ b := by
  intro a b
  have hescaped : escape (a ++ b) = "\\\\_ &amp;amp; `a_<b>` \\_&lt;`&amp;\\_" := by decide +kernel
  refine ⟨escape_reversible.2.2.2 a b (by decide), hescaped, ?_⟩
  rw [← hescaped]
  exact escape_reversible.1 (a ++ b)

end ScadManual.Markup
