import ScadManual.Header
import ScadManual.Proofs.Text

/-!
# How header lines are spelled

A header line is `// `, a title, metadata in parentheses or none, a colon, and nothing more or a space with the
subtitle behind it.  The parts of a line are said here without the reader.  A title holds neither a parenthesis nor a
colon, and metadata holds no closing parenthesis, so a line has parts in one way at most; the reader accepts the lines
that have parts, and what it returns is what they say.
-/

namespace ScadManual

namespace Header

/-! ## Titles -/

/-- A character of a title word after its first. -/
def WordChar (c : Char) : Prop :=
  ('A' ≤ c ∧ c ≤ 'Z') ∨ ('a' ≤ c ∧ c ≤ 'z') ∨ ('0' ≤ c ∧ c ≤ '9') ∨ c ∈ ['_', '&', '-']

/-- A title word: a capital, then letters, digits, `_`, `&` and `-`. -/
def IsWord : List Char → Prop
  | [] => False
  | c :: cs => ('A' ≤ c ∧ c ≤ 'Z') ∧ ∀ d ∈ cs, WordChar d

instance : DecidablePred WordChar := fun c =>
  inferInstanceAs (Decidable (('A' ≤ c ∧ c ≤ 'Z') ∨ ('a' ≤ c ∧ c ≤ 'z') ∨ ('0' ≤ c ∧ c ≤ '9') ∨
    c ∈ ['_', '&', '-']))

instance : DecidablePred IsWord
  | [] => isFalse id
  | c :: cs =>
    decidable_of_iff (('A' ≤ c ∧ c ≤ 'Z') ∧ cs.all (fun d => decide (WordChar d)) = true) (by simp [IsWord])

/-- A title: one word, or two with a space between. -/
inductive IsTitle : List Char → Prop
  | one {word : List Char} (h : IsWord word) : IsTitle word
  | two {first second : List Char} (h : IsWord first) (h' : IsWord second) : IsTitle (first ++ ' ' :: second)

theorem isUpper_iff {c : Char} : c.isUpper = true ↔ 'A' ≤ c ∧ c ≤ 'Z' := by
  show decide ('A'.val ≤ c.val ∧ c.val ≤ 'Z'.val) = true ↔ _
  exact decide_eq_true_iff

theorem isLower_iff {c : Char} : c.isLower = true ↔ 'a' ≤ c ∧ c ≤ 'z' := by
  show (decide ('a' ≤ c) && decide (c ≤ 'z')) = true ↔ _
  rw [Bool.and_eq_true, decide_eq_true_iff, decide_eq_true_iff]

theorem isDigit_iff {c : Char} : c.isDigit = true ↔ '0' ≤ c ∧ c ≤ '9' := by
  show (decide ('0' ≤ c) && decide (c ≤ '9')) = true ↔ _
  rw [Bool.and_eq_true, decide_eq_true_iff, decide_eq_true_iff]

theorem isTitleChar_iff {c : Char} : isTitleChar c = true ↔ WordChar c := by
  show (((c.isUpper || c.isLower) || c.isDigit) || c == '_' || c == '&' || c == '-') = true ↔ _
  simp only [Bool.or_eq_true, isUpper_iff, isLower_iff, isDigit_iff, beq_iff_eq, WordChar, List.mem_cons,
    List.not_mem_nil, or_false, or_assoc]

/-- What ends a title: an opening parenthesis or a colon. -/
def EndsTitle (rest : List Char) : Prop := rest.head? = some '(' ∨ rest.head? = some ':'

theorem word?_append {word rest : List Char} (hword : IsWord word)
    (hrest : ∀ c ∈ rest.head?, isTitleChar c = false) : word? (word ++ rest) = some (word, rest) := by
  match word, hword with
  | c :: cs, ⟨hc, hcs⟩ =>
    have hchars : ∀ d ∈ cs, isTitleChar d = true := fun d hd => isTitleChar_iff.2 (hcs d hd)
    obtain ⟨htake, hdrop⟩ := Text.span_append hchars hrest
    show word? (c :: (cs ++ rest)) = some (c :: cs, rest)
    rw [word?, if_pos (isUpper_iff.2 hc), htake, hdrop]

theorem of_word? {cs word rest : List Char} (h : word? cs = some (word, rest)) :
    IsWord word ∧ cs = word ++ rest := by
  cases cs with
  | nil => simp [word?] at h
  | cons c cs =>
    rw [word?] at h
    split at h
    · next hc =>
      obtain ⟨rfl, rfl⟩ := Prod.mk.inj (Option.some.inj h)
      refine ⟨⟨isUpper_iff.1 hc, fun d hd => isTitleChar_iff.1 (List.mem_takeWhile_imp hd)⟩, ?_⟩
      rw [List.cons_append, List.takeWhile_append_dropWhile]
    · simp at h

theorem EndsTitle.head {rest : List Char} (h : EndsTitle rest) :
    (∀ c ∈ rest.head?, isTitleChar c = false) ∧ ∀ more, rest ≠ ' ' :: more := by
  have hparts : isTitleChar '(' = false ∧ isTitleChar ':' = false := by decide
  constructor
  · intro c hc
    rcases h with h | h
    · rw [h] at hc
      obtain rfl := Option.some.inj hc
      exact hparts.1
    · rw [h] at hc
      obtain rfl := Option.some.inj hc
      exact hparts.2
  · rintro more rfl
    rcases h with h | h <;> simp at h

/-- A title is read to its end, as nothing that ends it could continue it. -/
theorem title?_append {title rest : List Char} (htitle : IsTitle title) (hrest : EndsTitle rest) :
    title? (title ++ rest) = some (title, rest) := by
  obtain ⟨hend, hspace⟩ := hrest.head
  cases htitle with
  | one hword =>
    unfold title?
    simp only [word?_append hword hend]
  | @two first second hfirst hsecond =>
    have hgap : ∀ c ∈ (' ' :: (second ++ rest)).head?, isTitleChar c = false := by
      intro c hc
      obtain rfl := Option.some.inj hc
      decide
    rw [List.append_assoc, List.cons_append, title?, word?_append hfirst hgap]
    simp only [word?_append hsecond hend]

theorem of_title? {cs title rest : List Char} (h : title? cs = some (title, rest)) :
    IsTitle title ∧ cs = title ++ rest := by
  rw [title?] at h
  split at h
  · exact nomatch h
  · next first after hfirst =>
    obtain ⟨hword, rfl⟩ := of_word? hfirst
    split at h
    · next more =>
      split at h
      · next second rest' hsecond =>
        obtain ⟨rfl, rfl⟩ := Prod.mk.inj (Option.some.inj h)
        obtain ⟨hword', rfl⟩ := of_word? hsecond
        exact ⟨.two hword hword', by rw [List.append_assoc, List.cons_append]⟩
      · obtain ⟨rfl, rfl⟩ := Prod.mk.inj (Option.some.inj h)
        exact ⟨.one hword, rfl⟩
    · obtain ⟨rfl, rfl⟩ := Prod.mk.inj (Option.some.inj h)
      exact ⟨.one hword, rfl⟩

/-! ## The parts of a line -/

/-- The parts of a header line: its title, the metadata between its parentheses, if it has any, and all that follows
the colon. -/
structure Parts where
  title : String
  info : Option String
  tail : String
deriving DecidableEq, Repr

namespace Parts

/-- Metadata with its parentheses. -/
def enclosed : Option String → String
  | none => ""
  | some info => "(" ++ info ++ ")"

/-- The line that has the parts. -/
def line (p : Parts) : String := "// " ++ p.title ++ enclosed p.info ++ ":" ++ p.tail

/-- The parts are such as the parts of header lines are. -/
structure WellFormed (p : Parts) : Prop where
  title : IsTitle p.title.toList
  /-- The first closing parenthesis ends the metadata. -/
  info : ∀ info ∈ p.info, ')' ∉ info.toList
  /-- A space divides the subtitle from the colon, and the line ends with it. -/
  tail : p.tail = "" ∨ ∃ text, p.tail = " " ++ text ∧ '\n' ∉ text.toList

/-- The parts say what the header says: without parentheses the metadata is empty, and the subtitle is what follows
the colon without the blanks around it. -/
structure Says (p : Parts) (h : Header) : Prop where
  title : h.title = p.title
  metadata : h.metadata = p.info.getD ""
  subtitle : Text.Trimmed p.tail.toList h.subtitle.toList

/-- What follows the title. -/
def rest (p : Parts) : List Char := (enclosed p.info).toList ++ ':' :: p.tail.toList

theorem toList_line (p : Parts) : p.line.toList = '/' :: '/' :: ' ' :: (p.title.toList ++ p.rest) := by
  simp [line, rest]

theorem endsTitle_rest (p : Parts) : EndsTitle p.rest := by
  unfold EndsTitle rest
  cases p.info with
  | none => exact .inr rfl
  | some info => exact .inl (by simp [enclosed])

theorem WellFormed.title?_eq {p : Parts} (hp : p.WellFormed) :
    title? (p.title.toList ++ p.rest) = some (p.title.toList, p.rest) :=
  title?_append hp.title p.endsTitle_rest

end Parts

theorem Parts.WellFormed.metadata?_eq {p : Parts} (hp : p.WellFormed) :
    metadata? p.rest = some ((p.info.getD "").toList, ':' :: p.tail.toList) := by
  unfold rest
  cases hinfo : p.info with
  | none => rfl
  | some info =>
    have hclosed : ')' ∉ info.toList := hp.info info hinfo
    simp only [enclosed, String.toList_append, Option.getD_some]
    show metadata? ('(' :: (info.toList ++ [')'] ++ ':' :: p.tail.toList)) = _
    rw [metadata?, List.append_assoc]
    exact Text.cutChars?_eq_some_iff.2 ⟨hclosed, rfl⟩

/-- What metadata and a colon are read from are parts with that metadata. -/
theorem exists_info_of_metadata? {cs info rest : List Char} (h : metadata? cs = some (info, rest)) :
    ∃ o : Option String, (∀ i ∈ o, ')' ∉ i.toList) ∧ o.getD "" = String.ofList info ∧
      cs = (Parts.enclosed o).toList ++ rest := by
  unfold metadata? at h
  split at h
  · obtain ⟨hclosed, rfl⟩ := Text.cutChars?_eq_some_iff.1 h
    refine ⟨some (String.ofList info), ?_, rfl, by simp [Parts.enclosed]⟩
    intro i hi
    obtain rfl := Option.some.inj hi
    rw [String.toList_ofList]
    exact hclosed
  · obtain ⟨rfl, rfl⟩ := Prod.mk.inj (Option.some.inj h)
    exact ⟨none, by simp, rfl, rfl⟩

theorem subtitle?_eq_some_iff {cs text : List Char} :
    subtitle? cs = some text ↔ ∃ tail, cs = ':' :: tail ∧
      (tail = [] ∨ ∃ more, tail = ' ' :: more ∧ '\n' ∉ more) ∧ Text.Trimmed tail text := by
  have hblank : ∀ more, Text.trimChars (' ' :: more) = Text.trimChars more := by
    intro more
    have hspace : Text.isBlank ' ' = true := by decide
    rw [Text.trimChars, Text.trimStartChars, List.dropWhile_cons_of_pos hspace]
    rfl
  constructor
  · intro h
    unfold subtitle? at h
    split at h
    · obtain rfl := Option.some.inj h
      exact ⟨[], rfl, .inl rfl, Text.trimChars_eq_iff.1 rfl⟩
    · next more =>
      split at h
      · simp at h
      · next hfeed =>
        obtain rfl := Option.some.inj h
        exact ⟨' ' :: more, rfl, .inr ⟨more, rfl, hfeed⟩, Text.trimChars_eq_iff.1 (hblank more)⟩
    · simp at h
  · rintro ⟨tail, rfl, rfl | ⟨more, rfl, hfeed⟩, htrimmed⟩
    · rw [← Text.trimChars_eq_iff.2 htrimmed]
      rfl
    · rw [← Text.trimChars_eq_iff.2 htrimmed, hblank, subtitle?, if_neg hfeed]

/-! ## Reading -/

theorem Parts.WellFormed.tail_chars {p : Parts} (hp : p.WellFormed) :
    p.tail.toList = [] ∨ ∃ more, p.tail.toList = ' ' :: more ∧ '\n' ∉ more := by
  rcases hp.tail with hnone | ⟨text, htext, hfeed⟩
  · rw [hnone]
    exact .inl rfl
  · exact .inr ⟨text.toList, by rw [htext, String.toList_append]; rfl, hfeed⟩

/-- The line with the parts is read as what they say. -/
theorem parse?_of_says {p : Parts} {h : Header} (hp : p.WellFormed) (hs : p.Says h) : parse? p.line = some h := by
  have hsub : subtitle? (':' :: p.tail.toList) = some h.subtitle.toList :=
    subtitle?_eq_some_iff.2 ⟨_, rfl, hp.tail_chars, hs.subtitle⟩
  rw [parse?, p.toList_line, ofChars?]
  simp only [hp.title?_eq, hp.metadata?_eq, hsub, String.ofList_toList]
  rw [← hs.metadata, ← hs.title]

/-- A line that is read has parts, and they say what is read. -/
theorem exists_parts_of_parse? {line : String} {h : Header} (hread : parse? line = some h) :
    ∃ p : Parts, p.WellFormed ∧ p.line = line ∧ p.Says h := by
  unfold parse? ofChars? at hread
  split at hread
  case h_2 => exact nomatch hread
  next cs hcs =>
  split at hread
  · exact nomatch hread
  next title rest htitle =>
  split at hread
  · exact nomatch hread
  next info after hinfo =>
  split at hread
  · exact nomatch hread
  next subtitle hsub =>
  obtain rfl := Option.some.inj hread
  obtain ⟨hIsTitle, rfl⟩ := of_title? htitle
  obtain ⟨o, hclosed, hget, rfl⟩ := exists_info_of_metadata? hinfo
  obtain ⟨tail, rfl, htail, htrimmed⟩ := subtitle?_eq_some_iff.1 hsub
  refine ⟨⟨String.ofList title, o, String.ofList tail⟩, ⟨?_, hclosed, ?_⟩, ?_, ⟨rfl, hget.symm, ?_⟩⟩
  · rw [String.toList_ofList]
    exact hIsTitle
  · rcases htail with rfl | ⟨more, rfl, hfeed⟩
    · exact .inl rfl
    · refine .inr ⟨String.ofList more, ?_, by rw [String.toList_ofList]; exact hfeed⟩
      rw [← String.toList_inj]
      simp
  · rw [← String.toList_inj, Parts.toList_line, hcs]
    simp [Parts.rest]
  · rw [String.toList_ofList, String.toList_ofList]
    exact htrimmed

/-- A line has parts in one way only: the title ends where the reader of titles ends it, and so does the
metadata. -/
theorem Parts.line_inj {p q : Parts} (hp : p.WellFormed) (hq : q.WellFormed) (hline : p.line = q.line) : p = q := by
  have hchars : p.title.toList ++ p.rest = q.title.toList ++ q.rest := by
    have hsame : p.line.toList = q.line.toList := by rw [hline]
    simpa [toList_line] using hsame
  have htitle := hp.title?_eq
  rw [hchars, hq.title?_eq] at htitle
  obtain ⟨htitle, hrest⟩ := Prod.mk.inj (Option.some.inj htitle)
  have hinfo := hp.metadata?_eq
  rw [← hrest, hq.metadata?_eq] at hinfo
  obtain ⟨hinfo, htail⟩ := Prod.mk.inj (Option.some.inj hinfo)
  -- metadata that is empty and none are told apart by the parentheses
  have hoption : p.info = q.info := by
    have hlength : (enclosed p.info).toList.length = (enclosed q.info).toList.length := by
      have htotal := congrArg List.length hrest
      rw [rest, rest, htail] at htotal
      simp only [List.length_append] at htotal
      omega
    have hget : q.info.getD "" = p.info.getD "" := String.toList_inj.1 hinfo
    cases hpi : p.info <;> cases hqi : q.info <;> simp_all [enclosed]
  have htails : p.tail = q.tail := String.toList_inj.1 (List.cons.inj htail).2.symm
  have htitles : p.title = q.title := String.toList_inj.1 htitle.symm
  cases p
  cases q
  simp_all

theorem Parts.Says.unique {p : Parts} {h h' : Header} (hs : p.Says h) (hs' : p.Says h') : h = h' := by
  have hsub : h.subtitle.toList = h'.subtitle.toList := by
    rw [← Text.trimChars_eq_iff.2 hs.subtitle, ← Text.trimChars_eq_iff.2 hs'.subtitle]
  cases h
  cases h'
  simp only [Header.mk.injEq]
  exact ⟨hs.title.trans hs'.title.symm, hs.metadata.trans hs'.metadata.symm, String.toList_inj.1 hsub⟩

/-- A header written out in full is read back. -/
theorem parse?_written {title info subtitle : String} (htitle : IsTitle title.toList) (hinfo : ')' ∉ info.toList)
    (hfeed : '\n' ∉ subtitle.toList) (hbare : Text.Bare subtitle.toList) :
    parse? ("// " ++ title ++ "(" ++ info ++ "): " ++ subtitle) = some ⟨title, info, subtitle⟩ := by
  let p : Parts := ⟨title, some info, " " ++ subtitle⟩
  have hp : p.WellFormed := by
    refine ⟨htitle, ?_, .inr ⟨subtitle, rfl, hfeed⟩⟩
    intro i hi
    obtain rfl := Option.some.inj hi
    exact hinfo
  have hs : p.Says ⟨title, info, subtitle⟩ := by
    refine ⟨rfl, rfl, hbare, [' '], [], ?_, by simp, ?_⟩
    · intro c hc
      obtain rfl := List.mem_singleton.1 hc
      decide
    · simp [p]
  have hline : p.line = "// " ++ title ++ "(" ++ info ++ "): " ++ subtitle := by
    rw [← String.toList_inj]
    simp [p, Parts.line, Parts.enclosed]
  rw [← hline]
  exact parse?_of_says hp hs

/-- **A line is a header line exactly when it has the parts of one.**  It then has them in one way, and reading it
returns what they say.  Both tests of a line agree with the reader.  A header that is written out, metadata in
parentheses and the subtitle behind a space, is read back as it was. -/
theorem read_iff_spelled (line : String) :
    (∀ h, parse? line = some h ↔ ∃ p : Parts, p.WellFormed ∧ p.line = line ∧ p.Says h) ∧
      (∀ p q : Parts, p.WellFormed → q.WellFormed → p.line = line → q.line = line → p = q) ∧
      (∀ (p : Parts) h h', p.Says h → p.Says h' → h = h') ∧
      (isHeader line = true ↔ ∃ h, parse? line = some h) ∧
      (∀ h, LineClass.of line = .header h ↔ parse? line = some h) ∧
      ∀ title info subtitle : String, IsTitle title.toList → ')' ∉ info.toList → '\n' ∉ subtitle.toList →
        Text.Bare subtitle.toList →
        parse? ("// " ++ title ++ "(" ++ info ++ "): " ++ subtitle) = some ⟨title, info, subtitle⟩ := by
  refine ⟨fun h => ?_, ?_, ?_, Option.isSome_iff_exists, fun h => ?_, ?_⟩
  · constructor
    · exact exists_parts_of_parse?
    · rintro ⟨p, hp, rfl, hs⟩
      exact parse?_of_says hp hs
  · intro p q hp hq hline hline'
    exact Parts.line_inj hp hq (hline.trans hline'.symm)
  · intro p h h' hs hs'
    exact hs.unique hs'
  · unfold LineClass.of
    cases hread : parse? line with
    | some h' => simp
    | none => cases isComment line <;> simp
  · intro title info subtitle htitle hinfo hfeed hbare
    exact parse?_written htitle hinfo hfeed hbare

/-- A title of two words, metadata with an opening parenthesis and a colon in it, and a subtitle with both
characters that end parts. -/
theorem read_iff_spelled_nested :
    let p : Parts := ⟨"See Also", some "a(:b", " x): y"⟩
    IsTitle "See Also".toList ∧ ')' ∉ "a(:b".toList ∧ '\n' ∉ "x): y".toList ∧ Text.Bare "x): y".toList ∧
      p.WellFormed ∧ p.line = "// See Also(a(:b): x): y" ∧
      (∀ q : Parts, q.WellFormed → q.line = "// See Also(a(:b): x): y" → q = p) ∧
      parse? "// See Also(a(:b): x): y" = some ⟨"See Also", "a(:b", "x): y"⟩ := by
  intro p
  have htitle : IsTitle "See Also".toList := by
    show IsTitle ("See".toList ++ ' ' :: "Also".toList)
    exact .two (by decide) (by decide)
  have hbare : Text.Bare "x): y".toList := by
    constructor
    · intro c hc
      obtain rfl := Option.some.inj hc
      decide
    · intro c hc
      obtain rfl := Option.some.inj hc
      decide
  have hp : p.WellFormed := by
    refine ⟨htitle, ?_, .inr ⟨"x): y", by decide, by decide⟩⟩
    intro info hinfo
    obtain rfl := Option.some.inj hinfo
    decide
  have hline : p.line = "// See Also(a(:b): x): y" := by decide
  obtain ⟨-, hunique, -, -, -, hwritten⟩ := read_iff_spelled "// See Also(a(:b): x): y"
  have hread := hwritten "See Also" "a(:b" "x): y" htitle (by decide) (by decide) hbare
  exact ⟨htitle, by decide, by decide, hbare, hp, hline, fun q hq hq' => hunique q p hq hp hq' hline, hread⟩

end Header

end ScadManual
