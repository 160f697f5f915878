import Mathlib.Data.List.TakeWhile
import ScadManual.Text.Blank
import ScadManual.Text.Search

/-!
# Beginnings, cuts, blanks and widths

What the readers of text do is said here without them: a cut at a separator is one at the first, trimming leaves a text
without blanks at its ends and takes blanks only, and a number of bytes from the front is met by one beginning at most.
-/

namespace ScadManual.Text

/-! ## Beginnings -/

theorem startsWith_iff {s part : String} : startsWith s part = true ↔ part.toList <+: s.toList := by
  rw [startsWith, List.isPrefixOf_iff_prefix]

/-! ## Cuts -/

/-- A cut is made at the first separator. -/
theorem cutChars?_eq_some_iff {sep : Char} {cs before after : List Char} :
    cutChars? sep cs = some (before, after) ↔ sep ∉ before ∧ cs = before ++ sep :: after := by
  constructor
  · intro h
    refine ⟨?_, (append_of_cutChars? h).symm⟩
    induction cs generalizing before with
    | nil => exact nomatch h
    | cons c cs ih =>
      rw [cutChars?] at h
      split at h
      · obtain ⟨rfl, rfl⟩ := Prod.mk.inj (Option.some.inj h)
        exact List.not_mem_nil
      · next hc =>
        obtain ⟨⟨b, a⟩, hcut, hsame⟩ := Option.map_eq_some_iff.1 h
        obtain ⟨rfl, rfl⟩ := Prod.mk.inj hsame
        rw [List.mem_cons, not_or]
        exact ⟨Ne.symm hc, ih hcut⟩
  · rintro ⟨hfree, rfl⟩
    induction before with
    | nil => exact if_pos rfl
    | cons c before ih =>
      rw [List.mem_cons, not_or] at hfree
      rw [List.cons_append, cutChars?, if_neg (Ne.symm hfree.1), ih hfree.2]
      rfl

/-- There is a cut unless there is no separator. -/
theorem cutChars?_eq_none_iff {sep : Char} {cs : List Char} : cutChars? sep cs = none ↔ sep ∉ cs := by
  rw [Option.eq_none_iff_forall_ne_some]
  constructor
  · intro h hmem
    obtain ⟨before, after, rfl, hfree⟩ := List.eq_append_cons_of_mem hmem
    exact h _ (cutChars?_eq_some_iff.2 ⟨hfree, rfl⟩)
  · rintro h ⟨before, after⟩ hcut
    obtain ⟨-, rfl⟩ := cutChars?_eq_some_iff.1 hcut
    exact h (List.mem_append_right before List.mem_cons_self)

/-- What runs up to the first character that a test refuses, and what is left from there on. -/
theorem span_append {test : Char → Bool} {run rest : List Char} (hrun : ∀ c ∈ run, test c = true)
    (hrest : ∀ c ∈ rest.head?, test c = false) :
    (run ++ rest).takeWhile test = run ∧ (run ++ rest).dropWhile test = rest := by
  rw [List.takeWhile_append_of_pos hrun, List.dropWhile_append_of_pos hrun]
  cases rest with
  | nil => exact ⟨List.append_nil run, rfl⟩
  | cons c rest =>
    have hc : ¬test c = true := by simp [hrest c rfl]
    rw [List.takeWhile_cons_of_neg hc, List.dropWhile_cons_of_neg hc]
    exact ⟨List.append_nil run, rfl⟩

/-! ## Blanks -/

/-- A text with no blank at either end. -/
structure Bare (cs : List Char) : Prop where
  head : ∀ c ∈ cs.head?, isBlank c = false
  last : ∀ c ∈ cs.getLast?, isBlank c = false

instance (cs : List Char) : Decidable (Bare cs) :=
  have hall (o : Option Char) : o.all (!isBlank ·) = true ↔ ∀ c ∈ o, isBlank c = false := by
    simp [Option.all_eq_true]
  decidable_of_iff (cs.head?.all (!isBlank ·) = true ∧ cs.getLast?.all (!isBlank ·) = true)
    ⟨fun h => ⟨(hall _).1 h.1, (hall _).1 h.2⟩, fun h => ⟨(hall _).2 h.head, (hall _).2 h.last⟩⟩

/-- The second text is what the first leaves without the blanks around it. -/
def Trimmed (cs text : List Char) : Prop :=
  Bare text ∧ ∃ front back, (∀ c ∈ front, isBlank c = true) ∧ (∀ c ∈ back, isBlank c = true) ∧
    cs = front ++ text ++ back

/-- The second text is what the first leaves without the blanks behind it. -/
def TrimmedEnd (cs text : List Char) : Prop :=
  (∀ c ∈ text.getLast?, isBlank c = false) ∧ ∃ back, (∀ c ∈ back, isBlank c = true) ∧ cs = text ++ back

theorem head?_dropWhile_isBlank {cs : List Char} {c : Char} (h : c ∈ (cs.dropWhile isBlank).head?) :
    isBlank c = false := by
  have hnot := List.head?_dropWhile_not isBlank cs
  rw [h] at hnot
  exact hnot

theorem trimmedEnd_trimEndChars (cs : List Char) : TrimmedEnd cs (trimEndChars cs) := by
  refine ⟨?_, (cs.reverse.takeWhile isBlank).reverse, ?_, ?_⟩
  · intro c hc
    rw [trimEndChars, List.getLast?_reverse] at hc
    exact head?_dropWhile_isBlank hc
  · exact fun c hc => List.mem_takeWhile_imp (List.mem_reverse.1 hc)
  · rw [trimEndChars, ← List.reverse_append, List.takeWhile_append_dropWhile, List.reverse_reverse]

/-- Trimming the end is the only way to meet its description. -/
theorem trimEndChars_eq_iff {cs text : List Char} : trimEndChars cs = text ↔ TrimmedEnd cs text := by
  constructor
  · rintro rfl
    exact trimmedEnd_trimEndChars cs
  · rintro ⟨hlast, back, hback, rfl⟩
    have hdrop : (text ++ back).reverse.dropWhile isBlank = text.reverse := by
      rw [List.reverse_append]
      refine (span_append ?_ ?_).2
      · exact fun c hc => hback c (List.mem_reverse.1 hc)
      · intro c hc
        rw [List.head?_reverse] at hc
        exact hlast c hc
    rw [trimEndChars, hdrop, List.reverse_reverse]

theorem trimmed_trimChars (cs : List Char) : Trimmed cs (trimChars cs) := by
  obtain ⟨hlast, back, hback, hsplit⟩ := trimmedEnd_trimEndChars (trimStartChars cs)
  refine ⟨⟨?_, hlast⟩, cs.takeWhile isBlank, back, fun c hc => List.mem_takeWhile_imp hc, hback, ?_⟩
  · intro c hc
    have hstart : c ∈ (trimStartChars cs).head? := by
      rw [hsplit, List.head?_append, ← trimChars, hc]
      rfl
    exact head?_dropWhile_isBlank hstart
  · rw [trimChars, List.append_assoc, ← hsplit]
    exact List.takeWhile_append_dropWhile.symm

/-- Trimming is the only way to meet its description. -/
theorem trimChars_eq_iff {cs text : List Char} : trimChars cs = text ↔ Trimmed cs text := by
  constructor
  · rintro rfl
    exact trimmed_trimChars cs
  · rintro ⟨⟨hhead, hlast⟩, front, back, hfront, hback, rfl⟩
    cases text with
    | nil =>
      have hall : ∀ c ∈ front ++ back, isBlank c = true := by
        intro c hc
        rcases List.mem_append.1 hc with hc | hc
        · exact hfront c hc
        · exact hback c hc
      have hnone : (front ++ [] ++ back).dropWhile isBlank = [] := by
        rw [List.append_nil, ← List.append_nil (front ++ back)]
        exact (span_append hall (by simp)).2
      rw [trimChars, trimStartChars, hnone]
      rfl
    | cons c text =>
      have hstart : trimStartChars (front ++ (c :: text) ++ back) = (c :: text) ++ back := by
        rw [trimStartChars, List.append_assoc]
        exact (span_append hfront (by simpa using hhead)).2
      rw [trimChars, hstart, trimEndChars_eq_iff]
      exact ⟨hlast, back, hback, rfl⟩

/-- What has no blank at either end is left as it is. -/
theorem trim_of_bare {s : String} (h : Bare s.toList) : trim s = s := by
  have hself : Trimmed s.toList s.toList := ⟨h, [], [], by simp, by simp, by simp⟩
  rw [trim, trimChars_eq_iff.2 hself, String.ofList_toList]

/-! ## Widths -/

/-- The width of characters is that of the text they make up. -/
theorem byteWidth_eq (cs : List Char) : byteWidth cs = (String.ofList cs).utf8ByteSize := by
  induction cs with
  | nil => rfl
  | cons c cs ih =>
    have hcons : String.ofList (c :: cs) = String.singleton c ++ String.ofList cs := by
      rw [String.singleton_eq_ofList, ← String.ofList_append, List.singleton_append]
    rw [byteWidth, ih, hcons, String.utf8ByteSize_append, String.utf8ByteSize_singleton]

theorem byteWidth_toList (s : String) : byteWidth s.toList = s.utf8ByteSize := by
  rw [byteWidth_eq, String.ofList_toList]

theorem byteWidth_append (cs ds : List Char) : byteWidth (cs ++ ds) = byteWidth cs + byteWidth ds := by
  rw [byteWidth_eq, byteWidth_eq, byteWidth_eq, String.ofList_append, String.utf8ByteSize_append]

/-- Every character takes a byte at least. -/
theorem length_le_byteWidth (cs : List Char) : cs.length ≤ byteWidth cs := by
  induction cs with
  | nil => exact Nat.le_refl 0
  | cons c cs ih =>
    have hpos := c.utf8Size_pos
    rw [List.length_cons, byteWidth]
    omega

theorem byteWidth_spaces (n : Nat) : byteWidth (List.replicate n ' ') = n := by
  induction n with
  | zero => rfl
  | succ n ih =>
    have hspace : ' '.utf8Size = 1 := by decide
    rw [List.replicate_succ, byteWidth, ih, hspace, Nat.add_comm]

/-- Beginnings of one text that have the same width are the same. -/
theorem eq_of_byteWidth {front front' tail tail' : List Char} (h : front ++ tail = front' ++ tail')
    (hwidth : byteWidth front = byteWidth front') : front = front' ∧ tail = tail' := by
  have hnone : ∀ more, byteWidth more = 0 → more = [] := by
    intro more hmore
    have hlength := length_le_byteWidth more
    exact List.length_eq_zero_iff.1 (by omega)
  rcases List.append_eq_append_iff.1 h with ⟨more, rfl, rfl⟩ | ⟨more, rfl, rfl⟩
  · rw [byteWidth_append] at hwidth
    obtain rfl := hnone more (by omega)
    exact ⟨(List.append_nil front).symm, rfl⟩
  · rw [byteWidth_append] at hwidth
    obtain rfl := hnone more (by omega)
    exact ⟨List.append_nil front', rfl⟩

end ScadManual.Text
