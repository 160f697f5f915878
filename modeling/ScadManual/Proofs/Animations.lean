import Mathlib.Data.List.Infix
import ScadManual.Proofs.HeaderLines
import ScadManual.Proofs.ImageNames
import ScadManual.Render.Options
import ScadManual.Render.Snippet

/-!
# Animations and the files they go to

Two readings of the same metadata decide on an animated image: the extension of its file looks for the flags `Spin` and
`Anim`, and the options look for these flags and for a number of frames.  A number of frames makes an image an animation
also without a flag, while its file then has the extension of a still image.  The two readings agree on all other
metadata.  A setting is described here by how it is spelled and by being the first that is spelled so.
-/

namespace ScadManual

namespace Text

theorem occursIn_iff {part cs : List Char} : occursIn part cs = true ↔ part <:+: cs := by
  induction cs with
  | nil => rw [occursIn, List.isEmpty_iff, List.infix_nil]
  | cons c cs ih => rw [occursIn, Bool.or_eq_true, List.isPrefixOf_iff_prefix, ih, List.infix_cons_iff]

/-- A text holds another when it stands somewhere in it. -/
theorem contains_iff {s part : String} : contains s part = true ↔ part.toList <:+: s.toList := occursIn_iff

end Text

namespace Render.Options

/-! ## How settings are spelled -/

/-- The characters begin with a numeric setting: a key, an equals sign with or without spaces around it, and digits up to
a character that is none. -/
def Spells (key : String) (digits cs : List Char) : Prop :=
  ∃ before after rest, (∀ c ∈ before, c = ' ') ∧ (∀ c ∈ after, c = ' ') ∧
    (digits ≠ [] ∧ ∀ c ∈ digits, '0' ≤ c ∧ c ≤ '9') ∧ (∀ c ∈ rest.head?, ¬('0' ≤ c ∧ c ≤ '9')) ∧
    cs = key.toList ++ before ++ '=' :: (after ++ (digits ++ rest))

/-- The first setting of the key that the characters hold has these digits. -/
def FirstSetting (key : String) (digits cs : List Char) : Prop :=
  ∃ front back, cs = front ++ back ∧ Spells key digits back ∧
    ∀ front' back', cs = front' ++ back' → front'.length < front.length → ∀ digits', ¬Spells key digits' back'

/-- The first setting of the key in metadata has the value `n`, and `n` fits into 32 bits. -/
def Sets (key metadata : String) (n : Nat) : Prop :=
  ∃ digits, FirstSetting key digits metadata.toList ∧ Text.digitsValue digits = n ∧ n < Text.wordLimit

/-! ## Reading them -/

section Reading

variable {key : String} {cs digits rest tail : List Char}

theorem skipSpaces_append {spaces : List Char} (hspaces : ∀ c ∈ spaces, c = ' ') (hrest : rest.head? ≠ some ' ') :
    skipSpaces (spaces ++ rest) = rest := by
  apply (Text.span_append _ _).2
  · intro c hc
    rw [hspaces c hc]
    rfl
  · intro c hc
    apply beq_false_of_ne
    rintro rfl
    exact hrest hc

theorem exists_spaces (cs : List Char) :
    ∃ spaces, (∀ c ∈ spaces, c = ' ') ∧ cs = spaces ++ skipSpaces cs ∧ (skipSpaces cs).head? ≠ some ' ' := by
  refine ⟨cs.takeWhile (· == ' '), ?_, List.takeWhile_append_dropWhile.symm, ?_⟩
  · intro c hc
    have hspace := List.mem_takeWhile_imp hc
    exact eq_of_beq hspace
  · intro hhead
    have hnot := List.head?_dropWhile_not (· == ' ') cs
    rw [skipSpaces] at hhead
    rw [hhead] at hnot
    exact absurd hnot (by decide)

/-- What follows a key and an equals sign starts behind the spaces. -/
theorem afterKey?_eq_some_iff : afterKey? key cs = some tail ↔ tail.head? ≠ some ' ' ∧
    ∃ before after, (∀ c ∈ before, c = ' ') ∧ (∀ c ∈ after, c = ' ') ∧
      cs = key.toList ++ before ++ '=' :: (after ++ tail) := by
  constructor
  · intro h
    unfold afterKey? at h
    split at h
    · exact nomatch h
    · next rest hkey =>
      split at h
      · next value hvalue =>
        obtain rfl := Option.some.inj h
        obtain ⟨before, hbefore, hrest, -⟩ := exists_spaces rest
        obtain ⟨after, hafter, hsplit, hhead⟩ := exists_spaces value
        refine ⟨hhead, before, after, hbefore, hafter, ?_⟩
        rw [← hsplit, ← hvalue, List.append_assoc, ← hrest]
        exact (List.isPrefixOf?_eq_some_iff_append_eq.1 hkey).symm
      · exact nomatch h
  · rintro ⟨hhead, before, after, hbefore, hafter, rfl⟩
    have hkey : key.toList.isPrefixOf? (key.toList ++ before ++ '=' :: (after ++ tail)) =
        some (before ++ '=' :: (after ++ tail)) := by
      rw [List.append_assoc]
      exact List.isPrefixOf?_eq_some_iff_append_eq.2 rfl
    have hsign : skipSpaces (before ++ '=' :: (after ++ tail)) = '=' :: (after ++ tail) :=
      skipSpaces_append hbefore (by simp)
    simp only [afterKey?, hkey, hsign, skipSpaces_append hafter hhead]

theorem digits?_eq_some_iff : digits? cs = some (digits, rest) ↔
    (digits ≠ [] ∧ ∀ c ∈ digits, '0' ≤ c ∧ c ≤ '9') ∧ (∀ c ∈ rest.head?, ¬('0' ≤ c ∧ c ≤ '9')) ∧
      cs = digits ++ rest := by
  constructor
  · intro h
    simp only [digits?] at h
    split at h
    · exact nomatch h
    · next hne =>
      obtain ⟨rfl, rfl⟩ := Prod.mk.inj (Option.some.inj h)
      refine ⟨⟨by simpa using hne, fun c hc => Header.isDigit_iff.1 (List.mem_takeWhile_imp hc)⟩, ?_,
        List.takeWhile_append_dropWhile.symm⟩
      intro c hc hdigit
      have hnot := List.head?_dropWhile_not Char.isDigit cs
      rw [hc] at hnot
      rw [← Header.isDigit_iff, hnot] at hdigit
      exact nomatch hdigit
  · rintro ⟨⟨hne, hdigits⟩, hrest, rfl⟩
    have hend : ∀ c ∈ rest.head?, c.isDigit = false := by
      intro c hc
      rw [← Bool.not_eq_true, Header.isDigit_iff]
      exact hrest c hc
    obtain ⟨htake, hdrop⟩ := Text.span_append (fun c hc => Header.isDigit_iff.2 (hdigits c hc)) hend
    simp only [digits?, htake, hdrop]
    rw [if_neg (by simpa using hne)]

theorem number?_eq_some_iff : number? key cs = some digits ↔ Spells key digits cs := by
  constructor
  · intro h
    obtain ⟨⟨ds, rest⟩, hbind, rfl⟩ := Option.map_eq_some_iff.1 h
    obtain ⟨tail, hafter, hdigits⟩ := Option.bind_eq_some_iff.1 hbind
    obtain ⟨-, before, after, hbefore, hspaces, rfl⟩ := afterKey?_eq_some_iff.1 hafter
    obtain ⟨hds, hrest, rfl⟩ := digits?_eq_some_iff.1 hdigits
    exact ⟨before, after, rest, hbefore, hspaces, hds, hrest, rfl⟩
  · rintro ⟨before, after, rest, hbefore, hspaces, hds, hrest, hcs⟩
    have hhead : (digits ++ rest).head? ≠ some ' ' := by
      obtain ⟨c, more, rfl⟩ := List.exists_cons_of_ne_nil hds.1
      intro hspace
      obtain rfl : c = ' ' := Option.some.inj hspace
      exact absurd (hds.2 ' ' List.mem_cons_self) (by decide)
    have hafter : afterKey? key cs = some (digits ++ rest) :=
      afterKey?_eq_some_iff.2 ⟨hhead, before, after, hbefore, hspaces, hcs⟩
    have hdigits : digits? (digits ++ rest) = some (digits, rest) := digits?_eq_some_iff.2 ⟨hds, hrest, rfl⟩
    rw [number?, hafter, Option.bind_some, hdigits]
    rfl

/-- The first match is made at a place before which the reader finds nothing. -/
theorem firstMatch_eq_some_iff {α : Type} {read : List Char → Option α} {a : α} :
    firstMatch read cs = some a ↔ ∃ front back, cs = front ++ back ∧ read back = some a ∧
      ∀ front' back', cs = front' ++ back' → front'.length < front.length → read back' = none := by
  induction cs with
  | nil =>
    rw [firstMatch]
    constructor
    · intro h
      exact ⟨[], [], rfl, h, fun _ _ _ hlt => absurd hlt (Nat.not_lt_zero _)⟩
    · rintro ⟨front, back, hsplit, hread, -⟩
      obtain ⟨-, rfl⟩ := List.append_eq_nil_iff.1 hsplit.symm
      exact hread
  | cons c cs ih =>
    rw [firstMatch]
    constructor
    · intro h
      split at h
      · next b hread =>
        obtain rfl := Option.some.inj h
        exact ⟨[], c :: cs, rfl, hread, fun _ _ _ hlt => absurd hlt (Nat.not_lt_zero _)⟩
      · next hnone =>
        obtain ⟨front, back, rfl, hread, hfirst⟩ := ih.1 h
        refine ⟨c :: front, back, rfl, hread, fun front' back' hsplit hlt => ?_⟩
        -- an earlier place is the very first, where nothing is read, or one behind the first character
        cases front' with
        | nil => exact (List.nil_append back' ▸ hsplit) ▸ hnone
        | cons x front' => exact hfirst front' back' (List.cons.inj hsplit).2 (Nat.lt_of_succ_lt_succ hlt)
    · rintro ⟨front, back, hsplit, hread, hfirst⟩
      cases front with
      | nil =>
        rw [hsplit, List.nil_append, hread]
      | cons x front =>
        rw [hfirst [] (c :: cs) rfl (Nat.succ_pos _)]
        refine ih.2 ⟨front, back, (List.cons.inj hsplit).2, hread, fun front' back' hsplit' hlt => ?_⟩
        exact hfirst (c :: front') back' (by rw [hsplit', List.cons_append]) (Nat.succ_lt_succ hlt)

theorem numberSetting?_eq_some_iff {metadata : String} {n : Nat} :
    numberSetting? key metadata = some n ↔ Sets key metadata n := by
  have hvalue : ∀ digits, Text.word32? digits = some n ↔ Text.digitsValue digits = n ∧ n < Text.wordLimit := by
    intro digits
    simp only [Text.word32?]
    split
    · next hlt =>
      constructor
      · rintro ⟨⟩
        exact ⟨rfl, hlt⟩
      · rintro ⟨rfl, -⟩
        rfl
    · next hge =>
      constructor
      · exact fun h => nomatch h
      · rintro ⟨rfl, hlt⟩
        exact absurd hlt hge
  simp only [numberSetting?, Sets, FirstSetting, Option.bind_eq_some_iff, hvalue, firstMatch_eq_some_iff,
    number?_eq_some_iff, Option.eq_none_iff_forall_ne_some, ne_eq]

end Reading

/-! ## Two readings of the same metadata -/

/-- The metadata has one of the flags of an animation. -/
def Flagged (metadata : String) : Prop := "Spin".toList <:+: metadata.toList ∨ "Anim".toList <:+: metadata.toList

theorem contains_flag_iff {metadata : String} :
    (Text.contains metadata "Spin" || Text.contains metadata "Anim") = true ↔ Flagged metadata := by
  rw [Bool.or_eq_true, Text.contains_iff, Text.contains_iff, Flagged]

theorem imageExtension_eq_gif_iff {metadata : String} : imageExtension metadata false = "gif" ↔ Flagged metadata := by
  rw [imageExtension, Bool.not_false, Bool.true_and, ← contains_flag_iff]
  split
  · next h => simp [h]
  · next h => simp [h]

/-- An image is an animation when a flag or a number of frames says so. -/
theorem isAnimated_iff {metadata : String} :
    (ofMetadata metadata).isAnimated = true ↔ Flagged metadata ∨ ∃ n, Sets "Frames" metadata n := by
  show (frameCount? metadata).isSome = true ↔ _
  simp only [← numberSetting?_eq_some_iff, ← contains_flag_iff, frameCount?]
  split
  · next n h => simp [h]
  · next h =>
    split
    · next hflag => simp [hflag]
    · next hflag => simp [h, hflag]

/-- **When the file of an image has the extension that suits it.**  Without animated PNG files, the extension is that of
a GIF file just when the metadata has a flag of an animation, and that of a PNG file otherwise.  The image is an
animation when it has a flag, and also when its first setting of `Frames` is a number of 32 bits.  So the two agree
exactly on the metadata that has a flag whenever it sets the number of frames. -/
theorem gif_iff_animated_iff (metadata : String) :
    (imageExtension metadata false = "gif" ↔ Flagged metadata) ∧
      (imageExtension metadata false = "png" ↔ ¬Flagged metadata) ∧
      ((ofMetadata metadata).isAnimated = true ↔
        imageExtension metadata false = "gif" ∨ ∃ n, Sets "Frames" metadata n) ∧
      ((imageExtension metadata false = "gif" ↔ (ofMetadata metadata).isAnimated = true) ↔
        ((∃ n, Sets "Frames" metadata n) → Flagged metadata)) := by
  have hgif := @imageExtension_eq_gif_iff metadata
  refine ⟨hgif, ?_, ?_, ?_⟩
  · rw [← hgif]
    rcases Manual.imageExtension_cases metadata false with hext | hext <;> simp [hext]
  · rw [hgif, isAnimated_iff]
  · rw [hgif, isAnimated_iff]
    exact iff_self_or

/-- A number of frames without a flag: the image is an animation of four frames, in a file for still images. -/
theorem frames_without_flag :
    imageExtension "3D;Frames=4" false = "png" ∧ (ofMetadata "3D;Frames=4").isAnimated = true ∧
      (ofMetadata "3D;Frames=4").frames = some 4 := by
  decide

end Render.Options

end ScadManual
