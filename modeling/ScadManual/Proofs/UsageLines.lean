import Mathlib.Algebra.Ring.Nat
import Mathlib.Data.List.Chain
import ScadManual.Page.CheatSheet
import ScadManual.Proofs.Runs

/-!
# Usages on the lines of the cheat sheet

The usages of an item fill quoted lines from left to right.  A usage goes on the current line unless it is long or the line
has no room for it, so the lines are as full as that rule lets them be, and there is only one way to fill them.  The rule
looks at the usage that comes next and not at those on the line: a long usage starts its line, but a short one may join it.
-/

namespace ScadManual.Page

/-! ## Full lines -/

section Packing

variable {α : Type} {size : α → Nat} {x : α} {xs line more : List α} {lines lines' : List (List α)}

/-- What the members of a line add up to. -/
def total (size : α → Nat) (line : List α) : Nat :=
  (line.map size).sum

/-- Must something of the given length start a line, with `used` characters on the current one? -/
def Starts (used length : Nat) : Prop :=
  cheatLineWidth < used + length ∨ cheatPartWidth < length

/-- A line that may stand by itself. -/
structure Lawful (size : α → Nat) (line : List α) : Prop where
  held : line ≠ []
  /-- Only what stands alone may be wider than a line. -/
  fits : line.length = 1 ∨ total size line ≤ cheatLineWidth
  /-- What is long stands first. -/
  short : ∀ x ∈ line.tail, size x ≤ cheatPartWidth

/-- Lines that hold all of a list in its order, and each as much as it may. -/
structure Packs (size : α → Nat) (xs : List α) (lines : List (List α)) : Prop where
  /-- Nothing is lost, repeated or moved. -/
  whole : lines.flatten = xs
  lawful : ∀ line ∈ lines, Lawful size line
  /-- A line ends only where the next one has to start. -/
  full : lines.IsChain fun line next => ∀ x ∈ next.head?, Starts (total size line) (size x)

@[simp]
theorem total_nil (size : α → Nat) : total size [] = 0 := rfl

@[simp]
theorem total_cons (size : α → Nat) (x : α) (line : List α) :
    total size (x :: line) = size x + total size line := by
  rw [total, List.map_cons, List.sum_cons, total]

@[simp]
theorem total_append (size : α → Nat) (line more : List α) :
    total size (line ++ more) = total size line + total size more := by
  rw [total, List.map_append, List.sum_append, total, total]

@[simp]
theorem total_reverse (size : α → Nat) (line : List α) : total size line.reverse = total size line := by
  induction line with
  | nil => rfl
  | cons x line ih => simp [ih, Nat.add_comm]

theorem lawful_singleton (size : α → Nat) (x : α) : Lawful size [x] :=
  ⟨List.cons_ne_nil _ _, .inl rfl, by simp⟩

/-- A line grows by what need not start one. -/
theorem Lawful.concat (h : Lawful size line) (hx : ¬ Starts (total size line) (size x)) :
    Lawful size (line ++ [x]) := by
  rw [Starts, not_or, Nat.not_lt, Nat.not_lt] at hx
  obtain ⟨hroom, hshort⟩ := hx
  refine ⟨by simp, .inr ?_, ?_⟩
  · simpa using hroom
  · rw [List.tail_append_of_ne_nil h.held]
    intro y hy
    rcases List.mem_append.1 hy with hy | hy
    · exact h.short y hy
    · rwa [List.mem_singleton.1 hy]

/-- A line holds nothing behind the place where the next one has to start. -/
theorem Lawful.eq_nil_of_starts (h : Lawful size (line ++ more)) (hline : line ≠ [])
    (hmore : ∀ x ∈ more.head?, Starts (total size line) (size x)) : more = [] := by
  cases more with
  | nil => rfl
  | cons x more =>
    have hshort : size x ≤ cheatPartWidth := by
      refine h.short x ?_
      rw [List.tail_append_of_ne_nil hline]
      simp
    have hlength : (line ++ x :: more).length ≠ 1 := by
      have := List.length_pos_iff.2 hline
      simp only [List.length_append, List.length_cons]
      omega
    have hroom := h.fits.resolve_left hlength
    rw [total_append, total_cons] at hroom
    rcases hmore x rfl with hwide | hlong
    · omega
    · omega

/-- The first line comes before lines that are full by themselves. -/
theorem packs_cons_iff : Packs size xs (line :: lines) ↔ Lawful size line ∧
    ∃ rest, xs = line ++ rest ∧ (∀ x ∈ rest.head?, Starts (total size line) (size x)) ∧ Packs size rest lines := by
  -- what follows a line begins with the next one, which is not empty
  have hnext (hlawful : ∀ next ∈ lines, Lawful size next) : (∀ next ∈ lines.head?, ∀ x ∈ next.head?,
      Starts (total size line) (size x)) ↔ ∀ x ∈ lines.flatten.head?, Starts (total size line) (size x) := by
    cases lines with
    | nil => simp
    | cons next lines =>
      obtain ⟨x, more, rfl⟩ := List.exists_cons_of_ne_nil (hlawful next List.mem_cons_self).held
      simp
  constructor
  · rintro ⟨rfl, hlawful, hfull⟩
    obtain ⟨hline, hlines⟩ := List.forall_mem_cons.1 hlawful
    obtain ⟨hstarts, hfull⟩ := List.isChain_cons.1 hfull
    exact ⟨hline, lines.flatten, List.flatten_cons, (hnext hlines).1 hstarts, rfl, hlines, hfull⟩
  · rintro ⟨hline, _, rfl, hstarts, rfl, hlines, hfull⟩
    refine ⟨List.flatten_cons, List.forall_mem_cons.2 ⟨hline, hlines⟩, ?_⟩
    exact List.isChain_cons.2 ⟨(hnext hlines).2 hstarts, hfull⟩

theorem packs_nil_iff : Packs size xs [] ↔ xs = [] :=
  ⟨fun h => h.whole.symm, fun h => ⟨h.symm, by simp, .nil⟩⟩

/-- **There is one way to fill lines.**  Of two first lines the longer one would hold what has to start a line. -/
theorem Packs.unique (h : Packs size xs lines) (h' : Packs size xs lines') : lines = lines' := by
  induction lines generalizing xs lines' with
  | nil =>
    obtain rfl := packs_nil_iff.1 h
    cases lines' with
    | nil => rfl
    | cons line' lines' =>
      obtain ⟨hline', rest, hwhole, -⟩ := packs_cons_iff.1 h'
      exact absurd (List.append_eq_nil_iff.1 hwhole.symm).1 hline'.held
  | cons line lines ih =>
    obtain ⟨hline, rest, rfl, hstarts, hlines⟩ := packs_cons_iff.1 h
    cases lines' with
    | nil => exact absurd (List.append_eq_nil_iff.1 (packs_nil_iff.1 h')).1 hline.held
    | cons line' lines' =>
      obtain ⟨hline', rest', hwhole, hstarts', hlines'⟩ := packs_cons_iff.1 h'
      rcases List.append_eq_append_iff.1 hwhole with ⟨more, rfl, rfl⟩ | ⟨more, rfl, rfl⟩
      · obtain rfl : more = [] := by
          refine hline'.eq_nil_of_starts hline.held fun x hx => hstarts x ?_
          rw [List.head?_append, hx]
          rfl
        rw [ih hlines hlines', List.append_nil]
      · obtain rfl : more = [] := by
          refine hline.eq_nil_of_starts hline'.held fun x hx => hstarts' x ?_
          rw [List.head?_append, hx]
          rfl
        rw [ih hlines hlines', List.append_nil]

/-- What is long starts its line, and has it for itself exactly when what follows has to start another. -/
theorem Packs.long_starts {before after : List α} (h : Packs size (before ++ x :: after) lines)
    (hlong : cheatPartWidth < size x) :
    ∃ pre more post, lines = pre ++ (x :: more) :: post ∧ pre.flatten = before ∧ more ++ post.flatten = after ∧
      (more = [] ↔ ∀ y ∈ after.head?, Starts (size x) (size y)) := by
  induction lines generalizing before with
  | nil => exact absurd (packs_nil_iff.1 h) (by simp)
  | cons line lines ih =>
    obtain ⟨hline, rest, hwhole, hstarts, hlines⟩ := packs_cons_iff.1 h
    rcases List.append_eq_append_iff.1 hwhole with ⟨inner, rfl, hinner⟩ | ⟨later, rfl, rfl⟩
    · cases inner with
      | nil =>
        -- the line ends right before, and the next one is the first of the rest
        obtain rfl : x :: after = rest := hinner
        have hrest : Packs size ([] ++ x :: after) lines := hlines
        obtain ⟨pre, more, post, rfl, hpre, hafter, halone⟩ := ih hrest
        exact ⟨(before ++ []) :: pre, more, post, rfl, by simp [hpre], hafter, halone⟩
      | cons y inner =>
        rw [List.cons_append] at hinner
        obtain ⟨rfl, rfl⟩ := List.cons.inj hinner
        obtain rfl : before = [] := by
          apply Decidable.byContradiction
          intro hbefore
          have hshort := hline.short x (by simp [List.tail_append_of_ne_nil hbefore])
          exact absurd hlong (Nat.not_lt.2 hshort)
        refine ⟨[], inner, lines, rfl, rfl, by rw [hlines.whole], ?_, fun hnext => ?_⟩
        · rintro rfl
          simpa using hstarts
        · have hline : Lawful size ([x] ++ inner) := hline
          refine hline.eq_nil_of_starts (List.cons_ne_nil _ _) fun y hy => ?_
          rw [total_cons, total_nil]
          exact hnext y (by rw [List.head?_append, hy]; rfl)
    · obtain ⟨pre, more, post, rfl, rfl, rfl, halone⟩ := ih hlines
      exact ⟨line :: pre, more, post, rfl, rfl, rfl, halone⟩

section Map

variable {β : Type} {f : β → α} {ys : List β}

theorem total_map (size : α → Nat) (f : β → α) (ys : List β) : total size (ys.map f) = total (size ∘ f) ys := by
  rw [total, total, List.map_map]

theorem Lawful.of_map (h : Lawful size (ys.map f)) : Lawful (size ∘ f) ys := by
  obtain ⟨hheld, hfits, hshort⟩ := h
  refine ⟨?_, ?_, ?_⟩
  · simpa using hheld
  · rwa [List.length_map, total_map] at hfits
  · rwa [← List.map_tail, List.forall_mem_map] at hshort

/-- Only the lengths decide how lines are filled. -/
theorem Packs.of_map (h : Packs size (ys.map f) lines) :
    ∃ parts, lines = parts.map (List.map f) ∧ Packs (size ∘ f) ys parts := by
  induction lines generalizing ys with
  | nil =>
    have hnone : ys = [] := List.map_eq_nil_iff.1 (packs_nil_iff.1 h)
    exact ⟨[], rfl, packs_nil_iff.2 hnone⟩
  | cons line lines ih =>
    obtain ⟨hline, rest, hwhole, hstarts, hlines⟩ := packs_cons_iff.1 h
    obtain ⟨part, others, rfl, rfl, rfl⟩ := List.map_eq_append_iff.1 hwhole
    obtain ⟨parts, rfl, hparts⟩ := ih hlines
    refine ⟨part :: parts, rfl, packs_cons_iff.2 ⟨hline.of_map, others, rfl, ?_, hparts⟩⟩
    intro y hy
    rw [← total_map]
    exact hstarts (f y) (by rw [List.head?_map, hy]; rfl)

end Map

end Packing

/-! ## Lines as they are filled -/

theorem startsLine_iff {u : Usage} {used : Nat} : u.startsLine used = true ↔ Starts used u.length := by
  simp [Usage.startsLine, Starts]

/-- What has been put on the current line so far is a line that may stand, or nothing; the rest fills up after it. -/
theorem packs_fillLines (us : List Usage) {line : List Usage}
    (hline : line ≠ [] → Lawful Usage.length line.reverse) :
    Packs Usage.length (line.reverse ++ us) (fillLines line (total Usage.length line) us) := by
  induction us generalizing line with
  | nil =>
    cases line with
    | nil => exact packs_nil_iff.2 rfl
    | cons u line =>
      refine packs_cons_iff.2 ⟨hline (List.cons_ne_nil _ _), [], rfl, by simp, packs_nil_iff.2 rfl⟩
  | cons u us ih =>
    rw [fillLines]
    split
    · next hstarts =>
      -- the usage starts a line, and the current one ends if it holds anything
      have hrest : Packs Usage.length ([u].reverse ++ us) (fillLines [u] (total Usage.length [u]) us) :=
        ih fun _ => lawful_singleton Usage.length u
      cases line with
      | nil => exact hrest
      | cons v line =>
        refine packs_cons_iff.2 ⟨hline (List.cons_ne_nil _ _), u :: us, rfl, ?_, hrest⟩
        intro x hx
        obtain rfl := Option.some.inj hx
        rw [total_reverse]
        exact startsLine_iff.1 hstarts
    · next hjoins =>
      -- it joins the current line, which stays one that may stand
      have hgrown : (u :: line).reverse ++ us = line.reverse ++ u :: us := by simp
      rw [← hgrown, Nat.add_comm, ← total_cons]
      refine ih fun _ => ?_
      rw [List.reverse_cons]
      cases line with
      | nil => exact lawful_singleton Usage.length u
      | cons v line =>
        refine (hline (List.cons_ne_nil _ _)).concat ?_
        rw [total_reverse, ← startsLine_iff]
        exact hjoins

theorem packs_usageLines (us : List Usage) : Packs Usage.length us (usageLines us) :=
  packs_fillLines us fun h => absurd rfl h

namespace Setting

/-! ## The lines of an item -/

/-- The usages of an item as its blocks have them. -/
def usageTexts (s : Setting) (item : NodeId) : List String :=
  (s.doc.childrenTitled item ["Usage"]).flatMap s.doc.body

/-- How a usage of an item is shown: as code, with a link wherever the name stands. -/
def shownUsage (s : Setting) (current : String) (item : NodeId) (text : String) : String :=
  let name := plainName (s.doc.subtitle item)
  let link := s.itemLink item (some current) (some name) false
  "<code>" ++ Text.replaceAll (Markup.escape text) (Markup.escape name) link ++ "</code>" ++ "  "

/-- Lines of usages as quotations. -/
def quotedUsages (s : Setting) (current : String) (item : NodeId) (lines : List (List String)) : List String :=
  lines.map fun line => ">" ++ String.intercalate cheatSeparator (line.map (s.shownUsage current item))

/-- The lines of an item are its usages, filled into lines by their lengths in the source. -/
theorem exists_packs_itemCheatLines (s : Setting) (current : String) (item : NodeId) :
    ∃ lines, Packs String.length (s.usageTexts item) lines ∧
      s.itemCheatLines current item =
        s.quotedUsages current item lines ++ if s.usageTexts item = [] then [] else [""] := by
  obtain ⟨lines, hlines, hpacks⟩ := (packs_usageLines (s.usagesOf current item)).of_map
  refine ⟨lines, hpacks, ?_⟩
  have hnone : (s.usagesOf current item).isEmpty = true ↔ s.usageTexts item = [] := by
    rw [List.isEmpty_iff]
    exact List.map_eq_nil_iff
  have hshown (line : List String) : (line.map (usage (plainName (s.doc.subtitle item))
      (s.itemLink item (some current) (some (plainName (s.doc.subtitle item))) false))).map Usage.shown =
        line.map (s.shownUsage current item) := by
    rw [List.map_map]
    rfl
  simp only [itemCheatLines, hlines, hnone, Dialect.quote, quotedUsages, List.map_map, Function.comp_def, hshown]

/-- **Usages are packed onto lines.**  The quoted lines of an item hold its usages, each once and in order, and every
line holds one usage alone or usages that together are no wider than a line.  There is one way to fill them so that each
line ends only where the next usage is long or has no room, and that is how they are filled. -/
theorem usages_packed (s : Setting) (current : String) (item : NodeId) :
    ∃ lines : List (List String),
      s.itemCheatLines current item =
          s.quotedUsages current item lines ++ (if s.usageTexts item = [] then [] else [""]) ∧
        lines.flatten = s.usageTexts item ∧
        (∀ line ∈ lines, line ≠ [] ∧ (line.length = 1 ∨ (line.map String.length).sum ≤ 80)) ∧
        ∀ other, Packs String.length (s.usageTexts item) other ↔ other = lines := by
  obtain ⟨lines, hpacks, hlines⟩ := s.exists_packs_itemCheatLines current item
  refine ⟨lines, hlines, hpacks.whole, fun line hline => ?_, fun other => ⟨fun h => h.unique hpacks, ?_⟩⟩
  · obtain ⟨hheld, hfits, -⟩ := hpacks.lawful line hline
    exact ⟨hheld, hfits⟩
  · rintro rfl
    exact hpacks

/-- **A long usage has its line for itself exactly when no short one fits behind it.**  It starts its line, whatever comes
before; what follows joins it just when that is short and there is room for both. -/
theorem long_usage_alone_iff (s : Setting) (current : String) (item : NodeId) (before after : List String) (text : String)
    (htexts : s.usageTexts item = before ++ text :: after) (hlong : 40 < text.length) :
    ∃ (pre : List (List String)) (more : List String) (post : List (List String)),
      s.itemCheatLines current item = s.quotedUsages current item (pre ++ (text :: more) :: post) ++ [""] ∧
        pre.flatten = before ∧ more ++ post.flatten = after ∧
        (∀ line ∈ pre ++ post, line ≠ []) ∧
        (more = [] ↔ ∀ next, after.head? = some next → 40 < next.length ∨ 80 < text.length + next.length) := by
  obtain ⟨lines, hpacks, hlines⟩ := s.exists_packs_itemCheatLines current item
  rw [htexts] at hpacks
  rw [htexts, if_neg (by simp)] at hlines
  obtain ⟨pre, more, post, rfl, hbefore, hafter, halone⟩ := hpacks.long_starts hlong
  refine ⟨pre, more, post, hlines, hbefore, hafter, fun line hline => ?_, ?_⟩
  · refine (hpacks.lawful line ?_).held
    rcases List.mem_append.1 hline with hpre | hpost
    · exact List.mem_append_left _ hpre
    · exact List.mem_append_right _ (List.mem_cons_of_mem _ hpost)
  · rw [halone]
    exact forall₂_congr fun next _ => or_comm

/-- A long usage between two short ones: the first has its line, and there is no room for the second. -/
theorem long_usage_alone_iff_between :
    let m := (Manual.new Settings.default).readAll
      [.code "a.scad" ["// File: a.scad", "// Section: Pegs", "// Module: peg()", "// Usage:", "//   peg();",
        "//   peg(height, width, depth, anchor, spin, orient);", "//   peg(height, width, depth, rounding);"]]
    let s : Setting := ⟨m.library, .wiki⟩
    let text := "peg(height, width, depth, anchor, spin, orient);"
    s.usageTexts 2 = ["peg();"] ++ text :: ["peg(height, width, depth, rounding);"] ∧ 40 < text.length ∧
      ∃ pre post, s.itemCheatLines "CheatSheet.md" 2 = s.quotedUsages "CheatSheet.md" 2 (pre ++ [text] :: post) ++ [""] ∧
        pre.flatten = ["peg();"] ∧ post.flatten = ["peg(height, width, depth, rounding);"] := by
  intro m s text
  obtain ⟨htexts, hlong, hroom⟩ :
      s.usageTexts 2 = ["peg();"] ++ text :: ["peg(height, width, depth, rounding);"] ∧ 40 < text.length ∧
        80 < text.length + "peg(height, width, depth, rounding);".length := by
    decide +kernel
  obtain ⟨pre, more, post, hlines, hbefore, hafter, -, halone⟩ :=
    long_usage_alone_iff s "CheatSheet.md" 2 ["peg();"] ["peg(height, width, depth, rounding);"] text htexts hlong
  obtain rfl : more = [] := by
    refine halone.2 fun next hnext => .inr ?_
    obtain rfl := Option.some.inj hnext
    exact hroom
  exact ⟨htexts, hlong, pre, post, hlines, hbefore, hafter⟩

/-- A long usage and a short one that fits behind it: both are on one line. -/
theorem long_usage_joined :
    let m := (Manual.new Settings.default).readAll
      [.code "a.scad" ["// File: a.scad", "// Section: Pegs", "// Module: peg()", "// Usage:",
        "//   peg(height, width, depth, anchor, spin, orient);", "//   peg(h);"]]
    let s : Setting := ⟨m.library, .wiki⟩
    let text := "peg(height, width, depth, anchor, spin, orient);"
    s.usageTexts 2 = [text, "peg(h);"] ∧ 40 < text.length ∧
      s.itemCheatLines "CheatSheet.md" 2 =
        ["><code>[peg](a.scad#module-peg)(height, width, depth, anchor, spin, orient);</code>  &nbsp; &nbsp; " ++
          "<code>[peg](a.scad#module-peg)(h);</code>  ", ""] := by
  decide +kernel

end Setting

end ScadManual.Page
