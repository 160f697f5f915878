import ScadManual.Proofs.Attachment
import ScadManual.Proofs.Shown

/-!
# Where links to items lead

The page of a file shows an item under its display name, in which every list of arguments is emptied.  A link
to the item asks for the anchor of its title and its whole name.  What a character leaves in an anchor does not
depend on its neighbours, so both anchors can be compared character by character: the link leads to the header
exactly when nothing that stands between the parentheses leaves anything in an anchor.
-/

namespace ScadManual

/-! ## Anchors, character by character -/

namespace Markup

/-- What a character leaves in an anchor. -/
def anchorPart (c : Char) : List Char := (Text.Casing.lowerChar c).filterMap anchorChar?

/-- Neither small sigma leaves anything, so it does not matter which of them a capital one becomes. -/
theorem filterMap_sigma (final : Bool) :
    [if final then Text.Casing.finalSigma else Text.Casing.smallSigma].filterMap anchorChar? =
      anchorPart Text.Casing.capitalSigma := by
  cases final <;> decide +kernel

theorem filterMap_lowerChars (before cs : List Char) :
    (Text.Casing.lowerChars before cs).filterMap anchorChar? = cs.flatMap anchorPart := by
  induction cs generalizing before with
  | nil => rfl
  | cons c cs ih =>
    rw [Text.Casing.lowerChars, List.filterMap_append, ih, List.flatMap_cons]
    congr 1
    by_cases hc : c = Text.Casing.capitalSigma
    · rw [if_pos hc, hc]
      exact filterMap_sigma _
    · rw [if_neg hc, anchorPart]

theorem toList_anchor (header : String) : (anchor header).toList = header.toList.flatMap anchorPart := by
  rw [anchor, Text.toLower, String.toList_ofList, String.toList_ofList, filterMap_lowerChars]

theorem anchor_eq_iff {a b : String} :
    anchor a = anchor b ↔ a.toList.flatMap anchorPart = b.toList.flatMap anchorPart := by
  rw [← String.toList_inj, toList_anchor, toList_anchor]

/-- A slash for an ampersand is not seen in an anchor. -/
theorem flatMap_replaceChar (title : String) :
    (Text.replaceChar title '&' "/").toList.flatMap anchorPart = title.toList.flatMap anchorPart := by
  have hsame : anchorPart '/' = anchorPart '&' := by decide +kernel
  rw [Text.replaceChar, String.toList_ofList, List.flatMap_assoc]
  congr 1
  funext c
  by_cases hc : c = '&'
  · rw [if_pos hc, hc, ← hsame]
    exact List.append_nil _
  · rw [if_neg hc, List.flatMap_singleton]

end Markup

/-! ## Arguments -/

/-- The characters that stand between an opening parenthesis and the next closing one. -/
def argumentChars (cs : List Char) : List Char :=
  match cs with
  | [] => []
  | '(' :: rest =>
    match h : Text.cutChars? ')' rest with
    | some (inside, after) =>
      have := Text.length_lt_of_cutChars? h
      inside ++ argumentChars after
    | none => argumentChars rest
  | _ :: rest => argumentChars rest
termination_by cs.length
decreasing_by all_goals grind

section Open

variable {rest inside after : List Char}

theorem collapseArgs_of_cut (h : Text.cutChars? ')' rest = some (inside, after)) :
    collapseArgs ('(' :: rest) = '(' :: ')' :: collapseArgs after := by
  rw [collapseArgs]
  split
  · next heq =>
    obtain ⟨-, rfl⟩ := Prod.mk.inj (Option.some.inj (heq.symm.trans h))
    rfl
  · next heq => simp [h] at heq

theorem argumentChars_of_cut (h : Text.cutChars? ')' rest = some (inside, after)) :
    argumentChars ('(' :: rest) = inside ++ argumentChars after := by
  rw [argumentChars]
  split
  · next heq =>
    obtain ⟨rfl, rfl⟩ := Prod.mk.inj (Option.some.inj (heq.symm.trans h))
    rfl
  · next heq => simp [h] at heq

theorem collapseArgs_of_open (h : Text.cutChars? ')' rest = none) :
    collapseArgs ('(' :: rest) = '(' :: collapseArgs rest ∧
      argumentChars ('(' :: rest) = argumentChars rest := by
  rw [collapseArgs, argumentChars]
  constructor
  · split
    · next heq => simp [h] at heq
    · rfl
  · split
    · next heq => simp [h] at heq
    · rfl

end Open

/-- Emptying the lists of arguments takes out the arguments and keeps all else in its order. -/
theorem collapseArgs_spec (cs : List Char) :
    (collapseArgs cs).Sublist cs ∧ cs.Perm (collapseArgs cs ++ argumentChars cs) := by
  induction cs using collapseArgs.induct with
  | case1 =>
    rw [collapseArgs, argumentChars]
    exact ⟨.refl [], .refl []⟩
  | case2 rest inside after hcut _ ih =>
    obtain ⟨hkept, hall⟩ := ih
    rw [collapseArgs_of_cut hcut, argumentChars_of_cut hcut, ← Text.append_of_cutChars? hcut]
    refine ⟨?_, ?_⟩
    · exact ((hkept.cons_cons ')').trans (List.sublist_append_right inside _)).cons_cons '('
    · have hmove : (inside ++ ')' :: after).Perm (')' :: (inside ++ after)) := List.perm_middle
      have hinside : (inside ++ after).Perm (collapseArgs after ++ (inside ++ argumentChars after)) := by
        refine (hall.append_left inside).trans ?_
        rw [← List.append_assoc, ← List.append_assoc]
        exact List.perm_append_comm.append_right _
      exact (hmove.trans (hinside.cons ')')).cons '('
  | case3 rest hcut ih =>
    obtain ⟨hkept, hall⟩ := ih
    obtain ⟨hcollapse, harguments⟩ := collapseArgs_of_open hcut
    rw [hcollapse, harguments]
    exact ⟨hkept.cons_cons '(', hall.cons '('⟩
  | case4 c rest hc ih =>
    obtain ⟨hkept, hall⟩ := ih
    rw [collapseArgs, argumentChars]
    · exact ⟨hkept.cons_cons c, hall.cons c⟩
    · exact hc
    · exact hc

/-- What is read off the characters one by one is the same without the arguments just when nothing is read off
these. -/
theorem flatMap_collapseArgs_iff {α : Type} (part : Char → List α) (cs : List Char) :
    cs.flatMap part = (collapseArgs cs).flatMap part ↔ (argumentChars cs).flatMap part = [] := by
  obtain ⟨hkept, hall⟩ := collapseArgs_spec cs
  have hlength : (cs.flatMap part).length =
      ((collapseArgs cs).flatMap part).length + ((argumentChars cs).flatMap part).length := by
    rw [← List.length_append, ← List.flatMap_append]
    exact (hall.flatMap_right part).length_eq
  constructor
  · intro hsame
    rw [hsame] at hlength
    exact List.length_eq_zero_iff.1 (by omega)
  · intro hnone
    rw [hnone, List.length_nil, Nat.add_zero] at hlength
    exact ((hkept.flatMap part).eq_of_length hlength.symm).symm

namespace Node

/-- The arguments in the name of an item, one list after the other. -/
def arguments (n : Node) : String := String.ofList (argumentChars n.subtitle.toList)

/-- The anchor that links to an item ask for. -/
def linkAnchor (n : Node) : String := Markup.anchor (n.title ++ ": " ++ n.subtitle)

/-- The anchor of links is that of the display name just when the arguments leave nothing in an anchor. -/
theorem linkAnchor_eq_iff {n : Node} (h : n.isItem = true) :
    n.linkAnchor = Markup.anchor n.displayName ↔ Markup.anchor n.arguments = "" := by
  have hempty : Markup.anchor n.arguments = "" ↔
      (argumentChars n.subtitle.toList).flatMap Markup.anchorPart = [] := by
    rw [← String.toList_inj, Markup.toList_anchor, arguments, String.toList_ofList, String.toList_empty]
  rw [hempty, ← flatMap_collapseArgs_iff, linkAnchor, Markup.anchor_eq_iff, displayName, if_pos h]
  simp only [String.toList_append, String.toList_ofList, List.flatMap_append, Markup.flatMap_replaceChar,
    List.append_cancel_left_eq]

end Node

/-! ## The way up from an item -/

namespace Document

variable {d : Document} {id : NodeId} {n : Node}

/-- What is no file stands below a node that may hold it, in the same file. -/
theorem Forest.stands_below (h : d.Forest) (hn : d.node? id = some n) (hr : n.kind.rank ≠ .file) :
    ∃ p pn, d.node? p = some pn ∧ n.kind.rank.mayStandBelow pn.kind.rank = true ∧ id ∈ d.children p ∧
      d.fileOf id = d.fileOf p := by
  cases hp : d.parent? id with
  | none =>
    refine absurd (h.root (footing?_of_node? hn) ?_) hr
    rw [parent?, hn] at hp
    exact hp
  | some p =>
    obtain ⟨x, pn, hx, hpn, hbelow⟩ := h.wellFormed.mayStandBelow id p hp
    obtain rfl := Option.some.inj (hn.symm.trans hx)
    refine ⟨p, pn, hpn, hbelow, h.mem_children_iff.2 hp, ?_⟩
    rw [fileOf, hp]
    simp only [if_pos (h.parent_lt hp)]

theorem Forest.fileOf_file (h : d.Forest) (hn : d.node? id = some n) (hr : n.kind.rank = .file) :
    d.fileOf id = id := by
  rw [fileOf]
  cases hp : d.parent? id with
  | none => rfl
  | some p =>
    -- nothing holds a file
    obtain ⟨x, pn, hx, -, hbelow⟩ := h.wellFormed.mayStandBelow id p hp
    obtain rfl := Option.some.inj (hn.symm.trans hx)
    rw [hr] at hbelow
    exact absurd hbelow (by simp [Rank.mayStandBelow])

/-- An item stands in a section of its file. -/
theorem Forest.section_of_item (h : d.Forest) (hn : d.node? id = some n) (hitem : n.isItem = true) :
    ∃ sec sn fn info, d.node? sec = some sn ∧ sn.kind = .section ∧ id ∈ d.children sec ∧
      d.node? (d.fileOf id) = some fn ∧ fn.kind = .file info ∧ sec ∈ d.children (d.fileOf id) := by
  have hrank : n.kind.rank = .item := Node.rank_of_isItem hitem
  obtain ⟨sec, sn, hsn, hbelow, hid, hfile⟩ := h.stands_below hn (by rw [hrank]; decide)
  have hsection : sn.kind.rank = .section := by
    rw [hrank] at hbelow
    cases hs : sn.kind.rank <;> simp [hs, Rank.mayStandBelow] at hbelow ⊢
  obtain ⟨file, fn, hfn, hbelow', hsec, hfile'⟩ := h.stands_below hsn (by rw [hsection]; decide)
  have hroot : fn.kind.rank = .file := by
    rw [hsection] at hbelow'
    cases hf : fn.kind.rank <;> simp [hf, Rank.mayStandBelow] at hbelow' ⊢
  obtain ⟨info, hinfo⟩ := Kind.eq_file_of_rank hroot
  rw [hfile, hfile', h.fileOf_file hfn hroot]
  exact ⟨sec, sn, fn, info, hsn, Kind.eq_section_of_rank hsection, hid, hfn, hinfo, hsec⟩

end Document

/-! ## Headers on pages -/

namespace Page.Setting

section Lines

variable {s : Setting} {id : NodeId} {n : Node}

/-- The lines of an item start with its header. -/
theorem header_starts {info : ItemInfo} (hn : s.doc.node? id = some n) (hk : n.kind = .item info) :
    Dialect.header n.displayName itemLevel true <+: (s.nodeLines id).value := by
  rw [nodeLines.eq_1 s id]
  simp only [hn, hk]
  exact List.prefix_append _ _

/-- The page of a file shows the header of each of its items. -/
theorem header_infix {info : ItemInfo} (hd : s.doc.Forest) (hn : s.doc.node? id = some n)
    (hk : n.kind = .item info) :
    Dialect.header n.displayName itemLevel true <:+: (s.filePage (s.doc.fileOf id)).value :=
  (header_starts hn hk).isInfix.trans (within_filePage hd id).lines

theorem itemLink_of_node? (hn : s.doc.node? id = some n) (current label : Option String) (literal : Bool) :
    s.itemLink id current label literal =
      s.dialect.link (label.getD n.subtitle) n.linkAnchor (linkFile n.origin current) literal := by
  rw [itemLink, hn]
  rfl

end Lines

/-- **A link to an item leads to its header exactly when its arguments leave nothing in an anchor.**  The page of
its file shows the item under its display name; every link to it, from whatever page and under whatever label,
asks for the anchor of its title and its whole name. -/
theorem item_link_lands_iff (settings : Settings) (inputs : List Manual.Input) (dialect : Dialect) (id : NodeId)
    (n : Node) :
    let m := (Manual.new settings).readAll inputs
    let s : Setting := ⟨m.library, dialect⟩
    m.document.node? id = some n → n.isItem = true →
    Dialect.header n.displayName itemLevel true <:+: (s.filePage (m.document.fileOf id)).value ∧
      (∀ current label literal, s.itemLink id current label literal =
        dialect.link (label.getD n.subtitle) n.linkAnchor (linkFile n.origin current) literal) ∧
      (n.linkAnchor = Markup.anchor n.displayName ↔ Markup.anchor n.arguments = "") := by
  intro m s hn hitem
  obtain ⟨info, hinfo⟩ := Kind.eq_item_of_rank (Node.rank_of_isItem hitem)
  refine ⟨?_, ?_, Node.linkAnchor_eq_iff hitem⟩
  · exact header_infix (Manual.forest_readAll settings inputs) hn hinfo
  · intro current label literal
    exact itemLink_of_node? (s := s) hn current label literal

/-- Links to a function without arguments lead to its header, whatever page they stand on. -/
theorem item_link_lands_iff_plain :
    let m := (Manual.new Settings.default).readAll
      [.code "a.scad" ["// File: a.scad", "// Function&Module: foo()"]]
    let s : Setting := ⟨m.library, .mkdocs⟩
    ∃ n, m.document.node? 2 = some n ∧ n.isItem = true ∧
      Dialect.header "Function/Module: foo()" itemLevel true <:+: (s.filePage 0).value ∧
      s.itemLink 2 (some "TOC.md") none true = "[`foo()`](a.scad.md#functionmodule-foo)" ∧
      n.linkAnchor = Markup.anchor n.displayName := by
  intro m s
  obtain ⟨n, hn, hitem, hname, harguments, hfile, hlink⟩ : ∃ n, m.document.node? 2 = some n ∧
      n.isItem = true ∧ n.displayName = "Function/Module: foo()" ∧ Markup.anchor n.arguments = "" ∧
      m.document.fileOf 2 = 0 ∧
      Dialect.mkdocs.link n.subtitle n.linkAnchor (linkFile n.origin (some "TOC.md")) true =
        "[`foo()`](a.scad.md#functionmodule-foo)" := by
    refine ⟨⟨.item .empty, "Function&Module", "foo()", [], ⟨"a.scad", 2⟩, 0, some 1⟩, ?_⟩
    decide +kernel
  obtain ⟨hheader, hlinks, hlands⟩ := item_link_lands_iff _ _ .mkdocs 2 n hn hitem
  rw [hname, hfile] at hheader
  exact ⟨n, hn, hitem, hheader, (hlinks _ _ _).trans hlink, hlands.2 harguments⟩

/-- A function with arguments: the list of contents links to an anchor that is not the one of the header below. -/
theorem item_link_misses_arguments :
    let m := (Manual.new Settings.default).readAll
      [.code "a.scad" ["// File: a.scad", "// Function: foo(a, b)"]]
    let s : Setting := ⟨m.library, .wiki⟩
    (s.filePage 0).value =
        ["# File: a.scad", "", "", "## File Contents", "", "- [`foo(a, b)`](#function-fooa-b)", "", "",
          "### Function: foo()", "", "---", ""] ∧
      (m.document.node? 2).map (fun n => (n.linkAnchor, n.displayName, Markup.anchor n.displayName)) =
        some ("function-fooa-b", "Function: foo()", "function-foo") := by
  decide +kernel

end Page.Setting

end ScadManual
