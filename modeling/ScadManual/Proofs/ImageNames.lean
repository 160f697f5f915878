import ScadManual.Manual.Image
import ScadManual.Proofs.Components

/-!
# Names of image files

The name of an image file is put together from what the image is, from the title and a part of the subtitle of
the node it stands below and from its number there.  `ImageSlot` is what remains of all this in the name, and the
question when two names are the same is one about slots.  The names are read from their end: the number stands
behind the last underscore, unless the image is the first example or a figure of the file.

The first example has no number, so the name of its item is the whole name, and this name may spell that of
any other slot.  Besides this, a figure of an item may have the name of one of a section, as `section-` may begin
the name of an item too.  These are all the cases in which different slots have the same name.
-/

namespace ScadManual

/-! ## Texts read from their end -/

/-- The last separator tells what stands before and after it. -/
theorem append_cons_inj_of_not_mem {sep : Char} {a b u v : List Char} (hu : sep ∉ u) (hv : sep ∉ v)
    (h : a ++ sep :: u = b ++ sep :: v) : a = b ∧ u = v := by
  rcases List.append_eq_append_iff.1 h with ⟨more, rfl, htail⟩ | ⟨more, rfl, htail⟩
  · cases more with
    | nil => exact ⟨(List.append_nil a).symm, (List.cons.inj htail).2⟩
    | cons c more =>
      obtain ⟨-, rfl⟩ := List.cons.inj htail
      exact absurd (List.mem_append_right more List.mem_cons_self) hu
  · cases more with
    | nil => exact ⟨List.append_nil b, (List.cons.inj htail).2.symm⟩
    | cons c more =>
      obtain ⟨-, rfl⟩ := List.cons.inj htail
      exact absurd (List.mem_append_right more List.mem_cons_self) hv

theorem isDigit_of_mem_toString {n : Nat} {c : Char} (h : c ∈ (toString n).toList) : c.isDigit = true := by
  rw [Nat.toString_eq_ofList_toDigits, String.toList_ofList] at h
  exact Nat.isDigit_of_mem_toDigits (by decide) (by decide) h

theorem toString_nat_inj {m n : Nat} (h : toString m = toString n) : m = n := by
  have hvalue (k : Nat) : Nat.ofDigitChars 10 (toString k).toList 0 = k := by
    rw [Nat.toString_eq_ofList_toDigits, String.toList_ofList, Nat.ofDigitChars_ten_toDigits]
  rw [← hvalue m, h, hvalue]

namespace Manual

/-! ## Slots -/

/-- What the name of an image file tells of an image. -/
inductive ImageSlot where
  /-- A figure of the file. -/
  | fileFigure (n : Nat)
  /-- A figure of a section or a subsection; the level says which. -/
  | sectionFigure (level stem : String) (n : Nat)
  /-- A figure of an item, or of anything else. -/
  | itemFigure (stem : String) (n : Nat)
  /-- An example of an item. -/
  | itemExample (stem : String) (n : Nat)

namespace ImageSlot

/-- The slot of the image with number `n`, of a node with a title and subtitle. -/
def of (kind : ImageKind) (title subtitle : String) (n : Nat) : ImageSlot :=
  match kind with
  | .figure =>
    if title = "File" || title = "LibFile" then .fileFigure n
    else if title = "Section" || title = "Subsection" then
      .sectionFigure (Text.toLower title) (imageStem subtitle) n
    else .itemFigure (imageStem subtitle) n
  | .example => .itemExample (imageStem subtitle) n

/-- The name of a slot, before the ending. -/
def name : ImageSlot → String
  | fileFigure n => "figure" ++ toString n
  | sectionFigure level stem n => level ++ "-" ++ stem ++ "_fig" ++ toString n
  | itemFigure stem n => stem ++ "_fig" ++ toString n
  | itemExample stem n => if n > 1 then stem ++ "_" ++ toString n else stem

end ImageSlot

theorem imageFileName_eq (kind : ImageKind) (title subtitle : String) (n : Nat) (extension : String) :
    imageFileName kind title subtitle n extension =
      (ImageSlot.of kind title subtitle n).name ++ "." ++ extension := by
  have hfig : ("_fig" : String) = "_" ++ "fig" := rfl
  match kind with
  | .figure =>
    simp only [imageFileName, ImageSlot.of]
    split
    · simp only [ImageSlot.name, String.append_assoc]
    · split
      · simp only [ImageSlot.name, hfig, String.append_assoc]
      · simp only [ImageSlot.name, hfig, String.append_assoc]
  | .example =>
    simp only [imageFileName, ImageSlot.of, ImageSlot.name]
    split
    · simp only [String.append_assoc]
    · simp only [String.append_assoc, String.empty_append]

namespace ImageSlot

/-- What can be said of any slot that there is: the level of a section is one of two, and examples count from one. -/
def WellFormed : ImageSlot → Prop
  | fileFigure _ => True
  | sectionFigure level _ _ => level = "section" ∨ level = "subsection"
  | itemFigure _ _ => True
  | itemExample _ n => 0 < n

theorem wellFormed_of (kind : ImageKind) (title subtitle : String) {n : Nat} (hn : 0 < n) :
    (of kind title subtitle n).WellFormed := by
  match kind with
  | .figure =>
    simp only [of]
    split
    · exact trivial
    · split
      · next htitle =>
        have htitles : title = "Section" ∨ title = "Subsection" := by simpa using htitle
        rcases htitles with rfl | rfl
        · exact .inl (by decide +kernel)
        · exact .inr (by decide +kernel)
      · exact trivial
  | .example => exact hn

/-- What stands before and after the underscore in front of the number. -/
def parts? : ImageSlot → Option (String × String)
  | fileFigure _ => none
  | sectionFigure level stem n => some (level ++ "-" ++ stem, "fig" ++ toString n)
  | itemFigure stem n => some (stem, "fig" ++ toString n)
  | itemExample stem n => if n > 1 then some (stem, toString n) else none

theorem underscore_not_mem_toString (n : Nat) : '_' ∉ (toString n).toList :=
  fun h => absurd (isDigit_of_mem_toString h) (by decide)

theorem underscore_not_mem_fig (n : Nat) : '_' ∉ ("fig" ++ toString n).toList := by
  rw [String.toList_append, List.mem_append]
  rintro (h | h)
  · exact absurd h (by decide)
  · exact underscore_not_mem_toString n h

theorem parts?_itemExample {stem front back : String} {n : Nat}
    (h : (itemExample stem n).parts? = some (front, back)) : 1 < n ∧ stem = front ∧ toString n = back := by
  change (if n > 1 then some (stem, toString n) else none) = some (front, back) at h
  split at h
  · next hn => exact ⟨hn, Prod.mk.inj (Option.some.inj h)⟩
  · exact nomatch h

theorem name_of_parts? {a : ImageSlot} {front back : String} (h : a.parts? = some (front, back)) :
    a.name.toList = front.toList ++ '_' :: back.toList ∧ '_' ∉ back.toList := by
  cases a with
  | fileFigure n => exact nomatch h
  | sectionFigure level stem n =>
    obtain ⟨rfl, rfl⟩ := Prod.mk.inj (Option.some.inj h)
    exact ⟨by simp [name], underscore_not_mem_fig n⟩
  | itemFigure stem n =>
    obtain ⟨rfl, rfl⟩ := Prod.mk.inj (Option.some.inj h)
    exact ⟨by simp [name], underscore_not_mem_fig n⟩
  | itemExample stem n =>
    obtain ⟨hn, rfl, rfl⟩ := parts?_itemExample h
    refine ⟨?_, underscore_not_mem_toString n⟩
    rw [name, if_pos hn]
    simp

/-- Slots with a number behind an underscore have the same name when they have the same parts. -/
theorem parts_eq_of_name_eq {a b : ImageSlot} {front back front' back' : String}
    (ha : a.parts? = some (front, back)) (hb : b.parts? = some (front', back')) (h : a.name = b.name) :
    front = front' ∧ back = back' := by
  obtain ⟨hname, hback⟩ := name_of_parts? ha
  obtain ⟨hname', hback'⟩ := name_of_parts? hb
  have hlists := congrArg String.toList h
  rw [hname, hname'] at hlists
  obtain ⟨hfront, hnumber⟩ := append_cons_inj_of_not_mem hback hback' hlists
  exact ⟨String.toList_inj.1 hfront, String.toList_inj.1 hnumber⟩

theorem fig_inj {m n : Nat} (h : "fig" ++ toString m = "fig" ++ toString n) : m = n := by
  have hlists := congrArg String.toList h
  rw [String.toList_append, String.toList_append] at hlists
  exact toString_nat_inj (String.toList_inj.1 (List.append_cancel_left hlists))

/-- A number with letters before it is no number. -/
theorem fig_ne_toString (m n : Nat) : "fig" ++ toString m ≠ toString n := by
  intro h
  have hmem : 'f' ∈ (toString n).toList := by
    rw [← h]
    simp
  exact absurd (isDigit_of_mem_toString hmem) (by decide)

theorem level_inj {level level' stem stem' : String} (h : level = "section" ∨ level = "subsection")
    (h' : level' = "section" ∨ level' = "subsection") (heq : level ++ "-" ++ stem = level' ++ "-" ++ stem') :
    level = level' ∧ stem = stem' := by
  have hlists := congrArg String.toList heq
  rw [String.toList_append, String.toList_append (s := level' ++ "-")] at hlists
  rcases h with rfl | rfl <;> rcases h' with rfl | rfl
  · exact ⟨rfl, String.toList_inj.1 (List.append_cancel_left hlists)⟩
  · exact absurd hlists (by simp)
  · exact absurd hlists (by simp)
  · exact ⟨rfl, String.toList_inj.1 (List.append_cancel_left hlists)⟩

/-! ## Slots with the same name -/

/-- The cases in which two slots have the same name. -/
inductive Alike : ImageSlot → ImageSlot → Prop
  | refl (a : ImageSlot) : Alike a a
  /-- The name of an item, which is that of its first example, spells the name of another slot. -/
  | spells (b : ImageSlot) : Alike (itemExample b.name 1) b
  | spelled (a : ImageSlot) : Alike a (itemExample a.name 1)
  /-- The name of an item begins as the figures of sections do. -/
  | sectionItem (level stem : String) (n : Nat) :
      Alike (sectionFigure level stem n) (itemFigure (level ++ "-" ++ stem) n)
  | itemSection (level stem : String) (n : Nat) :
      Alike (itemFigure (level ++ "-" ++ stem) n) (sectionFigure level stem n)

theorem Alike.name_eq {a b : ImageSlot} (h : a.Alike b) : a.name = b.name := by
  cases h with
  | refl => rfl
  | spells => rfl
  | spelled => rfl
  | sectionItem level stem n => rfl
  | itemSection level stem n => rfl

theorem Alike.symm {a b : ImageSlot} (h : a.Alike b) : b.Alike a := by
  cases h with
  | refl => exact .refl _
  | spells => exact .spelled _
  | spelled => exact .spells _
  | sectionItem level stem n => exact .itemSection level stem n
  | itemSection level stem n => exact .sectionItem level stem n

/-- A figure of the file has a name without underscores. -/
theorem name_ne_of_parts? {n : Nat} {b : ImageSlot} {parts : String × String} (h : b.parts? = some parts) :
    (fileFigure n).name ≠ b.name := by
  intro heq
  have hmem : '_' ∈ (fileFigure n).name.toList := by
    rw [heq, (name_of_parts? h).1]
    exact List.mem_append_right _ List.mem_cons_self
  rw [name, String.toList_append, List.mem_append] at hmem
  rcases hmem with hword | hnumber
  · exact absurd hword (by decide)
  · exact underscore_not_mem_toString n hnumber

/-- An example is the first of its item, or its number stands behind an underscore. -/
theorem first_or_parts? (stem : String) {n : Nat} (hn : 0 < n) :
    n = 1 ∨ (itemExample stem n).parts? = some (stem, toString n) := by
  by_cases h : n > 1
  · exact .inr (if_pos h)
  · exact .inl (by omega)

theorem alike_of_parts? {a b : ImageSlot} (ha : a.WellFormed) (hb : b.WellFormed) {front back front' back' : String}
    (hpa : a.parts? = some (front, back)) (hpb : b.parts? = some (front', back')) (h : a.name = b.name) :
    a.Alike b := by
  obtain ⟨rfl, rfl⟩ := parts_eq_of_name_eq hpa hpb h
  cases a with
  | fileFigure m => exact nomatch hpa
  | sectionFigure level stem m =>
    obtain ⟨rfl, rfl⟩ := Prod.mk.inj (Option.some.inj hpa)
    cases b with
    | fileFigure n => exact nomatch hpb
    | sectionFigure level' stem' n =>
      obtain ⟨hfront, hback⟩ := Prod.mk.inj (Option.some.inj hpb)
      obtain ⟨rfl, rfl⟩ := level_inj hb ha hfront
      obtain rfl := fig_inj hback
      exact .refl _
    | itemFigure stem' n =>
      obtain ⟨rfl, hback⟩ := Prod.mk.inj (Option.some.inj hpb)
      obtain rfl := fig_inj hback
      exact .sectionItem level stem n
    | itemExample stem' n => exact absurd (parts?_itemExample hpb).2.2.symm (fig_ne_toString m n)
  | itemFigure stem m =>
    obtain ⟨rfl, rfl⟩ := Prod.mk.inj (Option.some.inj hpa)
    cases b with
    | fileFigure n => exact nomatch hpb
    | sectionFigure level' stem' n =>
      obtain ⟨rfl, hback⟩ := Prod.mk.inj (Option.some.inj hpb)
      obtain rfl := fig_inj hback
      exact .itemSection level' stem' n
    | itemFigure stem' n =>
      obtain ⟨rfl, hback⟩ := Prod.mk.inj (Option.some.inj hpb)
      obtain rfl := fig_inj hback
      exact .refl _
    | itemExample stem' n => exact absurd (parts?_itemExample hpb).2.2.symm (fig_ne_toString m n)
  | itemExample stem m =>
    obtain ⟨-, rfl, rfl⟩ := parts?_itemExample hpa
    cases b with
    | fileFigure n => exact nomatch hpb
    | sectionFigure level' stem' n =>
      exact absurd (Prod.mk.inj (Option.some.inj hpb)).2 (fig_ne_toString n m)
    | itemFigure stem' n =>
      exact absurd (Prod.mk.inj (Option.some.inj hpb)).2 (fig_ne_toString n m)
    | itemExample stem' n =>
      obtain ⟨-, rfl, hback⟩ := parts?_itemExample hpb
      obtain rfl := toString_nat_inj hback
      exact .refl _

/-- A slot is the first example of an item, a figure of the file, or has its number behind an underscore. -/
theorem WellFormed.cases {a : ImageSlot} (h : a.WellFormed) :
    (∃ stem, a = itemExample stem 1) ∨ (∃ n, a = fileFigure n) ∨ ∃ front back, a.parts? = some (front, back) := by
  cases a with
  | fileFigure n => exact .inr (.inl ⟨n, rfl⟩)
  | sectionFigure level stem n => exact .inr (.inr ⟨_, _, rfl⟩)
  | itemFigure stem n => exact .inr (.inr ⟨_, _, rfl⟩)
  | itemExample stem n =>
    rcases first_or_parts? stem h with rfl | hparts
    · exact .inl ⟨stem, rfl⟩
    · exact .inr (.inr ⟨_, _, hparts⟩)

/-- **Slots have the same name exactly when they are alike.** -/
theorem name_eq_iff {a b : ImageSlot} (ha : a.WellFormed) (hb : b.WellFormed) : a.name = b.name ↔ a.Alike b := by
  refine ⟨fun h => ?_, Alike.name_eq⟩
  have hspell {stem : String} {c : ImageSlot} (hc : (itemExample stem 1).name = c.name) :
      (itemExample stem 1).Alike c := by
    obtain rfl : stem = c.name := hc
    exact .spells c
  rcases ha.cases with ⟨stem, rfl⟩ | ⟨m, rfl⟩ | ⟨front, back, hpa⟩
  · exact hspell h
  · rcases hb.cases with ⟨stem, rfl⟩ | ⟨n, rfl⟩ | ⟨front', back', hpb⟩
    · exact (hspell h.symm).symm
    · have hlists := congrArg String.toList h
      rw [name, name, String.toList_append, String.toList_append] at hlists
      obtain rfl := toString_nat_inj (String.toList_inj.1 (List.append_cancel_left hlists))
      exact .refl _
    · exact absurd h (name_ne_of_parts? hpb)
  · rcases hb.cases with ⟨stem, rfl⟩ | ⟨n, rfl⟩ | ⟨front', back', hpb⟩
    · exact (hspell h.symm).symm
    · exact absurd h.symm (name_ne_of_parts? hpa)
    · exact alike_of_parts? ha hb hpa hpb h

/-- Below one node, names tell images apart, provided that examples stand below items. -/
theorem of_inj {kind kind' : ImageKind} {title subtitle : String} {n n' : Nat} (hn : 0 < n) (hn' : 0 < n')
    (hitem : kind = .example ∨ kind' = .example → title ∈ itemTitles)
    (h : (of kind title subtitle n).name = (of kind' title subtitle n').name) : kind = kind' ∧ n = n' := by
  have hlonger {stem more : String} (hmore : more ≠ "") : stem ≠ stem ++ more := by
    intro heq
    have hlists := congrArg String.toList heq
    rw [String.toList_append, List.self_eq_append_right] at hlists
    exact hmore (String.toList_eq_nil_iff.1 hlists)
  -- an example with a number is neither the first one nor a figure
  have hfirst (stem : String) (k : Nat) : stem ≠ stem ++ "_" ++ toString k := by
    rw [String.append_assoc]
    apply hlonger
    simp
  have hmixed {k k' : Nat} (hk' : 0 < k') :
      (itemFigure (imageStem subtitle) k).name ≠ (itemExample (imageStem subtitle) k').name := by
    intro heq
    rcases first_or_parts? (imageStem subtitle) hk' with rfl | hparts
    · change imageStem subtitle ++ "_fig" ++ toString k = imageStem subtitle at heq
      rw [String.append_assoc] at heq
      exact hlonger (by simp) heq.symm
    · exact fig_ne_toString k k' (parts_eq_of_name_eq rfl hparts heq).2
  have hfigure (hd : title ∈ itemTitles) (k : Nat) :
      of .figure title subtitle k = itemFigure (imageStem subtitle) k := by
    simp only [itemTitles, List.mem_cons, List.not_mem_nil, or_false] at hd
    rcases hd with rfl | rfl | rfl | rfl <;> rfl
  match kind, kind' with
  | .figure, .figure =>
    refine ⟨rfl, ?_⟩
    simp only [of] at h
    split at h
    · have hlists := congrArg String.toList h
      rw [name, name, String.toList_append, String.toList_append] at hlists
      exact toString_nat_inj (String.toList_inj.1 (List.append_cancel_left hlists))
    · split at h
      · exact fig_inj (parts_eq_of_name_eq rfl rfl h).2
      · exact fig_inj (parts_eq_of_name_eq rfl rfl h).2
  | .figure, .example =>
    rw [hfigure (hitem (.inr rfl))] at h
    exact absurd h (hmixed hn')
  | .example, .figure =>
    rw [hfigure (hitem (.inl rfl))] at h
    exact absurd h.symm (hmixed hn)
  | .example, .example =>
    refine ⟨rfl, ?_⟩
    rcases first_or_parts? (imageStem subtitle) hn with rfl | hparts
    · rcases first_or_parts? (imageStem subtitle) hn' with rfl | hparts'
      · rfl
      · rw [of, of, name, name, if_pos (parts?_itemExample hparts').1] at h
        exact absurd h (hfirst _ _)
    · rcases first_or_parts? (imageStem subtitle) hn' with rfl | hparts'
      · rw [of, of, name, name, if_pos (parts?_itemExample hparts).1] at h
        exact absurd h.symm (hfirst _ _)
      · exact toString_nat_inj (parts_eq_of_name_eq hparts hparts' h).2

end ImageSlot

/-! ## File names -/

theorem imageExtension_cases (metadata : String) (png : Bool) :
    Render.imageExtension metadata png = "gif" ∨ Render.imageExtension metadata png = "png" := by
  unfold Render.imageExtension
  split
  · exact .inl rfl
  · exact .inr rfl

theorem slash_not_mem_imageStem (subtitle : String) : '/' ∉ (imageStem subtitle).toList := by
  rw [imageStem, String.toList_ofList]
  intro hmem
  exact absurd (List.mem_filter.1 hmem).2 (by decide)

theorem slash_not_mem_name_of (kind : ImageKind) (title subtitle : String) (n : Nat) :
    '/' ∉ (ImageSlot.of kind title subtitle n).name.toList := by
  have hstem := slash_not_mem_imageStem subtitle
  have hnumber : '/' ∉ Nat.toDigits 10 n := fun h =>
    absurd (Nat.isDigit_of_mem_toDigits (by decide) (by decide) h) (by decide)
  match kind with
  | .figure =>
    simp only [ImageSlot.of]
    split
    · simp [ImageSlot.name, hnumber]
    · split
      · next htitle =>
        have htitles : title = "Section" ∨ title = "Subsection" := by simpa using htitle
        have hlevel : '/' ∉ (Text.toLower title).toList := by
          rcases htitles with rfl | rfl <;> decide +kernel
        simp [ImageSlot.name, hlevel, hstem, hnumber]
      · simp [ImageSlot.name, hstem, hnumber]
  | .example =>
    simp only [ImageSlot.of, ImageSlot.name]
    split
    · simp [hstem, hnumber]
    · exact hstem

/-- The name of an image file is one component of a path. -/
theorem inner_imageFileName (kind : ImageKind) (title subtitle : String) (n : Nat) (metadata : String) (png : Bool) :
    let name := imageFileName kind title subtitle n (Render.imageExtension metadata png)
    Path.inner name = [.name name] ∧ Path.isAbsolute name = false := by
  intro name
  have hname : name = (ImageSlot.of kind title subtitle n).name ++ "." ++ Render.imageExtension metadata png :=
    imageFileName_eq _ _ _ _ _
  have hextension : (Render.imageExtension metadata png).toList.length = 3 ∧
      '/' ∉ (Render.imageExtension metadata png).toList := by
    rcases imageExtension_cases metadata png with heq | heq <;> rw [heq] <;> decide
  have hslash : '/' ∉ name.toList := by
    rw [hname]
    simp [slash_not_mem_name_of, hextension.2]
  have hlength : 4 ≤ name.toList.length := by
    rw [hname, String.toList_append, String.toList_append, List.length_append, List.length_append, hextension.1]
    have hdot : ".".toList.length = 1 := rfl
    omega
  have hne {s : String} (hs : s.toList.length < 4) : name ≠ s := by
    rintro heq
    rw [heq] at hlength
    omega
  refine ⟨Path.inner_name hslash ?_ (hne (by decide)) (hne (by decide)), Path.isAbsolute_eq_false hslash⟩
  rw [Bool.eq_false_iff]
  intro hempty
  exact hne (s := "") (by decide) (String.isEmpty_iff.1 hempty)

/-- File names are the same when the slots are alike and the extensions the same. -/
theorem imageFileName_eq_iff {kind kind' : ImageKind} {title subtitle title' subtitle' : String} {n n' : Nat}
    (hn : 0 < n) (hn' : 0 < n') (metadata metadata' : String) (png png' : Bool) :
    imageFileName kind title subtitle n (Render.imageExtension metadata png) =
        imageFileName kind' title' subtitle' n' (Render.imageExtension metadata' png') ↔
      Render.imageExtension metadata png = Render.imageExtension metadata' png' ∧
        (ImageSlot.of kind title subtitle n).Alike (ImageSlot.of kind' title' subtitle' n') := by
  have hdot (metadata : String) (png : Bool) : '.' ∉ (Render.imageExtension metadata png).toList := by
    rcases imageExtension_cases metadata png with heq | heq <;> rw [heq] <;> decide
  rw [imageFileName_eq, imageFileName_eq, ← ImageSlot.name_eq_iff (ImageSlot.wellFormed_of _ _ _ hn)
    (ImageSlot.wellFormed_of _ _ _ hn')]
  constructor
  · intro h
    have hlists := congrArg String.toList h
    rw [String.append_assoc, String.append_assoc, String.toList_append, String.toList_append,
      String.toList_append, String.toList_append] at hlists
    obtain ⟨hnames, hextensions⟩ := append_cons_inj_of_not_mem (hdot metadata png) (hdot metadata' png') hlists
    exact ⟨String.toList_inj.1 hextensions, String.toList_inj.1 hnames⟩
  · rintro ⟨hextensions, hnames⟩
    rw [hextensions, hnames]

/-! ## Where the files are -/

/-- The directory of a source, seen from the directory of all pages. -/
def sourceDirectory (source : String) : String := (Path.parent? (Text.trim source)).getD ""

/-- The directory with the images of a source. -/
def imageDirectory (docsDir source : String) : String :=
  Path.join docsDir (Path.append (sourceDirectory source)
    (Path.append "images" ((Path.stem? (Text.trim source)).getD "")))

theorem append_images_stem (dir source : String) :
    Path.append dir (Path.append "images" ((Path.stem? (Text.trim source)).getD "")) =
      Path.under (Path.append dir "images") ((Path.stem? (Text.trim source)).getD "") := by
  have hstem := Path.isAbsolute_eq_false (Path.slash_not_mem_stem (Text.trim source))
  rw [Path.append_of_relative "images" hstem, if_neg (by decide), Path.append_under dir (by decide) (by decide)]

theorem isEmpty_append_images (dir : String) : (Path.append dir "images").isEmpty = false := by
  rw [Path.append_of_relative dir (by decide)]
  split
  · decide
  · exact Path.isEmpty_under dir "images"

/-- Seen from its page, an image lies under the directory of its source's images. -/
theorem imagePageUrl_eq (source : String) {name : String} (hname : Path.isAbsolute name = false) :
    imagePageUrl source name = Path.under (Path.under "images" ((Path.stem? (Text.trim source)).getD "")) name := by
  have hstem := Path.isAbsolute_eq_false (Path.slash_not_mem_stem (Text.trim source))
  rw [imagePageUrl, Path.append_of_relative "images" hstem, if_neg (by decide), Path.append_of_relative _ hname,
    if_neg (by simp [Path.isEmpty_under])]

/-- Seen from the directory of all pages, it lies under the directory of its source. -/
theorem imageUrl_eq (source : String) {name : String} (hname : Path.isAbsolute name = false) :
    imageUrl source name = Path.under (Path.under (Path.append (sourceDirectory source) "images")
      ((Path.stem? (Text.trim source)).getD "")) name := by
  have hempty := Path.isEmpty_under "images" ((Path.stem? (Text.trim source)).getD "")
  have hrelative : Path.isAbsolute (Path.under "images" ((Path.stem? (Text.trim source)).getD "")) = false :=
    (Path.isAbsolute_under (by decide) _).trans (by decide)
  rw [imageUrl, imagePageUrl_eq source hname, Path.append_under _ hempty hrelative,
    Path.append_under _ (by decide) (by decide)]
  rfl

theorem join_imageUrl (docsDir source : String) {name : String} (hname : Path.isAbsolute name = false) :
    Path.join docsDir (imageUrl source name) = Path.under (imageDirectory docsDir source) name := by
  rw [imageUrl_eq source hname, Path.join_under docsDir (Path.isEmpty_under _ _), imageDirectory, append_images_stem]

theorem isEmpty_imageDirectory (docsDir source : String) : (imageDirectory docsDir source).isEmpty = false := by
  rw [imageDirectory, append_images_stem, Path.join_under docsDir (isEmpty_append_images _)]
  exact Path.isEmpty_under _ _

end Manual

end ScadManual
