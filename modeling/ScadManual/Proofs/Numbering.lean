import ScadManual.Proofs.BlockErrors
import ScadManual.Proofs.Images

/-!
# The numbers of images

Every node counts the figures below it, and every item the examples, whatever the titles of their blocks were.  An
image is numbered by a counter that moves on before the image is made, so it matters that nothing stops the image
afterwards: then the images of a kind below a node stand there in the order of their numbers, none is left out, and
the counter is the number of the last.  Together with the names that the numbers give, this makes the places of all
images below one node different, although a configuration may change the extension of animations on the way.
-/

namespace ScadManual

namespace Document

/-- The images below a node, in order. -/
def imagesBelow (d : Document) (p : NodeId) : List ImageInfo :=
  (d.children p).filterMap fun c => (d.node? c).bind Node.image?

/-- The numbers of the images of a kind below a node, in the order in which they stand there. -/
def numbersBelow (d : Document) (p : NodeId) (kind : ImageKind) : List Nat :=
  ((d.imagesBelow p).filter (·.kind = kind)).map (·.number)

section ImagesBelow

variable {d : Document} {n : Node} {p : NodeId} {info : ImageInfo}

theorem imagesBelow_add (d : Document) (n : Node) (p : NodeId) :
    (d.add n).imagesBelow p =
      d.imagesBelow p ++ if p < d.size ∧ n.parent = some p then n.image?.toList else [] := by
  have hold : (d.children p).filterMap (fun c => ((d.add n).node? c).bind Node.image?) = d.imagesBelow p := by
    refine List.filterMap_congr fun c hc => ?_
    rw [node?_add, if_neg (Nat.ne_of_lt (mem_children.1 hc).1)]
  rw [imagesBelow, children_add, List.filterMap_append, hold]
  congr 1
  split
  · rw [List.filterMap_cons, List.filterMap_nil, node?_add, if_pos rfl, Option.bind_some]
    cases n.image? <;> rfl
  · rfl

theorem imagesBelow_modify {f : Node → Node} (hf : ∀ n, (f n).caption = n.caption)
    (hparent : ∀ n, (f n).parent = n.parent) (d : Document) (i p : NodeId) :
    (d.modify i f hparent).imagesBelow p = d.imagesBelow p := by
  have himage (n : Node) : (f n).image? = n.image? := congrArg Caption.image (hf n)
  rw [imagesBelow, children_modify, imagesBelow]
  refine List.filterMap_congr fun c _ => ?_
  rw [node?_modify]
  split
  · cases d.node? c with
    | none => rfl
    | some n => exact himage n
  · rfl

/-- A node that comes last has nothing below it. -/
theorem imagesBelow_of_size_le (h : d.size ≤ p) : d.imagesBelow p = [] := by
  have hnone : d.children p = [] := by
    apply List.eq_nil_iff_forall_not_mem.2
    intro c hc
    obtain ⟨hlt, hp, -⟩ := mem_children.1 hc
    exact absurd (Nat.lt_trans hp hlt) (Nat.not_lt.2 h)
  rw [imagesBelow, hnone, List.filterMap_nil]

theorem numbersBelow_of_size_le (h : d.size ≤ p) (kind : ImageKind) : d.numbersBelow p kind = [] := by
  rw [numbersBelow, imagesBelow_of_size_le h, List.filter_nil, List.map_nil]

theorem counted_of_size_le (h : d.size ≤ p) (kind : ImageKind) : d.counted p kind = 0 := by
  rw [counted, node?_of_size_le h, Option.map_none, Option.getD_none]

theorem numbersBelow_modify {f : Node → Node} (hf : ∀ n, (f n).caption = n.caption)
    (hparent : ∀ n, (f n).parent = n.parent) (d : Document) (i p : NodeId) (kind : ImageKind) :
    (d.modify i f hparent).numbersBelow p kind = d.numbersBelow p kind := by
  rw [numbersBelow, imagesBelow_modify hf, numbersBelow]

/-- An image comes last below its node. -/
theorem numbersBelow_add (d : Document) (n : Node) (p : NodeId) (kind : ImageKind) :
    (d.add n).numbersBelow p kind =
      d.numbersBelow p kind ++
        if p < d.size ∧ n.parent = some p then (n.image?.toList.filter (·.kind = kind)).map (·.number) else [] := by
  rw [numbersBelow, imagesBelow_add, List.filter_append, List.map_append, numbersBelow]
  congr 1
  split <;> rfl

end ImagesBelow

end Document

/-! ## Places on a page -/

/-- The place of an image on its page is named after its kind and its number below a node. -/
def ImageInfo.NamedBelow (i : ImageInfo) (holder : Caption) : Prop :=
  ∃ png, i.pageUrl = Manual.imagePageUrl holder.origin.file
    (Manual.imageFileName i.kind holder.title holder.subtitle i.number (Render.imageExtension i.metadata png))

/-- Below one node, the place on the page tells images apart, provided that examples stand below items. -/
theorem ImageInfo.NamedBelow.inj {i j : ImageInfo} {holder : Caption} (hi : i.NamedBelow holder)
    (hj : j.NamedBelow holder) (hn : 0 < i.number) (hn' : 0 < j.number)
    (hitem : i.kind = .example ∨ j.kind = .example → holder.title ∈ itemTitles) (h : i.pageUrl = j.pageUrl) :
    i.kind = j.kind ∧ i.number = j.number := by
  obtain ⟨png, hi⟩ := hi
  obtain ⟨png', hj⟩ := hj
  rw [hi, hj, Manual.imagePageUrl_eq _ (Manual.inner_imageFileName _ _ _ _ _ _).2,
    Manual.imagePageUrl_eq _ (Manual.inner_imageFileName _ _ _ _ _ _).2] at h
  have hnames := Path.under_injective _ h
  have halike := ((Manual.imageFileName_eq_iff hn hn' _ _ _ _).1 hnames).2
  exact Manual.ImageSlot.of_inj hn hn' hitem halike.name_eq

/-! ## Counting from one -/

namespace Document

/-- Items have the titles of items, and images are named after the nodes that they stand below. -/
structure Titled (d : Document) : Prop where
  titled : ∀ {id c}, d.caption? id = some c → c.rank = .item → c.title ∈ itemTitles
  named : ∀ {p holder info}, d.caption? p = some holder → info ∈ d.imagesBelow p → info.NamedBelow holder

/-- The images of a document are numbered below each node, and named after their numbers. -/
structure Numbered (d : Document) : Prop extends d.Titled where
  /-- Images of a kind have the numbers from one up to the counter, in order. -/
  numbers : ∀ p kind, d.numbersBelow p kind = List.range' 1 (d.counted p kind)

section Steps

variable {d : Document} {n : Node}

theorem Titled.modify (h : d.Titled) {f : Node → Node} (hf : ∀ n, (f n).caption = n.caption)
    (hparent : ∀ n, (f n).parent = n.parent) (i : NodeId) : (d.modify i f hparent).Titled where
  titled := by
    intro id c hc
    rw [caption?_modify hf] at hc
    exact h.titled hc
  named := by
    intro p holder info hc hmem
    rw [caption?_modify hf] at hc
    rw [imagesBelow_modify hf] at hmem
    exact h.named hc hmem

theorem Titled.add (h : d.Titled) (htitle : n.kind.rank = .item → n.title ∈ itemTitles)
    (himage : ∀ info, n.image? = some info → ∃ p holder, n.parent = some p ∧ d.caption? p = some holder ∧
      info.NamedBelow holder) : (d.add n).Titled where
  titled := by
    intro id c hc hitem
    rw [caption?_add] at hc
    split at hc
    · obtain rfl := Option.some.inj hc
      exact htitle hitem
    · exact h.titled hc hitem
  named := by
    intro p holder info hc hmem
    rw [imagesBelow_add, List.mem_append] at hmem
    rw [caption?_add] at hc
    split at hc
    · next hp =>
      -- nothing stands below the new node yet
      have hle : d.size ≤ p := Nat.le_of_eq hp.symm
      have hlast : ¬(p < d.size ∧ n.parent = some p) := fun hbelow => absurd hbelow.1 (Nat.not_lt.2 hle)
      rw [imagesBelow_of_size_le hle, if_neg hlast] at hmem
      simp at hmem
    · rcases hmem with hold | hnew
      · exact h.named hc hold
      · split at hnew
        · next hbelow =>
          obtain ⟨q, holder', hq, hholder, hnamed⟩ := himage info (Option.mem_toList.1 hnew)
          obtain rfl : p = q := Option.some.inj (hbelow.2.symm.trans hq)
          obtain rfl : holder' = holder := Option.some.inj (hholder.symm.trans hc)
          exact hnamed
        · exact absurd hnew List.not_mem_nil

namespace Numbered

theorem empty : Document.empty.Numbered where
  titled hc := by simp [caption?, Document.empty, node?] at hc
  numbers _ _ := rfl
  named hc := by simp [caption?, Document.empty, node?] at hc

theorem modify (h : d.Numbered) {f : Node → Node} (hf : ∀ n, (f n).caption = n.caption)
    (hcounted : ∀ n kind, (f n).counted kind = n.counted kind) (hparent : ∀ n, (f n).parent = n.parent)
    (i : NodeId) : (d.modify i f hparent).Numbered := by
  refine ⟨h.toTitled.modify hf hparent i, fun p kind => ?_⟩
  rw [numbersBelow_modify hf, counted_modify_of_eq d i p hparent fun n => hcounted n kind]
  exact h.numbers p kind

/-- A node that is no image is added.  It has counted nothing yet. -/
theorem add (h : d.Numbered) (htitle : n.kind.rank = .item → n.title ∈ itemTitles) (hnone : n.image? = none)
    (hblank : ∀ kind, n.counted kind = 0) : (d.add n).Numbered := by
  refine ⟨h.toTitled.add htitle fun info hinfo => absurd (hnone.symm.trans hinfo) (by simp), fun p kind => ?_⟩
  rw [numbersBelow_add, hnone, counted_add]
  simp only [Option.toList_none, List.filter_nil, List.map_nil, ite_self, List.append_nil]
  split
  · next hp => rw [numbersBelow_of_size_le (Nat.le_of_eq hp.symm), hblank kind]; rfl
  · exact h.numbers p kind

/-- An image is counted and then added: it gets the number that was reached, and is named after it. -/
theorem addImage (h : d.Numbered) {parent : NodeId} {holder : Node} {info : ImageInfo}
    (hholder : d.node? parent = some holder) (hcounts : info.kind = .example → holder.isItem = true)
    (hkind : n.kind = .image info) (hp : n.parent = some parent) (hblank : n.figures = 0)
    (hnumber : info.number = d.counted parent info.kind + 1) (hnamed : info.NamedBelow holder.caption) :
    ((d.modify parent (·.counting info.kind) (·.parent_counting info.kind)).add n).Numbered := by
  have hinfo : n.image? = some info := by rw [Node.image?, hkind]
  constructor
  · refine (h.toTitled.modify (·.caption_counting info.kind) (·.parent_counting info.kind) parent).add ?_ ?_
    · rw [hkind]
      cases hk : info.kind <;> simp [Kind.rank, hk]
    · intro info' hinfo'
      obtain rfl := Option.some.inj (hinfo.symm.trans hinfo')
      refine ⟨parent, holder.caption, hp, ?_, hnamed⟩
      rw [caption?_modify (·.caption_counting info.kind)]
      exact caption?_of_node? hholder
  · intro p kind
    rw [numbersBelow_add, numbersBelow_modify (·.caption_counting info.kind), size_modify, hinfo, hp, counted_add,
      size_modify, counted_counting hholder hcounts, h.numbers p kind]
    by_cases hlast : p = d.size
    · -- the image itself is new, so nothing is counted or stands below it
      have hle := Nat.le_of_eq hlast.symm
      have hnew : n.counted kind = 0 := by
        cases kind with
        | figure => exact hblank
        | _ => simp [Node.counted, Node.item?, hkind]
      rw [if_pos hlast, counted_of_size_le hle, hnew, if_neg fun hbelow => absurd hbelow.1 (Nat.not_lt.2 hle)]
      rfl
    · rw [if_neg hlast]
      by_cases hsame : p = parent ∧ kind = info.kind
      · obtain ⟨rfl, rfl⟩ := hsame
        rw [if_pos ⟨lt_size_of_node? hholder, rfl⟩, if_pos ⟨rfl, rfl⟩, List.range'_1_concat, Nat.add_comm 1, ← hnumber]
        simp
      · rw [if_neg hsame, Nat.add_zero]
        split
        · next hbelow =>
          have hother : ¬info.kind = kind := fun hk => hsame ⟨(Option.some.inj hbelow.2).symm, hk.symm⟩
          simp [hother]
        · exact List.append_nil _

/-! ## What the numbers are good for -/

variable {p : NodeId} {info : ImageInfo}

theorem number_pos (h : d.Numbered) (hmem : info ∈ d.imagesBelow p) : 0 < info.number := by
  have hkind : info ∈ (d.imagesBelow p).filter (·.kind = info.kind) := List.mem_filter.2 ⟨hmem, by simp⟩
  have hnumber : info.number ∈ List.range' 1 (d.counted p info.kind) := by
    rw [← h.numbers p info.kind]
    exact List.mem_map_of_mem hkind
  have := List.mem_range'_1.1 hnumber
  omega

/-- An item takes examples. -/
theorem title_of_example (h : d.Numbered) (hd : d.Forest) {holder : Caption} (hc : d.caption? p = some holder)
    (hmem : info ∈ d.imagesBelow p) (hkind : info.kind = .example) : holder.title ∈ itemTitles := by
  obtain ⟨c, hchild, hinfo⟩ := List.mem_filterMap.1 hmem
  obtain ⟨n, hn, himage⟩ := Option.bind_eq_some_iff.1 hinfo
  have hparent : n.parent = some p := by
    have hp := (mem_children.1 hchild).2.2
    rw [parent?, hn] at hp
    exact hp
  apply h.titled hc
  exact hd.rank_above_example hn himage hkind hparent hc

/-- Images that come one after the other below a node and are of one kind have different numbers. -/
theorem number_ne (h : d.Numbered) {i j : ImageInfo} (hsub : [i, j].Sublist (d.imagesBelow p))
    (hkind : i.kind = j.kind) : i.number ≠ j.number := by
  have hpair : [i, j].filter (·.kind = j.kind) = [i, j] := by simp [hkind]
  have hnumbers := (hsub.filter (·.kind = j.kind)).map (·.number)
  rw [hpair] at hnumbers
  have hnodup : (d.numbersBelow p j.kind).Nodup := by
    rw [h.numbers p j.kind]
    exact List.nodup_range'
  simpa using hnumbers.nodup hnodup

/-- All images below a node have places of their own on the page. -/
theorem places_nodup (h : d.Numbered) (hd : d.Forest) (p : NodeId) :
    ((d.imagesBelow p).map (·.pageUrl)).Nodup := by
  by_cases hp : p < d.size
  · obtain ⟨n, hn⟩ := exists_node? hp
    have hc := caption?_of_node? hn
    apply List.pairwise_map.2
    apply List.pairwise_iff_forall_sublist.2
    intro i j hsub hurls
    have hi : i ∈ d.imagesBelow p := hsub.subset (by simp)
    have hj : j ∈ d.imagesBelow p := hsub.subset (by simp)
    have hitem : i.kind = .example ∨ j.kind = .example → n.caption.title ∈ itemTitles := by
      rintro (hkind | hkind)
      · exact h.title_of_example hd hc hi hkind
      · exact h.title_of_example hd hc hj hkind
    obtain ⟨hkinds, hnumbers⟩ :=
      (h.named hc hi).inj (h.named hc hj) (h.number_pos hi) (h.number_pos hj) hitem hurls
    exact h.number_ne hsub hkinds hnumbers
  · rw [imagesBelow_of_size_le (Nat.not_lt.1 hp)]
    exact List.nodup_nil

end Numbered

end Steps

end Document

/-! ## Reading numbers images -/

namespace Manual

variable {m m' : Manual} {parent : NodeId} {kind : ImageKind} {file : String} {l : Nat} {b : Block}

/-- The step of the run: one edit of the block on line `l`. -/
theorem numbered_edit (h : m.document.Numbered) (hs : Standing file l m) (hb : b.origin = ⟨file, l⟩)
    (he : Edit b m m') : m'.document.Numbered := by
  refine he.document_cases hb hs h (fun i f hparent hf hcounted => h.modify hf hcounted hparent i)
    (fun n htitle hnone hblank => h.add htitle hnone hblank) fun n parent holder info hn => ?_
  refine h.addImage hn.node hn.counts hn.image hn.below hn.blank hn.number_eq ⟨m.settings.pngAnimation, ?_⟩
  obtain ⟨htitle, hsubtitle⟩ := Document.title_of_caption? (Document.caption?_of_node? hn.node)
  rw [(imageInfo_eq_ok hn.made).pageUrl, sourceAt, imageNameAt, hn.source, htitle, hsubtitle]
  show imagePageUrl file _ = imagePageUrl holder.origin.file _
  rw [hn.file_eq]

/-! ## The next image -/

/-- The second manual has counted some more images of a kind below a node, and no others. -/
def CountsMore (parent : NodeId) (kind : ImageKind) (k : Nat) (m m' : Manual) : Prop :=
  ∀ p kind', m'.document.counted p kind' =
    m.document.counted p kind' + if p = parent ∧ kind' = kind then k else 0

theorem CountsMore.trans {j k : Nat} {m₁ m₂ m₃ : Manual} (h : CountsMore parent kind j m₁ m₂)
    (h' : CountsMore parent kind k m₂ m₃) : CountsMore parent kind (j + k) m₁ m₃ := by
  intro p kind'
  rw [h' p kind', h p kind', Nat.add_assoc]
  congr 1
  split <;> rfl

/-- The step: where images of its kind are counted, an image is added, and it counts below its node and nowhere
else. -/
theorem addImage_counted (h : m.Counts parent kind) (hlt : parent < m.document.size)
    (label subtitle metadata : String) (body : List String) (origin : Origin) :
    ∃ m', (addImage parent kind label subtitle metadata body origin).exec m = (.ok (), m') ∧
      m'.Counts parent kind ∧ parent < m'.document.size ∧ CountsMore parent kind 1 m m' := by
  obtain ⟨info, hinfo, hexec⟩ := exec_addImage_of_counts h label subtitle metadata body origin
  obtain ⟨holder, hholder⟩ := Document.exists_node? hlt
  have hcounts : kind = .example → holder.isItem = true := by
    intro hexample
    have hitem := h hexample
    rw [IsItem, hholder] at hitem
    exact hitem
  have hsize : (m.countImage parent kind).document.size = m.document.size :=
    Document.size_modify _ _ _ (·.parent_counting kind)
  refine ⟨_, hexec, h.addImage _, ?_, fun p k => ?_⟩
  · refine Nat.lt_of_lt_of_eq (Nat.lt_succ_of_lt hlt) ?_
    exact ((Document.size_add _ _).trans (congrArg (· + 1) hsize)).symm
  · refine (Document.counted_add _ _ p k).trans ?_
    rw [hsize]
    split
    · next hlast =>
      have hnone : ¬(p = parent ∧ k = kind) :=
        fun hsame => absurd (hsame.1 ▸ hlt) (Nat.not_lt.2 (Nat.le_of_eq hlast.symm))
      rw [Document.counted_of_size_le (Nat.le_of_eq hlast.symm), if_neg hnone]
      cases k <;> rfl
    · exact Document.counted_counting hholder hcounts p k

/-- The run: images on the lines of a block. -/
theorem addImageLines_counted (h : m.Counts parent kind) (hlt : parent < m.document.size)
    (label subtitle metadata : String) (origin : Origin) (lines : List String) :
    ∃ m', (addImageLines parent kind label subtitle metadata origin lines).exec m = (.ok (), m') ∧
      CountsMore parent kind lines.length m m' := by
  induction lines generalizing m subtitle with
  | nil =>
    refine ⟨m, rfl, fun p k => ?_⟩
    rw [List.length_nil, ite_self, Nat.add_zero]
  | cons line lines ih =>
    obtain ⟨m₁, hexec, hcounts, hlt₁, hfirst⟩ := addImage_counted h hlt label subtitle metadata [line] origin
    obtain ⟨m₂, hrest, hmore⟩ := ih hcounts hlt₁ ""
    refine ⟨m₂, ?_, ?_⟩
    · rw [addImageLines, Work.exec_bind_of_ok hexec, hrest]
    · rw [List.length_cons, Nat.add_comm]
      exact hfirst.trans hmore

/-- The images of a block are all added, wherever the place takes them. -/
theorem addImages_counted (hs : Standing file l m) (hp : m.TakesImage kind parent) (label : String) (each : Bool)
    (b : Block) :
    ∃ m', (addImages kind label each b).exec m = (.ok (), m') ∧
      CountsMore parent kind (if each then b.body.length else 1) m m' := by
  have hlt : parent < m.document.size := hs.lt_size_of_parent? hp.1
  rw [addImages, Work.exec_read_bind, hp.1]
  simp only [Work.exec_ite]
  cases each with
  | true => exact addImageLines_counted (hs.counts hp) hlt label b.subtitle b.metadata b.origin b.body
  | false =>
    obtain ⟨m', hexec, -, -, hmore⟩ :=
      addImage_counted (hs.counts hp) hlt label b.subtitle b.metadata b.body b.origin
    exact ⟨m', hexec, hmore⟩

/-- What the numbers of images are in a manual, and what the next image meets. -/
structure NumbersImages (m : Manual) : Prop where
  /-- Below any node the figures have the numbers from one up to its counter, in the order in which they stand
  there; -/
  figures : ∀ p n, m.document.node? p = some n → m.document.numbersBelow p .figure = List.range' 1 n.figures
  /-- below an item so have the examples, -/
  examples : ∀ p n info, m.document.node? p = some n → n.kind = .item info →
    m.document.numbersBelow p .example = List.range' 1 info.examples
  /-- and below any other node there are none. -/
  others : ∀ p n, m.document.node? p = some n → n.isItem = false → m.document.numbersBelow p .example = []
  /-- The images of both kinds together have different places on the page. -/
  places : ∀ p, ((m.document.imagesBelow p).map (·.pageUrl)).Nodup
  /-- Where the place takes an image it is never refused, and it adds one to the counter of its kind there and to
  no other; -/
  next : ∀ parent kind, m.TakesImage kind parent → ∀ label subtitle metadata body origin,
    ∃ m', (addImage parent kind label subtitle metadata body origin).exec m = (.ok (), m') ∧
      CountsMore parent kind 1 m m'
  /-- and so are all images of a block. -/
  block : ∀ parent kind, m.TakesImage kind parent → ∀ label each b,
    ∃ m', (addImages kind label each b).exec m = (.ok (), m') ∧
      CountsMore parent kind (if each then b.body.length else 1) m m'
  /-- A block that reading takes never finds that what it counts its images below is no item: it is refused for want
  of an item only while none is open. -/
  refused : ∀ b title, ((addBlock b).exec m).1 = .error (.structural title .itemMissing) →
    title = b.title ∧ m.place.item? = none ∧ m.settings.strict = true

theorem numbersImages (hs : Standing file l m) (h : m.document.Numbered) : NumbersImages m where
  figures p n hn := by
    rw [h.numbers p .figure, Document.counted, hn]
    rfl
  examples p n info hn hk := by
    rw [h.numbers p .example, Document.counted, hn, Option.map_some, Option.getD_some, Node.counted, Node.item?, hk]
    rfl
  others p n hn hitem := by
    have hnone : n.item? = none := Option.isSome_eq_false_iff.1 hitem |> Option.isNone_iff_eq_none.1
    rw [h.numbers p .example, Document.counted, hn, Option.map_some, Option.getD_some, Node.counted, hnone]
    rfl
  places := h.places_nodup hs.forest
  next parent kind hp label subtitle metadata body origin := by
    obtain ⟨m', hexec, -, -, hmore⟩ :=
      addImage_counted (hs.counts hp) (hs.lt_size_of_parent? hp.1) label subtitle metadata body origin
    exact ⟨m', hexec, hmore⟩
  block _ _ hp := addImages_counted hs hp
  refused b title he := by
    cases addBlock_stops hs _ he with
    | misuse hitem => exact absurd rfl hitem
    | noItem hnone hstrict => exact ⟨rfl, hnone, hstrict⟩

/-- **Wherever reading is in a source, images are numbered without gaps.**  Below each node the figures have the
numbers from one up to the counter of the node, in the order in which they stand there, and so have the examples of
an item; no two images there have the same place on the page; and the next image is never refused. -/
theorem images_numbered_in_order (settings : Settings) (inputs : List Input) (role : Role) (file : String)
    (lines : List String) (k : Nat) :
    NumbersImages
      (((new settings).readAll inputs).start.stepAll role ((Source.events file lines).take k)).1 := by
  have hnumbered : ((new settings).readAll inputs).document.Numbered :=
    document_readAll (fun hb hs he h => numbered_edit h hs hb he) .empty settings inputs
  have hstart := standing_start settings inputs file
  obtain ⟨line, hstanding, h⟩ := (invariant_document (P := Document.Numbered)
    fun hb hs he h => numbered_edit h hs hb he).stepAll_take role 1 lines k ⟨hstart, hnumbered⟩
  exact numbersImages hstanding h

end Manual

end ScadManual
