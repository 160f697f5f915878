import ScadManual.Proofs.Attachment
import ScadManual.Proofs.Blame
import ScadManual.Proofs.ImageNames
import ScadManual.Proofs.Order

/-!
# The images of a document

The file of an image is named when its block is taken, from the node that the image stands below, from its number
there and from the settings.  Titles and subtitles never change afterwards and sources change no settings, so the
names can be read off the finished document: `Document.Imaged` says how.  It also says what the numbers are
good for: they come from counters that never go back, so two images of a kind below one node have different ones.
-/

namespace ScadManual

/-! ## Captions -/

/-- What no later block changes in a node. -/
structure Caption where
  rank : Rank
  title : String
  subtitle : String
  image : Option ImageInfo
  origin : Origin
  parent : Option NodeId

namespace Node

/-- The caption of a node. -/
def caption (n : Node) : Caption :=
  ⟨n.kind.rank, n.title, n.subtitle, n.image?, n.origin, n.parent⟩

theorem caption_withFile (n : Node) (f : FileInfo → FileInfo) : (n.withFile f).caption = n.caption := by
  unfold withFile
  split
  · next hk => simp [caption, image?, hk, Kind.rank]
  · rfl

theorem caption_withItem (n : Node) (f : ItemInfo → ItemInfo) : (n.withItem f).caption = n.caption := by
  unfold withItem
  split
  · next hk => simp [caption, image?, hk, Kind.rank]
  · rfl

theorem caption_counting (n : Node) (kind : ImageKind) : (n.counting kind).caption = n.caption :=
  match kind with
  | .figure => rfl
  | .example => caption_withItem n _

/-! ## Counters -/

theorem counted_withFile (n : Node) (f : FileInfo → FileInfo) (kind : ImageKind) :
    (n.withFile f).counted kind = n.counted kind := by
  unfold withFile
  split
  · next hk => cases kind <;> simp [counted, item?, hk]
  · rfl

theorem counted_withItem (n : Node) {f : ItemInfo → ItemInfo} (hf : ∀ info, (f info).examples = info.examples)
    (kind : ImageKind) : (n.withItem f).counted kind = n.counted kind := by
  unfold withItem
  split
  · next info hk => cases kind <;> simp [counted, item?, hk, hf]
  · rfl

/-- One more image counts as one of its kind, where images of the kind are counted. -/
theorem counted_counting (n : Node) {kind : ImageKind} (h : kind = .example → n.isItem = true) (k : ImageKind) :
    (n.counting kind).counted k = n.counted k + if k = kind then 1 else 0 := by
  match kind with
  | .figure => cases k <;> rfl
  | .example =>
    obtain ⟨info, hk⟩ := Kind.eq_item_of_rank (rank_of_isItem (h rfl))
    rw [counting, withItem_of_kind hk]
    cases k <;> simp [counted, item?, hk]

/-- A counter never goes back. -/
theorem counted_le_counting (n : Node) (kind k : ImageKind) : n.counted k ≤ (n.counting kind).counted k := by
  by_cases h : kind = .example → n.isItem = true
  · rw [n.counted_counting h]
    exact Nat.le_add_right _ _
  · obtain ⟨rfl, hitem⟩ := Classical.not_imp.1 h
    have hsame : n.counting .example = n := by
      show n.withItem _ = n
      unfold withItem
      split
      · next hk => exact absurd (by simp [isItem, item?, hk]) hitem
      · rfl
    rw [hsame]

/-- A node with blank counters counts nothing. -/
theorem counted_eq_zero {n : Node} (hfigures : n.figures = 0)
    (hexamples : ∀ info, n.item? = some info → info.examples = 0) (kind : ImageKind) : n.counted kind = 0 := by
  cases kind with
  | figure => exact hfigures
  | _ =>
    rw [counted]
    cases hinfo : n.item? with
    | none => rfl
    | some info => exact hexamples info hinfo

end Node

namespace Document

/-- The caption of a node by its number. -/
def caption? (d : Document) (id : NodeId) : Option Caption := (d.node? id).map Node.caption

section Captions

variable {d : Document} {n : Node} {id : NodeId} {c : Caption}

theorem caption?_of_node? (h : d.node? id = some n) : d.caption? id = some n.caption := by
  rw [caption?, h, Option.map_some]

theorem lt_size_of_caption? (h : d.caption? id = some c) : id < d.size := by
  obtain ⟨n, hn, -⟩ := Option.map_eq_some_iff.1 h
  exact lt_size_of_node? hn

theorem caption?_add (d : Document) (n : Node) (id : NodeId) :
    (d.add n).caption? id = if id = d.size then some n.caption else d.caption? id := by
  rw [caption?, node?_add]
  split <;> rfl

theorem caption?_add_of_lt (n : Node) (h : d.caption? id = some c) : (d.add n).caption? id = some c := by
  rw [caption?_add, if_neg (Nat.ne_of_lt (lt_size_of_caption? h))]
  exact h

theorem caption?_modify {f : Node → Node} (hf : ∀ n, (f n).caption = n.caption)
    (hp : ∀ n, (f n).parent = n.parent) (d : Document) (i id : NodeId) :
    (d.modify i f hp).caption? id = d.caption? id := by
  rw [caption?, node?_modify, caption?]
  split
  · rw [Option.map_map]
    congr 1
    exact funext hf
  · rfl

theorem title_of_caption? (h : d.caption? id = some c) : d.title id = c.title ∧ d.subtitle id = c.subtitle := by
  obtain ⟨n, hn, rfl⟩ := Option.map_eq_some_iff.1 h
  rw [title, subtitle, hn]
  exact ⟨rfl, rfl⟩

theorem counted_add (d : Document) (n : Node) (id : NodeId) (kind : ImageKind) :
    (d.add n).counted id kind = if id = d.size then n.counted kind else d.counted id kind := by
  rw [counted, node?_add]
  split <;> rfl

theorem counted_modify (d : Document) (i id : NodeId) {f : Node → Node} (hp : ∀ n, (f n).parent = n.parent)
    (kind : ImageKind) :
    (d.modify i f hp).counted id kind =
      if i = id then ((d.node? id).map fun n => (f n).counted kind).getD 0 else d.counted id kind := by
  rw [counted, node?_modify]
  split
  · rw [Option.map_map]
    rfl
  · rfl

theorem counted_modify_of_eq (d : Document) (i id : NodeId) {f : Node → Node} (hp : ∀ n, (f n).parent = n.parent)
    {kind : ImageKind} (hf : ∀ n, (f n).counted kind = n.counted kind) :
    (d.modify i f hp).counted id kind = d.counted id kind := by
  rw [counted_modify, counted]
  simp only [hf, ite_self]

theorem counted_le_modify (d : Document) (i id : NodeId) {f : Node → Node} (hp : ∀ n, (f n).parent = n.parent)
    {kind : ImageKind} (hf : ∀ n, n.counted kind ≤ (f n).counted kind) :
    d.counted id kind ≤ (d.modify i f hp).counted id kind := by
  rw [counted_modify, counted]
  split
  · cases d.node? id with
    | none => exact Nat.le_refl _
    | some n => exact hf n
  · exact Nat.le_refl _

/-- Counting an image adds one to the counter of its kind, at its node and nowhere else. -/
theorem counted_counting {parent : NodeId} (hn : d.node? parent = some n) {kind : ImageKind}
    (h : kind = .example → n.isItem = true) (id : NodeId) (k : ImageKind) :
    (d.modify parent (·.counting kind) (·.parent_counting kind)).counted id k =
      d.counted id k + if id = parent ∧ k = kind then 1 else 0 := by
  rw [counted_modify]
  by_cases hid : id = parent
  · subst hid
    rw [if_pos rfl, hn, counted, hn]
    simp only [Option.map_some, Option.getD_some, n.counted_counting h, true_and]
  · rw [if_neg (Ne.symm hid), if_neg (fun hboth => hid hboth.1), Nat.add_zero]

end Captions

/-! ## Images and their files -/

/-- The image file that a request names, for an image below a node with a title and a subtitle. -/
def imageFileOf (settings : Settings) (source title subtitle : String) (info : ImageInfo) : String :=
  Path.join settings.docsDir (Manual.imageUrl source (Manual.imageFileName info.kind title subtitle info.number
    (Render.imageExtension info.metadata settings.pngAnimation)))

/-- An image stands below a node with the caption: it is one of the images of its kind there, and what it asks
for is named after it. -/
structure HeldBy (settings : Settings) (d : Document) (c holder : Caption) (p : NodeId) (info : ImageInfo) :
    Prop where
  parent : c.parent = some p
  below : d.caption? p = some holder
  positive : 0 < info.number
  counted : info.number ≤ d.counted p info.kind
  file : ∀ request, info.request = some request →
    request.imageFile = imageFileOf settings c.origin.file holder.title holder.subtitle info

/-- What holds of the nodes from the number `base` on, all of which were made under the settings. -/
structure Imaged (base : Nat) (settings : Settings) (d : Document) : Prop where
  /-- An item has the title of one. -/
  titled : ∀ {id c}, base ≤ id → d.caption? id = some c → c.rank = .item → c.title ∈ itemTitles
  /-- An image stands below another of these nodes. -/
  held : ∀ {id c info}, base ≤ id → d.caption? id = some c → c.image = some info →
    ∃ p holder, base ≤ p ∧ HeldBy settings d c holder p info
  /-- Images of a kind below one node have different numbers. -/
  distinct : ∀ {i j c c' info info'}, base ≤ i → i < j → d.caption? i = some c → d.caption? j = some c' →
    c.image = some info → c'.image = some info' → c.parent = c'.parent → info.kind = info'.kind →
    info.number ≠ info'.number

namespace Imaged

variable {base : Nat} {settings : Settings} {d : Document}

theorem start (d : Document) (settings : Settings) : d.Imaged d.size settings where
  titled hid hc := absurd (lt_size_of_caption? hc) (Nat.not_lt.2 hid)
  held hid hc := absurd (lt_size_of_caption? hc) (Nat.not_lt.2 hid)
  distinct hi hij _ hc' := absurd (Nat.lt_trans hij (lt_size_of_caption? hc')) (Nat.not_lt.2 hi)

theorem modify (h : d.Imaged base settings) {f : Node → Node} (hf : ∀ n, (f n).caption = n.caption)
    (hcounted : ∀ n kind, n.counted kind ≤ (f n).counted kind) (hparent : ∀ n, (f n).parent = n.parent) (i : NodeId) :
    (d.modify i f hparent).Imaged base settings where
  titled := by
    intro id c hid hc
    rw [caption?_modify hf hparent] at hc
    exact h.titled hid hc
  held := by
    intro id c info hid hc himage
    rw [caption?_modify hf hparent] at hc
    obtain ⟨p, holder, hp, hheld⟩ := h.held hid hc himage
    refine ⟨p, holder, hp, hheld.parent, ?_, hheld.positive, ?_, hheld.file⟩
    · rw [caption?_modify hf hparent]
      exact hheld.below
    · exact Nat.le_trans hheld.counted (counted_le_modify d i p hparent fun n => hcounted n info.kind)
  distinct := by
    intro i j c c' info info' hi hij hc hc'
    rw [caption?_modify hf hparent] at hc hc'
    exact h.distinct hi hij hc hc'

/-- A node is added.  An image stands below one of the new nodes, and its number is the last that was counted there;
the images of its kind that are there already have smaller ones. -/
theorem add (h : d.Imaged base settings) {n : Node} (htitle : n.kind.rank = .item → n.title ∈ itemTitles)
    (himage : ∀ info, n.image? = some info → ∃ p holder, base ≤ p ∧ HeldBy settings d n.caption holder p info ∧
      ∀ i c old, base ≤ i → d.caption? i = some c → c.image = some old → c.parent = some p →
        old.kind = info.kind → old.number < info.number) :
    (d.add n).Imaged base settings where
  titled := by
    intro id c hid hc hitem
    rw [caption?_add] at hc
    split at hc
    · obtain rfl := Option.some.inj hc
      exact htitle hitem
    · exact h.titled hid hc hitem
  held := by
    intro id c info hid hc hinfo
    have hkept {c holder : Caption} {p : NodeId} (hheld : HeldBy settings d c holder p info) :
        HeldBy settings (d.add n) c holder p info := by
      refine ⟨hheld.parent, caption?_add_of_lt n hheld.below, hheld.positive, ?_, hheld.file⟩
      rw [counted_add, if_neg (Nat.ne_of_lt (lt_size_of_caption? hheld.below))]
      exact hheld.counted
    rw [caption?_add] at hc
    split at hc
    · obtain rfl := Option.some.inj hc
      obtain ⟨p, holder, hp, hheld, -⟩ := himage info hinfo
      exact ⟨p, holder, hp, hkept hheld⟩
    · obtain ⟨p, holder, hp, hheld⟩ := h.held hid hc hinfo
      exact ⟨p, holder, hp, hkept hheld⟩
  distinct := by
    intro i j c c' info info' hi hij hc hc' hinfo hinfo' hparents hkinds
    -- the new node is the last, so it is not the earlier of the two
    have hlt : i < d.size := by
      have hj := lt_size_of_caption? hc'
      rw [size_add] at hj
      exact Nat.lt_of_lt_of_le hij (Nat.le_of_lt_succ hj)
    rw [caption?_add, if_neg (Nat.ne_of_lt hlt)] at hc
    rw [caption?_add] at hc'
    split at hc'
    · obtain rfl := Option.some.inj hc'
      obtain ⟨p, holder, -, hheld, hlast⟩ := himage info' hinfo'
      exact Nat.ne_of_lt (hlast i c info hi hc hinfo (hparents.trans hheld.parent) hkinds)
    · exact h.distinct hi hij hc hc' hinfo hinfo' hparents hkinds

/-- Two images of a kind below one node have different numbers, in whatever order they come. -/
theorem number_ne (h : d.Imaged base settings) {i j : NodeId} {c c' : Caption} {info info' : ImageInfo}
    (hi : base ≤ i) (hj : base ≤ j) (hij : i ≠ j) (hc : d.caption? i = some c) (hc' : d.caption? j = some c')
    (hinfo : c.image = some info) (hinfo' : c'.image = some info') (hparents : c.parent = c'.parent)
    (hkinds : info.kind = info'.kind) : info.number ≠ info'.number := by
  rcases Nat.lt_or_gt_of_ne hij with hlt | hlt
  · exact h.distinct hi hlt hc hc' hinfo hinfo' hparents hkinds
  · exact (h.distinct hj hlt hc' hc hinfo' hinfo hparents.symm hkinds.symm).symm

end Imaged

end Document

/-! ## Reading keeps it -/

namespace Manual

theorem imageFile_of_imageInfo {m : Manual} {parent : NodeId} {kind : ImageKind} {number : Nat} {metadata : String}
    {body : List String} {origin : Origin} {info : ImageInfo} {request : Render.Request}
    (h : m.imageInfo parent kind number metadata body origin = .ok info) (hrequest : info.request = some request) :
    request.imageFile =
      Document.imageFileOf m.settings (References.originOf m.document (m.document.fileOf parent)).file
        (m.document.title parent) (m.document.subtitle parent) info := by
  have hmade := imageInfo_eq_ok h
  rw [(Render.Request.make_eq_ok (hmade.request request hrequest)).2, hmade.url, Document.imageFileOf]

section Reading

variable {base : Nat} {file : String} {l : Nat} {m m' : Manual} {b : Block}

/-- Only new nodes are open, and what is known of images holds of the new nodes. -/
structure Picturing (base : Nat) (settings : Settings) (m : Manual) : Prop where
  opened : ∀ {id r}, (id, r) ∈ m.place.opened → base ≤ id
  under : m.settings = settings
  size_le : base ≤ m.document.size
  imaged : m.document.Imaged base settings

/-- The file of an open node is the source that is being read. -/
theorem Standing.source_eq (hs : Standing file l m) {p : NodeId} {r : Rank} (hp : (p, r) ∈ m.place.opened) :
    (References.originOf m.document (m.document.fileOf p)).file = file := by
  obtain ⟨x, hx, -⟩ := (hs.opened hp).rank
  have hspec := hs.forest.fileOf_spec p (Document.lt_size_of_footing? hx)
  rw [← hspec.2.2, Document.originOf_eq hx]
  exact ((hs.opened hp).since (Nat.le_refl p) hx).1

/-- An image that an edit adds on line `l` below an open node, which has counted it: it is the next one of its kind
there. -/
structure JoinsImage (file : String) (l : Nat) (m : Manual) (n : Node) (parent : NodeId) (holder : Node)
    (info : ImageInfo) : Prop where
  origin : n.origin = ⟨file, l⟩
  image : n.kind = .image info
  below : n.parent = some parent
  blank : n.figures = 0
  opened : ∃ r, (parent, r) ∈ m.place.opened
  node : m.document.node? parent = some holder
  counts : info.kind = .example → holder.isItem = true
  file_eq : holder.origin.file = file
  source : (References.originOf m.document (m.document.fileOf parent)).file = file
  made : m.imageInfo parent info.kind (m.document.counted parent info.kind + 1) info.metadata n.body n.origin = .ok info

theorem JoinsImage.number_eq {n holder : Node} {parent : NodeId} {info : ImageInfo}
    (h : JoinsImage file l m n parent holder info) : info.number = m.document.counted parent info.kind + 1 :=
  (imageInfo_eq_ok h.made).number_eq

/-- What an edit does to the document: it changes neither captions nor counters, or adds a node that counts nothing
yet, or it counts an image and adds it. -/
theorem Edit.document_cases {P : Document → Prop} (he : Edit b m m') (hb : b.origin = ⟨file, l⟩)
    (hs : Standing file l m) (same : P m.document)
    (modify : ∀ i f hf, (∀ n, (f n).caption = n.caption) → (∀ n kind, (f n).counted kind = n.counted kind) →
      P (m.document.modify i f hf))
    (add : ∀ n, (n.kind.rank = .item → n.title ∈ itemTitles) → n.image? = none → (∀ kind, n.counted kind = 0) →
      P (m.document.add n))
    (image : ∀ n parent holder info, JoinsImage file l m n parent holder info →
      P ((m.document.modify parent (·.counting info.kind) (·.parent_counting info.kind)).add n)) :
    P m'.document := by
  have hmodifyItem (m₁ : Manual) (hd : m₁.document = m.document) (i : NodeId) {change : ItemInfo → ItemInfo}
      (hc : ∀ info, (change info).examples = info.examples) : P (m₁.modifyItem i change).document := by
    show P (m₁.document.modify i (·.withItem change) (·.parent_withItem change))
    rw [hd]
    exact modify i _ (·.parent_withItem change) (·.caption_withItem change) (·.counted_withItem hc)
  cases he with
  | rules hrules => exact same
  | openFile | openSection | openSubsection =>
    exact add _ (fun hrank => absurd hrank (by simp [Block.node, Kind.rank])) rfl
      (Node.counted_eq_zero rfl fun _ h => absurd h (by simp [Block.node, Node.item?]))
  | openItem hf hsect fresh titled =>
    refine add _ (fun _ => titled) rfl (Node.counted_eq_zero rfl fun info h => ?_)
    obtain rfl := Option.some.inj h
    rfl
  | describeFile hf change =>
    exact modify _ _ (·.parent_withFile change) (·.caption_withFile change) (·.counted_withFile change)
  | describeItem hi change hc => exact hmodifyItem m rfl _ fun info => (hc info).2
  | addAlias hi fresh => exact hmodifyItem (m.register _ _) rfl _ fun _ => rfl
  | @image parent info n hk ht hp ho hn counts himage =>
    obtain ⟨r, hr, -⟩ := Place.opened_of_taker? ht
    obtain ⟨x, hx, -⟩ := (hs.opened hr).rank
    obtain ⟨holder, hholder, rfl⟩ := Option.map_eq_some_iff.1 hx
    refine image n parent holder info ⟨ho.trans hb, hk, hp, hn, ⟨r, hr⟩, hholder, fun hexample => ?_,
      ((hs.opened hr).since (Nat.le_refl _) hx).1, hs.source_eq hr, himage⟩
    have hitem := counts hexample
    rw [IsItem, hholder] at hitem
    exact hitem
  | child n ht hp ho hn himage =>
    refine add n (fun hrank => ?_) ?_ (Node.counted_eq_zero hn fun info h => ?_)
    · -- items are opened and not put below something
      obtain ⟨info, hk⟩ := Kind.eq_item_of_rank hrank
      rw [hk] at ht
      cases ht
    · cases hinfo : n.image? with
      | none => rfl
      | some info => exact absurd (Node.kind_of_image? hinfo) (himage info)
    · have hitem : n.isItem = true := by rw [Node.isItem, h, Option.isSome_some]
      obtain ⟨_, hk⟩ := Kind.eq_item_of_rank (Node.rank_of_isItem hitem)
      rw [hk] at ht
      cases ht

/-- What an edit makes of the document.  An image that is made now gets the next number below the open node and is
named after that node. -/
theorem Picturing.document_edit {settings : Settings} (h : Picturing base settings m) (hs : Standing file l m)
    (hb : b.origin = ⟨file, l⟩) (he : Edit b m m') : m'.document.Imaged base settings := by
  refine he.document_cases hb hs h.imaged ?_ ?_ ?_
  · intro i f hparent hf hcounted
    exact h.imaged.modify hf (fun n kind => Nat.le_of_eq (hcounted n kind).symm) hparent i
  · intro n htitle hnone _
    exact h.imaged.add htitle fun info hinfo => absurd (hnone.symm.trans hinfo) (by simp)
  · intro n parent holder info hn
    have hcaption := Document.caption?_of_node? hn.node
    obtain ⟨htitle, hsubtitle⟩ := Document.title_of_caption? hcaption
    have hinfo : n.image? = some info := by rw [Node.image?, hn.image]
    have hcounting := h.imaged.modify (·.caption_counting info.kind) (·.counted_le_counting info.kind)
      (·.parent_counting info.kind) parent
    have hcaptions := Document.caption?_modify (·.caption_counting info.kind) (·.parent_counting info.kind) m.document
      parent
    refine hcounting.add (fun hrank => ?_) fun info' hinfo' => ?_
    · rw [hn.image] at hrank
      exact absurd hrank (by cases hk : info.kind <;> simp [Kind.rank, hk])
    obtain rfl := Option.some.inj (hinfo.symm.trans hinfo')
    obtain ⟨r, hr⟩ := hn.opened
    refine ⟨parent, holder.caption, h.opened hr, ⟨hn.below, ?_, ?_, ?_, ?_⟩, ?_⟩
    · rw [hcaptions]
      exact hcaption
    · rw [hn.number_eq]
      exact Nat.succ_pos _
    · rw [Document.counted_counting hn.node hn.counts, hn.number_eq, if_pos ⟨rfl, rfl⟩]
    · intro request hrequest
      rw [imageFile_of_imageInfo hn.made hrequest, hn.source, h.under, htitle, hsubtitle]
      show _ = Document.imageFileOf settings n.origin.file _ _ info
      rw [hn.origin]
    · intro i c old hi hc hold hp hkind
      rw [hcaptions] at hc
      obtain ⟨q, _, -, hheld⟩ := h.imaged.held hi hc hold
      obtain rfl : parent = q := Option.some.inj (hp.symm.trans hheld.parent)
      have hcounted := hheld.counted
      rw [hkind] at hcounted
      rw [hn.number_eq]
      exact Nat.lt_succ_of_le hcounted

/-- An edit never makes a document smaller. -/
theorem Edit.size_le (he : Edit b m m') : m.document.size ≤ m'.document.size := by
  have hadd (n : Node) : m.document.size ≤ (m.document.add n).size := by
    rw [Document.size_add]
    exact Nat.le_succ _
  cases he with
  | rules hrules => exact Nat.le_refl _
  | openFile | openSection | openSubsection | openItem | child => exact hadd _
  | describeFile _ change => exact Nat.le_of_eq (Document.size_modify _ _ _ (·.parent_withFile change)).symm
  | describeItem _ change => exact Nat.le_of_eq (Document.size_modify _ _ _ (·.parent_withItem change)).symm
  | addAlias => exact Nat.le_of_eq (Document.size_modify _ _ _ (·.parent_withItem _)).symm
  | @image parent info n =>
    have hsize : (m.countImage parent info.kind).document.size = m.document.size :=
      Document.size_modify _ _ _ (·.parent_counting info.kind)
    show m.document.size ≤ ((m.countImage parent info.kind).document.add n).size
    rw [Document.size_add, hsize]
    exact Nat.le_succ _

/-- The step of the run: one edit of the block on line `l`. -/
theorem Picturing.edit {settings : Settings} (h : Picturing base settings m) (hs : Standing file l m)
    (hb : b.origin = ⟨file, l⟩) (he : Edit b m m') : Picturing base settings m' where
  opened := by
    intro id r hid
    rcases he.opened hid with ⟨r', hold⟩ | rfl
    · exact h.opened hold
    · exact h.size_le
  under := (congrArg Configuration.settings he.configuration_eq).trans h.under
  size_le := Nat.le_trans h.size_le he.size_le
  imaged := h.document_edit hs hb he

/-- The run: what single edits keep of the lines of a source, and the end of an item keeps, the whole source
keeps. -/
theorem stepAll_standing_keeps {P : Manual → Prop}
    (edit : ∀ {l m m' b}, b.origin = ⟨file, l⟩ → Standing file l m → Edit b m m' → P m → P m')
    (close : ∀ {m}, P m → P { m with place := m.place.closeItem }) (line : Nat) (lines : List String) :
    ∀ m, Standing file line m → P m → P (m.stepAll .code (Source.eventsFrom file line lines)).1 := by
  induction line, lines using Source.lines_induction with
  | nil line =>
    intro m hs h
    rw [Source.eventsFrom]
    exact close h
  | header line text rest hd hh ih =>
    intro m hs h
    have hle := Body.le_next line rest
    rw [Source.eventsFrom_header hh]
    have hstep : P (m.step .code (Source.headerEvent file line hd rest)).1 := by
      unfold Source.headerEvent
      split
      · next body _ =>
        have hboth := take_code_keeps (P := fun m => Standing file line m ∧ P m)
          (b := ⟨hd.title, hd.metadata, hd.subtitle, body.lines, ⟨file, line⟩⟩)
          (fun he hm => ⟨hm.1.edit rfl he, edit rfl hm.1 he hm.2⟩) ⟨hs, h⟩
        exact hboth.2
      · exact h
    exact ih _ (invariant_standing.later (by omega) (invariant_standing.step_header .code hd rest hs)) hstep
  | other line text rest hh ih =>
    intro m hs h
    rw [Source.eventsFrom_other hh]
    split
    · exact ih m (invariant_standing.later (by omega) hs) h
    · exact ih _ (invariant_standing.later (by omega) (invariant_standing.close hs)) (close h)

theorem imaged_readCode {m : Manual} (hm : m.Reachable) (hsize : base ≤ m.document.size)
    (h : m.document.Imaged base m.settings) (file : String) (lines : List String) :
    (m.readCode file lines).1.document.Imaged base m.settings := by
  have hstanding : Standing file 1 m.start := ⟨hm.forest, fun hid => absurd hid List.not_mem_nil⟩
  have hstart : Picturing base m.settings m.start :=
    ⟨fun hid => absurd hid List.not_mem_nil, rfl, hsize, h⟩
  have hend := stepAll_standing_keeps (P := Picturing base m.settings)
    (fun hb hs he hP => hP.edit hs hb he)
    (fun hP => ⟨fun hid => hP.opened (Place.opened_closeItem hid), hP.under, hP.size_le, hP.imaged⟩)
    1 lines m.start hstanding hstart
  exact hend.imaged

/-- The run over sources: what each source keeps of the manuals that are read, all of them keep. -/
theorem readAll_codeInputs_keeps {P : Manual → Prop}
    (source : ∀ {m : Manual} (file lines), m.Reachable → P m → P (m.readCode file lines).1)
    (sources : List (String × List String)) :
    ∀ m : Manual, m.Reachable → P m → P (m.readAll (codeInputs sources)) := by
  induction sources with
  | nil => exact fun m _ h => h
  | cons s sources ih => exact fun m hm h => ih _ (hm.readCode s.1 s.2) (source s.1 s.2 hm h)

theorem settings_readCode (m : Manual) (file : String) (lines : List String) :
    (m.readCode file lines).1.settings = m.settings :=
  congrArg Configuration.settings (grows_readCode m file lines).configuration

/-- What sources add to a manual is imaged under its settings, which they leave as they are. -/
theorem imaged_readAll {before : Manual} (hbefore : before.Reachable) (sources : List (String × List String)) :
    (before.readAll (codeInputs sources)).document.Imaged before.document.size before.settings ∧
      (before.readAll (codeInputs sources)).settings = before.settings := by
  have hkeeps := readAll_codeInputs_keeps
    (P := fun m => before.document.size ≤ m.document.size ∧
      m.document.Imaged before.document.size before.settings ∧ m.settings = before.settings)
    (by
      intro m file lines hm ⟨hsize, h, hsettings⟩
      refine ⟨Nat.le_trans hsize (grows_readCode m file lines).document.size_le, ?_,
        (settings_readCode m file lines).trans hsettings⟩
      rw [← hsettings] at h ⊢
      exact imaged_readCode hm hsize h file lines)
    sources before hbefore ⟨Nat.le_refl _, .start _ _, rfl⟩
  exact hkeeps.2

end Reading

end Manual

/-! ## Images that share a file -/

/-- The node with the number `id` is an image below `p` that asks for a file. -/
structure Document.Asks (d : Document) (id p : NodeId) (n : Node) (info : ImageInfo) (request : Render.Request) :
    Prop where
  node : d.node? id = some n
  parent : n.parent = some p
  image : n.image? = some info
  request : info.request = some request

/-- The slot of an image below `p`. -/
def Document.slot (d : Document) (p : NodeId) (info : ImageInfo) : Manual.ImageSlot :=
  .of info.kind (d.title p) (d.subtitle p) info.number

namespace Document

section Asks

variable {base : Nat} {settings : Settings} {d : Document} {id p : NodeId} {n : Node} {info : ImageInfo}
  {request : Render.Request}

/-- What an image asks for lies in the directory of its source and is named after its slot. -/
theorem Imaged.of_asks (h : d.Imaged base settings) (hid : base ≤ id) (hasks : d.Asks id p n info request) :
    0 < info.number ∧ request.imageFile = Path.under (Manual.imageDirectory settings.docsDir n.origin.file)
      (Manual.imageFileName info.kind (d.title p) (d.subtitle p) info.number
        (Render.imageExtension info.metadata settings.pngAnimation)) := by
  obtain ⟨q, holder, -, hheld⟩ := h.held hid (caption?_of_node? hasks.node) hasks.image
  obtain rfl : p = q := Option.some.inj (hasks.parent.symm.trans hheld.parent)
  obtain ⟨htitle, hsubtitle⟩ := title_of_caption? hheld.below
  refine ⟨hheld.positive, ?_⟩
  rw [hheld.file request hasks.request, htitle, hsubtitle, imageFileOf,
    Manual.join_imageUrl _ _ (Manual.inner_imageFileName _ _ _ _ _ _).2]
  rfl

/-- An example stands below an item. -/
theorem Forest.rank_above_example (hd : d.Forest) (hn : d.node? id = some n) (hinfo : n.image? = some info)
    (hkind : info.kind = .example) (hp : n.parent = some p) {holder : Caption} (hc : d.caption? p = some holder) :
    holder.rank = .item := by
  have hrank : n.kind.rank = .exampleImage := by
    rw [Node.kind_of_image? hinfo]
    simp only [Kind.rank, hkind]
  obtain ⟨parent, hparent, rfl⟩ := Option.map_eq_some_iff.1 hc
  obtain ⟨-, x, hx, hbelow, -⟩ := hd.below (footing?_of_node? hn) hp
  obtain rfl : x = parent.footing := Option.some.inj (hx.symm.trans (footing?_of_node? hparent))
  change n.kind.rank.mayStandBelow parent.kind.rank = true at hbelow
  show parent.kind.rank = .item
  rw [hrank] at hbelow
  cases hr : parent.kind.rank <;> simp_all [Rank.mayStandBelow]

/-- An item has the title of one. -/
theorem Imaged.title_of_example (h : d.Imaged base settings) (hd : d.Forest) (hid : base ≤ id)
    (hasks : d.Asks id p n info request) (hkind : info.kind = .example) : d.title p ∈ itemTitles := by
  obtain ⟨q, holder, hq, hheld⟩ := h.held hid (caption?_of_node? hasks.node) hasks.image
  obtain rfl : p = q := Option.some.inj (hasks.parent.symm.trans hheld.parent)
  rw [(title_of_caption? hheld.below).1]
  exact h.titled hq hheld.below (hd.rank_above_example hasks.node hasks.image hkind hasks.parent hheld.below)

end Asks

end Document

namespace Manual

/-- **When two images share a file.**  Of the images that sources add to a manual, two different ones that both ask
for a file ask for the same one exactly when they stand below different nodes, the directories for the images of
their sources are the same, both files have the same extension and their slots are alike. -/
theorem same_imageFile_iff (settings : Settings) (inputs : List Input) (sources : List (String × List String)) :
    let before := (new settings).readAll inputs
    let d := (before.readAll (codeInputs sources)).document
    let directory (n : Node) := imageDirectory before.settings.docsDir n.origin.file
    let extension (info : ImageInfo) := Render.imageExtension info.metadata before.settings.pngAnimation
    ∀ i j p q a b info info' r s, before.document.size ≤ i → before.document.size ≤ j → i ≠ j →
      d.Asks i p a info r → d.Asks j q b info' s →
      (Path.same r.imageFile s.imageFile = true ↔
        p ≠ q ∧ Path.same (directory a) (directory b) = true ∧ extension info = extension info' ∧
          (d.slot p info).Alike (d.slot q info')) := by
  intro before d directory extension i j p q a b info info' r s hi hj hij hr hs
  have himaged : d.Imaged before.document.size before.settings := (imaged_readAll ⟨settings, inputs, rfl⟩ sources).1
  have hforest : d.Forest := by
    have hall := forest_readAll settings (inputs ++ codeInputs sources)
    rw [readAll_append] at hall
    exact hall
  obtain ⟨hn, hfile⟩ := himaged.of_asks hi hr
  obtain ⟨hn', hfile'⟩ := himaged.of_asks hj hs
  have hsame : Path.same r.imageFile s.imageFile = true ↔ Path.same (directory a) (directory b) = true ∧
      extension info = extension info' ∧ (d.slot p info).Alike (d.slot q info') := by
    rw [hfile, hfile', Path.same_under_iff (isEmpty_imageDirectory _ _) (isEmpty_imageDirectory _ _)
      (inner_imageFileName _ _ _ _ _ _).1 (inner_imageFileName _ _ _ _ _ _).1, imageFileName_eq_iff hn hn']
    rfl
  rw [hsame]
  refine ⟨fun h => ⟨?_, h⟩, fun h => h.2⟩
  rintro rfl
  -- below one node the kind and the number tell images apart
  have hitem : info.kind = .example ∨ info'.kind = .example → d.title p ∈ itemTitles := by
    rintro (hkind | hkind)
    · exact himaged.title_of_example hforest hi hr hkind
    · exact himaged.title_of_example hforest hj hs hkind
  obtain ⟨hkinds, hnumbers⟩ := ImageSlot.of_inj hn hn' hitem h.2.2.name_eq
  exact himaged.number_ne hi hj hij (Document.caption?_of_node? hr.node) (Document.caption?_of_node? hs.node)
    hr.image hs.image (hr.parent.trans hs.parent.symm) hkinds hnumbers

/-- The node that an image stands below and the file that it asks for. -/
def asked? (d : Document) (id : NodeId) : Option (Option NodeId × String) :=
  (d.node? id).bind fun n => n.image?.bind fun info => info.request.map fun r => (n.parent, r.imageFile)

theorem exists_asks {d : Document} {id p : NodeId} {file : String} (h : asked? d id = some (some p, file)) :
    ∃ n info r, d.Asks id p n info r ∧ r.imageFile = file := by
  obtain ⟨n, hn, h⟩ := Option.bind_eq_some_iff.1 h
  obtain ⟨info, hinfo, h⟩ := Option.bind_eq_some_iff.1 h
  obtain ⟨r, hr, h⟩ := Option.map_eq_some_iff.1 h
  obtain ⟨hparent, hfile⟩ := Prod.mk.inj h
  exact ⟨n, info, r, ⟨hn, hparent, hinfo, hr⟩, hfile⟩

/-- The second example of `x()` and the first one of `x_2()` share a file. -/
theorem same_imageFile_iff_numbered :
    let sources := [("a.scad", ["// File: a.scad", "// Module: x()", "// Example:", "//   x(1);", "// Example:",
      "//   x(2);", "", "// Module: x_2()", "// Example:", "//   x_2();"])]
    let before := (new Settings.default).readAll []
    let d := (before.readAll (codeInputs sources)).document
    ∃ a b info info' r s, before.document.size ≤ 4 ∧ before.document.size ≤ 6 ∧ d.Asks 4 2 a info r ∧
      d.Asks 6 5 b info' s ∧ Path.same r.imageFile s.imageFile = true ∧
      (d.slot 2 info).Alike (d.slot 5 info') := by
  intro sources before d
  have hread : before.document.size = 0 ∧ asked? d 4 = some (some 2, "docs/images/a/x_2.png") ∧
      asked? d 6 = some (some 5, "docs/images/a/x_2.png") := by
    decide +kernel
  obtain ⟨hsize, hsecond, hfirst⟩ := hread
  obtain ⟨a, info, r, hr, hfile⟩ := exists_asks hsecond
  obtain ⟨b, info', s, hs, hfile'⟩ := exists_asks hfirst
  have hsame : Path.same r.imageFile s.imageFile = true := by
    rw [hfile, hfile']
    decide
  have hle (k : Nat) : before.document.size ≤ k := by omega
  have hiff := same_imageFile_iff Settings.default [] sources 4 6 2 5 a b info info' r s (hle 4) (hle 6) (by decide)
    hr hs
  exact ⟨a, b, info, info', r, s, hle 4, hle 6, hr, hs, hsame, (hiff.1 hsame).2.2.2⟩

/-- Items whose names differ in their case only: their examples are two nodes, and ask for one file. -/
theorem examples_share_file :
    let d := ((new Settings.default).readAll (codeInputs [("a.scad", ["// File: a.scad", "// Module: foo()",
      "// Example:", "//   foo();", "", "// Module: Foo()", "// Example:", "//   Foo();"])])).document
    ∃ a b info info' r s, d.Asks 3 2 a info r ∧ d.Asks 5 4 b info' s ∧
      r.imageFile = "docs/images/a/foo.png" ∧ s.imageFile = "docs/images/a/foo.png" := by
  intro d
  have hread : asked? d 3 = some (some 2, "docs/images/a/foo.png") ∧
      asked? d 5 = some (some 4, "docs/images/a/foo.png") := by
    decide +kernel
  obtain ⟨a, info, r, hr, hfile⟩ := exists_asks hread.1
  obtain ⟨b, info', s, hs, hfile'⟩ := exists_asks hread.2
  exact ⟨a, b, info, info', r, s, hr, hs, hfile, hfile'⟩

end Manual

end ScadManual
