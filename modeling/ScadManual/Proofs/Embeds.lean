import ScadManual.Proofs.Images
import ScadManual.Proofs.Shown

/-!
# Images on pages

Whether an image is asked for is settled when its block is read, from its metadata and the title of the node it
stands below.  Whether a page refers to it is settled when the page is written, from its kind and from what was
settled before.  The two agree on examples.  A figure is always referred to, and so a page may show the place of an
image that nobody asks for.
-/

namespace ScadManual

namespace ImageInfo

/-- The image that the page of its file refers to. -/
def reference? (i : ImageInfo) : Option String :=
  if i.isHidden then none
  else if i.kind = .figure || i.render then some i.pageUrl
  else none

/-- What is settled of an image of a source, below a node with the title, under the settings. -/
structure Made (settings : Settings) (source title : String) (i : ImageInfo) : Prop where
  render : i.render = Render.wantsImage i.metadata title
  asked : i.request.isSome = (i.render && !i.isHidden)
  /-- Seen from the directory of its source, an image is where its page says. -/
  placed : i.url = Path.append (Manual.sourceDirectory source) i.pageUrl
  file : ∀ request, i.request = some request → request.imageFile = Path.join settings.docsDir i.url

section Made

variable {settings : Settings} {source title : String} {i : ImageInfo}

/-- What is asked for is referred to. -/
theorem Made.reference_of_request (h : i.Made settings source title) {request : Render.Request}
    (hr : i.request = some request) : i.reference? = some i.pageUrl := by
  have hasked : (i.render && !i.isHidden) = true := by rw [← h.asked, hr]; rfl
  obtain ⟨hrender, hshown⟩ := Bool.and_eq_true_iff.1 hasked
  rw [reference?, if_neg (by simpa using hshown), if_pos (by simp [hrender])]

/-- What is referred to and not asked for is a figure that makes no picture. -/
theorem Made.unasked_iff (h : i.Made settings source title) :
    i.reference?.isSome = true ∧ i.request = none ↔
      i.kind = .figure ∧ i.isHidden = false ∧ Render.wantsImage i.metadata title = false := by
  have hnone : i.request = none ↔ (i.render && !i.isHidden) = false := by
    rw [← h.asked, Option.isSome_eq_false_iff, Option.isNone_iff_eq_none]
  rw [hnone, ← h.render, reference?]
  cases i.isHidden with
  | true => simp
  | false => cases i.render <;> simp

end Made

end ImageInfo

/-! ## Images when they are made -/

namespace Manual

theorem made_of_imageInfo {m : Manual} {parent : NodeId} {kind : ImageKind} {number : Nat} {metadata : String}
    {body : List String} {origin : Origin} {info : ImageInfo}
    (h : m.imageInfo parent kind number metadata body origin = .ok info) :
    info.Made m.settings (References.originOf m.document (m.document.fileOf parent)).file
      (m.document.title parent) := by
  have hmade := imageInfo_eq_ok h
  refine ⟨hmade.render, hmade.asked, ?_, fun request hr => ?_⟩
  · rw [hmade.url, hmade.pageUrl, imageUrl, sourceDirectory]
  · exact (Render.Request.make_eq_ok (hmade.request request hr)).2

end Manual

/-- Every image was made for the source it stands in and below the node it stands below, under settings that fit
its number. -/
def Document.Drawn (Fits : NodeId → Settings → Prop) (d : Document) : Prop :=
  ∀ id c info, d.caption? id = some c → c.image = some info →
    ∃ p holder settings, Fits id settings ∧ c.parent = some p ∧ d.caption? p = some holder ∧
      info.Made settings c.origin.file holder.title

namespace Document.Drawn

variable {Fits : NodeId → Settings → Prop} {d : Document}

theorem empty : Document.empty.Drawn Fits := by
  intro id c info hc
  simp [caption?, Document.empty, node?] at hc

theorem mono {Fits' : NodeId → Settings → Prop} (h : d.Drawn Fits)
    (hfits : ∀ id < d.size, ∀ settings, Fits id settings → Fits' id settings) : d.Drawn Fits' := by
  intro id c info hc hinfo
  obtain ⟨p, holder, settings, hfit, hmade⟩ := h id c info hc hinfo
  exact ⟨p, holder, settings, hfits id (lt_size_of_caption? hc) settings hfit, hmade⟩

theorem modify (h : d.Drawn Fits) {f : Node → Node} (hf : ∀ n, (f n).caption = n.caption)
    (hparent : ∀ n, (f n).parent = n.parent) (i : NodeId) : (d.modify i f hparent).Drawn Fits := by
  intro id c info hc hinfo
  rw [caption?_modify hf hparent] at hc
  simp only [caption?_modify hf hparent]
  exact h id c info hc hinfo

theorem add (h : d.Drawn Fits) {n : Node}
    (himage : ∀ info, n.image? = some info → ∃ p holder settings, Fits d.size settings ∧ n.parent = some p ∧
      d.caption? p = some holder ∧ info.Made settings n.origin.file holder.title) :
    (d.add n).Drawn Fits := by
  -- what a node stands below was there before, so its caption is found in the larger document too
  have hkeep {id : NodeId} {c : Caption} {info : ImageInfo} (hfound : ∃ p holder settings, Fits id settings ∧
      c.parent = some p ∧ d.caption? p = some holder ∧ info.Made settings c.origin.file holder.title) :
      ∃ p holder settings, Fits id settings ∧ c.parent = some p ∧ (d.add n).caption? p = some holder ∧
        info.Made settings c.origin.file holder.title := by
    obtain ⟨p, holder, settings, hfit, hparent, hholder, hmade⟩ := hfound
    exact ⟨p, holder, settings, hfit, hparent, caption?_add_of_lt n hholder, hmade⟩
  intro id c info hc hinfo
  rw [caption?_add] at hc
  split at hc
  · next hid =>
    obtain rfl := Option.some.inj hc
    exact hkeep (hid ▸ himage info hinfo)
  · exact hkeep (h id c info hc hinfo)

end Document.Drawn

namespace Manual

variable {Fits : NodeId → Settings → Prop} {file : String} {l : Nat} {m m' : Manual} {b : Block}

/-- The step of the run: one edit of the block on line `l`. -/
theorem drawn_edit (h : m.document.Drawn Fits) (hs : Standing file l m) (hb : b.origin = ⟨file, l⟩)
    (hfits : Fits m.document.size m.settings) (he : Edit b m m') : m'.document.Drawn Fits := by
  refine he.document_cases hb hs h (fun i f hparent hf _ => h.modify hf hparent i) ?_ ?_
  · intro n _ hnone _
    exact h.add fun info hinfo => absurd (hnone.symm.trans hinfo) (by simp)
  · intro n parent holder info hn
    refine (h.modify (·.caption_counting info.kind) (·.parent_counting info.kind) parent).add fun info' hinfo' => ?_
    obtain rfl := Kind.image.inj (hn.image.symm.trans (Node.kind_of_image? hinfo'))
    have hcaption := Document.caption?_of_node? hn.node
    have hmade := made_of_imageInfo hn.made
    rw [hn.source, (Document.title_of_caption? hcaption).1] at hmade
    have hfile : n.origin.file = file := congrArg Origin.file hn.origin
    rw [Document.size_modify]
    refine ⟨parent, holder.caption, m.settings, hfits, hn.below, ?_, hfile ▸ hmade⟩
    rw [Document.caption?_modify (·.caption_counting info.kind)]
    exact hcaption

/-- The images of any document were made under some settings. -/
theorem drawn_readAll (settings : Settings) (inputs : List Input) :
    ((new settings).readAll inputs).document.Drawn fun _ _ => True :=
  document_readAll (fun hb hs he h => drawn_edit h hs hb trivial he) .empty settings inputs

/-- The run: a source changes no settings, so they fit what it adds. -/
theorem drawn_readCode (hm : m.Reachable) (h : m.document.Drawn Fits) (hfits : ∀ id, Fits id m.settings)
    (file : String) (lines : List String) : (m.readCode file lines).1.document.Drawn Fits := by
  have hstanding : Standing file 1 m.start := ⟨hm.forest, fun hid => absurd hid List.not_mem_nil⟩
  have hend := stepAll_standing_keeps (P := fun m' => m'.settings = m.settings ∧ m'.document.Drawn Fits)
    (by
      intro l k k' b hb hs he ⟨hsettings, hk⟩
      exact ⟨(congrArg Configuration.settings he.configuration_eq).trans hsettings,
        drawn_edit hk hs hb (hsettings ▸ hfits _) he⟩)
    (fun hk => hk) 1 lines m.start hstanding ⟨rfl, h⟩
  exact hend.2

/-- The images that sources add to a manual are made under its settings. -/
theorem drawn_codeInputs {before : Manual} (hbefore : before.Reachable) (sources : List (String × List String)) :
    (before.readAll (codeInputs sources)).document.Drawn fun id settings =>
      before.document.size ≤ id → settings = before.settings := by
  have hstart : before.document.Drawn fun id settings => before.document.size ≤ id → settings = before.settings := by
    obtain ⟨settings, inputs, rfl⟩ := hbefore
    exact (drawn_readAll settings inputs).mono fun id hid _ _ hle => absurd hid (Nat.not_lt.2 hle)
  have hkeeps := readAll_codeInputs_keeps
    (P := fun m => m.settings = before.settings ∧
      m.document.Drawn fun id settings => before.document.size ≤ id → settings = before.settings)
    (fun {m} file lines hm h => ⟨(settings_readCode m file lines).trans h.1,
      drawn_readCode hm h.2 (fun _ _ => h.1) file lines⟩)
    sources before hbefore ⟨rfl, hstart⟩
  exact hkeeps.2

end Manual

/-! ## Images when they are shown -/

namespace Documentation

/-- What a node asks for is asked for with the page of its file. -/
theorem mem_requestsBelow_fileOf {d : Document} (hd : d.Forest) {id : NodeId} {n : Node} {info : ImageInfo}
    {request : Render.Request} (hn : d.node? id = some n) (hinfo : n.image? = some info)
    (hr : info.request = some request) : request ∈ requestsBelow d (d.fileOf id) := by
  refine hd.at_fileOf (P := fun top => request ∈ requestsBelow d top) ?_ id ?_
  · intro top c hc hmem
    rw [requestsBelow]
    exact List.mem_append_right _ (List.mem_flatMap.2 ⟨⟨c, hc⟩, List.mem_attach _ _, hmem⟩)
  · rw [requestsBelow, hn, Option.bind_some, hinfo, Option.bind_some, hr]
    exact List.mem_append_left _ List.mem_cons_self

end Documentation

namespace Page.Setting

/-- An image as the page of its file shows it. -/
def embed (s : Setting) (n : Node) (info : ImageInfo) : Embed where
  item := (n.parent.map s.doc.subtitle).getD ""
  title := n.title
  subtitle := (s.escapedLinks n.origin n.subtitle).value
  code := if info.kind = .figure then [] else info.code
  codeBelow := (info.request.map (·.scriptUnder)).getD false
  url := info.reference?
  width := info.request.map (·.options.width)
  height := info.request.map (·.options.height)

theorem value_imageLines (s : Setting) (n : Node) (info : ImageInfo) :
    (s.imageLines n info).value = if info.isHidden then [] else s.dialect.imageBlock (s.embed n info) := by
  rw [imageLines, embed, ImageInfo.reference?]
  cases info.isHidden <;> rfl

/-- **Which images are shown without being asked for.**  The page of a file holds the lines of every image in it that
is not hidden.  They refer to an image that nobody asks for exactly when the image is a figure, is not hidden and
makes no picture: every request is for the image that the page refers to, and belongs to the page. -/
theorem shown_unasked_iff_figure (settings : Settings) (inputs : List Manual.Input)
    (sources : List (String × List String)) (dialect : Dialect) (id : NodeId) (n : Node) (info : ImageInfo) :
    let before := (Manual.new settings).readAll inputs
    let m := before.readAll (Manual.codeInputs sources)
    let s : Setting := ⟨m.library, dialect⟩
    let file := m.document.fileOf id
    m.document.node? id = some n → n.image? = some info →
    (s.nodeLines id).Within (s.filePage file) ∧
      (s.nodeLines id).value = (if info.isHidden then [] else dialect.imageBlock (s.embed n info)) ∧
      (∃ p, n.parent = some p ∧ (info.reference?.isSome = true ∧ info.request = none ↔
        info.kind = .figure ∧ info.isHidden = false ∧
          Render.wantsImage info.metadata (m.document.title p) = false)) ∧
      ∀ request, info.request = some request →
        request ∈ Documentation.requestsBelow m.document file ∧ info.reference? = some info.pageUrl ∧
          info.url = Path.append (Manual.sourceDirectory n.origin.file) info.pageUrl ∧
          (before.document.size ≤ id → request.imageFile = Path.join m.settings.docsDir info.url) := by
  intro before m s file hn hinfo
  have hreachable : before.Reachable := ⟨settings, inputs, rfl⟩
  have hforest : m.document.Forest := (hreachable.readAll (Manual.codeInputs sources)).forest
  have hsettings : m.settings = before.settings := (Manual.imaged_readAll hreachable sources).2
  obtain ⟨p, holder, under, hfits, hparent, hholder, hmade⟩ :=
    Manual.drawn_codeInputs hreachable sources id n.caption info (Document.caption?_of_node? hn) hinfo
  have hkind := Node.kind_of_image? hinfo
  have hlines : s.nodeLines id = s.imageLines n info := by
    rw [nodeLines_of_isLeaf (s := s) hn (by rw [hkind]; rfl), leafLines]
    simp only [hkind]
  refine ⟨within_filePage (s := s) hforest id, ?_, ⟨p, hparent, ?_⟩, ?_⟩
  · rw [hlines]
    exact value_imageLines s n info
  · show _ ↔ info.kind = .figure ∧ info.isHidden = false ∧
      Render.wantsImage info.metadata (m.document.title p) = false
    rw [(Document.title_of_caption? hholder).1]
    exact hmade.unasked_iff
  · intro request hr
    refine ⟨Documentation.mem_requestsBelow_fileOf hforest hn hinfo hr, hmade.reference_of_request hr,
      hmade.placed, fun hid => ?_⟩
    show request.imageFile = Path.join m.settings.docsDir info.url
    rw [hsettings, ← hfits hid]
    exact hmade.file request hr

/-- The example of a module in a directory of its own: the image that its page refers to is the one asked for. -/
theorem shown_unasked_iff_figure_example :
    let m := ((Manual.new Settings.default).readAll []).readAll (Manual.codeInputs
      [("lib/a.scad", ["// File: a.scad", "// Module: m()", "// Example:", "//   m();"])])
    ∃ n info request, m.document.Asks 3 2 n info request ∧ request.imageFile = "docs/lib/images/a/m.png" ∧
      info.url = "lib/images/a/m.png" ∧ info.reference? = some "images/a/m.png" ∧
      request ∈ Documentation.requestsBelow m.document 0 ∧
      request.imageFile = Path.join m.settings.docsDir info.url := by
  intro m
  have hread : Manual.asked? m.document 3 = some (some 2, "docs/lib/images/a/m.png") ∧ m.document.fileOf 3 = 0 ∧
      ((Manual.new Settings.default).readAll []).document.size = 0 ∧
      ((m.document.node? 3).bind Node.image?).map (fun info => (info.url, info.pageUrl)) =
        some ("lib/images/a/m.png", "images/a/m.png") := by
    decide +kernel
  obtain ⟨hasked, hfile, hsize, hurls⟩ := hread
  obtain ⟨n, info, request, hasks, himage⟩ := Manual.exists_asks hasked
  rw [hasks.node, Option.bind_some, hasks.image] at hurls
  obtain ⟨hurl, hpageUrl⟩ := Prod.mk.inj (Option.some.inj hurls)
  obtain ⟨-, -, -, hrequests⟩ := shown_unasked_iff_figure Settings.default [] _ .wiki 3 n info hasks.node hasks.image
  obtain ⟨hmem, hreference, -, hplace⟩ := hrequests request hasks.request
  exact ⟨n, info, request, hasks, himage, hurl, hreference.trans (congrArg some hpageUrl), hfile ▸ hmem,
    hplace (by omega)⟩

/-- A figure of a function makes no picture: its page refers to an image, and nothing is asked for. -/
theorem figure_shown_unasked :
    let m := (Manual.new Settings.default).readAll (Manual.codeInputs
      [("a.scad", ["// File: a.scad", "// Function: f()", "// Figure: Graph", "//   graph();"])])
    let s : Setting := ⟨m.library, .wiki⟩
    (s.filePage 0).value =
        ["# File: a.scad", "", "", "## File Contents", "", "- [`f()`](#function-f)", "", "", "### Function: f()", "",
          "**Figure 1:** Graph", "", "![f() Figure 1](images/a/f_fig1.png \"f() Figure 1\")", "", "---", ""] ∧
      Documentation.requestsBelow m.document 0 = [] := by
  decide +kernel

end Page.Setting

end ScadManual
