import ScadManual.Proofs.Images
import ScadManual.Proofs.Visits

/-!
# What lies beneath the directory of pages

Pages and images are written to paths that are joined to the directory of all pages, a page by the path of its
source and an image by the directory of the source.  A join says nothing about where its result lies: an absolute
path stays what it is, and a relative one may climb out through its `..` components.  So an output lies beneath
the directory exactly when the path of its source does not climb, and this is all that can be said, since
nothing looks at the paths of sources before they are used.
-/

namespace ScadManual

namespace Path

/-! ## Descending -/

/-- The depth below where a path started after one more component; none when it leads out or starts at the root. -/
def deeper (depth : Nat) : Component → Option Nat
  | .root => none
  | .current => some depth
  | .name _ => some (depth + 1)
  | .parent => if depth = 0 then none else some (depth - 1)

/-- How deep a relative path leads, when it never leaves the directory in which it starts. -/
def depth? (path : String) : Option Nat := (components path).foldlM deeper 0

/-- Is the path relative, and does it never leave the directory in which it starts? -/
def descends (path : String) : Bool := (depth? path).isSome

/-- The path is the directory followed by a relative path that does not climb out of it. -/
def Beneath (dir path : String) : Prop := ∃ rest, path = join dir rest ∧ descends rest = true

variable {dir path : String}

theorem isAbsolute_of_descends (h : descends path = true) : isAbsolute path = false := by
  rw [Bool.eq_false_iff]
  intro habs
  rw [descends, depth?, components, habs] at h
  exact absurd h (by simp [deeper])

/-- From a relative directory no absolute path is reached. -/
theorem not_beneath_of_isAbsolute (hdir : isAbsolute dir = false) (hpath : isAbsolute path = true) :
    ¬Beneath dir path := by
  rintro ⟨rest, rfl, hrest⟩
  rw [isAbsolute_join_relative dir (isAbsolute_of_descends hrest), hdir] at hpath
  exact nomatch hpath

theorem beneath_join_iff (hpath : isAbsolute path = false) : Beneath dir (join dir path) ↔ descends path = true := by
  refine ⟨?_, fun h => ⟨path, rfl, h⟩⟩
  rintro ⟨rest, heq, hrest⟩
  -- what is joined can be read off the join
  have hsame : path = rest := by
    cases hdir : dir.isEmpty with
    | true => rwa [join_of_isEmpty hdir, join_of_isEmpty hdir] at heq
    | false =>
      rw [join_eq_under hdir hpath, join_eq_under hdir (isAbsolute_of_descends hrest)] at heq
      exact under_injective dir heq
  rw [hsame]
  exact hrest

/-- Where the path `url` comes to lie when it is joined to a directory. -/
structure Placed (dir url out : String) : Prop where
  joined : out = join dir url
  /-- A relative path lies beneath the directory exactly when it descends. -/
  relative : isAbsolute url = false → (Beneath dir out ↔ descends url = true)
  /-- An absolute one is left as it is, so it never lies beneath a relative directory. -/
  absolute : isAbsolute url = true → out = url ∧ (isAbsolute dir = false → ¬Beneath dir out)

theorem placed_join (dir url : String) : Placed dir url (join dir url) where
  joined := rfl
  relative hurl := beneath_join_iff hurl
  absolute hurl := by
    rw [join_of_isAbsolute hurl]
    exact ⟨rfl, fun hdir => not_beneath_of_isAbsolute hdir hurl⟩

end Path

/-! ## Images -/

namespace Manual

theorem isAbsolute_append_images (dir : String) :
    Path.isAbsolute (Path.append dir "images") = Path.isAbsolute dir := by
  rw [Path.append_of_relative dir (by decide)]
  cases hdir : dir.isEmpty with
  | true =>
    rw [String.isEmpty_iff.1 hdir]
    decide
  | false => exact Path.isAbsolute_under hdir "images"

theorem components_append_images (dir : String) :
    Path.components (Path.append dir "images") = Path.components dir ++ [.name "images"] := by
  rw [Path.append_of_relative dir (by decide)]
  cases hdir : dir.isEmpty with
  | true =>
    rw [String.isEmpty_iff.1 hdir]
    decide
  | false => exact Path.components_under hdir "images"

/-- The directory `images` makes up for a step back that the name of a source may stand for. -/
theorem isSome_foldlM_deeper (depth : Nat) (stem name : String) :
    (([Path.Component.name "images"] ++ (Path.pieceComponent? false stem).toList ++
      [Path.Component.name name]).foldlM Path.deeper depth).isSome = true := by
  unfold Path.pieceComponent?
  split
  · rfl
  · split
    · rfl
    · split
      · rfl
      · rfl

/-- An image lies below the directory of its source, whatever the source is called. -/
theorem descends_imageUrl (source : String) {name : String} (hname : Path.inner name = [.name name])
    (hrelative : Path.isAbsolute name = false) :
    Path.descends (imageUrl source name) = Path.descends (sourceDirectory source) ∧
      Path.isAbsolute (imageUrl source name) = Path.isAbsolute (sourceDirectory source) := by
  rw [imageUrl_eq source hrelative]
  generalize hstem : (Path.stem? (Text.trim source)).getD "" = stem
  have hslash : '/' ∉ stem.toList := hstem ▸ Path.slash_not_mem_stem (Text.trim source)
  have hempty := isEmpty_append_images (sourceDirectory source)
  constructor
  · have hcomponents : Path.components (Path.under (Path.under (Path.append (sourceDirectory source) "images") stem)
        name) = Path.components (sourceDirectory source) ++
          ([.name "images"] ++ (Path.pieceComponent? false stem).toList ++ [.name name]) := by
      rw [Path.components_under (Path.isEmpty_under _ _), Path.components_under hempty, components_append_images,
        hname, Path.inner_of_not_mem hslash]
      simp only [List.append_assoc]
    rw [Path.descends, Path.depth?, hcomponents, List.foldlM_append, Path.descends, Path.depth?]
    cases (Path.components (sourceDirectory source)).foldlM Path.deeper 0 with
    | none => rfl
    | some depth => exact isSome_foldlM_deeper depth stem name
  · rw [Path.isAbsolute_under (Path.isEmpty_under _ _), Path.isAbsolute_under hempty, isAbsolute_append_images]

end Manual

/-! ## Pages -/

namespace Documentation

variable {σ : Type} {r r' : Run σ}

/-- A visit writes one page. -/
theorem pages_writeFile {settings : Settings} {s : Page.Setting} {file : NodeId} {store store' : HashStore}
    {summary : Summary} (h : r.exec (writeFile settings s file store) = (.ok (summary, store'), r')) :
    summary.pages = [pageOf settings (sourceOf s.doc file)] := by
  obtain ⟨page, written, hwritten, himaged⟩ := Run.exec_bind_eq_ok h
  obtain ⟨rfl, -⟩ := writePageOf_eq_ok hwritten
  rw [Run.exec_get_bind] at himaged
  split at himaged
  · obtain ⟨⟨images, store₂⟩, _, hmake, hend⟩ := Run.exec_bind_eq_ok himaged
    obtain ⟨rfl, -⟩ := Prod.mk.inj (Except.ok.inj (congrArg Prod.fst hend))
    -- images are tallied and add no page
    obtain ⟨_, _, -, hcommit⟩ := Run.exec_bind_eq_ok hmake
    obtain ⟨_, _, -, hresult⟩ := Run.exec_bind_eq_ok hcommit
    obtain ⟨rfl, -⟩ := Prod.mk.inj (Except.ok.inj (congrArg Prod.fst hresult))
    rfl
  · obtain ⟨rfl, -⟩ := Prod.mk.inj (Except.ok.inj (congrArg Prod.fst himaged))
    rfl

/-- The run: one page for each file, in order. -/
theorem pages_writeFiles {settings : Settings} {s : Page.Setting} (files : List NodeId) {store : HashStore}
    {summary : Summary} (h : r.exec (writeFiles settings s store files) = (.ok summary, r')) :
    summary.pages = files.map fun file => pageOf settings (sourceOf s.doc file) := by
  induction files generalizing store r r' summary with
  | nil =>
    obtain rfl := Except.ok.inj (congrArg Prod.fst h)
    rfl
  | cons file files ih =>
    obtain ⟨⟨first, store'⟩, _, hfirst, hmore⟩ := Run.exec_bind_eq_ok h
    obtain ⟨rest, _, hrest, hend⟩ := Run.exec_bind_eq_ok hmore
    obtain rfl := Except.ok.inj (congrArg Prod.fst hend)
    show first.pages ++ rest.pages = _
    rw [pages_writeFile hfirst, ih hrest]
    rfl

/-- **When outputs lie beneath the directory of pages.**  A run that writes the pages of a manual writes one for each
file, at its source's path joined to the directory; an image that a source asks for is joined to it by the
directory of the source.  Either lies beneath the directory of pages exactly when that path is relative and never
climbs out, an absolute path below an absolute directory apart. -/
theorem outputs_beneath_iff (settings : Settings) (inputs : List Manual.Input)
    (sources : List (String × List String)) (r r' : Run σ) (summary : Summary) :
    let before := (Manual.new settings).readAll inputs
    let m := before.readAll (Manual.codeInputs sources)
    let docsDir := m.settings.docsDir
    m.settings.testOnly = false → r.exec (writeFilePages m) = (.ok summary, r') →
      summary.pages.Perm (m.document.files.map fun file => pageOf m.settings (sourceOf m.document file)) ∧
      (∀ file ∈ m.document.files, Path.Placed docsDir (sourceOf m.document file ++ Dialect.suffix)
        (pageOf m.settings (sourceOf m.document file))) ∧
      ∀ id p n info request, before.document.size ≤ id → m.document.Asks id p n info request →
        ∃ url, Path.Placed docsDir url request.imageFile ∧
          Path.descends url = Path.descends (Manual.sourceDirectory n.origin.file) ∧
          Path.isAbsolute url = Path.isAbsolute (Manual.sourceDirectory n.origin.file) := by
  intro before m docsDir htest hrun
  have hreachable : before.Reachable := ⟨settings, inputs, rfl⟩
  obtain ⟨himaged, hsettings⟩ := Manual.imaged_readAll hreachable sources
  refine ⟨?_, fun file _ => Path.placed_join _ _, fun id p n info request hid hasks => ?_⟩
  · obtain ⟨dialect, -, -, -, hfiles⟩ := writeFilePages_eq_ok htest hrun
    rw [pages_writeFiles _ hfiles]
    exact (filesByName_perm m.document).map _
  · obtain ⟨q, holder, -, hheld⟩ := himaged.held hid (Document.caption?_of_node? hasks.node) hasks.image
    obtain ⟨hname, hrelative⟩ := Manual.inner_imageFileName info.kind holder.title holder.subtitle info.number
      info.metadata before.settings.pngAnimation
    refine ⟨_, ?_, Manual.descends_imageUrl n.origin.file hname hrelative⟩
    have hfile := hheld.file request hasks.request
    rw [hfile, Document.imageFileOf]
    show Path.Placed m.settings.docsDir _ _
    rw [hsettings]
    exact Path.placed_join _ _

/-- A source in a directory of its own: its page and its image lie beneath the directory of pages. -/
theorem outputs_beneath_iff_library :
    let m := ((Manual.new Settings.default).readAll []).readAll (Manual.codeInputs
      [("lib/a.scad", ["// File: a.scad", "// Module: m()", "// Example:", "//   m();"])])
    let r : Run Unit := Run.start ⟨[], []⟩ none
    m.settings.testOnly = false ∧ ∃ summary r', r.exec (writeFilePages m) = (.ok summary, r') ∧
      summary.pages = ["docs/lib/a.scad.md"] ∧ Path.Beneath "docs" "docs/lib/a.scad.md" ∧
      ∃ n info request, m.document.Asks 3 2 n info request ∧
        request.imageFile = "docs/lib/images/a/m.png" ∧ Path.Beneath "docs" request.imageFile := by
  intro m r
  obtain ⟨⟨htest, hsize, hdir, hfiles, hsource⟩, ⟨hasked, horigin⟩, hpages⟩ :
      (m.settings.testOnly = false ∧ ((Manual.new Settings.default).readAll []).document.size = 0 ∧
        m.settings.docsDir = "docs" ∧ m.document.files = [0] ∧ sourceOf m.document 0 = "lib/a.scad") ∧
      (Manual.asked? m.document 3 = some (some 2, "docs/lib/images/a/m.png") ∧
        (m.document.node? 3).map (·.origin.file) = some "lib/a.scad") ∧
      (r.exec (writeFilePages m)).1.toOption = some ⟨["docs/lib/a.scad.md"], 0, 0, 0, 0⟩ := by
    decide +kernel
  rcases hrun : r.exec (writeFilePages m) with ⟨result, r'⟩
  rw [hrun] at hpages
  obtain rfl := ok_of_toOption hpages
  obtain ⟨-, hpage, himage⟩ := outputs_beneath_iff Settings.default [] _ r r' _ htest hrun
  obtain ⟨n, info, request, hasks, hfile⟩ := Manual.exists_asks hasked
  rw [hasks.node] at horigin
  have hfileOf : n.origin.file = "lib/a.scad" := Option.some.inj horigin
  obtain ⟨url, hplaced, hdescends, habsolute⟩ := himage 3 2 n info request (by omega) hasks
  rw [hfileOf] at hdescends habsolute
  have hplace : Path.Placed m.settings.docsDir (sourceOf m.document 0 ++ Dialect.suffix)
      (pageOf m.settings (sourceOf m.document 0)) :=
    hpage 0 (by rw [hfiles]; exact List.mem_singleton.2 rfl)
  have himagePlace : Path.Placed m.settings.docsDir url request.imageFile := hplaced
  rw [pageOf, hsource, hdir] at hplace
  rw [hdir] at himagePlace
  refine ⟨htest, _, r', rfl, rfl, ?_, n, info, request, hasks, hfile, ?_⟩
  · exact (hplace.relative (by decide)).2 (by decide)
  · exact (himagePlace.relative (habsolute.trans (by decide))).2 (hdescends.trans (by decide))

/-- The path of a source may climb: its page and its image lie beside the directory of pages and not beneath it. -/
theorem outputs_climb_out :
    let m := (Manual.new Settings.default).readAll (Manual.codeInputs
      [("../a.scad", ["// File: a.scad", "// Module: m()", "// Example:", "//   m();"])])
    m.settings.docsDir = "docs" ∧ m.document.files = [0] ∧
      pageOf m.settings (sourceOf m.document 0) = "docs/../a.scad.md" ∧
      ¬Path.Beneath "docs" "docs/../a.scad.md" ∧
      ∃ n info request, m.document.Asks 3 2 n info request ∧
        request.imageFile = "docs/../images/a/m.png" ∧ ¬Path.Beneath "docs" "docs/../images/a/m.png" := by
  intro m
  obtain ⟨⟨hdir, hfiles, hpage⟩, hasked⟩ :
      (m.settings.docsDir = "docs" ∧ m.document.files = [0] ∧
        pageOf m.settings (sourceOf m.document 0) = "docs/../a.scad.md") ∧
      Manual.asked? m.document 3 = some (some 2, "docs/../images/a/m.png") := by
    decide +kernel
  obtain ⟨n, info, request, hasks, hfile⟩ := Manual.exists_asks hasked
  have hnot (path : String) (hrelative : Path.isAbsolute path = false) (hclimbs : Path.descends path = false) :
      ¬Path.Beneath "docs" (Path.join "docs" path) := by
    rw [Path.beneath_join_iff hrelative, hclimbs]
    exact Bool.false_ne_true
  refine ⟨hdir, hfiles, hpage, ?_, n, info, request, hasks, hfile, ?_⟩
  · exact hnot "../a.scad.md" (by decide) (by decide)
  · exact hnot "../images/a/m.png" (by decide) (by decide)

end Documentation

end ScadManual
