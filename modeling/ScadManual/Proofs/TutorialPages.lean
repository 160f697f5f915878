import Mathlib.Data.List.Basic
import Mathlib.Data.List.Forall2
import Mathlib.Data.List.Nodup
import Mathlib.Data.List.TakeWhile
import Mathlib.Logic.ExistsUnique
import ScadManual.Proofs.Animations
import ScadManual.Proofs.Blame
import ScadManual.Proofs.ImageNames
import ScadManual.Proofs.Results
import ScadManual.Proofs.Text
import ScadManual.Tutorial

/-!
# Tutorials and their layouts

A tutorial is laid out in one way: plain lines, blocks from their fence to the next closing one, and at the end perhaps a
block that is never closed.  Conversion follows the layout.  It keeps the plain lines, puts a reference to an image behind
each script, and asks for the images in the order of their blocks, each under a file name of its own.

A reference is written for every block, while a script marked `NORENDER` is refused when its image is asked for.  So a
reference has its request just when the block is not marked, and each one without leaves an error at its fence.
-/

namespace ScadManual.Tutorial

/-! ## Layouts -/

/-- A piece of a page as it stands in its source: a line by itself, or a block with its fence and its script. -/
inductive Segment where
  | plain (line : String)
  | block (fence : String) (script : List String)

namespace Segment

/-- The lines of a segment. -/
def lines : Segment → List String
  | plain line => [line]
  | block fence script => fence :: (script ++ [closeFence])

/-- A plain line opens no block.  A block is opened by its fence, and its script does not close it. -/
def Proper : Segment → Prop
  | plain line => ¬openFence.toList <+: line.toList
  | block fence script => openFence.toList <+: fence.toList ∧ closeFence ∉ script

/-- Is the segment a block? -/
def isBlock : Segment → Bool
  | plain _ => false
  | block _ _ => true

end Segment

/-- The layout of a page: its segments, and the fence and the script of a block at its end that is not closed. -/
@[ext]
structure Layout where
  segments : List Segment
  unfinished : Option (String × List String)
  proper : ∀ x ∈ segments, x.Proper
  opened : ∀ b ∈ unfinished, openFence.toList <+: b.1.toList ∧ closeFence ∉ b.2

/-- The lines of a block that is not closed. -/
def unfinishedLines (unfinished : Option (String × List String)) : List String :=
  unfinished.toList.flatMap fun b => b.1 :: b.2

namespace Layout

/-- The page that has the layout. -/
def lines (l : Layout) : List String := l.segments.flatMap Segment.lines ++ unfinishedLines l.unfinished

end Layout

/-! ### Every page has one layout -/

section Cuts

variable {script rest script' rest' : List String}

theorem takeWhile_script (h : closeFence ∉ script) :
    (script ++ closeFence :: rest).takeWhile (· != closeFence) = script := by
  rw [List.takeWhile_append_of_pos fun line hline => by simpa using fun heq : line = closeFence => h (heq ▸ hline)]
  simp

theorem takeWhile_unfinished (h : closeFence ∉ script) : script.takeWhile (· != closeFence) = script := by
  rw [List.takeWhile_eq_self_iff]
  intro line hline
  simpa using fun heq : line = closeFence => h (heq ▸ hline)

/-- The first closing fence tells the script from what follows. -/
theorem script_inj (h : closeFence ∉ script) (h' : closeFence ∉ script')
    (heq : script ++ closeFence :: rest = script' ++ closeFence :: rest') : script = script' ∧ rest = rest' := by
  have hscript := congrArg (List.takeWhile (· != closeFence)) heq
  rw [takeWhile_script h, takeWhile_script h'] at hscript
  subst hscript
  exact ⟨rfl, (List.cons.inj (List.append_cancel_left heq)).2⟩

/-- Lines are a script up to the first closing fence, or have none. -/
theorem script_cases (lines : List String) :
    (∃ script rest, closeFence ∉ script ∧ lines = script ++ closeFence :: rest) ∨ closeFence ∉ lines := by
  by_cases h : closeFence ∈ lines
  · obtain ⟨script, rest, hlines, hscript⟩ := List.eq_append_cons_of_mem h
    exact .inl ⟨script, rest, hscript, hlines⟩
  · exact .inr h

end Cuts

/-- Every page has a layout. -/
theorem exists_layout (lines : List String) : ∃ l : Layout, l.lines = lines := by
  induction hlength : lines.length using Nat.strongRecOn generalizing lines with
  | ind n ih =>
    cases lines with
    | nil => exact ⟨⟨[], none, by simp, by simp⟩, rfl⟩
    | cons line rest =>
      by_cases hfence : openFence.toList <+: line.toList
      · rcases script_cases rest with ⟨script, after, hscript, rfl⟩ | hopen
        · obtain ⟨l, rfl⟩ := ih after.length (by simp at hlength; omega) after rfl
          refine ⟨⟨.block line script :: l.segments, l.unfinished, ?_, l.opened⟩, ?_⟩
          · exact List.forall_mem_cons.2 ⟨⟨hfence, hscript⟩, l.proper⟩
          · simp [Layout.lines, Segment.lines]
        · refine ⟨⟨[], some (line, rest), by simp, ?_⟩, by simp [Layout.lines, unfinishedLines]⟩
          rintro b ⟨⟩
          exact ⟨hfence, hopen⟩
      · obtain ⟨l, rfl⟩ := ih rest.length (by simp at hlength; omega) rest rfl
        refine ⟨⟨.plain line :: l.segments, l.unfinished, ?_, l.opened⟩, ?_⟩
        · exact List.forall_mem_cons.2 ⟨hfence, l.proper⟩
        · simp [Layout.lines, Segment.lines]

section Unique

variable {x y : Segment} {r r' : List String} {u v : Option (String × List String)}

/-- What a page starts with tells its first segment. -/
theorem Segment.append_inj (hx : x.Proper) (hy : y.Proper) (h : x.lines ++ r = y.lines ++ r') : x = y ∧ r = r' := by
  match x, y with
  | .plain line, .plain line' =>
    obtain ⟨rfl, hrest⟩ := List.cons.inj h
    exact ⟨rfl, hrest⟩
  | .plain line, .block fence script =>
    obtain ⟨rfl, -⟩ := List.cons.inj h
    exact absurd hy.1 hx
  | .block fence script, .plain line =>
    obtain ⟨rfl, -⟩ := List.cons.inj h
    exact absurd hx.1 hy
  | .block fence script, .block fence' script' =>
    rw [lines, lines, List.cons_append, List.cons_append, List.append_assoc, List.append_assoc] at h
    obtain ⟨rfl, hbody⟩ := List.cons.inj h
    obtain ⟨rfl, hrest⟩ := script_inj hx.2 hy.2 hbody
    exact ⟨rfl, hrest⟩

/-- A block that is not closed starts with no segment. -/
theorem Segment.append_ne_unfinished (hx : x.Proper)
    (hu : ∀ b ∈ u, openFence.toList <+: b.1.toList ∧ closeFence ∉ b.2) : x.lines ++ r ≠ unfinishedLines u := by
  intro h
  match x, u with
  | .plain line, none | .block fence script, none => simp [unfinishedLines, lines] at h
  | .plain line, some (fence, script) =>
    simp only [lines, unfinishedLines, Option.toList_some, List.flatMap_singleton, List.singleton_append] at h
    obtain ⟨rfl, -⟩ := List.cons.inj h
    exact absurd (hu _ rfl).1 hx
  | .block fence script, some (fence', script') =>
    simp only [lines, unfinishedLines, Option.toList_some, List.flatMap_singleton, List.cons_append] at h
    obtain ⟨-, rfl⟩ := List.cons.inj h
    -- the script that is never closed would have the closing fence of the segment in it
    exact (hu _ rfl).2 (by simp)

theorem unfinishedLines_inj (h : unfinishedLines u = unfinishedLines v) : u = v := by
  match u, v with
  | none, none => rfl
  | none, some _ | some _, none => simp [unfinishedLines] at h
  | some (fence, script), some (fence', script') =>
    simp only [unfinishedLines, Option.toList_some, List.flatMap_singleton, List.cons.injEq] at h
    rw [h.1, h.2]

theorem segments_inj {xs ys : List Segment} (hxs : ∀ x ∈ xs, x.Proper) (hys : ∀ y ∈ ys, y.Proper)
    (hu : ∀ b ∈ u, openFence.toList <+: b.1.toList ∧ closeFence ∉ b.2)
    (hv : ∀ b ∈ v, openFence.toList <+: b.1.toList ∧ closeFence ∉ b.2)
    (h : xs.flatMap Segment.lines ++ unfinishedLines u = ys.flatMap Segment.lines ++ unfinishedLines v) :
    xs = ys ∧ u = v := by
  induction xs generalizing ys with
  | nil =>
    cases ys with
    | nil => exact ⟨rfl, unfinishedLines_inj h⟩
    | cons y ys =>
      rw [List.flatMap_cons, List.append_assoc] at h
      exact absurd h.symm (Segment.append_ne_unfinished (hys y List.mem_cons_self) hu)
  | cons x xs ih =>
    obtain ⟨hx, hxs⟩ := List.forall_mem_cons.1 hxs
    cases ys with
    | nil =>
      rw [List.flatMap_cons, List.append_assoc] at h
      exact absurd h (Segment.append_ne_unfinished hx hv)
    | cons y ys =>
      rw [List.flatMap_cons, List.flatMap_cons, List.append_assoc, List.append_assoc] at h
      obtain ⟨rfl, hrest⟩ := Segment.append_inj hx (hys y List.mem_cons_self) h
      obtain ⟨rfl, hend⟩ := ih hxs (fun y hy => hys y (List.mem_cons_of_mem _ hy)) hrest
      exact ⟨rfl, hend⟩

end Unique

/-- Every page has exactly one layout. -/
theorem existsUnique_layout (lines : List String) : ∃! l : Layout, l.lines = lines := by
  obtain ⟨l, hl⟩ := exists_layout lines
  refine ⟨l, hl, fun l' hl' => ?_⟩
  obtain ⟨hsegments, hend⟩ := segments_inj l'.proper l.proper l'.opened l.opened (hl'.trans hl.symm)
  exact Layout.ext hsegments hend

/-! ### Places in a layout -/

/-- A block at its place: its number among the blocks, the number of the line of its fence, its fence and its script. -/
structure Block where
  number : Nat
  line : Nat
  fence : String
  script : List String

/-- A segment at its place: the number that a block has there, and the number of its first line. -/
structure Placed where
  segment : Segment
  number : Nat
  line : Nat

/-- The segment as a block, when it is one. -/
def Placed.block? : Placed → Option Block
  | ⟨.plain _, _, _⟩ => none
  | ⟨.block fence script, number, line⟩ => some ⟨number, line, fence, script⟩

/-- Segments at their places.  Blocks are numbered by the blocks before them, and lines by the lines before them. -/
def placed (xs : List Segment) : List Placed :=
  xs.mapIdx fun i x =>
    ⟨x, (xs.take i).countP Segment.isBlock + 1, ((xs.take i).flatMap Segment.lines).length + 1⟩

/-- The blocks of a layout that are closed, in order. -/
def Layout.blocks (l : Layout) : List Block := (placed l.segments).filterMap Placed.block?

theorem placed_concat (xs : List Segment) (x : Segment) :
    placed (xs ++ [x]) =
      placed xs ++ [⟨x, xs.countP Segment.isBlock + 1, (xs.flatMap Segment.lines).length + 1⟩] := by
  rw [placed, List.mapIdx_concat, List.take_left]
  congr 1
  rw [placed, List.mapIdx_eq_mapIdx_iff]
  intro i hi
  rw [List.take_append_of_le_length hi.le]

/-! ## Conversion -/

namespace Block

/-- What the fence asks of the image. -/
def metadata (b : Block) : String := fenceMetadata b.fence

/-- Where the image is, seen from the converted page. -/
def url (b : Block) (s : Settings) (source : String) : String := imageUrl s source b.number b.metadata

/-- Where the image is written. -/
def imageFile (b : Block) (s : Settings) (source : String) : String := Path.join s.docsDir (b.url s source)

/-- May the script be rendered? -/
def isRendered (b : Block) : Bool := !Text.contains b.metadata "NORENDER"

/-- The script in fences, unless only the image is wanted, and the reference to the image. -/
def converted (b : Block) (s : Settings) (source : String) : List String :=
  (if Text.contains b.metadata "ImgOnly" then [] else openFence :: (b.script ++ [closeFence])) ++
    [imageLine b.number (b.url s source)]

end Block

/-- The lines that become of a segment. -/
def Placed.converted (p : Placed) (s : Settings) (source : String) : List String :=
  match p with
  | ⟨.plain line, _, _⟩ => [line]
  | ⟨.block fence script, number, line⟩ => Block.converted ⟨number, line, fence, script⟩ s source

namespace Block

/-- The block makes the request. -/
def Asks (b : Block) (s : Settings) (source : String) (r : Render.Request) : Prop :=
  Render.Request.make ⟨source, b.line⟩ (b.imageFile s source) b.script b.metadata = .ok r

/-- What is logged when a block is marked as one that is not rendered. -/
def refusal (b : Block) (source : String) : LogEntry :=
  ⟨source, b.line, "Cannot render scripts marked NORENDER", .error⟩

/-- The request that the block makes, if it makes one. -/
def request? (b : Block) (s : Settings) (source : String) : Option Render.Request :=
  (Render.Request.make ⟨source, b.line⟩ (b.imageFile s source) b.script b.metadata).toOption

variable {b : Block} {s : Settings} {source : String} {r : Render.Request}

theorem request?_eq_some_iff : b.request? s source = some r ↔ b.Asks s source r := by
  rw [request?, Asks]
  constructor
  · exact ok_of_toOption
  · intro h
    rw [h]
    rfl

theorem exists_asks (h : b.isRendered = true) (s : Settings) (source : String) : ∃ r, b.Asks s source r := by
  rw [isRendered, Bool.not_eq_true'] at h
  exact ⟨_, by rw [Asks, Render.Request.make, if_neg (by simp [h])]⟩

theorem make_of_not_isRendered (h : b.isRendered = false) (s : Settings) (source : String) :
    Render.Request.make ⟨source, b.line⟩ (b.imageFile s source) b.script b.metadata =
      .error (.render "Cannot render scripts marked NORENDER") := by
  rw [isRendered, Bool.not_eq_false'] at h
  rw [Render.Request.make, if_pos h]

theorem request?_of_not_isRendered (h : b.isRendered = false) (s : Settings) (source : String) :
    b.request? s source = none := by
  rw [request?, make_of_not_isRendered h]
  rfl

end Block

/-! ### A part at a time -/

section Steps

variable {s : Settings} {source line fence : String} {script rest : List String} {number n : Nat}

theorem partsFrom_plain (h : ¬openFence.toList <+: line.toList) :
    partsFrom n (line :: rest) = .plain line :: partsFrom (n + 1) rest := by
  rw [partsFrom, if_neg (by rwa [Text.startsWith_iff])]

theorem partsFrom_block (hfence : openFence.toList <+: fence.toList) (hscript : closeFence ∉ script) :
    partsFrom n (fence :: (script ++ closeFence :: rest)) =
      .fenced ⟨n, fenceMetadata fence, script⟩ :: partsFrom (n + script.length + 2) rest := by
  have hdrop : (script ++ closeFence :: rest).drop (script.length + 1) = rest := by
    simp
  rw [partsFrom, if_pos (Text.startsWith_iff.2 hfence)]
  simp only [takeWhile_script hscript, hdrop]
  rw [if_pos (by simp)]

theorem partsFrom_unfinished (hfence : openFence.toList <+: fence.toList) (hscript : closeFence ∉ script) :
    partsFrom n (fence :: script) = [.unterminated n] := by
  rw [partsFrom, if_pos (Text.startsWith_iff.2 hfence)]
  simp only [takeWhile_unfinished hscript]
  rw [if_neg (Nat.lt_irrefl _)]

/-- What conversion makes of segments: their lines, the requests of their blocks, and the blocks that are refused. -/
def pageOf (s : Settings) (source : String) (xs : List Placed) : Page where
  lines := xs.flatMap (·.converted s source)
  requests := (xs.filterMap Placed.block?).filterMap (·.request? s source)
  entries := ((xs.filterMap Placed.block?).filter (!·.isRendered)).map (·.refusal source)

theorem append_pageOf (xs ys : List Placed) (p : Page) :
    (pageOf s source xs).append ((pageOf s source ys).append p) = (pageOf s source (xs ++ ys)).append p := by
  simp [pageOf, Page.append]

theorem convertFenced_eq (s : Settings) (source : String) (b : Block) :
    convertFenced s source b.number ⟨b.line, b.metadata, b.script⟩ =
      pageOf s source [⟨.block b.fence b.script, b.number, b.line⟩] := by
  have hpage : pageOf s source [⟨.block b.fence b.script, b.number, b.line⟩] =
      ⟨b.converted s source, [b].filterMap (·.request? s source),
        ([b].filter (!·.isRendered)).map (·.refusal source)⟩ := by
    simp [pageOf, Placed.block?, Placed.converted]
  rw [hpage]
  cases hb : b.isRendered with
  | true =>
    obtain ⟨r, hr⟩ := Block.exists_asks hb s source
    have hmake : Render.Request.make ⟨source, b.line⟩ (Path.join s.docsDir (imageUrl s source b.number b.metadata))
      b.script b.metadata = .ok r := hr
    have hrequest : b.request? s source = some r := Block.request?_eq_some_iff.2 hr
    simp only [convertFenced, hmake, List.filterMap_cons, hrequest, List.filter_cons, hb]
    rfl
  | false =>
    have hmake := Block.make_of_not_isRendered hb s source
    rw [Block.imageFile, Block.url] at hmake
    simp only [convertFenced, hmake, List.filterMap_cons, Block.request?_of_not_isRendered hb, List.filter_cons, hb]
    rfl

/-- A segment is converted by itself, and what follows it goes on with the next numbers. -/
theorem convertParts_segment {x : Segment} (hx : x.Proper) :
    convertParts s source number (partsFrom n (x.lines ++ rest)) =
      (pageOf s source [⟨x, number, n⟩]).append
        (convertParts s source (number + [x].countP Segment.isBlock) (partsFrom (n + x.lines.length) rest)) := by
  match x with
  | .plain line =>
    rw [Segment.lines, List.singleton_append, partsFrom_plain hx]
    rfl
  | .block fence script =>
    rw [Segment.lines, List.cons_append, List.append_assoc, List.singleton_append, partsFrom_block hx.1 hx.2,
      convertParts]
    have hblock := convertFenced_eq s source ⟨number, n, fence, script⟩
    rw [Block.metadata] at hblock
    rw [hblock]
    simp [Segment.isBlock, Nat.add_assoc]

/-- Segments are converted one after the other, each at its place. -/
theorem convertParts_segments {xs : List Segment} (hxs : ∀ x ∈ xs, x.Proper) (rest : List String) :
    convertParts s source 1 (partsFrom 1 (xs.flatMap Segment.lines ++ rest)) =
      (pageOf s source (placed xs)).append
        (convertParts s source (xs.countP Segment.isBlock + 1)
          (partsFrom ((xs.flatMap Segment.lines).length + 1) rest)) := by
  -- from the end, since the place of a segment depends on all that stands before it
  induction xs using List.reverseRecOn generalizing rest with
  | nil => rfl
  | append_singleton xs x ih =>
    obtain ⟨hxs, hx⟩ := List.forall_mem_append.1 hxs
    have hcount : (xs ++ [x]).countP Segment.isBlock + 1 =
        xs.countP Segment.isBlock + 1 + [x].countP Segment.isBlock := by
      rw [List.countP_append]
      omega
    have hlength : ((xs ++ [x]).flatMap Segment.lines).length + 1 =
        (xs.flatMap Segment.lines).length + 1 + x.lines.length := by
      rw [List.flatMap_append, List.length_append, List.flatMap_singleton]
      omega
    rw [hcount, hlength, List.flatMap_append, List.flatMap_singleton, List.append_assoc, ih hxs,
      convertParts_segment (hx x List.mem_cons_self), append_pageOf, placed_concat]

/-- What is logged about a block that is not closed, at the line of its fence. -/
def Layout.warnings (l : Layout) (source : String) : List LogEntry :=
  l.unfinished.toList.map fun _ =>
    ⟨source, (l.segments.flatMap Segment.lines).length + 1, "Unterminated openscad block, dropped", .warning⟩

/-- A page is converted by its layout. -/
theorem convert_eq (s : Settings) (source : String) (l : Layout) :
    convert s source l.lines = (pageOf s source (placed l.segments)).append ⟨[], [], l.warnings source⟩ := by
  rw [convert, parts, Layout.lines, convertParts_segments l.proper]
  congr 1
  cases hend : l.unfinished with
  | none =>
    rw [unfinishedLines, Option.toList_none, List.flatMap_nil, partsFrom, Layout.warnings, hend]
    rfl
  | some b =>
    obtain ⟨hfence, hscript⟩ := l.opened b hend
    rw [unfinishedLines, Option.toList_some, List.flatMap_singleton, partsFrom_unfinished hfence hscript,
      Layout.warnings, hend]
    rfl

end Steps

/-! ### Names of images -/

/-- Blocks are numbered from one. -/
theorem number_blocks (l : Layout) : l.blocks.map Block.number = List.range' 1 l.blocks.length := by
  have hall : ∀ xs : List Segment,
      ((placed xs).filterMap Placed.block?).map Block.number = List.range' 1 (xs.countP Segment.isBlock) := by
    intro xs
    induction xs using List.reverseRecOn with
    | nil => rfl
    | append_singleton xs x ih =>
      rw [placed_concat, List.filterMap_append, List.map_append, ih, List.countP_append]
      match x with
      | .plain line => simp [Placed.block?, Segment.isBlock]
      | .block fence script =>
        simp [Placed.block?, Segment.isBlock, List.range'_1_concat, Nat.add_comm]
  -- the blocks that were counted are those that were placed
  have hlength := congrArg List.length (hall l.segments)
  rw [List.length_map, List.length_range'] at hlength
  rw [Layout.blocks, hall, hlength]

namespace Block

/-- The name of the file of the image. -/
def imageName (b : Block) (s : Settings) (source : String) : String :=
  stem source ++ "_" ++ toString b.number ++ "." ++ Render.imageExtension b.metadata s.pngAnimation

variable {b b' : Block} {s : Settings} {source : String}

theorem fileName?_imageFile (b : Block) (s : Settings) (source : String) :
    Path.fileName? (b.imageFile s source) = some (b.imageName s source) := by
  have hextension : '/' ∉ (Render.imageExtension b.metadata s.pngAnimation).toList := by
    rcases Manual.imageExtension_cases b.metadata s.pngAnimation with heq | heq <;> rw [heq] <;> decide
  have hnumber : '/' ∉ (toString b.number).toList := fun h => absurd (isDigit_of_mem_toString h) (by decide)
  have hslash : '/' ∉ (b.imageName s source).toList := by
    simp only [imageName, stem, String.toList_append, List.mem_append, not_or]
    exact ⟨⟨⟨⟨Path.slash_not_mem_stem source, by decide⟩, hnumber⟩, by decide⟩, hextension⟩
  have hne {other : String} (hother : '_' ∉ other.toList) : b.imageName s source ≠ other := by
    rintro rfl
    simp [imageName] at hother
  exact Path.fileName?_join_append _ _ hslash (hne (by decide)) (hne (by decide)) (hne (by decide))

/-- The name of the file tells the number of the block. -/
theorem number_eq_of_imageName (h : b.imageName s source = b'.imageName s source) : b.number = b'.number := by
  have hdot (metadata : String) : '.' ∉ (Render.imageExtension metadata s.pngAnimation).toList := by
    rcases Manual.imageExtension_cases metadata s.pngAnimation with heq | heq <;> rw [heq] <;> decide
  have htext (b : Block) : (b.imageName s source).toList = (stem source ++ "_" ++ toString b.number).toList ++
      '.' :: (Render.imageExtension b.metadata s.pngAnimation).toList := by
    rw [imageName, String.append_assoc, String.toList_append]
    exact congrArg (_ ++ ·) String.toList_append
  have hlists := congrArg String.toList h
  rw [htext, htext] at hlists
  obtain ⟨hnames, -⟩ := append_cons_inj_of_not_mem (hdot _) (hdot _) hlists
  exact toString_nat_inj ((String.append_right_inj _).1 (String.toList_inj.1 hnames))

/-- Blocks with different numbers have different images. -/
theorem not_same_imageFile (h : b.number ≠ b'.number) :
    Path.same (b.imageFile s source) (b'.imageFile s source) = false := by
  rw [Bool.eq_false_iff, Path.same, ne_eq, beq_iff_eq]
  intro hsame
  have hname := fileName?_imageFile b s source
  rw [Path.fileName?, hsame, ← Path.fileName?, fileName?_imageFile] at hname
  exact h (number_eq_of_imageName (Option.some.inj hname)).symm

end Block

/-! ## What conversion does -/

/-- The images that blocks ask for are kept apart by the numbers of the blocks. -/
theorem pairwise_requests (l : Layout) (s : Settings) (source : String) :
    (l.blocks.filterMap (·.request? s source)).Pairwise fun q r => Path.same q.imageFile r.imageFile = false := by
  have hnumbers : l.blocks.Pairwise fun a b => a.number < b.number := by
    rw [← List.pairwise_map, number_blocks]
    exact List.pairwise_lt_range'
  rw [List.pairwise_filterMap]
  refine hnumbers.imp fun {a b} hlt q hq r hr => ?_
  have hfile := (Render.Request.make_eq_ok (Block.request?_eq_some_iff.1 hq)).2
  have hfile' := (Render.Request.make_eq_ok (Block.request?_eq_some_iff.1 hr)).2
  rw [hfile, hfile']
  exact Block.not_same_imageFile (Nat.ne_of_lt hlt)

/-- The blocks that may be rendered make the requests, in order. -/
theorem forall₂_asks (s : Settings) (source : String) (bs : List Block) :
    List.Forall₂ (fun b r => b.Asks s source r) (bs.filter (·.isRendered)) (bs.filterMap (·.request? s source)) := by
  induction bs with
  | nil => exact .nil
  | cons b bs ih =>
    cases hb : b.isRendered with
    | true =>
      obtain ⟨r, hr⟩ := Block.exists_asks hb s source
      rw [List.filter_cons_of_pos hb, List.filterMap_cons, Block.request?_eq_some_iff.2 hr]
      exact .cons hr ih
    | false =>
      rw [List.filter_cons_of_neg (by simp [hb]), List.filterMap_cons, Block.request?_of_not_isRendered hb]
      exact ih

/-- What a page with a given layout is converted to. -/
structure Layout.ConvertsTo (l : Layout) (s : Settings) (source : String) (page : Page) : Prop where
  /-- Each segment gives its lines: a plain line itself, a block its script and the reference to its image. -/
  lines : page.lines = (placed l.segments).flatMap (·.converted s source)
  /-- The blocks that may be rendered make the requests in order, each at the line of its fence. -/
  requests : List.Forall₂ (fun b r => b.Asks s source r ∧ r.origin = ⟨source, b.line⟩)
    (l.blocks.filter (·.isRendered)) page.requests
  /-- No two requests are for the same file. -/
  apart : page.requests.Pairwise fun q r => Path.same q.imageFile r.imageFile = false
  /-- Logged are the blocks that are refused, and last the block that is not closed. -/
  entries : page.entries = ((l.blocks.filter (!·.isRendered)).map (·.refusal source)) ++ l.warnings source

theorem convertsTo_convert (s : Settings) (source : String) (l : Layout) :
    l.ConvertsTo s source (convert s source l.lines) := by
  have hrequests : (convert s source l.lines).requests = l.blocks.filterMap (·.request? s source) := by
    rw [convert_eq]
    exact List.append_nil _
  constructor
  · rw [convert_eq]
    exact List.append_nil _
  · rw [hrequests]
    refine (forall₂_asks s source l.blocks).imp ?_
    intro b r hr
    exact ⟨hr, (Render.Request.make_eq_ok hr).1⟩
  · rw [hrequests]
    exact pairwise_requests l s source
  · rw [convert_eq]
    rfl

/-- **Conversion by the layout.**  Every page has exactly one layout, of plain lines, closed blocks and at most one block
at the end that is not closed.  The converted page has the plain lines as they are and in the place of each block its
script, unless only the image is wanted, and one reference to its image under the number of the block.  The blocks that
may be rendered ask for their images in order, at the lines of their fences and under different files.  A block that is
not closed adds a warning at the line of its fence and nothing else. -/
theorem convert_by_layout (s : Settings) (source : String) (lines : List String) :
    (∃! l : Layout, l.lines = lines) ∧
      ∀ l : Layout, l.lines = lines → l.ConvertsTo s source (convert s source lines) := by
  refine ⟨existsUnique_layout lines, ?_⟩
  rintro l rfl
  exact convertsTo_convert s source l

example : (convert Settings.default "a.md" ["x", "```openscad-3D;ImgOnly", "cube(10);", "```", "```openscad", "y"]).lines =
    ["x", "![Figure 1](images/a_1.png)"] := by
  decide +kernel

/-! ## References and requests -/

section References

variable {s : Settings} {source : String} {l : Layout} {page : Page} {b : Block}

theorem Layout.ConvertsTo.imageFiles (h : l.ConvertsTo s source page) :
    page.requests.map (·.imageFile) = (l.blocks.filter (·.isRendered)).map (·.imageFile s source) := by
  have hfiles : List.Forall₂ (· = ·) ((l.blocks.filter (·.isRendered)).map (·.imageFile s source))
      (page.requests.map (·.imageFile)) := by
    rw [List.forall₂_map_left_iff, List.forall₂_map_right_iff]
    refine h.requests.imp ?_
    intro b r hr
    exact (Render.Request.make_eq_ok hr.1).2.symm
  rw [List.forall₂_eq_eq_eq] at hfiles
  exact hfiles.symm

/-- A block is known by the file of its image. -/
theorem eq_of_same_imageFile {b' : Block} (hb : b ∈ l.blocks) (hb' : b' ∈ l.blocks)
    (h : Path.same (b.imageFile s source) (b'.imageFile s source) = true) : b = b' := by
  have hnodup : (l.blocks.map Block.number).Nodup := by
    rw [number_blocks]
    exact List.nodup_range'
  apply List.inj_on_of_nodup_map hnodup hb hb'
  apply Decidable.byContradiction
  intro hne
  rw [Block.not_same_imageFile hne] at h
  exact absurd h (by decide)

theorem Layout.ConvertsTo.requested_iff (h : l.ConvertsTo s source page) (hb : b ∈ l.blocks) :
    (∃ r ∈ page.requests, Path.same r.imageFile (b.imageFile s source) = true) ↔ b.isRendered = true := by
  constructor
  · rintro ⟨r, hr, hsame⟩
    have hfile := List.mem_map_of_mem (f := (·.imageFile)) hr
    rw [h.imageFiles] at hfile
    obtain ⟨b', hb', heq⟩ := List.mem_map.1 hfile
    obtain ⟨hmem, hrendered⟩ := List.mem_filter.1 hb'
    rw [← heq] at hsame
    rwa [← eq_of_same_imageFile hmem hb hsame]
  · intro hrendered
    have hfile : b.imageFile s source ∈ (l.blocks.filter (·.isRendered)).map (·.imageFile s source) :=
      List.mem_map_of_mem (List.mem_filter.2 ⟨hb, hrendered⟩)
    rw [← h.imageFiles] at hfile
    obtain ⟨r, hr, heq⟩ := List.mem_map.1 hfile
    exact ⟨r, hr, heq ▸ beq_self_eq_true _⟩

theorem Layout.ConvertsTo.all_requested_iff (h : l.ConvertsTo s source page) :
    page.requests.map (·.imageFile) = l.blocks.map (·.imageFile s source) ↔ ∀ b ∈ l.blocks, b.isRendered = true := by
  rw [h.imageFiles]
  constructor
  · intro hall
    have hlength := congrArg List.length hall
    rw [List.length_map, List.length_map] at hlength
    exact List.length_filter_eq_length_iff.1 hlength
  · intro hall
    rw [List.filter_eq_self.2 hall]

end References

/-- **Which references are backed by requests.**  Every block of a page has its reference, and the requests are those of
the blocks not marked `NORENDER`, in order, each for the file that the reference of its block names below the directory of
the pages.  So references and requests correspond just when no block is marked; the reference of a marked block has no
request, and an error is logged at its fence. -/
theorem reference_requested_iff (s : Settings) (source : String) (lines : List String) :
    let page := convert s source lines
    ∃ l : Layout, l.lines = lines ∧
      page.lines = (placed l.segments).flatMap (·.converted s source) ∧
      page.requests.map (·.imageFile) = (l.blocks.filter (·.isRendered)).map (·.imageFile s source) ∧
      (page.requests.map (·.imageFile) = l.blocks.map (·.imageFile s source) ↔
        ∀ b ∈ l.blocks, ¬"NORENDER".toList <:+: b.metadata.toList) ∧
      ∀ b ∈ l.blocks,
        ((∃ r ∈ page.requests, Path.same r.imageFile (b.imageFile s source) = true) ↔
          ¬"NORENDER".toList <:+: b.metadata.toList) ∧
        ("NORENDER".toList <:+: b.metadata.toList → b.refusal source ∈ page.entries) := by
  intro page
  obtain ⟨l, hl⟩ := exists_layout lines
  have h : l.ConvertsTo s source page := by
    rw [show page = convert s source l.lines from hl ▸ rfl]
    exact convertsTo_convert s source l
  have hrendered (b : Block) : b.isRendered = true ↔ ¬"NORENDER".toList <:+: b.metadata.toList := by
    rw [Block.isRendered, Bool.not_eq_true', ← Text.contains_iff, Bool.not_eq_true]
  refine ⟨l, hl, h.lines, h.imageFiles, ?_, fun b hb => ⟨?_, fun hmarked => ?_⟩⟩
  · simp only [h.all_requested_iff, hrendered]
  · rw [h.requested_iff hb, hrendered]
  · have hnot : b.isRendered = false := by
      rw [← Bool.not_eq_true, hrendered, not_not]
      exact hmarked
    rw [h.entries]
    exact List.mem_append_left _ (List.mem_map_of_mem (List.mem_filter.2 ⟨hb, by simp [hnot]⟩))

/-- A marked block alone: the page refers to an image, and nothing is asked for. -/
theorem marked_block_reference :
    convert Settings.default "a.md" ["```openscad-NORENDER", "cube(10);", "```"] =
      ⟨["```openscad", "cube(10);", "```", "![Figure 1](images/a_1.png)"], [],
        [⟨"a.md", 1, "Cannot render scripts marked NORENDER", .error⟩]⟩ := by
  decide +kernel

end ScadManual.Tutorial
