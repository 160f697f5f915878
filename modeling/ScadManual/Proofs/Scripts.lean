import ScadManual.Proofs.Attachment
import ScadManual.Proofs.Blame

/-!
# Scripts have what was declared above them

A file may declare lines for the scripts of its images: includes, which pages show too, and common code, which they do
not.  The lines of later declarations are put behind those of earlier ones, until the file ends.  The script of an image
is made when its block is read, and nothing changes it afterwards.  So it has the lines that were declared above the
image, and those declared below are missing.

The events of a source say where that is.  The first block that opens a file divides what comes before the file from what
is in it, and the block of an image divides the file into what is above it and what is below.
-/

namespace ScadManual

/-! ## Lines under a title -/

namespace Source

variable {title : String} {b : Block}

/-- The lines that an event has under a title. -/
def linesOf (title : String) : Event → List String
  | .block b => if b.title = title then b.body else []
  | .shallow _ _ | .gap => []

/-- All lines under a title, in order. -/
def linesUnder (title : String) (events : List Event) : List String := events.flatMap (linesOf title)

theorem linesUnder_append (title : String) (events more : List Event) :
    linesUnder title (events ++ more) = linesUnder title events ++ linesUnder title more :=
  List.flatMap_append

theorem linesUnder_cons (title : String) (e : Event) (events : List Event) :
    linesUnder title (e :: events) = linesOf title e ++ linesUnder title events :=
  List.flatMap_cons

theorem linesUnder_concat (title : String) (events : List Event) (e : Event) :
    linesUnder title (events ++ [e]) = linesUnder title events ++ linesOf title e := by
  rw [linesUnder_append, linesUnder_cons]
  exact congrArg _ (List.append_nil _)

theorem linesOf_block (h : b.title = title) : linesOf title (.block b) = b.body := if_pos h

theorem linesOf_block_of_ne (h : b.title ≠ title) : linesOf title (.block b) = [] := if_neg h

/-- Around a block with another title. -/
theorem linesUnder_around (h : b.title ≠ title) (above below : List Event) :
    linesUnder title (above ++ .block b :: below) = linesUnder title above ++ linesUnder title below := by
  rw [linesUnder_append, linesUnder_cons, linesOf_block_of_ne h, List.nil_append]

end Source

open Source

/-- A script is that of more declarations only if there are no more. -/
theorem Render.script_append_iff (includes common body moreIncludes moreCommon : List String) :
    script includes common body = script (includes ++ moreIncludes) (common ++ moreCommon) body ↔
      moreIncludes = [] ∧ moreCommon = [] := by
  constructor
  · intro h
    have hlength := congrArg List.length h
    simp only [script, List.length_append, List.length_map] at hlength
    constructor <;> apply List.eq_nil_of_length_eq_zero <;> omega
  · rintro ⟨rfl, rfl⟩
    rw [List.append_nil, List.append_nil]

/-! ## Images of a file -/

/-- An image was made when a block was read: its script and its code have what was declared in the events above. -/
structure ImageInfo.MadeBelow (info : ImageInfo) (n : Node) (above : List Event) (own : Block) : Prop where
  origin : n.origin = own.origin
  /-- The block itself declares nothing. -/
  title : own.title ≠ "Includes" ∧ own.title ≠ "CommonCode"
  script : info.script = Render.script (linesUnder "Includes" above) (linesUnder "CommonCode" above) n.body
  code : info.code = Render.shownCode (linesUnder "Includes" above) n.body

/-- An image was made when one of the events of a file was read. -/
def ImageInfo.MadeAmong (info : ImageInfo) (n : Node) (events : List Event) : Prop :=
  ∃ above own below, events = above ++ .block own :: below ∧ info.MadeBelow n above own

theorem ImageInfo.MadeAmong.concat {info : ImageInfo} {n : Node} {events : List Event} (h : info.MadeAmong n events)
    (e : Event) : info.MadeAmong n (events ++ [e]) := by
  obtain ⟨above, own, below, rfl, hmade⟩ := h
  exact ⟨above, own, below ++ [e], by simp, hmade⟩

/-- What is counted below an image does not matter. -/
theorem ImageInfo.MadeAmong.figures {info : ImageInfo} {n : Node} {events : List Event} (h : info.MadeAmong n events)
    (k : Nat) : info.MadeAmong { n with figures := k } events := by
  obtain ⟨above, own, below, hevents, hmade⟩ := h
  exact ⟨above, own, below, hevents, hmade.origin, hmade.title, hmade.script, hmade.code⟩

theorem ImageInfo.MadeBelow.madeAmong {info : ImageInfo} {n : Node} {above : List Event} {own : Block}
    (h : info.MadeBelow n above own) : info.MadeAmong n (above ++ [.block own]) :=
  ⟨above, own, [], rfl, h⟩

namespace Document

variable {d : Document} {base id : NodeId} {opening : Origin} {n : Node} {includes common : List String}
  {Q : Node → ImageInfo → Prop}

/-- From a node on, a document has one file, with the lines that it has declared, and images of which something
holds. -/
structure Filed (d : Document) (base : NodeId) (opening : Origin) (includes common : List String)
    (Q : Node → ImageInfo → Prop) : Prop where
  file : ∃ n info, d.node? base = some n ∧ n.kind = .file info ∧ n.origin = opening ∧ info.includes = includes ∧
    info.common = common
  within : ∀ {id}, base ≤ id → id < d.size → d.fileOf id = base
  images : ∀ {id n info}, base ≤ id → d.node? id = some n → n.kind = .image info → Q n info

namespace Filed

theorem lt_size (h : d.Filed base opening includes common Q) : base < d.size := by
  obtain ⟨n, -, hn, -⟩ := h.file
  exact lt_size_of_node? hn

theorem imp {Q' : Node → ImageInfo → Prop} (h : d.Filed base opening includes common Q)
    (hQ : ∀ {n info}, Q n info → Q' n info) : d.Filed base opening includes common Q' :=
  ⟨h.file, h.within, fun hid hn hk => hQ (h.images hid hn hk)⟩

/-- What is known of the file. -/
theorem fileInfoOf (h : d.Filed base opening includes common Q) (hid : base ≤ id) (hlt : id < d.size) :
    (d.fileInfoOf id).includes = includes ∧ (d.fileInfoOf id).common = common := by
  obtain ⟨n, info, hn, hk, -, hincludes, hcommon⟩ := h.file
  have hfile : d.fileInfoOf id = info := by
    rw [Document.fileInfoOf, h.within hid hlt, hn, Option.bind_some, Node.file?, hk]
    rfl
  rw [hfile]
  exact ⟨hincludes, hcommon⟩

/-- A file has declared nothing when it is opened. -/
theorem add_root (d : Document) (hp : n.parent = none) (hk : n.kind = .file FileInfo.empty) :
    (d.add n).Filed d.size n.origin [] [] Q := by
  have hnew : (d.add n).node? d.size = some n := by rw [node?_add, if_pos rfl]
  have hlast {id : NodeId} (hid : d.size ≤ id) (hlt : id < (d.add n).size) : id = d.size := by
    rw [size_add] at hlt
    exact Nat.le_antisymm (Nat.le_of_lt_succ hlt) hid
  constructor
  · exact ⟨n, FileInfo.empty, hnew, hk, rfl, rfl, rfl⟩
  · intro id hid hlt
    rw [hlast hid hlt, fileOf, parent?, hnew, Option.bind_some, hp]
  · intro id x info hid hx himage
    rw [hlast hid (lt_size_of_node? hx), hnew] at hx
    obtain rfl := Option.some.inj hx
    exact absurd (hk.symm.trans himage) (by simp)

/-- A node is put below one of the file. -/
theorem add (h : d.Filed base opening includes common Q) {p : NodeId} (hp : n.parent = some p) (hbase : base ≤ p)
    (hlt : p < d.size) (himage : ∀ {info}, n.kind = .image info → Q n info) :
    (d.add n).Filed base opening includes common Q := by
  have hold {i : NodeId} (hi : i < d.size) : (d.add n).fileOf i = d.fileOf i :=
    fileOf_congr i fun j hj => by
      rw [parent?, node?_add, if_neg (Nat.ne_of_lt (Nat.lt_of_le_of_lt hj hi)), parent?]
  have hnew : (d.add n).fileOf d.size = base := by
    rw [fileOf, parent?, node?_add, if_pos rfl, Option.bind_some, hp]
    simp only [if_pos hlt]
    rw [hold hlt, h.within hbase hlt]
  constructor
  · obtain ⟨x, info, hx, hrest⟩ := h.file
    refine ⟨x, info, ?_, hrest⟩
    rw [node?_add, if_neg (Nat.ne_of_lt h.lt_size), hx]
  · intro id hid hsize
    rw [size_add] at hsize
    rcases Nat.lt_or_eq_of_le (Nat.le_of_lt_succ hsize) with hlt' | rfl
    · rw [hold hlt', h.within hid hlt']
    · exact hnew
  · intro id x info hid hx hk
    rw [node?_add] at hx
    split at hx
    · obtain rfl := Option.some.inj hx
      exact himage hk
    · exact h.images hid hx hk

/-- A node changes, which leaves images what they are. -/
theorem modify (h : d.Filed base opening includes common Q) {i : NodeId} {f : Node → Node}
    {includes' common' : List String} (hparent : ∀ n, (f n).parent = n.parent)
    (himage : ∀ n info, (f n).kind = .image info → n.kind = .image info ∧ (Q n info → Q (f n) info))
    (hfile : ∀ n info, d.node? base = some n → n.kind = .file info → info.includes = includes → info.common = common →
      ∃ n' info', (d.modify i f hparent).node? base = some n' ∧ n'.kind = .file info' ∧ n'.origin = n.origin ∧
        info'.includes = includes' ∧ info'.common = common') :
    (d.modify i f hparent).Filed base opening includes' common' Q := by
  constructor
  · obtain ⟨n, info, hn, hk, horigin, hincludes, hcommon⟩ := h.file
    obtain ⟨n', info', hn', hk', horigin', hrest⟩ := hfile n info hn hk hincludes hcommon
    exact ⟨n', info', hn', hk', horigin'.trans horigin, hrest⟩
  · intro id hid hlt
    rw [size_modify] at hlt
    rw [fileOf_congr id fun j _ => parent?_modify d i hparent j, h.within hid hlt]
  · intro id x info hid hx hk
    rw [node?_modify] at hx
    split at hx
    · obtain ⟨x', hx', rfl⟩ := Option.map_eq_some_iff.1 hx
      obtain ⟨hk', hkept⟩ := himage x' info hk
      exact hkept (h.images hid hx' hk')
    · exact h.images hid hx hk

/-- Later sources change nothing in a file. -/
theorem fileInfoOf_of_extends {d' : Document} (h : d.Filed base opening includes common Q) (hd : d.Extends d')
    (hid : base ≤ id) (hlt : id < d.size) : d'.fileInfoOf id = d.fileInfoOf id := by
  rw [Document.fileInfoOf, hd.fileOf hlt, h.within hid hlt, hd.node? h.lt_size, Document.fileInfoOf, h.within hid hlt]

end Filed

end Document

/-! ## A file being read -/

namespace Manual

variable {m m' : Manual} {b : Block} {base : NodeId} {opening : Origin} {includes common : List String}
  {Q : Node → ImageInfo → Prop}

/-- While a file is being read, all that is open belongs to it. -/
structure Filing (base : NodeId) (opening : Origin) (includes common : List String) (Q : Node → ImageInfo → Prop)
    (m : Manual) : Prop where
  file : m.place.file? = some base
  opened : ∀ {id r}, (id, r) ∈ m.place.opened → base ≤ id ∧ id < m.document.size
  filed : m.document.Filed base opening includes common Q

namespace Filing

theorem imp {Q' : Node → ImageInfo → Prop} (h : Filing base opening includes common Q m)
    (hQ : ∀ {n info}, Q n info → Q' n info) : Filing base opening includes common Q' m :=
  ⟨h.file, h.opened, h.filed.imp hQ⟩

theorem congr (h : Filing base opening includes common Q m) (hsame : m.SameStand m') :
    Filing base opening includes common Q m' := by
  have hdocument : m'.document = m.document := congrArg Library.document hsame.1
  constructor
  · rw [hsame.2]
    exact h.file
  · intro id r hid
    rw [hsame.2] at hid
    rw [hdocument]
    exact h.opened hid
  · rw [hdocument]
    exact h.filed

theorem close (h : Filing base opening includes common Q m) :
    Filing base opening includes common Q { m with place := m.place.closeItem } := by
  refine ⟨?_, fun hid => h.opened (Place.opened_closeItem hid), h.filed⟩
  rw [← h.file]
  cases m.place <;> rfl

/-- A node is put below an open one, and the place may move to it. -/
theorem add (h : Filing base opening includes common Q m) {n : Node} {p : NodeId} {r : Rank} {place : Place}
    (hopen : (p, r) ∈ m.place.opened) (hp : n.parent = some p)
    (himage : ∀ {info}, n.kind = .image info → Q n info) (hfile : place.file? = some base)
    (hplace : ∀ {id r'}, (id, r') ∈ place.opened → (∃ r', (id, r') ∈ m.place.opened) ∨ id = m.document.size) :
    Filing base opening includes common Q { m.addNode n with place } := by
  obtain ⟨hbase, hlt⟩ := h.opened hopen
  have hsize : (m.addNode n).document.size = m.document.size + 1 := Document.size_add _ _
  refine ⟨hfile, fun {id r'} hid => ?_, h.filed.add hp hbase hlt himage⟩
  show base ≤ id ∧ id < (m.addNode n).document.size
  rw [hsize]
  rcases hplace hid with ⟨_, hold⟩ | rfl
  · exact ⟨(h.opened hold).1, Nat.lt_succ_of_lt (h.opened hold).2⟩
  · exact ⟨Nat.le_of_lt h.filed.lt_size, Nat.lt_succ_self _⟩

/-- A change leaves the parents and the images as they are. -/
theorem modify (h : Filing base opening includes common Q m) {i : NodeId} {f : Node → Node}
    {includes' common' : List String} (hparent : ∀ n, (f n).parent = n.parent)
    (himage : ∀ n info, (f n).kind = .image info → n.kind = .image info ∧ (Q n info → Q (f n) info))
    (hfile : ∀ n info, m.document.node? base = some n → n.kind = .file info → info.includes = includes →
      info.common = common → ∃ n' info', (m.document.modify i f hparent).node? base = some n' ∧ n'.kind = .file info' ∧
        n'.origin = n.origin ∧ info'.includes = includes' ∧ info'.common = common') :
    Filing base opening includes' common' Q (m.modifyNode i f hparent) := by
  refine ⟨h.file, fun hid => ?_, h.filed.modify hparent himage hfile⟩
  obtain ⟨hbase, hlt⟩ := h.opened hid
  exact ⟨hbase, Nat.lt_of_lt_of_eq hlt (Document.size_modify _ _ _ hparent).symm⟩

theorem modifyFile (h : Filing base opening includes common Q m) {change : FileInfo → FileInfo}
    {includes' common' : List String}
    (hchange : ∀ info, info.includes = includes → info.common = common →
      (change info).includes = includes' ∧ (change info).common = common') :
    Filing base opening includes' common' Q (m.modifyFile base change) := by
  refine h.modify (·.parent_withFile change) ?_ ?_
  · intro n info
    unfold Node.withFile
    split
    · exact fun hk => absurd hk (by simp)
    · exact fun hk => ⟨hk, id⟩
  · intro n info hn hk hincludes hcommon
    refine ⟨{ n with kind := .file (change info) }, change info, ?_, rfl, rfl, hchange info hincludes hcommon⟩
    rw [Document.node?_modify, if_pos rfl, hn, Option.map_some, Node.withFile, hk]

theorem modifyItem (h : Filing base opening includes common Q m) (item : NodeId) (change : ItemInfo → ItemInfo) :
    Filing base opening includes common Q (m.modifyItem item change) := by
  refine h.modify (·.parent_withItem change) ?_ ?_
  · intro n info
    unfold Node.withItem
    split
    · exact fun hk => absurd hk (by simp)
    · exact fun hk => ⟨hk, id⟩
  · intro n info hn hk hincludes hcommon
    refine ⟨n, info, ?_, hk, rfl, hincludes, hcommon⟩
    rw [Document.node?_modify, hn, Option.map_some, Node.withItem, hk, ite_self]

/-- Counting an image changes no lines of the file. -/
theorem countImage (h : Filing base opening includes common Q m)
    (hfigures : ∀ {n : Node} {info} (k : Nat), Q n info → Q { n with figures := k } info) (parent : NodeId)
    (kind : ImageKind) : Filing base opening includes common Q (m.countImage parent kind) := by
  match kind with
  | .figure =>
    refine h.modify (·.parent_counting .figure) (fun n info hk => ⟨hk, fun hQ => hfigures _ hQ⟩) ?_
    intro n info hn hk hincludes hcommon
    rw [Document.node?_modify, hn]
    split
    · exact ⟨n.counting .figure, info, rfl, hk, rfl, hincludes, hcommon⟩
    · exact ⟨n, info, rfl, hk, rfl, hincludes, hcommon⟩
  | .example => exact h.modifyItem parent _

/-- The step of the run: one edit of a block that declares nothing.  An image gets the lines declared so far. -/
theorem edit (h : Filing base opening includes common Q m) (he : Edit b m m')
    (hb : b.title ≠ "Includes" ∧ b.title ≠ "CommonCode")
    (hfigures : ∀ {n : Node} {info} (k : Nat), Q n info → Q { n with figures := k } info)
    (hQ : ∀ {n info}, n.origin = b.origin → info.script = Render.script includes common n.body →
      info.code = Render.shownCode includes n.body → Q n info) :
    Filing base opening includes common Q m' := by
  have hbase {f : NodeId} (hf : m.place.file? = some f) : f = base := Option.some.inj (hf.symm.trans h.file)
  have hplace {id : NodeId} {r : Rank} (hid : (id, r) ∈ m'.place.opened) := he.opened hid
  cases he with
  | rules hrules => exact ⟨h.file, h.opened, h.filed⟩
  | openFile hf => exact absurd (hf.symm.trans h.file) (by simp)
  | openSection hf title subtitle body =>
    obtain rfl := hbase hf
    exact h.add (Place.opened_of_file? hf) rfl (fun hk => absurd hk (by simp)) rfl hplace
  | openSubsection hf hs =>
    obtain rfl := hbase hf
    exact h.add (Place.opened_of_section? hs) rfl (fun hk => absurd hk (by simp [Block.node])) rfl hplace
  | @openItem f s hf hs fresh =>
    obtain rfl := hbase hf
    have hadd : Filing f opening includes common Q { m.addNode (b.node (.item ItemInfo.empty) (some s)) with
        place := .item f s m.document.size } :=
      h.add (Place.opened_of_section? hs) rfl (fun hk => absurd hk (by simp [Block.node])) rfl hplace
    exact ⟨hadd.file, hadd.opened, hadd.filed⟩
  | @describeFile f hf change hc =>
    obtain rfl := hbase hf
    refine h.modifyFile fun info hincludes hcommon => ?_
    exact ⟨((hc info).1 hb.1).trans hincludes, ((hc info).2 hb.2).trans hcommon⟩
  | describeItem hi change hc => exact h.modifyItem _ change
  | @addAlias item hi name fresh =>
    have hregistered : Filing base opening includes common Q (m.register name item) := ⟨h.file, h.opened, h.filed⟩
    exact hregistered.modifyItem item _
  | @image parent info n hk ht hp ho hn counts himage =>
    obtain ⟨r, hr, -⟩ := Place.opened_of_taker? ht
    refine (h.countImage hfigures parent info.kind).add hr hp (fun {info'} hk' => ?_) h.file fun hid => .inl ⟨_, hid⟩
    obtain rfl := Kind.image.inj (hk.symm.trans hk')
    -- its script and its code come from what the file has declared so far
    have hscript := (imageInfo_eq_ok himage).script
    have hcode := (imageInfo_eq_ok himage).code
    obtain ⟨hincludes, hcommon⟩ := h.filed.fileInfoOf (h.opened hr).1 (h.opened hr).2
    rw [hincludes] at hscript hcode
    rw [hcommon] at hscript
    exact hQ ho hscript hcode
  | child n ht hp ho hn himage =>
    obtain ⟨r, hr, -⟩ := Place.opened_of_taker? ht
    exact h.add hr hp (fun hk => absurd hk (himage _)) h.file hplace

/-- What is known of the file that is open can be changed. -/
theorem exec_changeFile (h : Filing base opening includes common Q m) (change : FileInfo → FileInfo) :
    (changeFile base change).exec m = (.ok (), m.modifyFile base change) := by
  obtain ⟨n, info, hn, hk, -⟩ := h.filed.file
  rw [Manual.exec_changeFile, hn, if_pos]
  rw [Option.any_some, Node.isFile, Node.file?, hk]
  rfl

/-- A block of includes adds its lines to the file. -/
theorem addBlock_includes (h : Filing base opening includes common Q m) (hb : b.title = "Includes") :
    Filing base opening (includes ++ b.body) common Q ((addBlock b).exec m).2 := by
  have hadd : ((addBlock b).exec m).2 =
      (m.modifyFile base fun info => { info with includes := info.includes ++ b.body }).addNode
        (b.node .includes (some base)) := by
    have hinside : addInside b = addIncludes b := by
      rw [addInside, hb]
      rfl
    rw [exec_addBlock_of_file h.file (by simp [hb]), hinside, addIncludes, Work.exec_bind, exec_requireFile, h.file]
    simp only
    rw [Work.exec_bind_of_ok (h.exec_changeFile _)]
    rfl
  rw [hadd]
  have hmodify : Filing base opening (includes ++ b.body) common Q
      (m.modifyFile base fun info => { info with includes := info.includes ++ b.body }) := by
    refine h.modifyFile fun info hincludes hcommon => ⟨?_, hcommon⟩
    rw [hincludes]
  exact hmodify.add (Place.opened_of_file? h.file) rfl (fun hk => absurd hk (by simp [Block.node])) h.file
    fun hid => .inl ⟨_, hid⟩

/-- A block of common code adds its lines to the file. -/
theorem addBlock_commonCode (h : Filing base opening includes common Q m) (hb : b.title = "CommonCode") :
    Filing base opening includes (common ++ b.body) Q ((addBlock b).exec m).2 := by
  have hadd : ((addBlock b).exec m).2 =
      m.modifyFile base fun info => { info with common := info.common ++ b.body } := by
    have hinside : addInside b = addCommonCode b := by
      rw [addInside, hb]
      rfl
    rw [exec_addBlock_of_file h.file (by simp [hb]), hinside, addCommonCode, Work.exec_bind, exec_requireFile, h.file]
    simp only
    rw [h.exec_changeFile]
  rw [hadd]
  refine h.modifyFile fun info hincludes hcommon => ⟨hincludes, ?_⟩
  rw [hcommon]

end Filing

/-! ## From blocks to sources -/

section Sources

variable {role : Role} {events since : List Event} {e : Event}

/-- What a block does is a run of edits, unless it is a directive. -/
theorem take_edits (m : Manual) (role : Role) (b : Block) :
    Edits b m (m.take role b).manual ∨ m.SameStand (m.take role b).manual := by
  rw [take, manual_build, accept]
  split
  · cases role with
    | configuration find => exact .inr (follow_sameStand m find _ b)
    | code => exact .inr ⟨rfl, rfl⟩
  · exact .inl (addBlock_edits m b)

/-- A block whose title is no directive is taken in the same way in every role. -/
theorem take_eq_addBlock (h : Directive.ofTitle? b.title = none) :
    (m.take role b).manual = ((addBlock b).exec m).2 := by
  rw [take, manual_build, accept, h]

/-- While a file is being read, it has the lines declared by the events since it was opened, and its images were
made among those events. -/
def FilingSince (base : NodeId) (opening : Origin) (since : List Event) (m : Manual) : Prop :=
  Filing base opening (linesUnder "Includes" since) (linesUnder "CommonCode" since)
    (fun n info => info.MadeAmong n since) m

namespace FilingSince

theorem concat (h : Filing base opening (linesUnder "Includes" since ++ linesOf "Includes" e)
      (linesUnder "CommonCode" since ++ linesOf "CommonCode" e) (fun n info => info.MadeAmong n (since ++ [e])) m) :
    FilingSince base opening (since ++ [e]) m := by
  rw [FilingSince, linesUnder_concat, linesUnder_concat]
  exact h

/-- An event that declares nothing. -/
theorem concat_of_nil (hincludes : linesOf "Includes" e = []) (hcommon : linesOf "CommonCode" e = [])
    (h : Filing base opening (linesUnder "Includes" since) (linesUnder "CommonCode" since)
      (fun n info => info.MadeAmong n (since ++ [e])) m) : FilingSince base opening (since ++ [e]) m := by
  apply concat
  rw [hincludes, hcommon, List.append_nil, List.append_nil]
  exact h

theorem take (h : FilingSince base opening since m) (role : Role) (b : Block) :
    FilingSince base opening (since ++ [.block b]) (m.take role b).manual := by
  have hlater := Filing.imp h fun hmade => hmade.concat (.block b)
  by_cases hincludes : b.title = "Includes"
  · have hne : b.title ≠ "CommonCode" := by simp [hincludes]
    apply concat
    rw [linesOf_block hincludes, linesOf_block_of_ne hne, List.append_nil,
      take_eq_addBlock (by rw [hincludes]; rfl)]
    exact hlater.addBlock_includes hincludes
  · by_cases hcommon : b.title = "CommonCode"
    · apply concat
      rw [linesOf_block_of_ne hincludes, linesOf_block hcommon, List.append_nil,
        take_eq_addBlock (by rw [hcommon]; rfl)]
      exact hlater.addBlock_commonCode hcommon
    · apply concat_of_nil (linesOf_block_of_ne hincludes) (linesOf_block_of_ne hcommon)
      rcases take_edits m role b with hedits | hsame
      · -- what the block makes now has all events before it above
        refine edits_keep (fun he hf => hf.edit he ⟨hincludes, hcommon⟩ (fun k hmade => hmade.figures k) ?_) hedits hlater
        intro n info horigin hscript hcode
        exact ImageInfo.MadeBelow.madeAmong ⟨horigin, ⟨hincludes, hcommon⟩, hscript, hcode⟩
      · exact hlater.congr hsame

/-- The step of the run: one event of the file. -/
theorem step (h : FilingSince base opening since m) (role : Role) (e : Event) :
    FilingSince base opening (since ++ [e]) (m.step role e).1 := by
  have hlater := Filing.imp h fun hmade => hmade.concat e
  cases e with
  | gap => exact concat_of_nil rfl rfl hlater.close
  | shallow title origin => exact concat_of_nil rfl rfl hlater
  | block b => exact h.take role b

end FilingSince

/-- A source being read: no file is open and nothing has been added, or a file is open since the first block that
opens one. -/
inductive Reading (base : NodeId) (events : List Event) (m : Manual) : Prop
  | before (hplace : m.place.file? = none) (hsize : m.document.size = base)
      (hnone : ∀ b, Event.block b ∈ events → b.title ∉ fileTitles)
  | inside {before : List Event} {opening : Block} {since : List Event}
      (hevents : events = before ++ .block opening :: since)
      (hfirst : ∀ b, Event.block b ∈ before → b.title ∉ fileTitles) (hopening : opening.title ∈ fileTitles)
      (hfiling : FilingSince base opening.origin since m)

namespace Reading

theorem start (m : Manual) : Reading m.document.size [] m.start :=
  .before rfl rfl fun _ hb => absurd hb List.not_mem_nil

/-- The first block that opens a file is not refused. -/
theorem openFile (hplace : m.place.file? = none) (hb : b.title ∈ fileTitles) (role : Role) :
    FilingSince m.document.size b.origin [] (m.take role b).manual := by
  simp only [fileTitles, List.mem_cons, List.not_mem_nil, or_false] at hb
  have hdirective : Directive.ofTitle? b.title = none := by
    rcases hb with hb | hb <;> rw [hb] <;> rfl
  have hopen : ((addBlock b).exec m).2 =
      { m.addNode (b.node (.file FileInfo.empty) none) with place := .file m.document.size } := by
    have hadd : addBlock b = Manual.openFile b := by
      rw [addBlock]
      rcases hb with hb | hb <;> rw [hb] <;> rfl
    rw [hadd, Manual.openFile, Work.exec_read_bind, hplace]
    rfl
  rw [take_eq_addBlock hdirective, hopen]
  refine ⟨rfl, fun hid => ?_, .add_root m.document rfl rfl⟩
  obtain ⟨rfl, -⟩ := Prod.mk.inj (List.mem_singleton.1 hid)
  exact ⟨Nat.le_refl _, Nat.lt_of_lt_of_eq (Nat.lt_succ_self _) (Document.size_add _ _).symm⟩

/-- As long as no file is open, no other block adds anything. -/
theorem take_outside (hplace : m.place.file? = none) (hb : b.title ∉ fileTitles) (role : Role) :
    (m.take role b).manual.place.file? = none ∧ (m.take role b).manual.document.size = m.document.size := by
  rcases take_edits m role b with hedits | hsame
  · refine edits_keep (P := fun m' => m'.place.file? = none ∧ m'.document.size = m.document.size) ?_ hedits
      ⟨hplace, rfl⟩
    intro m₁ m₂ he h
    have hopened {id : NodeId} {r : Rank} (hid : (id, r) ∈ m₁.place.opened) : False := by
      match hp : m₁.place with
      | .outside => simp [hp, Place.opened] at hid
      | .file _ | .section _ _ | .subsection _ _ _ | .item _ _ _ => simp [hp, Place.file?] at h
    cases he with
    | rules hrules => exact h
    | openFile hf titled => exact absurd titled hb
    | openSection hf title subtitle body => exact (hopened (Place.opened_of_file? hf)).elim
    | openSubsection hf hs => exact (hopened (Place.opened_of_file? hf)).elim
    | openItem hf hs fresh => exact (hopened (Place.opened_of_file? hf)).elim
    | describeFile hf change => exact (hopened (Place.opened_of_file? hf)).elim
    | describeItem hi change hc => exact (hopened (Place.opened_of_item? hi)).elim
    | addAlias hi fresh => exact (hopened (Place.opened_of_item? hi)).elim
    | image _ ht | child _ ht =>
      obtain ⟨r, hr, -⟩ := Place.opened_of_taker? ht
      exact (hopened hr).elim
  · have hdocument : (m.take role b).manual.document = m.document := congrArg Library.document hsame.1
    rw [hsame.2, hdocument]
    exact ⟨hplace, rfl⟩

/-- The step of the run: one event. -/
theorem step (h : Reading base events m) (role : Role) (e : Event) :
    Reading base (events ++ [e]) (m.step role e).1 := by
  cases h with
  | before hplace hsize hnone =>
    have hmore (hne : ∀ b, e = .block b → b.title ∉ fileTitles) (b : Block) (hb : Event.block b ∈ events ++ [e]) :
        b.title ∉ fileTitles := by
      rcases List.mem_append.1 hb with hold | hnew
      · exact hnone b hold
      · exact hne b (List.mem_singleton.1 hnew).symm
    cases e with
    | gap =>
      refine .before ?_ hsize (hmore fun b hb => absurd hb (by simp))
      show m.place.closeItem.file? = none
      cases hp : m.place <;> simp_all [Place.file?, Place.closeItem]
    | shallow title origin => exact .before hplace hsize (hmore fun b hb => absurd hb (by simp))
    | block b =>
      by_cases hb : b.title ∈ fileTitles
      · subst hsize
        exact .inside rfl hnone hb (openFile hplace hb role)
      · obtain ⟨hplace', hsize'⟩ := take_outside hplace hb role
        refine .before hplace' (hsize'.trans hsize) (hmore fun b' hb' => ?_)
        rwa [← Event.block.inj hb']
  | inside hevents hfirst hopening hfiling =>
    refine .inside ?_ hfirst hopening (hfiling.step role e)
    rw [hevents, List.append_assoc, List.cons_append]

/-- The run: any number of events. -/
theorem stepAll (h : Reading base events m) (role : Role) (more : List Event) :
    Reading base (events ++ more) (m.stepAll role more).1 := by
  induction more generalizing events m with
  | nil =>
    rw [List.append_nil]
    exact h
  | cons e more ih =>
    have hstep := ih (h.step role e)
    rw [List.append_assoc, List.singleton_append] at hstep
    exact hstep

end Reading

end Sources

/-! ## Scripts in a document -/

/-- The events of an input. -/
def Input.events : Input → List Event
  | .configuration _ file lines | .code file lines => Source.events file lines

/-- What an input makes of the document. -/
theorem reading_readInput (m : Manual) (input : Input) :
    ∃ m', Reading m.document.size input.events m' ∧ (m.readInput input).1.document = m'.document := by
  cases input with
  | configuration find file lines => exact ⟨_, (Reading.start m).stepAll (.configuration find) _, rfl⟩
  | code file lines => exact ⟨_, (Reading.start m).stepAll .code _, rfl⟩

/-- Before anything is read, there are no nodes. -/
theorem size_new (settings : Settings) : (new settings).document.size = 0 := by
  obtain ⟨m', hreading, hdocument⟩ :=
    reading_readInput (blank settings) (.configuration (fun _ => .ok []) "Defaults" defaultRules)
  cases hreading with
  | before hplace hsize _ => exact (congrArg Document.size hdocument).trans hsize
  | @inside before opening since hevents _ hopening _ =>
    have hnone : ∀ title ∈ (Source.events "Defaults" defaultRules).filterMap Event.title?, title ∉ fileTitles := by
      decide +kernel
    have hdefaults : Source.events "Defaults" defaultRules = before ++ .block opening :: since := hevents
    refine absurd hopening (hnone _ (List.mem_filterMap.2 ⟨.block opening, ?_, rfl⟩))
    rw [hdefaults]
    exact List.mem_append_right before List.mem_cons_self

/-- Every node was made by one of the inputs. -/
theorem exists_input (m : Manual) (inputs : List Input) {id : NodeId} (hid : m.document.size ≤ id)
    (hlt : id < (m.readAll inputs).document.size) :
    ∃ earlier input later, inputs = earlier ++ input :: later ∧ (m.readAll earlier).document.size ≤ id ∧
      id < ((m.readAll earlier).readInput input).1.document.size := by
  induction inputs generalizing m with
  | nil => exact absurd hlt (Nat.not_lt.2 hid)
  | cons input inputs ih =>
    by_cases hfirst : id < (m.readInput input).1.document.size
    · exact ⟨[], input, inputs, rfl, hid, hfirst⟩
    · obtain ⟨earlier, input', later, rfl, hfrom, huntil⟩ := ih _ (Nat.not_lt.1 hfirst) hlt
      exact ⟨input :: earlier, input', later, rfl, hfrom, huntil⟩

/-- **A script has what was declared above it.**  Every image comes from an input, the first block of which that opens a
file opened the file of the image, and from a block behind that one.  Its script and its code have the includes and the
common code of the blocks between the two, while the file has those of the blocks further down as well.  So the image is
up to date with its file just when nothing is declared below it. -/
theorem script_has_declarations_above (settings : Settings) (inputs : List Input) (id : NodeId) (n : Node)
    (info : ImageInfo) (hn : ((new settings).readAll inputs).document.node? id = some n)
    (himage : n.image? = some info) :
    let d := ((new settings).readAll inputs).document
    let file := d.fileInfoOf id
    ∃ earlier input later, inputs = earlier ++ input :: later ∧
      ((new settings).readAll earlier).document.size = d.fileOf id ∧
      id < ((new settings).readAll (earlier ++ [input])).document.size ∧
    ∃ before opening above own below, input.events = before ++ .block opening :: (above ++ .block own :: below) ∧
      (∀ b, Event.block b ∈ before → b.title ∉ fileTitles) ∧ opening.title ∈ fileTitles ∧
      References.originOf d (d.fileOf id) = opening.origin ∧ n.origin = own.origin ∧
      info.script = Render.script (linesUnder "Includes" above) (linesUnder "CommonCode" above) n.body ∧
      info.code = Render.shownCode (linesUnder "Includes" above) n.body ∧
      file.includes = linesUnder "Includes" above ++ linesUnder "Includes" below ∧
      file.common = linesUnder "CommonCode" above ++ linesUnder "CommonCode" below ∧
      (info.script = Render.script file.includes file.common n.body ∧
          info.code = Render.shownCode file.includes n.body ↔
        linesUnder "Includes" below = [] ∧ linesUnder "CommonCode" below = []) := by
  intro d file
  have hbase : (new settings).document.size ≤ id := by
    rw [size_new]
    exact Nat.zero_le id
  obtain ⟨earlier, input, later, rfl, hfrom, huntil⟩ := exists_input _ _ hbase (Document.lt_size_of_node? hn)
  obtain ⟨m', hreading, hdocument⟩ := reading_readInput ((new settings).readAll earlier) input
  have hextends : m'.document.Extends d := by
    have h := extends_readAll (((new settings).readAll earlier).readInput input).1 later
    rw [hdocument] at h
    show m'.document.Extends ((new settings).readAll (earlier ++ input :: later)).document
    rw [readAll_append]
    exact h
  rw [hdocument] at huntil
  cases hreading with
  | before _ hsize _ => exact absurd huntil (Nat.not_lt.2 (Nat.le_trans (Nat.le_of_eq hsize) hfrom))
  | @inside before opening since hevents hfirst hopening hfiling =>
    have hfiled := hfiling.filed
    have hn' : m'.document.node? id = some n := (hextends.node? huntil).symm.trans hn
    obtain ⟨above, own, below, rfl, hmade⟩ := hfiled.images hfrom hn' (Node.kind_of_image? himage)
    have hfileOf : d.fileOf id = ((new settings).readAll earlier).document.size :=
      (hextends.fileOf huntil).trans (hfiled.within hfrom huntil)
    obtain ⟨hincludes, hcommon⟩ := hfiled.fileInfoOf hfrom huntil
    rw [← hfiled.fileInfoOf_of_extends hextends hfrom huntil, linesUnder_around hmade.title.1] at hincludes
    rw [← hfiled.fileInfoOf_of_extends hextends hfrom huntil, linesUnder_around hmade.title.2] at hcommon
    refine ⟨earlier, input, later, rfl, hfileOf.symm, ?_, before, opening, above, own, below, hevents, hfirst, hopening,
      ?_, hmade.origin, hmade.script, hmade.code, hincludes, hcommon, ?_⟩
    · rw [readAll_append]
      show id < (((new settings).readAll earlier).readInput input).1.document.size
      rw [hdocument]
      exact huntil
    · obtain ⟨x, -, hx, -, horigin, -⟩ := hfiled.file
      rw [hfileOf, References.originOf, hextends.node? hfiled.lt_size, hx]
      exact horigin
    · rw [hmade.script, hmade.code, show file.includes = _ from hincludes, show file.common = _ from hcommon,
        Render.script_append_iff]
      constructor
      · exact fun h => h.1
      · intro h
        rw [h.1, List.append_nil]
        exact ⟨⟨rfl, h.2⟩, rfl⟩

/-- A figure between two blocks of includes has those of the first. -/
theorem script_has_declarations_above_figure :
    let inputs := [Input.code "a.scad" ["// File: a.scad", "// Includes:", "//   include <std.scad>", "// Figure: Ball",
      "//   ball();", "// Includes:", "//   include <a.scad>"]]
    let d := ((new Settings.default).readAll inputs).document
    ∃ n info, d.node? 2 = some n ∧ n.image? = some info ∧ info.script = ["include <std.scad>", "ball();"] ∧
      (d.fileInfoOf 2).includes = ["include <std.scad>", "include <a.scad>"] ∧
      ∃ earlier input later, inputs = earlier ++ input :: later ∧
        ∃ before opening above own below, input.events = before ++ .block opening :: (above ++ .block own :: below) ∧
          n.origin = own.origin ∧
          info.script = Render.script (linesUnder "Includes" above) (linesUnder "CommonCode" above) n.body := by
  intro inputs d
  have hread : ((d.node? 2).bind Node.image?).map (·.script) = some ["include <std.scad>", "ball();"] ∧
      (d.fileInfoOf 2).includes = ["include <std.scad>", "include <a.scad>"] := by
    decide +kernel
  obtain ⟨himage, hincludes⟩ := hread
  obtain ⟨info, himage, hscript⟩ := Option.map_eq_some_iff.1 himage
  obtain ⟨n, hn, himage⟩ := Option.bind_eq_some_iff.1 himage
  obtain ⟨earlier, input, later, hinputs, -, -, before, opening, above, own, below, hevents, -, -, -, horigin, hmade, -⟩ :=
    script_has_declarations_above Settings.default inputs 2 n info hn himage
  exact ⟨n, info, hn, himage, hscript, hincludes, earlier, input, later, hinputs, before, opening, above, own, below,
    hevents, horigin, hmade⟩

/-- What is declared below a figure does not come into its script, nor into its code. -/
theorem figure_lacks_declarations_below :
    let d := ((new Settings.default).readAll [.code "a.scad" ["// File: a.scad", "// Figure: Ball", "//   ball();",
      "// Includes:", "//   include <a.scad>", "// CommonCode:", "//   $fn = 32;"]]).document
    let file := d.fileInfoOf 1
    ∃ n info, d.node? 1 = some n ∧ n.image? = some info ∧
      info.script = ["ball();"] ∧ info.code = ["ball();"] ∧
      Render.script file.includes file.common n.body = ["include <a.scad>", "$fn = 32;", "ball();"] ∧
      Render.shownCode file.includes n.body = ["include <a.scad>", "ball();"] := by
  intro d file
  have hread : (d.node? 1).bind (fun n => n.image?.map fun info => (n.body, info.script, info.code)) =
        some (["ball();"], ["ball();"], ["ball();"]) ∧
      Render.script file.includes file.common ["ball();"] = ["include <a.scad>", "$fn = 32;", "ball();"] ∧
      Render.shownCode file.includes ["ball();"] = ["include <a.scad>", "ball();"] := by
    decide +kernel
  obtain ⟨hnode, hscript, hcode⟩ := hread
  obtain ⟨n, hn, himage⟩ := Option.bind_eq_some_iff.1 hnode
  obtain ⟨info, himage, hmade⟩ := Option.map_eq_some_iff.1 himage
  simp only [Prod.mk.injEq] at hmade
  refine ⟨n, info, hn, himage, hmade.2.1, hmade.2.2, ?_, ?_⟩
  · rw [hmade.1, hscript]
  · rw [hmade.1, hcode]

end Manual

end ScadManual
