import ScadManual.Proofs.Path
import ScadManual.Proofs.Visits

/-!
# What runs leave alone

Files of a kind stay what they are as long as nothing of the kind is written.  A run writes pages, images and its
hash store, and whatever else comes about while an image is built is gone when it is done; so of the files that
were there, a step changes only those that it has a path for.  Two paths may lead to one place: what a path
leads to depends on the current directory and on nothing else of the disk.
-/

namespace ScadManual

/-! ## Files that stay -/

namespace Disk

/-- Directories stay, and files of a kind stay what they are; no further ones of the kind come about. -/
structure Spares (P : Spot → Prop) (d d' : Disk) : Prop where
  directories : d.KeepsDirectories d'
  files : ∀ x content, P x → (d'.get? x = some (.file content) ↔ d.get? x = some (.file content))

section Spares

variable {P : Spot → Prop} {d d' d'' : Disk}

theorem Spares.trans (h : Spares P d d') (h' : Spares P d' d'') : Spares P d d'' where
  directories := ⟨h'.directories.current.trans h.directories.current,
    fun hx => h'.directories.directory (h.directories.directory hx)⟩
  files x content hx := (h'.files x content hx).trans (h.files x content hx)

theorem Grown.spares (h : d.Grown d') (P : Spot → Prop) : Spares P d d' :=
  ⟨h.keepsDirectories, fun _ _ _ => h.get?_file_iff⟩

theorem SameBut.spares {spot : Spot} (h : SameBut spot d d') (htarget : d.get? spot ≠ some .directory)
    (hspot : ¬ P spot) : Spares P d d' := by
  refine ⟨h.keepsDirectories htarget, fun x content hx => ?_⟩
  have hne : x ≠ spot := by
    rintro rfl
    exact hspot hx
  rw [h.get? hne]

theorem Spares.read {path : String} {content : Content} (h : Spares P d d')
    (hpath : ∀ spot, d.locate path = .ok spot → P spot) (hread : d.read path = .ok content) :
    d'.read path = .ok content := by
  obtain ⟨spot, hspot, hget, hdir⟩ := read_eq_ok.1 hread
  refine read_eq_ok.2 ⟨spot, h.directories.locate hspot, ?_, hdir⟩
  exact (h.files spot content (hpath spot hspot)).2 hget

theorem Grown.readText {path text : String} (h : d.Grown d') (ht : d.readText path = .ok text) :
    d'.readText path = .ok text := by
  unfold Disk.readText at ht ⊢
  cases hread : d.read path with
  | error e => simp [hread] at ht
  | ok content =>
    rw [(h.spares fun _ => True).read (fun _ _ => trivial) hread]
    rw [hread] at ht
    exact ht

theorem write_target {path : String} {content : Content} {spot : Spot}
    (h : d.write path content = .ok d') (hspot : d.locate path = .ok spot) :
    d.get? spot ≠ some .directory := by
  intro hget
  unfold write at h
  simp only [hspot, hget] at h
  split at h <;> simp at h

/-- Lines are written once the directories above are there. -/
theorem writeLines_eq_ok {path : String} {lines : List String} (h : d.writeLines path lines = .ok d') :
    ∃ made, d.Grown made ∧ made.write path (.text (String.join (lines.map (· ++ "\n")))) = .ok d' := by
  unfold writeLines at h
  cases hparent : Path.parent? path with
  | none =>
    simp only [hparent] at h
    exact ⟨d, .refl d, h⟩
  | some parent =>
    simp only [hparent] at h
    obtain ⟨made, hmake, hwrite⟩ := bind_eq_ok h
    exact ⟨made, makeDirectories_grown hmake, hwrite⟩

/-- Writing lines changes no file but the one that they are written to. -/
theorem spares_writeLines {path : String} {lines : List String} (h : d.writeLines path lines = .ok d')
    (hpath : ∀ made spot, locate made path = .ok spot → ¬ P spot) : Spares P d d' := by
  obtain ⟨made, hgrown, hwrite⟩ := writeLines_eq_ok h
  obtain ⟨spot, hspot, -, rfl⟩ := write_eq_ok hwrite
  exact (hgrown.spares P).trans
    ((sameBut_set made spot _).spares (write_target hwrite hspot) (hpath made spot hspot))

end Spares

/-! ## Where a path leads -/

section Aim

variable {d d' : Disk} {path : String} {spot : Spot}

/-- Where a path leads, if the directories on the way are there. -/
def aim? (d : Disk) (path : String) : Option Spot :=
  (names path).foldlM enter? (if Path.isAbsolute path then [] else d.current)

/-- A walk that comes to its end ends there. -/
theorem foldlM_enter?_of_walk {start target : Spot} {names : List String} (h : d.walk start names = .ok target) :
    names.foldlM enter? start = some target := by
  induction names generalizing start with
  | nil => exact congrArg some (Except.ok.inj h)
  | cons name names ih =>
    obtain ⟨-, next, hnext, hrest⟩ := walk_cons_eq_ok.1 h
    rw [List.foldlM_cons, hnext]
    exact ih hrest

theorem aim?_of_locate (h : d.locate path = .ok spot) : d.aim? path = some spot :=
  foldlM_enter?_of_walk (locate_eq_ok.1 h).2.2

theorem aim?_congr (h : d'.current = d.current) (path : String) : d'.aim? path = d.aim? path := by
  rw [aim?, h, aim?]

/-- The file that the path leads to is the same on both disks, or there is none on either. -/
structure SameFile (path : String) (d d' : Disk) : Prop where
  kept : ∀ content, d.read path = .ok content → d'.read path = .ok content
  old : ∀ spot content, d'.locate path = .ok spot → d'.get? spot = some (.file content) →
    d.get? spot = some (.file content)

theorem Spares.sameFile {P : Spot → Prop} (h : d.Spares P d')
    (hpath : ∀ disk spot, disk.current = d.current → locate disk path = .ok spot → P spot) : SameFile path d d' where
  kept _ hread := h.read (hpath d · rfl) hread
  old spot content hspot hget :=
    (h.files spot content (hpath d' spot h.directories.current hspot)).1 hget

end Aim

end Disk

/-! ## Image files -/

/-- The place has a name that ends as the names of image files do. -/
def IsImageSpot (spot : Spot) : Prop :=
  ∃ dir name, spot = dir ++ [name] ∧ (name.toList.getLast? = some 'g' ∨ name.toList.getLast? = some 'f')

theorem not_isImageSpot_of_locate {d : Disk} {path : String} {spot : Spot} {c : Char}
    (hlast : path.toList.getLast? = some c) (hc : c ≠ '/' ∧ c ≠ '.' ∧ c ≠ 'g' ∧ c ≠ 'f')
    (h : d.locate path = .ok spot) : ¬ IsImageSpot spot := by
  obtain ⟨dir, name, rfl, hname⟩ := Disk.exists_concat_of_locate h hlast hc.1 hc.2.1
  rintro ⟨dir', name', hspot, hending⟩
  obtain ⟨-, rfl⟩ := List.append_singleton_inj.1 hspot
  rw [hname] at hending
  simp [hc.2.2.1, hc.2.2.2] at hending

/-- A request for an image file with one of the two extensions. -/
def Render.Request.NamesImage (r : Request) : Prop :=
  r.imageFile.toList.getLast? = some 'g' ∨ r.imageFile.toList.getLast? = some 'f'

theorem Render.Request.NamesImage.isImageSpot {r : Request} (h : r.NamesImage) {d : Disk} {spot : Spot}
    (hspot : d.locate r.imageFile = .ok spot) : IsImageSpot spot := by
  rcases h with hlast | hlast
  · obtain ⟨dir, name, hconcat, hname⟩ :=
      Disk.exists_concat_of_locate hspot hlast (by decide) (by decide)
    exact ⟨dir, name, hconcat, .inl hname⟩
  · obtain ⟨dir, name, hconcat, hname⟩ :=
      Disk.exists_concat_of_locate hspot hlast (by decide) (by decide)
    exact ⟨dir, name, hconcat, .inr hname⟩

/-! ## Builds -/

namespace Render.Pipeline

variable {σ : Type} {P : Spot → Prop}

/-- A build changes no file but its image. -/
theorem spares_build {p : Pipeline σ} {r : Request} {d : Disk} (hr : p.renderer.WritesOnlyOutput)
    (hd : d.Grounded d.current)
    (himage : ∀ disk spot, disk.current = d.current → Disk.locate disk r.imageFile = .ok spot → ¬ P spot)
    (log : Log) : d.Spares P (p.build r log d).2.2.2 := by
  rw [build_disk]
  cases p.course r d with
  | stopped e d' current same ended ended' =>
    rw [ended]
    exact ((Disk.Grown.refl d).congr current same).spares P
  | called script candidate d₂ ready ended ended' =>
    have h₃ := sameBut_call hr r script ready.located
    have hgrown := ready.grown_cleared h₃
    rw [ended]
    rcases p.settle_cases r candidate (p.call r script candidate d₂).reply.result
      (p.call r script candidate d₂).reply.disk with
      ⟨hdisk, -⟩ | ⟨-, output, status, content, spot, -, -, -, -, hm⟩
    · simp only [hdisk]
      exact hgrown.spares P
    · -- besides the image, all is as it is when the temporary files are gone
      obtain ⟨-, helsewhere⟩ := ready.get?_moved h₃ hd hm
      have hspot := himage (p.call r script candidate d₂).reply.disk spot hgrown.current hm.located
      refine ⟨⟨?_, fun {x} hx => ?_⟩, fun x content hx => ?_⟩
      · simp only [hm.disk]
        exact hgrown.current
      · have hne : x ≠ spot := by
          rintro rfl
          rw [← ready.get?_spot h₃ hd hm] at hx
          exact hm.ne_directory hx
        rw [helsewhere x hne]
        exact hgrown.keepsDirectories.directory hx
      · have hne : x ≠ spot := by
          rintro rfl
          exact hspot hx
        rw [helsewhere x hne]
        exact hgrown.get?_file_iff

/-- Builds change no file but their images. -/
theorem spares_buildAll {requests : List Request} : ∀ {p : Pipeline σ} {log : Log} {d : Disk},
    p.renderer.WritesOnlyOutput → d.Grounded d.current →
    (∀ r ∈ requests, ∀ disk spot, disk.current = d.current → Disk.locate disk r.imageFile = .ok spot → ¬ P spot) →
    d.Spares P (p.buildAll log d requests).2.2.2 := by
  induction requests with
  | nil =>
    intro p log d _ _ _
    exact (Disk.Grown.refl d).spares P
  | cons r rs ih =>
    intro p log d hr hd himages
    obtain ⟨hfirst, hrest⟩ := List.forall_mem_cons.1 himages
    have hbuild := spares_build hr hd hfirst log
    rw [buildAll_cons]
    refine hbuild.trans (ih ?_ ?_ ?_)
    · rw [(p.build_eq r log d).2]
      exact hr
    · rw [hbuild.directories.current]
      exact hbuild.directories.grounded hd
    · rw [hbuild.directories.current]
      exact hrest

end Render.Pipeline

/-! ## Runs that are ready -/

namespace Run

variable {σ : Type} {r : Run σ}

/-- Nothing waits to be built, the renderer writes only what it is told to, and the current directory is there. -/
structure Ready (r : Run σ) : Prop where
  grounded : r.disk.Grounded r.disk.current
  pipeline : ∀ p, r.pipeline = some p → p.renderer.WritesOnlyOutput ∧ p.queue = []

/-- A run on a disk that has kept its directories, with the same pipeline but for what it is to do. -/
theorem Ready.congr {r' : Run σ} (h : r.Ready) (hdisk : r.disk.KeepsDirectories r'.disk)
    (hpipeline : ∀ p', r'.pipeline = some p' →
      ∃ p, r.pipeline = some p ∧ p'.renderer = p.renderer ∧ p'.queue = p.queue) : r'.Ready := by
  constructor
  · rw [hdisk.current]
    exact hdisk.grounded h.grounded
  · intro p' hp'
    obtain ⟨p, hp, hrenderer, hqueue⟩ := hpipeline p' hp'
    rw [hrenderer, hqueue]
    exact h.pipeline p hp

theorem renderer_buildAll (requests : List Render.Request) : ∀ (p : Render.Pipeline σ) (log : Log) (d : Disk),
    (p.buildAll log d requests).2.1.renderer = p.renderer := by
  induction requests with
  | nil => exact fun p log d => rfl
  | cons q qs ih =>
    intro p log d
    rw [Render.Pipeline.buildAll_cons]
    exact (ih _ _ _).trans (by rw [(p.build_eq q log d).2])

/-- Making images changes no files but these, skipping them changes none, and the run stays ready. -/
theorem Ready.settle {P : Spot → Prop} (h : r.Ready) {requests : List Render.Request} {build : Bool}
    (himages : build = true → ∀ q ∈ requests, ∀ disk spot, disk.current = r.disk.current →
      Disk.locate disk q.imageFile = .ok spot → ¬ P spot) :
    r.disk.Spares P (r.exec (settle requests build)).2.disk ∧ (r.exec (settle requests build)).2.Ready := by
  cases hp : r.pipeline with
  | none =>
    have hsame : (r.exec (Run.settle requests build)).2 = r := by
      rw [Run.settle, exec_get_bind]
      simp only [hp]
      rfl
    rw [hsame]
    exact ⟨(Disk.Grown.refl _).spares _, h⟩
  | some p =>
    obtain ⟨hrenderer, hqueue⟩ := h.pipeline p hp
    rw [exec_settle hp]
    cases build with
    | false =>
      simp only [Bool.false_eq_true, if_false]
      refine ⟨(Disk.Grown.refl _).spares _, h.congr (Disk.Grown.refl _).keepsDirectories fun p' hp' => ?_⟩
      obtain rfl := Option.some.inj hp'
      exact ⟨p, hp, rfl, hqueue.symm⟩
    | true =>
      simp only [if_true]
      have hspares : r.disk.Spares P ((p.enqueue requests).flush r.log r.disk).2.2.2 := by
        refine Render.Pipeline.spares_buildAll hrenderer h.grounded fun q hq => ?_
        rw [Render.Pipeline.enqueue, hqueue] at hq
        exact himages rfl q hq
      refine ⟨hspares, h.congr hspares.directories fun p' hp' => ?_⟩
      obtain rfl := Option.some.inj hp'
      refine ⟨p, hp, renderer_buildAll _ _ _ _, ?_⟩
      rw [((p.enqueue requests).dealt_flush r.log r.disk).2, hqueue]

end Run

end ScadManual
