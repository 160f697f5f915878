import ScadManual.Proofs.Forest
import ScadManual.Run.Documentation

/-!
# Pages and requests are about their own source

Whatever is found while the page of a file is written, and whatever is asked of the renderer for it, comes
from the source of that file.  So an error that comes up later never marks another source as bad.
-/

namespace ScadManual

/-! ## Findings about one source -/

namespace Noted

variable {α β : Type} {file : String}

/-- Everything that was found is about one source. -/
def About (n : Noted α) (file : String) : Prop := ∀ f ∈ n.findings, f.origin.file = file

theorem about_of (a : α) (file : String) : (of a).About file := by
  intro f hf
  simp [of] at hf

theorem About.map {n : Noted α} (h : n.About file) (g : α → β) : (n.map g).About file := h

theorem About.bind {n : Noted α} {g : α → Noted β} (h : n.About file) (hg : ∀ a, (g a).About file) :
    (n >>= g).About file := by
  intro f hf
  rcases List.mem_append.1 hf with hf | hf
  · exact h f hf
  · exact hg _ f hf

theorem about_all {ns : List (Noted α)} (h : ∀ n ∈ ns, n.About file) : (all ns).About file := by
  intro f hf
  obtain ⟨n, hn, hfn⟩ := List.mem_flatMap.1 hf
  exact h n hn f hfn

theorem about_concat {ns : List (Noted (List α))} (h : ∀ n ∈ ns, n.About file) :
    (concat ns).About file := by
  intro f hf
  obtain ⟨n, hn, hfn⟩ := List.mem_flatMap.1 hf
  exact h n hn f hfn

theorem about_concat_map {γ : Type} {xs : List γ} {g : γ → Noted (List α)} (h : ∀ x ∈ xs, (g x).About file) :
    (concat (xs.map g)).About file := by
  refine about_concat fun n hn => ?_
  obtain ⟨x, hx, rfl⟩ := List.mem_map.1 hn
  exact h x hx

end Noted

theorem Document.Forest.file_of_mem_children {d : Document} (h : d.Forest) {id c : NodeId}
    (hc : c ∈ d.children id) : (References.originOf d c).file = (References.originOf d id).file := by
  obtain ⟨x, hx, hparent⟩ := Document.exists_footing? (Document.mem_children.1 hc).2.2
  obtain ⟨-, y, hy, -, hfile⟩ := h.below hx hparent
  rw [Document.originOf_eq hx, Document.originOf_eq hy, hfile]

/-! ## Pages -/

namespace Page.Setting

open Noted

theorem about_links (s : Setting) (origin : Origin) (text : String) :
    (s.links origin text).About origin.file := by
  intro f hf
  obtain ⟨name, -, rfl⟩ := List.mem_map.1 hf
  rfl

theorem about_escapedLinks (s : Setting) (origin : Origin) (text : String) :
    (s.escapedLinks origin text).About origin.file := by
  intro f hf
  obtain ⟨name, -, rfl⟩ := List.mem_map.1 hf
  rfl

theorem about_seeAlso (r : References) (names : List String) (owner : NodeId) (origin : Origin) :
    (r.seeAlso names owner origin).About origin.file := by
  refine about_concat_map fun name _ => ?_
  split
  · exact about_of _ _
  · intro f hf
    obtain rfl := List.mem_singleton.1 hf
    rfl

theorem about_bodyLines (s : Setting) (origin : Origin) (fenced : Bool) (lines : List String) :
    (s.bodyLines origin fenced lines).About origin.file := by
  induction lines generalizing fenced with
  | nil => exact about_of _ _
  | cons line rest ih =>
    unfold bodyLines
    extract_lets fenced' shown more
    have hshown : shown.About origin.file := by
      unfold shown
      split
      · exact about_of _ _
      · split
        · exact about_of _ _
        · exact s.about_links origin line
    intro f hf
    rcases List.mem_append.1 hf with hf | hf
    · exact hshown f hf
    · exact ih _ f hf

theorem about_tables (s : Setting) (origin : Origin) (info : TableInfo) :
    (s.tables origin info).About origin.file := by
  refine about_concat_map fun table _ => ?_
  obtain ⟨headers, rows⟩ := table
  simp only
  split
  · exact about_of _ _
  · refine (about_all fun row hrow => ?_).map _
    obtain ⟨cells, -, rfl⟩ := List.mem_map.1 hrow
    refine about_all fun cell hcell => ?_
    obtain ⟨text, -, rfl⟩ := List.mem_map.1 hcell
    exact s.about_links origin text

theorem about_leafLines (s : Setting) (id : NodeId) (n : Node) : (s.leafLines id n).About n.origin.file := by
  have hstart : (s.blockStart n).About n.origin.file := (s.about_escapedLinks n.origin n.subtitle).map _
  have hbody : (s.body n).About n.origin.file := s.about_bodyLines n.origin false n.body
  unfold leafLines
  split
  · exact hstart.bind fun _ => hbody.bind fun _ => about_of _ _
  · exact hstart.bind fun _ => hbody.bind fun _ => about_of _ _
  · exact hstart.bind fun _ => hbody.bind fun _ => about_of _ _
  · exact hbody.map _
  · exact hstart.map _
  · exact hstart.map _
  · exact hstart.bind fun _ => (s.about_tables n.origin _).bind fun _ => about_of _ _
  · exact about_of _ _
  · exact (s.about_escapedLinks n.origin n.subtitle).map _
  · exact about_of _ _
  · exact (about_seeAlso _ _ _ n.origin).map _
  · unfold imageLines
    split
    · exact about_of _ _
    · exact (s.about_escapedLinks n.origin n.subtitle).map _
  · exact about_of _ _
  · exact about_of _ _
  · exact about_of _ _
  · exact about_of _ _
  · exact about_of _ _

/-- The page of a node is about the source of the node. -/
theorem about_nodeLines {s : Setting} (hd : s.doc.Forest) (id : NodeId) :
    (s.nodeLines id).About (References.originOf s.doc id).file := by
  -- children come later, so the measure is what is left of the document
  induction hk : s.doc.size - id using Nat.strongRecOn generalizing id with
  | ind k ih =>
    have hchild : ∀ c ∈ s.doc.children id, (s.nodeLines c).About (References.originOf s.doc id).file := by
      intro c hc
      rw [← hd.file_of_mem_children hc]
      exact ih _ (hk ▸ Document.sub_lt_of_mem_children hc) c rfl
    rw [nodeLines]
    cases hn : s.doc.node? id with
    | none => exact about_of _ _
    | some n =>
      have hfile : (References.originOf s.doc id).file = n.origin.file := by
        rw [References.originOf, hn]
        rfl
      rw [hfile] at hchild ⊢
      have hbody : (s.body n).About n.origin.file := s.about_bodyLines n.origin false n.body
      have hheader (header : List String → List String) :
          (if n.subtitle.isEmpty then Noted.of [] else (s.body n).map header).About n.origin.file := by
        split
        · exact about_of _ _
        · exact hbody.map _
      simp only
      split
      · refine about_concat (List.forall_mem_cons.2 ⟨about_of _ _, List.forall_mem_cons.2 ⟨hbody.map _, ?_⟩⟩)
        refine List.forall_mem_cons.2 ⟨about_concat_map fun c _ => hchild c.1 c.2, ?_⟩
        refine List.forall_mem_cons.2 ⟨about_of _ _, List.forall_mem_singleton.2 ?_⟩
        exact about_concat_map fun c _ => hchild c.1 c.2
      · refine about_concat (List.forall_mem_cons.2 ⟨hheader _, List.forall_mem_singleton.2 ?_⟩)
        exact about_concat_map fun c _ => hchild c.1 c.2
      · refine about_concat (List.forall_mem_cons.2 ⟨hheader _, List.forall_mem_singleton.2 ?_⟩)
        exact about_concat_map fun c _ => hchild c.1 c.2
      · refine about_concat (List.forall_mem_cons.2 ⟨about_of _ _, List.forall_mem_cons.2 ⟨?_, ?_⟩⟩)
        · exact about_concat_map fun c _ => hchild c.1 (mem_children_of_sorted c.2)
        · exact List.forall_mem_singleton.2 (about_of _ _)
      · exact s.about_leafLines id n

end Page.Setting

/-! ## Requests -/

/-- The request of an image. -/
def Node.request? (n : Node) : Option Render.Request := n.image?.bind (·.request)

theorem Node.kind_of_image? {n : Node} {info : ImageInfo} (h : n.image? = some info) : n.kind = .image info := by
  unfold image? at h
  split at h
  · next hk => rw [hk, Option.some.inj h]
  · exact nomatch h

theorem Render.Request.make_eq_ok {origin : Origin} {imageFile metadata : String} {script : List String}
    {r : Request} (h : make origin imageFile script metadata = .ok r) :
    r.origin = origin ∧ r.imageFile = imageFile := by
  unfold make at h
  split at h
  · simp at h
  · obtain rfl := Except.ok.inj h
    exact ⟨rfl, rfl⟩

/-- Something holds of every request and the place where its node stands. -/
def Document.Requests (d : Document) (Q : Origin → Render.Request → Prop) : Prop :=
  ∀ id n request, d.node? id = some n → n.request? = some request → Q n.origin request

/-- Requests come from where their nodes stand. -/
def Document.RequestsInPlace (d : Document) : Prop :=
  ∀ id n request, d.node? id = some n → n.request? = some request → request.origin = n.origin

namespace Manual

theorem origin_of_imageInfo {m : Manual} {parent : NodeId} {kind : ImageKind} {number : Nat}
    {metadata : String} {body : List String} {origin : Origin} {info : ImageInfo} {request : Render.Request}
    (h : m.imageInfo parent kind number metadata body origin = .ok info) (hr : info.request = some request) :
    request.origin = origin :=
  (Render.Request.make_eq_ok ((imageInfo_eq_ok h).request request hr)).1

/-- What holds of every request when it is made holds of all requests from then on. -/
theorem requests_readAll {Q : Origin → Render.Request → Prop}
    (hQ : ∀ {m : Manual} {parent kind number metadata body origin info request},
      m.imageInfo parent kind number metadata body origin = .ok info → info.request = some request →
        Q origin request)
    (settings : Settings) (inputs : List Input) : ((new settings).readAll inputs).document.Requests Q := by
  have hnodes := nodes_readAll (Q := fun n => ∀ request, n.request? = some request → Q n.origin request)
    (by
      intro n hholder request hr
      obtain ⟨info, hinfo, -⟩ := Option.bind_eq_some_iff.1 hr
      rw [Node.kind_of_image? hinfo] at hholder
      exact nomatch hholder)
    (fun _ h => h)
    (by
      intro m parent n himage _ request hr
      obtain ⟨info, hinfo, hrequest⟩ := Option.bind_eq_some_iff.1 hr
      exact hQ (himage info (Node.kind_of_image? hinfo)) hrequest)
    settings inputs
  intro id n request hn hr
  exact hnodes id n hn request hr

theorem requestsInPlace_readAll (settings : Settings) (inputs : List Input) :
    ((new settings).readAll inputs).document.RequestsInPlace :=
  requests_readAll (Q := fun origin request => request.origin = origin) origin_of_imageInfo settings inputs

end Manual

namespace Documentation

/-- What is asked of the renderer below a node is the request of a node there. -/
theorem exists_of_mem_requestsBelow {d : Document} {id : NodeId} {request : Render.Request}
    (h : request ∈ requestsBelow d id) :
    ∃ c n, Relation.ReflTransGen (fun a b => b ∈ d.children a) id c ∧ d.node? c = some n ∧
      n.request? = some request := by
  -- children come later, so the measure is what is left of the document
  induction hk : d.size - id using Nat.strongRecOn generalizing id with
  | ind k ih =>
    rw [requestsBelow] at h
    rcases List.mem_append.1 h with hown | hbelow
    · obtain ⟨info, hinfo, hrequest⟩ := Option.bind_eq_some_iff.1 (Option.mem_toList.1 hown)
      obtain ⟨n, hn, himage⟩ := Option.bind_eq_some_iff.1 hinfo
      exact ⟨id, n, .refl, hn, Option.bind_eq_some_iff.2 ⟨info, himage, hrequest⟩⟩
    · obtain ⟨child, -, hc⟩ := List.mem_flatMap.1 hbelow
      obtain ⟨c, n, hpath, hn, hrequest⟩ := ih _ (hk ▸ Document.sub_lt_of_mem_children child.2) hc rfl
      exact ⟨c, n, .head child.2 hpath, hn, hrequest⟩

/-- What is asked of the renderer for a file comes from the source of that file. -/
theorem file_of_mem_requestsBelow {d : Document} (hd : d.Forest) (hr : d.RequestsInPlace) (id : NodeId) :
    ∀ request ∈ requestsBelow d id, request.origin.file = (References.originOf d id).file := by
  intro request hmem
  obtain ⟨c, n, hpath, hn, hrequest⟩ := exists_of_mem_requestsBelow hmem
  have hfile : (References.originOf d c).file = (References.originOf d id).file := by
    clear hn
    induction hpath with
    | refl => rfl
    | tail _ hstep ih => rw [hd.file_of_mem_children hstep, ih]
  rw [← hfile, hr c n request hn hrequest, References.originOf, hn]
  rfl

end Documentation

end ScadManual
