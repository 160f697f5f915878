import ScadManual.Proofs.Body
import ScadManual.Source

/-!
# The header lines of a source

A source is read by jumping: a header is followed by its body, and reading resumes behind it or at the
shallow line that broke it off.  Said line by line and without jumps, a source has one event for each header
line, in the order of the lines, and gaps between them.  The two agree because nothing that is jumped over
is a header.
-/

namespace ScadManual

/-- Where the header of an event stands; a gap has none. -/
def Event.origin? : Event → Option Origin
  | .block b => some b.origin
  | .shallow _ origin => some origin
  | .gap => none

namespace Source

/-- The indices of the header lines, in order. -/
def headerLines (lines : List String) : List Nat :=
  (List.range lines.length).filter fun i => lines[i]?.any isHeader

/-- The event of a header on line `line` with the lines below it. -/
def headerEvent (file : String) (line : Nat) (h : Header) (below : List String) : Event :=
  match Body.read line below with
  | .ok body => .block ⟨h.title, h.metadata, h.subtitle, body.lines, ⟨file, line⟩⟩
  | .error _ => .shallow h.title ⟨file, line⟩

/-- The event of the line with an index, when it is a header.  Its line number is one more. -/
def eventAt (file : String) (lines : List String) (i : Nat) : Option Event :=
  (lines[i]?.bind Header.parse?).map fun h => headerEvent file (i + 1) h (lines.drop (i + 1))

/-- The index at which reading resumes after the header at index `i`. -/
def resume (lines : List String) (i : Nat) : Nat :=
  Body.next (i + 1) (lines.drop (i + 1))

theorem headerEvent_ne_gap (file : String) (line : Nat) (h : Header) (below : List String) :
    headerEvent file line h below ≠ .gap := by
  unfold headerEvent
  split <;> simp

theorem mem_headerLines {lines : List String} {i : Nat} :
    i ∈ headerLines lines ↔ ∃ line, lines[i]? = some line ∧ isHeader line = true := by
  simp only [headerLines, List.mem_filter, List.mem_range, Option.any_eq_true]
  constructor
  · exact fun h => h.2
  · rintro ⟨line, hl, hh⟩
    exact ⟨(List.getElem?_eq_some_iff.1 hl).1, line, hl, hh⟩

theorem headerLines_sorted (lines : List String) : (headerLines lines).Pairwise (· < ·) :=
  List.pairwise_lt_range.filter _

/-- The event of a line stands at the number of that line, one more than its index. -/
theorem origin?_eventAt {file : String} {lines : List String} {i : Nat} {event : Event}
    (h : eventAt file lines i = some event) : event.origin? = some ⟨file, i + 1⟩ := by
  obtain ⟨hd, -, rfl⟩ := Option.map_eq_some_iff.1 h
  unfold headerEvent
  split <;> rfl

theorem eventAt_eq_none {file : String} {lines : List String} {i : Nat} :
    eventAt file lines i = none ↔ i ∉ headerLines lines := by
  rw [mem_headerLines]
  cases hl : lines[i]? with
  | none => simp [eventAt, hl]
  | some line => simp [eventAt, hl, isHeader]

/-- The lines that have an event are the header lines. -/
theorem map_some_filterMap_eventAt (file : String) (lines : List String) :
    ((List.range lines.length).filterMap (eventAt file lines)).map some =
      (headerLines lines).map (eventAt file lines) := by
  have hfilter : headerLines lines =
      (List.range lines.length).filter fun i => (eventAt file lines i).isSome := by
    refine List.filter_congr fun i _ => ?_
    rw [eventAt, Option.isSome_map]
    cases lines[i]? <;> rfl
  rw [hfilter]
  generalize List.range lines.length = is
  induction is with
  | nil => rfl
  | cons i is ih =>
    cases hi : eventAt file lines i with
    | none => simp [hi, ih]
    | some event => simp [hi, ih]

/-! ## Jumping and not jumping -/

theorem eventsFrom_header {file : String} {line : Nat} {text : String} {rest : List String} {h : Header}
    (hh : Header.parse? text = some h) :
    eventsFrom file line (text :: rest) =
      headerEvent file line h rest ::
        eventsFrom file (Body.next line rest + 1) (rest.drop (Body.next line rest - line)) := by
  rw [eventsFrom, hh, headerEvent, Body.next]
  cases Body.read line rest <;> rfl

theorem eventsFrom_other {file : String} {line : Nat} {text : String} {rest : List String}
    (hh : Header.parse? text = none) :
    eventsFrom file line (text :: rest) =
      if isComment text then eventsFrom file (line + 1) rest
      else .gap :: eventsFrom file (line + 1) rest := by
  rw [eventsFrom, hh]

theorem filter_eventsFrom_other {file : String} {line : Nat} {text : String} {rest : List String}
    (hh : Header.parse? text = none) :
    (eventsFrom file line (text :: rest)).filter (· != .gap) =
      (eventsFrom file (line + 1) rest).filter (· != .gap) := by
  rw [eventsFrom_other hh]
  by_cases hc : isComment text <;> simp [hc]

/-- The induction along the events of a source: a header jumps over its body, any other line is passed
alone. -/
theorem lines_induction {motive : Nat → List String → Prop}
    (nil : ∀ line, motive line [])
    (header : ∀ line text rest h, Header.parse? text = some h →
      motive (Body.next line rest + 1) (rest.drop (Body.next line rest - line)) → motive line (text :: rest))
    (other : ∀ line text rest, Header.parse? text = none → motive (line + 1) rest →
      motive line (text :: rest))
    (line : Nat) (lines : List String) : motive line lines := by
  induction hn : lines.length using Nat.strongRecOn generalizing line lines with
  | ind n ih =>
    cases lines with
    | nil => exact nil line
    | cons text rest =>
      have hlt : rest.length < n := by simp_all; omega
      cases hh : Header.parse? text with
      | none => exact other line text rest hh (ih _ hlt _ _ rfl)
      | some h =>
        refine header line text rest h hh (ih _ ?_ _ _ rfl)
        rw [List.length_drop]
        omega

/-- Lines without a header have no event. -/
theorem filterMap_eventAt_eq_nil {file : String} {lines : List String} {start count : Nat}
    (h : ∀ i, start ≤ i → i < start + count → i ∉ headerLines lines) :
    (List.range' start count).filterMap (eventAt file lines) = [] := by
  rw [List.filterMap_eq_nil_iff]
  intro i hi
  obtain ⟨hlo, hhi⟩ := List.mem_range'_1.1 hi
  exact eventAt_eq_none.2 (h i hlo hhi)

/-- What a header's body passes over is no header. -/
theorem not_mem_headerLines_of_lt_resume {lines : List String} {i j : Nat} (hij : i < j)
    (hj : j < resume lines i) : j ∉ headerLines lines := by
  rw [mem_headerLines]
  rintro ⟨line, hl, hh⟩
  obtain ⟨k, rfl⟩ := Nat.exists_eq_add_of_le (Nat.succ_le_of_lt hij)
  obtain ⟨passed, hpassed, hbody⟩ := Body.isBodyLine_of_lt_next hj
  rw [List.getElem?_drop, hl] at hpassed
  obtain rfl := Option.some.inj hpassed
  simp [Body.isHeader_eq_false_of_isBodyLine hbody] at hh

theorem lt_resume (lines : List String) (i : Nat) : i < resume lines i :=
  Nat.lt_of_succ_le (Body.le_next (i + 1) _)

theorem resume_le {lines : List String} {i : Nat} (h : i < lines.length) :
    resume lines i ≤ lines.length := by
  have hle := Body.next_le (i + 1) (lines.drop (i + 1))
  rw [List.length_drop] at hle
  unfold resume
  omega

/-- The events of the lines from an index on, but for the gaps, are those of the header lines among them. -/
theorem eventsFrom_drop (file : String) (all : List String) (line : Nat) (lines : List String) :
    ∀ k, line = k + 1 → lines = all.drop k →
      (eventsFrom file line lines).filter (· != .gap) =
        (List.range' k lines.length).filterMap (eventAt file all) := by
  induction line, lines using lines_induction with
  | nil line =>
    intro k _ _
    rw [eventsFrom]
    rfl
  | header line text rest h hh ih =>
    rintro k rfl hk
    have hget : all[k]? = some text := by
      rw [← List.head?_drop, ← hk]; rfl
    have hrest : all.drop (k + 1) = rest := by
      rw [← List.tail_drop, ← hk]; rfl
    have hevent : eventAt file all k = some (headerEvent file (k + 1) h rest) := by
      rw [eventAt, hget, hrest]
      simp [hh]
    have hle := Body.next_le (k + 1) rest
    have hresume : resume all k = Body.next (k + 1) rest := by rw [resume, hrest]
    obtain ⟨n, hn⟩ := Nat.exists_eq_add_of_le (Body.le_next (k + 1) rest)
    have hskip : (List.range' (k + 1) n).filterMap (eventAt file all) = [] := by
      refine filterMap_eventAt_eq_nil fun i hlo hhi => ?_
      exact not_mem_headerLines_of_lt_resume (i := k) (by omega) (by omega)
    rw [hn, Nat.add_sub_cancel_left] at ih
    rw [eventsFrom_header hh, List.filter_cons_of_pos (by simpa using headerEvent_ne_gap _ _ _ _), hn,
      Nat.add_sub_cancel_left, ih (k + 1 + n) rfl (by rw [← hrest, List.drop_drop]),
      List.length_cons, List.range'_succ, List.filterMap_cons, hevent]
    -- the lines of the body are split off the range
    have hsplit : List.range' (k + 1) rest.length =
        List.range' (k + 1) n ++ List.range' (k + 1 + n) (rest.length - n) := by
      rw [List.range'_append_1]
      congr 1
      omega
    rw [hsplit, List.filterMap_append, hskip, List.length_drop]
    rfl
  | other line text rest hh ih =>
    rintro k rfl hk
    have hget : all[k]? = some text := by
      rw [← List.head?_drop, ← hk]; rfl
    have hrest : rest = all.drop (k + 1) := by
      rw [← List.tail_drop, ← hk]; rfl
    have hevent : eventAt file all k = none := by
      rw [eventAt, hget]
      simp [hh]
    rw [filter_eventsFrom_other hh, ih (k + 1) rfl hrest, List.length_cons, List.range'_succ,
      List.filterMap_cons, hevent]

/-- **The events of a source, but for its gaps, are those of its header lines, in order.** -/
theorem events_filter (file : String) (lines : List String) :
    (events file lines).filter (· != .gap) =
      (List.range lines.length).filterMap (eventAt file lines) := by
  rw [events, eventsFrom_drop file lines 1 lines 0 rfl rfl, List.range_eq_range']

end Source

end ScadManual
