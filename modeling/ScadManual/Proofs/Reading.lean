import ScadManual.Manual.Read
import ScadManual.Proofs.Source

/-!
# Reading, turn by turn

Reading a source takes its events one after the other.  Written down as turns, each with the manual before
and after it and with what was found, a run shows what it did about every line: each header line is taken in
one turn and no other line is, whatever was found before it.
-/

namespace ScadManual.Manual

/-- One event of a source being taken. -/
structure Turn where
  before : Manual
  event : Event
  after : Manual
  found : List Finding

/-- The turns of taking events in order. -/
def turns (m : Manual) (role : Role) : List Event → List Turn
  | [] => []
  | event :: events =>
    ⟨m, event, (m.step role event).1, (m.step role event).2⟩ ::
      (m.step role event).1.turns role events

/-- The manual after turns that started with `m`. -/
def afterTurns (m : Manual) : List Turn → Manual
  | [] => m
  | t :: ts => t.after.afterTurns ts

/-- The turns that take a header. -/
def headerTurns (m : Manual) (role : Role) (file : String) (lines : List String) : List Turn :=
  (m.turns role (Source.events file lines)).filter (·.event != .gap)

theorem map_event_turns (m : Manual) (role : Role) (events : List Event) :
    (m.turns role events).map (·.event) = events := by
  induction events generalizing m with
  | nil => rfl
  | cons event events ih => rw [turns, List.map_cons, ih]

/-- Taking events leads to where their turns lead and finds what they find. -/
theorem stepAll_eq_turns (m : Manual) (role : Role) (events : List Event) :
    m.stepAll role events =
      (m.afterTurns (m.turns role events), (m.turns role events).flatMap (·.found)) := by
  induction events generalizing m with
  | nil => rfl
  | cons event events ih =>
    simp only [stepAll, turns, afterTurns, List.flatMap_cons, ih]

theorem eq_step_of_mem_turns {m : Manual} {role : Role} {events : List Event} {t : Turn}
    (h : t ∈ m.turns role events) : (t.after, t.found) = t.before.step role t.event := by
  induction events generalizing m with
  | nil => simp [turns] at h
  | cons event events ih =>
    rcases List.mem_cons.1 h with rfl | h
    · rfl
    · exact ih h

/-- A turn finds at most one thing, at the header it is about. -/
theorem found_step (m : Manual) (role : Role) (event : Event) :
    (m.step role event).2.length ≤ 1 ∧
      ∀ f ∈ (m.step role event).2, event.origin? = some f.origin := by
  cases event with
  | gap => simp [step]
  | shallow title origin => simp [step, Event.origin?]
  | block b =>
    cases he : (m.take role b).error with
    | none => simp [step, he]
    | some e => simp [step, he, Event.origin?]

/-- Nothing is found at a gap. -/
theorem flatMap_found_filter {m : Manual} {role : Role} {events : List Event} :
    ((m.turns role events).filter (·.event != .gap)).flatMap (·.found) =
      (m.turns role events).flatMap (·.found) := by
  induction events generalizing m with
  | nil => rfl
  | cons event events ih =>
    rw [turns, List.flatMap_cons, List.filter_cons]
    by_cases hg : event = .gap
    · subst hg
      rw [if_neg (by simp), ih]
      rfl
    · rw [if_pos (by simpa using hg), List.flatMap_cons, ih]

/-- What a run does about the header lines of a source. -/
structure HandlesHeaders (m : Manual) (role : Role) (file : String) (lines : List String) : Prop where
  /-- The header lines are those on which a header stands, -/
  headers : ∀ i, i ∈ Source.headerLines lines ↔ ∃ line, lines[i]? = some line ∧ isHeader line = true
  /-- in increasing order, -/
  increasing : (Source.headerLines lines).Pairwise (· < ·)
  /-- and the event of such a line has the number of the line. -/
  origin : ∀ i event, Source.eventAt file lines i = some event → event.origin? = some ⟨file, i + 1⟩
  /-- In this order they are taken in one turn each, and nothing else is. -/
  order : (m.headerTurns role file lines).map (fun t => some t.event) =
    (Source.headerLines lines).map (Source.eventAt file lines)
  /-- The run is these turns and the gaps between them. -/
  run : m.stepAll role (Source.events file lines) =
    (m.afterTurns (m.turns role (Source.events file lines)),
      (m.headerTurns role file lines).flatMap (·.found))
  /-- A header whose body can be read is dispatched with it. -/
  dispatched : ∀ t ∈ m.headerTurns role file lines, ∀ b, t.event = .block b →
    t.after = (t.before.take role b).manual ∧
      t.found = ((t.before.take role b).error.map fun e => (⟨b.origin, e⟩ : Finding)).toList
  /-- A header whose body has a shallow line is reported once and changes nothing. -/
  shallow : ∀ t ∈ m.headerTurns role file lines, ∀ title origin, t.event = .shallow title origin →
    t.after = t.before ∧ t.found = [⟨origin, .structural title .shallowBody⟩]
  /-- At most one thing is found about a header, and at its own line. -/
  found : ∀ t ∈ m.headerTurns role file lines, t.found.length ≤ 1 ∧
    ∀ f ∈ t.found, t.event.origin? = some f.origin
  /-- What is passed over on the way to where reading resumes is no header. -/
  passed : ∀ i j, i < j → j < Source.resume lines i → j ∉ Source.headerLines lines
  /-- From a header reading moves on to a later line, and to no other. -/
  forward : ∀ i ∈ Source.headerLines lines, i < Source.resume lines i ∧
    Source.resume lines i ≤ lines.length ∧
    ∃ event, Source.eventAt file lines i = some event ∧
      Source.eventsFrom file (i + 1) (lines.drop i) =
        event :: Source.eventsFrom file (Source.resume lines i + 1) (lines.drop (Source.resume lines i))

theorem map_event_headerTurns (m : Manual) (role : Role) (file : String) (lines : List String) :
    (m.headerTurns role file lines).map (·.event) =
      (List.range lines.length).filterMap (Source.eventAt file lines) := by
  rw [headerTurns, ← Source.events_filter, ← map_event_turns m role (Source.events file lines),
    List.filter_map]
  rw [map_event_turns]
  rfl

theorem eventsFrom_drop_of_mem {file : String} {lines : List String} {i : Nat}
    (h : i ∈ Source.headerLines lines) :
    ∃ event, Source.eventAt file lines i = some event ∧
      Source.eventsFrom file (i + 1) (lines.drop i) =
        event ::
          Source.eventsFrom file (Source.resume lines i + 1) (lines.drop (Source.resume lines i)) := by
  obtain ⟨text, ht, hh⟩ := Source.mem_headerLines.1 h
  obtain ⟨hd, hparse⟩ := Option.isSome_iff_exists.1 hh
  refine ⟨Source.headerEvent file (i + 1) hd (lines.drop (i + 1)), ?_, ?_⟩
  · simp [Source.eventAt, ht, hparse]
  · obtain ⟨hi, hget⟩ := List.getElem?_eq_some_iff.1 ht
    rw [List.drop_eq_getElem_cons hi, hget, Source.eventsFrom_header hparse, Body.drop_next]
    rfl

/-- **Every header line is handled exactly once and in order, whatever goes wrong on the way.**  The lines
taken are exactly the header lines; each is dispatched with its own line number, or reported when its body
has a shallow line; nothing that a body passes over is a header; reading always moves forward; and there is
at most one finding for a header, at its own line. -/
theorem handles_each_header_once (m : Manual) (role : Role) (file : String) (lines : List String) :
    m.HandlesHeaders role file lines where
  headers := fun _ => Source.mem_headerLines
  increasing := Source.headerLines_sorted lines
  origin := fun _ _ h => Source.origin?_eventAt h
  order := by
    have hmap : (m.headerTurns role file lines).map (fun t => some t.event) =
        ((m.headerTurns role file lines).map (·.event)).map some := by
      rw [List.map_map]
      rfl
    rw [hmap, map_event_headerTurns, Source.map_some_filterMap_eventAt]
  run := by
    rw [stepAll_eq_turns, headerTurns, flatMap_found_filter]
  dispatched := by
    intro t ht b hb
    have hstep := eq_step_of_mem_turns (List.mem_filter.1 ht |>.1)
    rw [hb, step] at hstep
    exact Prod.mk.inj hstep
  shallow := by
    intro t ht title origin hs
    have hstep := eq_step_of_mem_turns (List.mem_filter.1 ht |>.1)
    rw [hs, step] at hstep
    exact Prod.mk.inj hstep
  found := by
    intro t ht
    have hstep := eq_step_of_mem_turns (List.mem_filter.1 ht |>.1)
    have hfound : t.found = (t.before.step role t.event).2 := congrArg Prod.snd hstep
    rw [hfound]
    exact found_step t.before role t.event
  passed := fun i j hij hj => Source.not_mem_headerLines_of_lt_resume hij hj
  forward := by
    intro i hi
    obtain ⟨line, hl, _⟩ := Source.mem_headerLines.1 hi
    exact ⟨Source.lt_resume lines i, Source.resume_le (List.getElem?_eq_some_iff.1 hl).1,
      eventsFrom_drop_of_mem hi⟩

end ScadManual.Manual
