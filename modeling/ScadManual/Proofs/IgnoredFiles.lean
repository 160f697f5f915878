import ScadManual.Proofs.Additions
import ScadManual.Proofs.Globs
import ScadManual.Proofs.Text

/-!
# Files that are left out

Every directive that leaves files out adds its patterns to those of the directives before it, and looks up all of them
anew.  The patterns are kept also when one of them is malformed.  So a directive succeeds exactly when its own patterns
and all that were kept before are well-formed, and once one is not, every later directive fails with the error of that
pattern, whatever patterns it has itself, and the files that are left out stay what they were.
-/

namespace ScadManual

namespace Glob

/-! ## Faults of patterns -/

/-- The text can be read as a pattern. -/
def IsPattern (p : String) : Prop := ∃ q, Query.parse p = .ok q

/-- The patterns that count: without the blanks around them, and those that are then empty left out. -/
def cleaned (patterns : List String) : List String := (patterns.map Text.trim).filter (!·.isEmpty)

/-- The error of a malformed pattern. -/
def fault? (p : String) : Option Error :=
  match Query.parse p with
  | .ok _ => none
  | .error fault => some (.badPattern p fault)

/-- The error of the first malformed pattern. -/
def faultOf (patterns : List String) : Option Error := (cleaned patterns).findSome? fault?

section Faults

variable {d : Disk} {patterns : List String} {e : Error}

theorem fault?_eq_none_iff {p : String} : fault? p = none ↔ IsPattern p := by
  unfold fault? IsPattern
  cases Query.parse p <;> simp

theorem fault?_eq_some_iff {p : String} :
    fault? p = some e ↔ ∃ fault, Query.parse p = .error fault ∧ e = .badPattern p fault := by
  unfold fault?
  cases Query.parse p <;> simp [eq_comm]

theorem cleaned_append (patterns more : List String) :
    cleaned (patterns ++ more) = cleaned patterns ++ cleaned more := by
  rw [cleaned, List.map_append, List.filter_append]
  rfl

/-- Patterns are cleaned once and for all. -/
theorem cleaned_cleaned (patterns : List String) : cleaned (cleaned patterns) = cleaned patterns := by
  have htrim : ∀ p ∈ cleaned patterns, Text.trim p = p := by
    intro p hp
    obtain ⟨original, -, rfl⟩ := List.mem_map.1 (List.mem_filter.1 hp).1
    apply Text.trim_of_bare
    rw [Text.trim, String.toList_ofList]
    exact (Text.trimmed_trimChars original.toList).1
  rw [cleaned, List.map_congr_left htrim, List.map_id']
  exact List.filter_eq_self.2 fun p hp => (List.mem_filter.1 hp).2

theorem faultOf_append (patterns more : List String) :
    faultOf (patterns ++ more) = (faultOf patterns).or (faultOf more) := by
  rw [faultOf, cleaned_append, List.findSome?_append]
  rfl

theorem faultOf_cleaned (patterns : List String) : faultOf (cleaned patterns) = faultOf patterns := by
  rw [faultOf, cleaned_cleaned]
  rfl

theorem faultOf_eq_none_iff : faultOf patterns = none ↔ ∀ p ∈ cleaned patterns, IsPattern p := by
  rw [faultOf, List.findSome?_eq_none_iff]
  simp only [fault?_eq_none_iff]

theorem exists_of_faultOf (h : faultOf patterns = some e) :
    ∃ p ∈ cleaned patterns, ∃ fault, Query.parse p = .error fault ∧ e = .badPattern p fault := by
  obtain ⟨p, hp, hfault⟩ := List.exists_of_findSome?_eq_some h
  exact ⟨p, hp, fault?_eq_some_iff.1 hfault⟩

/-- Looking up patterns fails with the error of the first that is malformed, on every disk. -/
theorem mapM_pathsOf_eq_error_iff : patterns.mapM (pathsOf d) = .error e ↔ patterns.findSome? fault? = some e := by
  induction patterns with
  | nil => simp [pure, Except.pure]
  | cons p patterns ih =>
    rw [List.mapM_cons, List.findSome?_cons, pathsOf, fault?]
    cases Query.parse p with
    | error fault => simp [bind, Except.bind]
    | ok q =>
      rw [← ih]
      cases patterns.mapM (pathsOf d) <;> simp [bind, Except.bind, pure, Except.pure]

theorem expand_eq (d : Disk) (patterns : List String) :
    expand d patterns = ((cleaned patterns).mapM (pathsOf d)).map fun found => distinct found.flatten := rfl

theorem expand_eq_error_iff : expand d patterns = .error e ↔ faultOf patterns = some e := by
  rw [expand_eq, faultOf, ← mapM_pathsOf_eq_error_iff (d := d)]
  cases (cleaned patterns).mapM (pathsOf d) with
  | error e' =>
    show Except.error e' = Except.error e ↔ _
    simp
  | ok paths =>
    show Except.ok _ = Except.error e ↔ _
    simp

theorem faultOf_of_expand {found : List String} (h : expand d patterns = .ok found) : faultOf patterns = none := by
  rw [Option.eq_none_iff_forall_ne_some]
  intro e hfault
  cases h.symm.trans (expand_eq_error_iff.2 hfault)

theorem pathsOf_eq_ok_iff {p : String} {places : List String} :
    pathsOf d p = .ok places ↔ ∃ q, Query.parse p = .ok q ∧ places = q.paths d := by
  unfold pathsOf
  cases Query.parse p <;> simp [eq_comm]

/-- A path is found when one of the patterns matches it. -/
theorem any_of_expand {found : List String} (h : expand d patterns = .ok found) (path : String) :
    found.any (Path.same · path) = true ↔
      ∃ p ∈ cleaned patterns, ∃ q, Query.parse p = .ok q ∧ ∃ place ∈ q.paths d, Path.same place path = true := by
  rw [expand_eq] at h
  cases hpaths : (cleaned patterns).mapM (pathsOf d) with
  | error e =>
    rw [hpaths] at h
    exact nomatch h
  | ok paths =>
    rw [hpaths] at h
    obtain rfl : distinct paths.flatten = found := Except.ok.inj h
    rw [any_distinct, List.any_eq_true]
    constructor
    · rintro ⟨place, hplace, hsame⟩
      obtain ⟨places, hplaces, hplace⟩ := List.mem_flatten.1 hplace
      obtain ⟨p, hp, hgives⟩ := exists_of_mapM_eq_ok hpaths places hplaces
      obtain ⟨q, hparse, rfl⟩ := pathsOf_eq_ok_iff.1 hgives
      exact ⟨p, hp, q, hparse, place, hplace, hsame⟩
    · rintro ⟨p, hp, q, hparse, place, hplace, hsame⟩
      obtain ⟨places, hplaces, hgives⟩ := mem_of_mapM_eq_ok hpaths p hp
      obtain rfl := Except.ok.inj ((pathsOf_eq_ok_iff.2 ⟨q, hparse, rfl⟩).symm.trans hgives)
      exact ⟨place, List.mem_flatten.2 ⟨_, hplaces, hplace⟩, hsame⟩

end Faults

end Glob

namespace Manual

/-! ## Directives that leave files out -/

/-- Lines whose patterns, if they have any, are looked up on a disk. -/
inductive Role.OnDisk : Role → Prop
  | configuration (d : Disk) : OnDisk (.configuration (Glob.expand d))
  | code : OnDisk .code

/-- What a directive that leaves files out does: its patterns are kept whatever they are, and the files change only
when all patterns are well-formed. -/
inductive Ignores (m : Manual) (d : Disk) (b : Block) : Outcome → Prop
  | refused {e : Error} (h : Glob.faultOf (m.ignoredPatterns ++ patternsOf b) = some e) :
      Ignores m d b ⟨{ m with ignoredPatterns := m.ignoredPatterns ++ Glob.cleaned (patternsOf b) }, some e⟩
  | taken {files : List String} (h : Glob.faultOf (m.ignoredPatterns ++ patternsOf b) = none)
      (hfiles : Glob.expand d (m.ignoredPatterns ++ Glob.cleaned (patternsOf b)) = .ok files) :
      Ignores m d b
        ⟨{ m with ignoredPatterns := m.ignoredPatterns ++ Glob.cleaned (patternsOf b), ignoredFiles := files }, none⟩

section Ignores

variable {m m' : Manual} {d : Disk} {b : Block} {e : Error} {files : List String}

theorem faultOf_kept (m : Manual) (b : Block) :
    Glob.faultOf (m.ignoredPatterns ++ Glob.cleaned (patternsOf b)) =
      Glob.faultOf (m.ignoredPatterns ++ patternsOf b) := by
  rw [Glob.faultOf_append, Glob.faultOf_append, Glob.faultOf_cleaned]

theorem build_ignoreFiles (m : Manual) (find : Finder) (b : Block) :
    m.build (ignoreFiles find b) =
      match find (m.ignoredPatterns ++ Glob.cleaned (patternsOf b)) with
      | .error e => ⟨{ m with ignoredPatterns := m.ignoredPatterns ++ Glob.cleaned (patternsOf b) }, some e⟩
      | .ok files =>
        ⟨{ m with ignoredPatterns := m.ignoredPatterns ++ Glob.cleaned (patternsOf b), ignoredFiles := files }, none⟩ := by
  rw [build, ignoreFiles, Work.exec_update_bind, Work.exec_read_bind, Work.exec_lift_bind, Glob.cleaned]
  cases find (m.ignoredPatterns ++ ((patternsOf b).map Text.trim).filter (!·.isEmpty)) <;> rfl

theorem ignores_ignoreFiles (m : Manual) (d : Disk) (b : Block) :
    Ignores m d b (m.build (ignoreFiles (Glob.expand d) b)) := by
  rw [build_ignoreFiles]
  cases hexpand : Glob.expand d (m.ignoredPatterns ++ Glob.cleaned (patternsOf b)) with
  | error e =>
    refine .refused ?_
    rw [← faultOf_kept]
    exact Glob.expand_eq_error_iff.1 hexpand
  | ok files =>
    refine .taken ?_ hexpand
    rw [← faultOf_kept]
    exact Glob.faultOf_of_expand hexpand

theorem ignores_take (hb : b.title = "IgnoreFiles") : Ignores m d b (m.take (.configuration (Glob.expand d)) b) := by
  have htitle : Directive.ofTitle? b.title = some .ignoreFiles := by rw [hb]; rfl
  rw [take, accept, htitle]
  exact ignores_ignoreFiles m d b

/-! ## A malformed pattern among those that are kept -/

/-- A malformed pattern has been kept, and these files are left out. -/
structure Stuck (e : Error) (files : List String) (m : Manual) : Prop where
  fault : Glob.faultOf m.ignoredPatterns = some e
  files : m.ignoredFiles = files

theorem Stuck.congr (h : Stuck e files m) (hpatterns : m'.ignoredPatterns = m.ignoredPatterns)
    (hfiles : m'.ignoredFiles = m.ignoredFiles) : Stuck e files m' :=
  ⟨hpatterns ▸ h.fault, hfiles.trans h.files⟩

theorem Stuck.error (h : Stuck e files m) {o : Outcome} (ho : Ignores m d b o) : o.error = some e := by
  have hfault : Glob.faultOf (m.ignoredPatterns ++ patternsOf b) = some e := by
    rw [Glob.faultOf_append, h.fault, Option.some_or]
  cases ho with
  | refused hrefused => exact hrefused.symm.trans hfault
  | taken htaken => exact nomatch htaken.symm.trans hfault

theorem Stuck.ignores (h : Stuck e files m) {o : Outcome} (ho : Ignores m d b o) : Stuck e files o.manual := by
  have herror := h.error ho
  cases ho with
  | refused hrefused =>
    refine ⟨?_, h.files⟩
    rw [faultOf_kept]
    exact hrefused.trans herror
  | taken => exact nomatch herror

/-- The step: nothing that is read takes the pattern away, or changes the files that are left out. -/
theorem Stuck.step (h : Stuck e files m) {role : Role} (hrole : role.OnDisk) (event : Event) :
    Stuck e files (m.step role event).1 := by
  cases event with
  | gap => exact h.congr rfl rfl
  | shallow title origin => exact h
  | block b =>
    show Stuck e files (m.build (accept role b)).manual
    rw [accept]
    split
    · next directive hdirective =>
      cases hrole with
      | code => exact h
      | configuration d =>
        by_cases hignore : directive = .ignoreFiles
        · subst hignore
          exact h.ignores (ignores_ignoreFiles m d b)
        · have hadjusted := follow_adjusted m (Glob.expand d) hignore b
          show Stuck e files (m.build (follow (Glob.expand d) directive b)).manual
          rw [manual_build]
          generalize ((follow (Glob.expand d) directive b).exec m).2 = after at hadjusted
          cases hadjusted <;> exact h.congr rfl rfl
    · rw [manual_build]
      apply edits_keep _ (addBlock_edits m b) h
      intro m m' hedit h
      have hsame := hedit.configuration_eq
      exact h.congr (congrArg Configuration.ignoredPatterns hsame) (congrArg Configuration.ignoredFiles hsame)

/-- The manuals at later moments: after more events, after sources have started, and after the rules of a configuration
have been taken over. -/
inductive Later (m : Manual) : Manual → Prop
  | now : Later m m
  | event {m' : Manual} (h : Later m m') {role : Role} (hrole : role.OnDisk) (event : Event) :
      Later m (m'.step role event).1
  | start {m' : Manual} (h : Later m m') : Later m m'.start
  | finish {m' : Manual} (h : Later m m') : Later m { m' with baseRules := m'.rules }

theorem Later.stepAll (h : Later m m') {role : Role} (hrole : role.OnDisk) (events : List Event) :
    Later m (m'.stepAll role events).1 := by
  induction events generalizing m' with
  | nil => exact h
  | cons event events ih => exact ih (h.event hrole event)

theorem Later.readCode (h : Later m m') (file : String) (lines : List String) :
    Later m (m'.readCode file lines).1 :=
  h.start.stepAll .code _

theorem Later.readConfiguration (h : Later m m') (d : Disk) (file : String) (lines : List String) :
    Later m (m'.readConfiguration (Glob.expand d) file lines).1 :=
  (h.start.stepAll (.configuration d) _).finish

/-- The run: a malformed pattern stays for good. -/
theorem Stuck.later (h : Stuck e files m) (hlater : Later m m') : Stuck e files m' := by
  induction hlater with
  | now => exact h
  | event _ hrole event ih => exact ih.step hrole event
  | start _ ih => exact ih.congr rfl rfl
  | finish _ ih => exact ih.congr rfl rfl

theorem Ignores.stuck {o : Outcome} (ho : Ignores m d b o) (herror : o.error = some e) :
    Stuck e m.ignoredFiles o.manual := by
  cases ho with
  | refused h =>
    obtain rfl := Option.some.inj herror
    exact ⟨(faultOf_kept m b).trans h, rfl⟩
  | taken => exact nomatch herror

theorem Ignores.error_eq {o : Outcome} (ho : Ignores m d b o) :
    o.error = Glob.faultOf (m.ignoredPatterns ++ patternsOf b) := by
  cases ho with
  | refused h | taken h => exact h.symm

theorem Ignores.isIgnored_iff {o : Outcome} (ho : Ignores m d b o) (herror : o.error = none) (path : String) :
    o.manual.isIgnored path = true ↔ ∃ p ∈ Glob.cleaned (m.ignoredPatterns ++ patternsOf b), ∃ q,
      Glob.Query.parse p = .ok q ∧ ∃ place ∈ q.paths d, Path.same place path = true := by
  cases ho with
  | refused => exact nomatch herror
  | taken h hfiles =>
    have hkept : Glob.cleaned (m.ignoredPatterns ++ Glob.cleaned (patternsOf b)) =
        Glob.cleaned (m.ignoredPatterns ++ patternsOf b) := by
      rw [Glob.cleaned_append, Glob.cleaned_append, Glob.cleaned_cleaned]
    rw [← hkept]
    exact Glob.any_of_expand hfiles path

end Ignores

/-- **A malformed pattern stays with the manual.**  A directive that leaves files out keeps its patterns in any case.  It
succeeds exactly when they and all that were kept before are well-formed, and then the files that any of them matches
are left out.  If it fails, it is with the error of one of these patterns; the files that are left out stay what they
were, however much is read later, and every later directive fails with the same error, whatever its own patterns are. -/
theorem malformed_pattern_stays (m : Manual) (d : Disk) (b : Block) (hb : b.title = "IgnoreFiles") :
    let after := m.take (.configuration (Glob.expand d)) b
    let patterns := Glob.cleaned (m.ignoredPatterns ++ patternsOf b)
    after.manual.ignoredPatterns = m.ignoredPatterns ++ Glob.cleaned (patternsOf b) ∧
      (after.error = none ↔ ∀ p ∈ patterns, Glob.IsPattern p) ∧
      (after.error = none → ∀ path, after.manual.isIgnored path = true ↔
        ∃ p ∈ patterns, ∃ q, Glob.Query.parse p = .ok q ∧ ∃ place ∈ q.paths d, Path.same place path = true) ∧
      ∀ e, after.error = some e →
        (∃ p ∈ patterns, ∃ fault, Glob.Query.parse p = .error fault ∧ e = .badPattern p fault) ∧
        ∀ m', after.manual.Later m' → m'.ignoredFiles = m.ignoredFiles ∧
          ∀ (d' : Disk) (b' : Block), b'.title = "IgnoreFiles" →
            (m'.take (.configuration (Glob.expand d')) b').error = some e := by
  intro after patterns
  have hafter : Ignores m d b after := ignores_take hb
  refine ⟨?_, ?_, hafter.isIgnored_iff, fun e herror => ⟨?_, ?_⟩⟩
  · clear_value after
    cases hafter <;> rfl
  · rw [hafter.error_eq]
    exact Glob.faultOf_eq_none_iff
  · exact Glob.exists_of_faultOf (hafter.error_eq.symm.trans herror)
  · intro m' hlater
    have hstuck := (hafter.stuck herror).later hlater
    exact ⟨hstuck.files, fun d' b' hb' => hstuck.error (ignores_take hb')⟩

/-- A directive with a bracket that opens no set, then a source and a configuration with the name of a file: the file is
not left out, and one more directive fails with the error of the bracket too. -/
theorem malformed_pattern_stays_bracket :
    let d : Disk := ⟨[(["a.scad"], .file .empty)], []⟩
    let role : Role := .configuration (Glob.expand d)
    let m := (new Settings.default).start
    let after := m.take role ⟨"IgnoreFiles", "", "[", [], ⟨rcFile, 1⟩⟩
    let source := (after.manual.readCode "b.scad" ["// File: b.scad"]).1
    let later := (source.readConfiguration (Glob.expand d) rcFile ["// IgnoreFiles: a.scad"]).1
    after.error = some (.badPattern "[" ⟨0, .range⟩) ∧ after.manual.ignoredPatterns = ["["] ∧
      later.ignoredFiles = [] ∧
      (later.take role ⟨"IgnoreFiles", "", "a.scad", [], ⟨rcFile, 1⟩⟩).error = some (.badPattern "[" ⟨0, .range⟩) := by
  intro d role m after source later
  have herror : after.error = some (.badPattern "[" ⟨0, .range⟩) ∧ m.ignoredPatterns = [] ∧ m.ignoredFiles = [] := by
    decide +kernel
  obtain ⟨hpatterns, -, -, hstays⟩ := malformed_pattern_stays m d ⟨"IgnoreFiles", "", "[", [], ⟨rcFile, 1⟩⟩ rfl
  obtain ⟨-, hlater⟩ := hstays _ herror.1
  obtain ⟨hfiles, hfails⟩ := hlater later ((Later.now.readCode _ _).readConfiguration d _ _)
  refine ⟨herror.1, ?_, hfiles.trans herror.2.2, hfails d _ rfl⟩
  rw [hpatterns, herror.2.1]
  decide

/-- The pattern of the second directive is well-formed and matches a file.  Alone it leaves the file out; after a
malformed pattern it fails and the file stays in. -/
theorem ignore_fails_after_malformed_pattern :
    let d : Disk := ⟨[(["a.scad"], .file .empty)], []⟩
    let read (lines : List String) := (new Settings.default).readConfiguration (Glob.expand d) rcFile lines
    (new Settings.default).ignoredPatterns = [] ∧ (read ["// IgnoreFiles: ["]).1.ignoredPatterns = ["["] ∧
      (read ["// IgnoreFiles: a.scad"]).2 = [] ∧ (read ["// IgnoreFiles: a.scad"]).1.isIgnored "a.scad" = true ∧
      (read ["// IgnoreFiles: [", "// IgnoreFiles: a.scad"]).2 =
        [⟨⟨rcFile, 1⟩, .badPattern "[" ⟨0, .range⟩⟩, ⟨⟨rcFile, 2⟩, .badPattern "[" ⟨0, .range⟩⟩] ∧
      (read ["// IgnoreFiles: [", "// IgnoreFiles: a.scad"]).1.isIgnored "a.scad" = false := by
  decide +kernel

end Manual

end ScadManual

