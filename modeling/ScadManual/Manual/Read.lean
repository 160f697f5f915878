import ScadManual.Manual.Build
import ScadManual.Manual.Directive
import ScadManual.Text.Lines

/-!
# Reading sources

A source is read event by event.  What is found on the way is reported at the header line of the block it
is about, at most one error for each, and reading goes on.
-/

namespace ScadManual.Manual

/-- Where lines come from, which decides on the blocks they may hold. -/
inductive Role where
  /-- The project's configuration, whose patterns stand for files found so. -/
  | configuration (find : Finder)
  | code

/-- Takes a block of lines of a role. -/
def accept (role : Role) (b : Block) : Building Unit :=
  match Directive.ofTitle? b.title with
  | some directive =>
    match role with
    | .configuration find => follow find directive b
    | .code => refuse b.title .configurationOnly
  | none => addBlock b

/-- What taking a block leads to. -/
def take (m : Manual) (role : Role) (b : Block) : Outcome := m.build (accept role b)

/-- Takes an event of a source; the manual after it and what was found. -/
def step (m : Manual) (role : Role) : Event → Manual × List Finding
  | .gap => ({ m with place := m.place.closeItem }, [])
  | .shallow title origin => (m, [⟨origin, .structural title .shallowBody⟩])
  | .block b =>
    let outcome := m.take role b
    (outcome.manual, (outcome.error.map fun e => ⟨b.origin, e⟩).toList)

/-- Takes events in order. -/
def stepAll (m : Manual) (role : Role) : List Event → Manual × List Finding
  | [] => (m, [])
  | event :: events =>
    let (m, found) := m.step role event
    let (m, more) := m.stepAll role events
    (m, found ++ more)

/-- Starts a source: no place is open and the rules are those for every source. -/
def start (m : Manual) : Manual :=
  { m with rules := m.baseRules, place := .outside }

/-- Reads the lines of a source file. -/
def readCode (m : Manual) (file : String) (lines : List String) : Manual × List Finding :=
  m.start.stepAll .code (Source.events file lines)

/-- Reads lines of configuration, whose rules then hold for every source. -/
def readConfiguration (m : Manual) (find : Finder) (file : String) (lines : List String) :
    Manual × List Finding :=
  let (m, found) := m.start.stepAll (.configuration find) (Source.events file lines)
  ({ m with baseRules := m.rules }, found)

/-- Rules that are defined before anything is read. -/
def defaultRules : List String :=
  ["// DefineHeader(Headerless): Continues",
   "// DefineHeader(Text;ItemOnly): Description",
   "// DefineHeader(BulletList;ItemOnly): Usage"]

/-- The manual before anything is read. -/
def new (settings : Settings) : Manual :=
  ((blank settings).readConfiguration (fun _ => .ok []) "Defaults" defaultRules).1

/-- The lines of a project's file as lines of configuration. -/
def configurationLines (text : String) : List String :=
  (Text.lines text).map ("// " ++ ·)

end ScadManual.Manual
