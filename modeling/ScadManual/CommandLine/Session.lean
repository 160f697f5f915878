import ScadManual.CommandLine.Arguments
import ScadManual.Environment
import ScadManual.Render.OpenScad
import ScadManual.Run.Basic
import ScadManual.Text.Lines

/-!
# Sessions

What a command is started with, what it does step by step, and what is left when it ends.  The log goes to
the error stream, a line for each report that is serious enough; a fatal error is told in one more line.
-/

namespace ScadManual.CommandLine

/-- What a command is started with. -/
structure Host where
  environment : Environment
  disk : Disk
  /-- The OpenSCAD program, when there is one. -/
  openScad : Option Render.OpenScad

/-- What is left when a command has ended. -/
structure Ended where
  status : Nat
  stdout : String
  stderr : String
  disk : Disk

/-- Why a command ends early. -/
inductive Halt where
  /-- By an error, which is told. -/
  | fatal (text : String)
  /-- Because of what these lines say. -/
  | refused (lines : List String)
deriving DecidableEq, Repr

/-- The state of a command. -/
structure Session where
  run : Run Unit
  stdout : List String

/-- A step of a command. -/
abbrev Action (α : Type) := ExceptT Halt (StateM Session) α

namespace Action

/-- Does a step of a run; an error ends the command. -/
def perform {α : Type} (describe : Error → String) (step : Step Unit α) : Action α := do
  let s ← get
  let (result, run) := (ExceptT.run step).run s.run
  set { s with run }
  match result with
  | .ok a => return a
  | .error e => throw (.fatal (describe e))

/-- Takes a result; an error ends the command. -/
def orFail {α : Type} (describe : Error → String) (result : Except Error α) : Action α :=
  match result with
  | .ok a => return a
  | .error e => throw (.fatal (describe e))

/-- Prints lines. -/
def print (lines : List String) : Action Unit :=
  modify fun s => { s with stdout := s.stdout ++ lines }

/-- The disk as it is now. -/
def disk : Action Disk := do
  return (← get).run.disk

/-- Lets images be made by a program, which must be there. -/
def useRenderer (program : Option Render.OpenScad) (need : String) : Action Unit :=
  match program with
  | none => throw (.fatal need)
  | some program =>
    modify fun s =>
      { s with run := { s.run with pipeline := some (Render.Pipeline.new program.renderer ()) } }

end Action

/-! ## The log -/

/-- The mark of an entry's severity, in its text. -/
def severityMark : Severity → String
  | .notice => "NOTICE"
  | .warning => "WARNING"
  | .error => "ERROR"

/-- The level under which an entry of a severity is shown. -/
def levelMark : Severity → String
  | .notice => "INFO "
  | .warning => "WARN "
  | .error => "ERROR"

/-- A text shown under a level; its further lines are indented. -/
def levelText (level text : String) : String :=
  "[" ++ level ++ "] " ++ Text.replaceAll text "\n" "\n    " ++ "\n"

/-- How a report is shown; a quiet command shows no progress and no notices. -/
def reportText (quiet : Bool) : Report → String
  | .progress text => if quiet then "" else levelText "INFO " text
  | .entry e =>
    if quiet && e.severity = .notice then ""
    else
      levelText (levelMark e.severity)
        ("!! " ++ severityMark e.severity ++ " at " ++ e.file ++ ":" ++ toString e.line ++ ": " ++
          e.message)

/-- How a log is shown. -/
def logText (quiet : Bool) (log : Log) : String :=
  String.join (log.reports.map (reportText quiet))

/-- The part of a text before its first line end. -/
def firstLine (s : String) : String :=
  String.ofList (s.toList.takeWhile (· != '\n'))

/-- What a command says when it is not content with how it went. -/
def errorsMark : String := "WARNING: Errors encountered."

/-- The status of a command that failed. -/
def failed : Nat := 1

/-- The status of a command whose arguments were refused. -/
def refused : Nat := 2

/-- Runs the steps of a command to their end.  It fails when an error was logged. -/
def finish (quiet : Bool) (disk : Disk) (action : Action Unit) : Ended :=
  let (result, s) := (ExceptT.run action).run ⟨Run.start disk none, []⟩
  let stdout := Text.unlines s.stdout
  let stderr := logText quiet s.run.log
  match result with
  | .error (.fatal text) =>
    ⟨failed, stdout, stderr ++ "Error: " ++ firstLine text ++ "\n", s.run.disk⟩
  | .error (.refused lines) => ⟨failed, stdout, stderr ++ Text.unlines lines, s.run.disk⟩
  | .ok () =>
    if s.run.log.hasErrors then ⟨failed, stdout, stderr ++ errorsMark ++ "\n", s.run.disk⟩
    else ⟨0, stdout, stderr, s.run.disk⟩

/-- The option that suppresses progress. -/
def quietOption : OptionSpec := .flag (some 'q') "quiet" "Suppress printing of progress data"

/-- The option that asks for more detail. -/
def verboseOption : OptionSpec := .flag (some 'v') "verbose" "Log debugging detail"

/-- Starts a command: reads its arguments and, unless they end it, does what they say. -/
def start (c : Command) (args : List String) (host : Host) (action : Given → Action Unit) : Ended :=
  match c.read args with
  | .error .help => ⟨0, c.helpText, "", host.disk⟩
  | .error .version => ⟨0, c.versionText, "", host.disk⟩
  | .error (.misuse m) => ⟨refused, "", c.misuseText m, host.disk⟩
  | .ok given =>
    if given.has quietOption.long && given.has verboseOption.long then
      ⟨refused, "", c.misuseText (.conflict verboseOption.usage quietOption.usage), host.disk⟩
    else finish (given.has quietOption.long) host.disk (action given)

end ScadManual.CommandLine
