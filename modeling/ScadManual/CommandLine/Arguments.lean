import ScadManual.Text.Search

/-!
# Arguments of a command

A command has options, long and short ones, with and without a value, and takes any number of files.
Arguments are read from left to right, and the first that cannot be, or that asks for help, decides.  An
option must not come twice.
-/

namespace ScadManual.CommandLine

/-- An option of a command. -/
structure OptionSpec where
  long : String
  short : Option Char
  /-- What its value is called, when it takes one. -/
  valueName : Option String
  /-- What it does, in a few words. -/
  help : String
  /-- May it have this value? -/
  accepts : String → Bool

namespace OptionSpec

/-- An option without a value. -/
def flag (short : Option Char) (long help : String) : OptionSpec :=
  ⟨long, short, none, help, fun _ => true⟩

/-- An option with any value. -/
def text (short : Char) (long valueName help : String) : OptionSpec :=
  ⟨long, some short, some valueName, help, fun _ => true⟩

/-- An option whose value is a path, which must not be empty. -/
def path (short : Char) (long valueName help : String) : OptionSpec :=
  ⟨long, some short, some valueName, help, fun v => !v.isEmpty⟩

/-- Does the option take a value? -/
def takesValue (o : OptionSpec) : Bool := o.valueName.isSome

/-- How the option is written, in its long form. -/
def usage (o : OptionSpec) : String :=
  "--" ++ o.long ++ (o.valueName.map fun v => " <" ++ v ++ ">").getD ""

end OptionSpec

/-- A command. -/
structure Command where
  name : String
  about : String
  options : List OptionSpec
  /-- What its files are called. -/
  filesName : String
  filesHelp : String

/-- Why arguments were refused. -/
inductive Misuse where
  | unknown (argument : String)
  | valueMissing (usage : String)
  | valueUnexpected (value usage : String)
  | valueInvalid (value usage : String)
  | repeated (usage : String)
  | conflict (first second : String)
deriving DecidableEq, Repr

/-- Why a command does nothing. -/
inductive Stop where
  | help
  | version
  | misuse (m : Misuse)
deriving DecidableEq, Repr

/-- What the arguments say: the options by their long names, with their values, and the files. -/
structure Given where
  options : List (String × String)
  files : List String
deriving DecidableEq, Repr

namespace Given

/-- Nothing said. -/
def nothing : Given := ⟨[], []⟩

/-- Was an option given? -/
def has (g : Given) (long : String) : Bool := (g.options.lookup long).isSome

/-- The value of an option. -/
def get? (g : Given) (long : String) : Option String := g.options.lookup long

/-- Adds a file. -/
def addFile (g : Given) (file : String) : Given := { g with files := g.files ++ [file] }

/-- Adds an option with its value, which is empty when it takes none. -/
def addOption (g : Given) (o : OptionSpec) (value : String) : Except Stop Given :=
  if g.has o.long then .error (.misuse (.repeated o.usage))
  else if !o.accepts value then .error (.misuse (.valueInvalid value o.usage))
  else .ok { g with options := g.options ++ [(o.long, value)] }

end Given

namespace Command

/-- The option that shows what a command can do. -/
def helpOption : OptionSpec := .flag (some 'h') "help" "Print help"

/-- The option that shows the version of a command. -/
def versionOption : OptionSpec := .flag (some 'V') "version" "Print version"

/-- All options. -/
def allOptions (c : Command) : List OptionSpec := c.options ++ [helpOption, versionOption]

/-- Takes an option without a value into account. -/
def takeFlag (o : OptionSpec) (g : Given) : Except Stop Given :=
  if o.long = helpOption.long then .error .help
  else if o.long = versionOption.long then .error .version
  else g.addOption o ""

/-- The option of a long name. -/
def longOption (c : Command) (name : String) : Except Stop OptionSpec :=
  match c.allOptions.find? (·.long == name) with
  | some o => .ok o
  | none => .error (.misuse (.unknown ("--" ++ name)))

/-- The option of a letter. -/
def shortOption (c : Command) (letter : Char) : Except Stop OptionSpec :=
  match c.allOptions.find? (·.short == some letter) with
  | some o => .ok o
  | none => .error (.misuse (.unknown ("-" ++ letter.toString)))

/-- The value that stands behind a letter in the same argument. -/
def attached (cs : List Char) : String :=
  match cs with
  | '=' :: value => String.ofList value
  | value => String.ofList value

/-- Reads letters, of which only the last may take a value.  Gives the option that waits for the next
argument as its value, if there is one. -/
def readLetters (c : Command) (g : Given) : List Char → Except Stop (Given × Option OptionSpec)
  | [] => .ok (g, none)
  | letter :: rest => do
    let o ← c.shortOption letter
    if o.takesValue then
      if rest.isEmpty then return (g, some o)
      else
        let g ← g.addOption o (attached rest)
        return (g, none)
    else
      let g ← takeFlag o g
      c.readLetters g rest

/-- Reads a long option, behind its dashes. -/
def readLong (c : Command) (g : Given) (text : String) : Except Stop (Given × Option OptionSpec) := do
  let (name, value) := match Text.cut? '=' text with
    | some (name, value) => (name, some value)
    | none => (text, none)
  let o ← c.longOption name
  match value with
  | some value =>
    if o.takesValue then
      let g ← g.addOption o value
      return (g, none)
    else .error (.misuse (.valueUnexpected value o.usage))
  | none =>
    if o.takesValue then return (g, some o)
    else
      let g ← takeFlag o g
      return (g, none)

/-- Can an argument be the value of the option before it?  One that looks like an option cannot. -/
def isValue (arg : String) : Bool := arg = "-" || !Text.startsWith arg "-"

/-- Reads arguments; `waiting` is an option whose value comes next. -/
def readFrom (c : Command) (g : Given) (waiting : Option OptionSpec) : List String → Except Stop Given
  | [] =>
    match waiting with
    | some o => .error (.misuse (.valueMissing o.usage))
    | none => .ok g
  | arg :: args =>
    match waiting with
    | some o =>
      if isValue arg then
        match g.addOption o arg with
        | .ok g => c.readFrom g none args
        | .error e => .error e
      else .error (.misuse (.valueMissing o.usage))
    | none =>
      if isValue arg then c.readFrom (g.addFile arg) none args
      else if arg = "--" then .ok { g with files := g.files ++ args }
      else
        let read := match Text.afterStart? arg "--" with
          | some long => c.readLong g long
          | none => c.readLetters g (arg.toList.drop 1)
        match read with
        | .ok (g, waiting) => c.readFrom g waiting args
        | .error e => .error e

/-- What arguments say. -/
def read (c : Command) (args : List String) : Except Stop Given :=
  c.readFrom Given.nothing none args

/-! ## Texts -/

/-- The version of the commands. -/
def version : String := "0.1.0"

/-- The text that tells the version. -/
def versionText (c : Command) : String := c.name ++ " " ++ version ++ "\n"

/-- How the command is called. -/
def usageLine (c : Command) : String :=
  "Usage: " ++ c.name ++ " [OPTIONS] [" ++ c.filesName ++ "]..."

/-- The line of an option, whose long form is padded to a width. -/
def optionLine (width : Nat) (o : OptionSpec) : String :=
  let short := (o.short.map fun s => "-" ++ s.toString ++ ", ").getD "    "
  "  " ++ short ++ Text.padRight width o.usage ++ "  " ++ o.help

/-- The text that tells what the command can do. -/
def helpText (c : Command) : String :=
  let width := (c.allOptions.map (·.usage.length)).foldl max 0
  String.join <| List.map (· ++ "\n") <|
    [c.about, "", c.usageLine, "", "Arguments:",
      "  [" ++ c.filesName ++ "]...  " ++ c.filesHelp, "", "Options:"] ++
      c.allOptions.map (optionLine width)

/-- Why arguments were refused, in words. -/
def misuseText (c : Command) (m : Misuse) : String :=
  let reason := match m with
    | .unknown argument => "unexpected argument '" ++ argument ++ "' found"
    | .valueMissing usage => "a value is required for '" ++ usage ++ "' but none was supplied"
    | .valueUnexpected value usage =>
      "unexpected value '" ++ value ++ "' for '" ++ usage ++ "' found; no more were expected"
    | .valueInvalid value usage => "invalid value '" ++ value ++ "' for '" ++ usage ++ "'"
    | .repeated usage => "the argument '" ++ usage ++ "' cannot be used multiple times"
    | .conflict first second =>
      "the argument '" ++ first ++ "' cannot be used with '" ++ second ++ "'"
  "error: " ++ reason ++ "\n\n" ++ c.usageLine ++ "\n\nFor more information, try '--help'.\n"

end Command

end ScadManual.CommandLine
