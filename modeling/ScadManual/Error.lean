import ScadManual.Origin
import ScadManual.Disk.Error
import ScadManual.Glob.Pattern

/-!
# Errors

Every failure the library reports, as a cause.  The wording of all of them is in one place,
`Misuse.message` for blocks that are malformed or misplaced and `Error.message` for the whole.
-/

namespace ScadManual

/-- The file in a project's directory that configures its documentation. -/
def rcFile : String := ".openscad_docsgen_rc"

/-- How a block is malformed or misplaced. -/
inductive Misuse where
  | tableWithoutHeaders
  | unknownShape
  | shallowBody
  | configurationOnly
  | fileMissing
  | fileRepeated
  | fileExpected
  | sectionMissing
  | subtitleMissing
  | subtitleUnsupported
  | itemMissing
  | bodyUnsupported
  | unknownProfile (name : String)
  | unknownPage (name : String)
  | malformedTag (line : String)
  | undefinedTag (tag : String)
  | tooManyTables
  | unrecognized
  | footnoteConflict (note previous : String)
deriving DecidableEq, Repr

/-- The wording of a misuse; the title of the block follows it. -/
def Misuse.message : Misuse → String
  | .tableWithoutHeaders => "Table type is missing Header= option, while declaring block:"
  | .unknownShape => "Could not parse target block type, while declaring block:"
  | .shallowBody => "Body line has less indentation than first line, while declaring block:"
  | .configurationOnly => "Block disallowed outside of " ++ rcFile ++ " file:"
  | .fileMissing => "Must declare File or LibFile block before declaring block:"
  | .fileRepeated => "File/Libfile block already specified, while declaring block:"
  | .fileExpected => "Expected a File or LibFile block:"
  | .sectionMissing => "Must declare a Section before declaring block:"
  | .subtitleMissing => "Must provide a subtitle when declaring block:"
  | .subtitleUnsupported => "Subtitle not supported, while declaring block:"
  | .itemMissing => "Must declare a Constant, Function or Module before declaring block:"
  | .bodyUnsupported => "Body not supported, while declaring block:"
  | .unknownProfile name => "Unknown target profile \"" ++ name ++ "\", while declaring block:"
  | .unknownPage name => "Unknown type \"" ++ name ++ "\", while declaring block:"
  | .malformedTag line => "Malformed tag definition '" ++ line ++ "' while declaring block:"
  | .undefinedTag tag => "Undefined syntag \"" ++ tag ++ "\", while declaring block:"
  | .tooManyTables => "More tables than header_sets, while declaring block:"
  | .unrecognized => "Unrecognized block:"
  | .footnoteConflict note previous =>
    "Footnote \"" ++ note ++ "\" conflicts with previous definition \"" ++ previous ++
      "\", while declaring block:"

/-- Everything that can go wrong. -/
inductive Error where
  /-- A malformed or misplaced block. -/
  | structural (block : String) (misuse : Misuse)
  /-- A link to a name that nothing declares. -/
  | reference (link : String)
  /-- A second declaration of a name. -/
  | duplicate (block name : String) (previous : Origin)
  /-- The renderer failed or complained. -/
  | render (text : String)
  /-- A line of the hash store is no record. -/
  | corruptStore (path : String) (line : Nat)
  | unknownDialect (name : String)
  | disk (cause : DiskError)
  /-- A page kind that is not known. -/
  | unknownPage (name : String)
  | badPattern (pattern : String) (fault : Glob.Fault)
  | configUnreadable (path : String) (cause : DiskError)
  | configMalformed (path : String)
  | rcMalformed (path : String)
deriving DecidableEq, Repr

/-- The wording of an error. -/
def Error.message : Error → String
  | .structural block misuse => misuse.message ++ " \"" ++ block ++ "\""
  | .reference link => "Invalid Link " ++ link
  | .duplicate block name previous =>
    "Previous declaration of `" ++ name ++ "` at " ++ previous.text ++ ", Redeclared: \"" ++ block ++
      "\""
  | .render text => text
  | .corruptStore path line =>
    "Corrupt hashes file " ++ path ++ ": line " ++ toString line ++
      " is not a `path|hash` record. Ignoring."
  | .unknownDialect name => "Unknown target profile \"" ++ name ++ "\""
  | .disk cause => "IO error: " ++ cause.message
  | .unknownPage name => "Unknown docs type \"" ++ name ++ "\""
  | .badPattern pattern fault => "Bad file pattern \"" ++ pattern ++ "\": " ++ fault.message
  | .configUnreadable path cause => "Failed to read config file at " ++ path ++ ": " ++ cause.message
  | .configMalformed path => "Failed to parse config file at " ++ path
  | .rcMalformed path => "Failed to parse " ++ path

end ScadManual
