/-!
# Disk errors

The ways in which reading and writing files fails, with the wording the operating system gives them.
-/

namespace ScadManual

/-- Why an operation on files failed. -/
inductive DiskError where
  | notFound
  | alreadyExists
  | notDirectory
  | isDirectory
  | nameTooLong
  | notEmpty
  /-- A path holds the character NUL. -/
  | nulByte
  /-- The file is no UTF-8 text. -/
  | notText
  /-- A temporary file could not be made at a path. -/
  | temporary (cause : DiskError) (path : String)
deriving DecidableEq, Repr, Inhabited

/-- A path between quotes, with the characters escaped that would end or break the quotation. -/
def quotedPath (path : String) : String :=
  let escape (c : Char) : String :=
    if c = '"' then "\\\""
    else if c = '\\' then "\\\\"
    else if c = '\n' then "\\n"
    else if c = '\r' then "\\r"
    else if c = '\t' then "\\t"
    else if c.toNat = 0 then "\\0"
    else c.toString
  "\"" ++ String.join (path.toList.map escape) ++ "\""

/-- The wording of a failure. -/
def DiskError.message : DiskError → String
  | .notFound => "No such file or directory (os error 2)"
  | .alreadyExists => "File exists (os error 17)"
  | .notDirectory => "Not a directory (os error 20)"
  | .isDirectory => "Is a directory (os error 21)"
  | .nameTooLong => "File name too long (os error 36)"
  | .notEmpty => "Directory not empty (os error 39)"
  | .nulByte => "file name contained an unexpected NUL byte"
  | .notText => "stream did not contain valid UTF-8"
  | .temporary cause path => cause.message ++ " at path " ++ quotedPath path

end ScadManual
