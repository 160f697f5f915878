/-!
# JSON text

Values of the format, and their text with an indentation of two spaces.  In strings the quote, the
backslash and control characters are escaped; every other character stands for itself.
-/

namespace ScadManual

/-- A JSON value; the fields of an object keep their order. -/
inductive Json where
  | bool (b : Bool)
  | number (n : Nat)
  | string (s : String)
  | array (items : List Json)
  | object (fields : List (String × Json))

namespace Json

/-- An array of strings. -/
def strings (ss : List String) : Json :=
  .array (ss.map .string)

/-- A character inside a string. -/
def escapeChar (c : Char) : String :=
  if c = '"' then "\\\""
  else if c = '\\' then "\\\\"
  else if c = '\n' then "\\n"
  else if c = '\r' then "\\r"
  else if c = '\t' then "\\t"
  else if c.toNat = 8 then "\\b"
  else if c.toNat = 12 then "\\f"
  else if c.toNat < 32 then
    "\\u00" ++ (if c.toNat < 16 then "0" else "1") ++
      String.singleton (Nat.digitChar (c.toNat % 16))
  else c.toString

/-- A string between quotes. -/
def quote (s : String) : String :=
  "\"" ++ String.join (s.toList.map escapeChar) ++ "\""

/-- Spaces for a depth. -/
def indentation (depth : Nat) : String :=
  String.ofList (List.replicate (2 * depth) ' ')

mutual

/-- The text of a value that starts at the given depth. -/
def prettyAt (depth : Nat) : Json → String
  | .bool true => "true"
  | .bool false => "false"
  | .number n => toString n
  | .string s => quote s
  | .array [] => "[]"
  | .array (item :: items) =>
    "[\n" ++ indentation (depth + 1) ++ prettyAt (depth + 1) item ++ prettyItems depth items ++
      "\n" ++ indentation depth ++ "]"
  | .object [] => "\x7b\x7d"
  | .object (field :: fields) =>
    "\x7b\n" ++ prettyField depth field ++ prettyFields depth fields ++
      "\n" ++ indentation depth ++ "\x7d"

/-- The text of further items of an array. -/
def prettyItems (depth : Nat) : List Json → String
  | [] => ""
  | item :: items =>
    ",\n" ++ indentation (depth + 1) ++ prettyAt (depth + 1) item ++ prettyItems depth items

/-- The text of a field. -/
def prettyField (depth : Nat) : String × Json → String
  | (key, value) => indentation (depth + 1) ++ quote key ++ ": " ++ prettyAt (depth + 1) value

/-- The text of further fields of an object. -/
def prettyFields (depth : Nat) : List (String × Json) → String
  | [] => ""
  | field :: fields => ",\n" ++ prettyField depth field ++ prettyFields depth fields

end

/-- The text of a value. -/
def pretty (j : Json) : String :=
  prettyAt 0 j

end Json

end ScadManual
