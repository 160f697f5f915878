/-!
# TOML values

Values, and how tables grow while a document is read.  A table remembers how it came to be, because that
decides what may still be added to it: an inline table is closed, a table under a header of its own cannot
be reached by dotted keys, and a table that dotted keys made cannot get a header.
-/

namespace ScadManual.Toml

/-- How a table came to be. -/
inductive TableForm where
  /-- As a parent of a table with a header. -/
  | implied
  /-- As a parent of a dotted key. -/
  | dotted
  /-- By a header of its own; the whole document counts as one. -/
  | headed
  /-- Between braces. -/
  | inlined
deriving DecidableEq, Repr

/-- A value. -/
inductive Value where
  | string (s : String)
  | integer (n : Int)
  /-- A number with a fraction or an exponent, as it is written. -/
  | decimal (text : String)
  | boolean (b : Bool)
  /-- A date, a time or both, as it is written. -/
  | moment (text : String)
  | array (items : List Value)
  /-- Tables that share a doubled header. -/
  | tables (items : List (List (String × Value)))
  | table (form : TableForm) (entries : List (String × Value))

namespace Value

/-- A text. -/
def string? : Value → Option String
  | .string s => some s
  | _ => none

/-- A truth value. -/
def boolean? : Value → Option Bool
  | .boolean b => some b
  | _ => none

end Value

/-- The entries of a table. -/
abbrev Entries := List (String × Value)

namespace Entries

/-- Puts a value, in the key's place or at the end. -/
def put (key : String) (value : Value) : Entries → Entries
  | [] => [(key, value)]
  | (k, v) :: rest => if k = key then (k, value) :: rest else (k, v) :: put key value rest

/-- Changes the table that a path leads to from a table of the given form, making the tables on the way that
are missing.  Nothing comes of it when the way leads through something that is no open table. -/
def descend (viaDots : Bool) (change : TableForm → Entries → Option Entries) :
    List String → TableForm → Entries → Option Entries
  | [], form, entries => change form entries
  | key :: path, _, entries =>
    match entries.lookup key with
    | none =>
      let form : TableForm := if viaDots then .dotted else .implied
      (descend viaDots change path form []).map fun inner => put key (.table form inner) entries
    | some (.table form inner) =>
      if form = .inlined || (viaDots && form = .headed) then none
      else (descend viaDots change path form inner).map fun inner => put key (.table form inner) entries
    | some (.tables items) =>
      (descend viaDots change path .headed (items.getLastD [])).map fun last =>
        put key (.tables (items.dropLast ++ [last])) entries
    | some _ => none

/-- Adds a new entry at the end of the path `keys` of a dotted key.  A table that dotted keys made takes only
what dotted keys bring. -/
def insertDotted (keys : List String) (key : String) (value : Value) (form : TableForm)
    (entries : Entries) : Option Entries :=
  descend true (fun reached inner =>
    if (reached = .dotted) = (keys = []) then none
    else if (inner.lookup key).isSome then none
    else some (inner ++ [(key, value)])) keys form entries

/-- Opens the table of a header. -/
def openTable (path : List String) (key : String) (entries : Entries) : Option Entries :=
  descend false (fun _ inner =>
    match inner.lookup key with
    | none => some (inner ++ [(key, .table .headed [])])
    | some (.table .implied kept) => some (put key (.table .headed kept) inner)
    | some _ => none) path .headed entries

/-- Opens a further table of a doubled header. -/
def openNext (path : List String) (key : String) (entries : Entries) : Option Entries :=
  descend false (fun _ inner =>
    match inner.lookup key with
    | none => some (inner ++ [(key, .tables [[]])])
    | some (.tables items) => some (put key (.tables (items ++ [[]])) inner)
    | some _ => none) path .headed entries

/-- Adds an entry to the table that was opened last, the one at `header`. -/
def insertBelow (header keys : List String) (key : String) (value : Value) (entries : Entries) :
    Option Entries :=
  descend false (insertDotted keys key value) header .headed entries

end Entries

end ScadManual.Toml
