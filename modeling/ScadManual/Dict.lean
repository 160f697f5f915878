/-!
# Ordered dictionaries

Pairs of texts with one entry per key, in the order in which the keys were first put.  Putting a key again
keeps its place and takes the new value.
-/

namespace ScadManual

/-- Pairs of a key and a value, in the order in which the keys came. -/
structure Dict where
  entries : List (String × String)
deriving DecidableEq, Repr, Inhabited

namespace Dict

/-- No entry. -/
def empty : Dict := ⟨[]⟩

/-- Puts a value into a list of entries, in the key's place or at the end. -/
def put (key value : String) : List (String × String) → List (String × String)
  | [] => [(key, value)]
  | (k, v) :: rest => if k = key then (k, value) :: rest else (k, v) :: put key value rest

/-- Puts a value. -/
def insert (d : Dict) (key value : String) : Dict :=
  ⟨put key value d.entries⟩

/-- Puts the pairs one after the other. -/
def insertAll (d : Dict) (pairs : List (String × String)) : Dict :=
  pairs.foldl (fun d p => d.insert p.1 p.2) d

/-- The dictionary of a list of pairs. -/
def ofList (pairs : List (String × String)) : Dict :=
  empty.insertAll pairs

/-- Takes a key out. -/
def erase (d : Dict) (key : String) : Dict :=
  ⟨d.entries.filter (·.1 != key)⟩

/-- The value of a key. -/
def get? (d : Dict) (key : String) : Option String :=
  d.entries.lookup key

/-- The keys, in order. -/
def keys (d : Dict) : List String :=
  d.entries.map (·.1)

/-- Is there an entry for the key? -/
def has (d : Dict) (key : String) : Bool :=
  (d.get? key).isSome

/-- Is there no entry at all? -/
def isEmpty (d : Dict) : Bool :=
  d.entries.isEmpty

end Dict

end ScadManual
