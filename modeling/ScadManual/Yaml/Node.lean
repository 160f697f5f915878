import ScadManual.Yaml.Token

/-!
# YAML nodes

A document as a tree of scalars, sequences and mappings.  A reference to an anchor is replaced by what the
anchor stands at.
-/

namespace ScadManual.Yaml

/-- A node, with its tag when it has one. -/
inductive Node where
  | scalar (tag : Option String) (style : Style) (text : String)
  | sequence (tag : Option String) (items : List Node)
  | mapping (tag : Option String) (entries : List (Node × Node))

/-- A node that is not written. -/
def Node.absent : Node := .scalar none .plain ""

/-! ## Properties -/

/-- What is known while a document is read: the tokens to come, the anchors so far, and the short forms of
tags. -/
structure Reading where
  tokens : List Token
  anchors : List (String × Node)
  handles : List (String × String)

/-- The short forms of tags that are always known. -/
def knownHandles : List (String × String) := [("!", "!"), ("!!", "tag:yaml.org,2002:")]

/-- A step of reading a document. -/
abbrev Read (α : Type) := StateT Reading Option α

/-- The next token. -/
def peek? : Read (Option Token) := do
  return (← get).tokens.head?

/-- Passes a token. -/
def pass : Read Unit :=
  modify fun r => { r with tokens := r.tokens.drop 1 }

/-- Is the next token one of these?  The end of the text is none. -/
def nextIs (marks : List Token) : Read Bool := do
  return (← peek?).any marks.contains

/-- Passes the next token, which must be the given one. -/
def expect (t : Token) : Read Unit := do
  if ← nextIs [t] then pass else failure

/-- The anchor and the tag in front of a node. -/
structure Properties where
  anchor : Option String
  tag : Option String

/-- The whole tag of a short form. -/
def wholeTag (handle suffix : String) : Read String := do
  if handle.isEmpty then return suffix
  else
    match (← get).handles.lookup handle with
    | some start => return start ++ suffix
    | none => failure

/-- The anchor in front of a node, if there is one. -/
def anchorHere : Read (Option String) := do
  match ← peek? with
  | some (.anchor name) => do
    pass
    return some name
  | _ => return none

/-- The tag in front of a node, if there is one. -/
def tagHere : Read (Option String) := do
  match ← peek? with
  | some (.tag handle suffix) => do
    pass
    return some (← wholeTag handle suffix)
  | _ => return none

/-- The properties in front of a node, in either order. -/
def properties : Read Properties := do
  match ← anchorHere with
  | some name => return ⟨some name, ← tagHere⟩
  | none =>
    let tag ← tagHere
    return ⟨← anchorHere, tag⟩

/-- Remembers a node under its anchor. -/
def remember (p : Properties) (n : Node) : Read Node := do
  if let some name := p.anchor then
    modify fun r => { r with anchors := (name, n) :: r.anchors }
  return n

/-! ## Nodes -/

/-- Where a node stands, which decides what it may be. -/
inductive Place where
  /-- Inside brackets: no blocks. -/
  | flow
  /-- In a block. -/
  | block
  /-- In a mapping, whose values may be items at the column of the keys. -/
  | mapping
deriving DecidableEq

mutual

/-- A node; `fuel` bounds the number of nodes and marks. -/
def node : Nat → Place → Read Node
  | 0, _ => failure
  | fuel + 1, place => do
    match ← peek? with
    | some (.reference name) => do
      pass
      match (← get).anchors.lookup name with
      | some n => return n
      | none => failure
    | _ => do
      let p ← properties
      let n ← content fuel place p
      remember p n

/-- A node behind its properties. -/
def content : Nat → Place → Properties → Read Node
  | 0, _, _ => failure
  | fuel + 1, place, p => do
    match ← peek? with
    | some (.scalar style text) => do
      pass
      return .scalar (p.tag.filter (· != "!")) style text
    | some .bracket => do
      pass
      return .sequence p.tag (← bracketItems fuel true)
    | some .brace => do
      pass
      return .mapping p.tag (← braceEntries fuel true)
    | some .dash =>
      if place = .mapping then return .sequence p.tag (← looseItems fuel) else absentFor p
    | some .sequenceStart =>
      if place = .flow then absentFor p
      else do
        pass
        return .sequence p.tag (← blockItems fuel)
    | some .mappingStart =>
      if place = .flow then absentFor p
      else do
        pass
        return .mapping p.tag (← blockEntries fuel)
    | _ => absentFor p
where
  /-- A node that has properties may be left out. -/
  absentFor (p : Properties) : Read Node :=
    if p.anchor.isSome || p.tag.isSome then return .scalar p.tag .plain "" else failure

/-- A node, or an absent one when one of the marks follows. -/
def nodeUnless : Nat → Place → List Token → Read Node
  | 0, _, _ => failure
  | fuel + 1, place, marks => do
    if ← nextIs marks then return Node.absent else node fuel place

/-- The items of a block. -/
def blockItems : Nat → Read (List Node)
  | 0 => failure
  | fuel + 1 => do
    if ← nextIs [.dash] then do
      pass
      let n ← nodeUnless fuel .block [.dash, .blockEnd]
      return n :: (← blockItems fuel)
    else do
      expect .blockEnd
      return []

/-- Items at the column of the keys around them. -/
def looseItems : Nat → Read (List Node)
  | 0 => failure
  | fuel + 1 => do
    if ← nextIs [.dash] then do
      pass
      let n ← nodeUnless fuel .block [.dash, .key, .value, .blockEnd]
      return n :: (← looseItems fuel)
    else return []

/-- The entries of a block. -/
def blockEntries : Nat → Read (List (Node × Node))
  | 0 => failure
  | fuel + 1 => do
    if ← nextIs [.key] then do
      pass
      let k ← nodeUnless fuel .mapping [.key, .value, .blockEnd]
      let v ← blockValue fuel
      return (k, v) :: (← blockEntries fuel)
    else do
      expect .blockEnd
      return []

/-- The value of an entry of a block, which may be left out. -/
def blockValue : Nat → Read Node
  | 0 => failure
  | fuel + 1 => do
    if ← nextIs [.value] then do
      pass
      nodeUnless fuel .mapping [.key, .value, .blockEnd]
    else return Node.absent

/-- The items between brackets; a comma stands before all but the first. -/
def bracketItems : Nat → Bool → Read (List Node)
  | 0, _ => failure
  | fuel + 1, first => do
    if ← nextIs [.bracketEnd] then do
      pass
      return []
    else do
      if !first then expect .comma
      if ← nextIs [.bracketEnd] then do
        pass
        return []
      else if ← nextIs [.key] then do
        pass
        let k ← nodeUnless fuel .flow [.value, .comma, .bracketEnd]
        let v ← flowValue fuel [.comma, .bracketEnd]
        return .mapping none [(k, v)] :: (← bracketItems fuel false)
      else do
        let n ← node fuel .flow
        return n :: (← bracketItems fuel false)

/-- The entries between braces; a comma stands before all but the first. -/
def braceEntries : Nat → Bool → Read (List (Node × Node))
  | 0, _ => failure
  | fuel + 1, first => do
    if ← nextIs [.braceEnd] then do
      pass
      return []
    else do
      if !first then expect .comma
      if ← nextIs [.braceEnd] then do
        pass
        return []
      else if ← nextIs [.key] then do
        pass
        let k ← nodeUnless fuel .flow [.value, .comma, .braceEnd]
        let v ← flowValue fuel [.comma, .braceEnd]
        return (k, v) :: (← braceEntries fuel false)
      else do
        let k ← node fuel .flow
        return (k, Node.absent) :: (← braceEntries fuel false)

/-- The value of an entry inside brackets or braces, which may be left out. -/
def flowValue : Nat → List Token → Read Node
  | 0, _ => failure
  | fuel + 1, marks => do
    if ← nextIs [.value] then do
      pass
      nodeUnless fuel .flow marks
    else return Node.absent

end

/-! ## Documents -/

/-- Directives in front of a document; `versioned` tells whether a version was given. -/
def directives : Nat → Bool → Read Unit
  | 0, _ => failure
  | fuel + 1, versioned => do
    match ← peek? with
    | some (.version major minor) =>
      if versioned || major ≠ 1 || (minor ≠ 1 && minor ≠ 2) then failure
      else do
        pass
        directives fuel true
    | some (.tagHandle handle start) => do
      let r ← get
      if (r.handles.filter (!knownHandles.contains ·)).any (·.1 == handle) then failure
      else do
        set { r with handles := (handle, start) :: r.handles }
        pass
        directives fuel versioned
    | _ => return ()

/-- Passes marks that end a document. -/
def passEnds : Nat → Read Unit
  | 0 => return ()
  | fuel + 1 => do
    if ← nextIs [.documentEnd] then do
      pass
      passEnds fuel

/-- Does a directive come next? -/
def atDirective : Read Bool := do
  match ← peek? with
  | some (.version ..) => return true
  | some (.tagHandle ..) => return true
  | _ => return false

/-- The start of a document, whose mark may be left out when no directives stand before it. -/
def documentStart (fuel : Nat) : Read Unit := do
  if ← atDirective then do
    directives fuel false
    expect .documentStart
  else if ← nextIs [.documentStart] then pass

/-- The only document of the tokens; none when there is none, and a failure when there are more. -/
def document (fuel : Nat) : Read (Option Node) := do
  if (← peek?).isNone then return none
  else do
    documentStart fuel
    let isEmpty := (← peek?).isNone || (← nextIs [.documentStart, .documentEnd]) || (← atDirective)
    let n ← if isEmpty then pure Node.absent else node fuel .block
    passEnds fuel
    if (← peek?).isSome then failure
    return some n

/-- The document of a text: a failure when the text is malformed or has more than one, and none when there
is none. -/
def parse? (text : String) : Option (Option Node) :=
  (tokens? text).bind fun tokens =>
    ((document (4 * tokens.length + 4)).run ⟨tokens, [], knownHandles⟩).map (·.1)

end ScadManual.Yaml
