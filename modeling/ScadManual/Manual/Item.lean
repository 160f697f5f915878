import ScadManual.Manual.Basic

/-!
# Items of a manual

Declaring an item, the labels that say more about it, and what blocks do to the open item besides standing
below it.
-/

namespace ScadManual.Manual

/-- The section a new item stands in: the open one, or else a new one without a name. -/
def itemSection (file : NodeId) (origin : Origin) : Building NodeId := do
  match ← Work.read (·.place.section?) with
  | some sect => return sect
  | none => do
    let sect ← append ⟨.section, "Section", "", [], origin, 0, some file⟩
    moveTo (.section file sect)
    return sect

/-- Declares a name for an item, in a block of the given title. -/
def declare (title name : String) (item : NodeId) : Building Unit := do
  let references ← (← Work.read fun m => m.references.declare m.document title name item)
  Work.update fun m => { m with library := { m.library with references } }

/-- Declares an item, which is then open. -/
def declareItem (b : Block) : Building Unit := do
  let file ← requireFile b.title
  (← Work.read fun m => m.references.requireFree m.document b.title b.subtitle)
  requireNoBody b.title b.body
  let sect ← itemSection file b.origin
  let item ← append (b.node (.item ItemInfo.empty) (some sect))
  declare b.title b.subtitle item
  moveTo (.item file sect item)

/-- The kinds of labels that say more about an item. -/
inductive Label where
  | synopsis
  | tags
  | topics
  | seeAlso
deriving DecidableEq, Repr

/-- The label of a title. -/
def Label.ofTitle? : String → Option Label
  | "Synopsis" => some .synopsis
  | "SynTags" => some .tags
  | "Topics" => some .topics
  | "See Also" => some .seeAlso
  | _ => none

/-- The kind of a label's node. -/
def Label.kind : Label → Kind
  | .synopsis => .synopsis
  | .tags => .tags
  | .topics => .topics
  | .seeAlso => .seeAlso

/-- The tags that are named, with their explanations. -/
def namedTags (tags : Dict) (title : String) (names : List String) : Except Error (List (String × String)) :=
  names.mapM fun tag =>
    match tags.get? tag with
    | some text => .ok (tag, text)
    | none => refuse title (.undefinedTag tag)

/-- What a label says about its item. -/
def labelled (tags : Dict) (label : Label) (b : Block) : Except Error (ItemInfo → ItemInfo) :=
  match label with
  | .synopsis => .ok fun info => { info with synopsis := b.subtitle }
  | .tags => do
    let named ← namedTags tags b.title (listedNames b.subtitle)
    return fun info => { info with tags := info.tags.insertAll named }
  | .topics => .ok fun info => { info with topics := listedNames b.subtitle }
  | .seeAlso => .ok fun info => { info with seeAlso := listedNames b.subtitle }

/-- Adds a label to an item. -/
def labelItem (item : NodeId) (label : Label) (b : Block) : Building Unit := do
  requireNoBody b.title b.body
  let change ← labelled (← Work.read (·.tags)) label b
  changeItem item change
  let _ ← append (b.node label.kind (some item))

/-! ## Effects -/

/-- Declares an alias of an item. -/
def declareAlias (title : String) (item : NodeId) (name : String) : Building Unit := do
  declare title name item
  Work.update (·.modifyItem item fun info => { info with aliases := info.aliases ++ [name] })

/-- Declares aliases of an item, all of those whose names are free.  Of several errors the first counts. -/
def declareAliases (title : String) (item : NodeId) : List String → Building Unit
  | [] => return ()
  | name :: rest => do
    match ← Work.attempt (declareAlias title item name) with
    | .ok _ => declareAliases title item rest
    | .error e => do
      let _ ← Work.attempt (declareAliases title item rest)
      throw e

/-- What a block does to the open item besides standing below it. -/
def applyEffect (effect : Effect) (title subtitle : String) : Building Unit := do
  match ← Work.read (·.place.item?) with
  | none => return ()
  | some item =>
    match effect with
    | .status =>
      Work.update (·.modifyItem item fun info =>
        { info with deprecated := Text.contains subtitle "DEPRECATED" })
    | .aliases => declareAliases title item (listedNames subtitle)

end ScadManual.Manual
