import ScadManual.Page.File
import ScadManual.Text.Casing
import ScadManual.Text.Letter
import ScadManual.Text.Sort

/-!
# The indexes

Items by topic and items by name.  Names and topics are listed under their first letter, in capitals, and
all that start with no letter under `0`.
-/

namespace ScadManual.Page.Setting

/-- The letter a name is listed under. -/
def indexLetter (name : String) : String :=
  match name.toList with
  | c :: _ => if Text.isLetter c then Text.toUpper c.toString else "0"
  | [] => "0"

/-- The name of an item and its aliases. -/
def namesOf (s : Setting) (item : NodeId) : List String :=
  s.doc.subtitle item :: (((s.doc.node? item).bind Node.item?).map (·.aliases)).getD []

/-- Named items in the order of their names, whatever the case. -/
def byName (names : List (String × NodeId)) : List (String × NodeId) :=
  Text.sortBy (fun p => Text.toLower p.1) names

/-! ## Topics -/

/-- Every topic of every item, with each name of the item. -/
def topicEntries (s : Setting) : List (String × String × NodeId) :=
  s.doc.items.flatMap fun item =>
    ((((s.doc.node? item).bind Node.item?).map (·.topics)).getD []).flatMap fun topic =>
      (s.namesOf item).map fun name => (topic, name, item)

/-- The items of a topic, in the order of their names. -/
def topicItems (s : Setting) (topic : String) : List NodeId :=
  (byName ((s.topicEntries.filter (·.1 == topic)).map (·.2))).map (·.2)

/-- The topics under each letter. -/
def topicsByLetter (s : Setting) : List (String × List String) :=
  let topics := Text.sortedDistinct (s.topicEntries.map (·.1))
  (Text.sortedDistinct (topics.map indexLetter)).map fun letter =>
    (letter, topics.filter fun topic => indexLetter topic == letter)

/-- The index of topics. -/
def topicsPage (s : Setting) : List String :=
  let current := s.dialect.pageFile .topics
  let byLetter := s.topicsByLetter
  Dialect.header "Topic Index" fileLevel true ++
    Dialect.paragraph ["An index of topics, with related functions, modules, and constants."] ++
    byLetter.flatMap (fun (letter, topics) =>
      let links := topics.map fun topic => s.dialect.link topic (Markup.anchor topic) "" false
      Dialect.paragraph [Dialect.bold letter ++ ": " ++ String.intercalate ", " links]) ++
    (byLetter.flatMap (·.2)).flatMap fun topic =>
      Dialect.header topic itemLevel true ++
        Dialect.bulletList ((s.topicItems topic).map fun item => s.indexLine item current)

/-! ## Names -/

/-- Every name and alias with its item, in the order of the names. -/
def indexedNames (s : Setting) : List (String × NodeId) :=
  byName (s.doc.items.flatMap fun item => (s.namesOf item).map fun name => (name, item))

/-- The index of names. -/
def alphabeticalPage (s : Setting) : List String :=
  let current := s.dialect.pageFile .alphabetical
  let names := s.indexedNames
  let letters := Text.sortedDistinct (names.map fun p => indexLetter p.1)
  Dialect.header "Alphabetical Index" fileLevel true ++
    Dialect.paragraph ["An index of Functions, Modules, and Constants by name."] ++
    Dialect.paragraph
      [String.intercalate "  " (letters.map fun l => s.dialect.link l l "" false)] ++
    letters.flatMap fun letter =>
      Dialect.header letter subsectionLevel true ++
        Dialect.bulletList
          ((names.filter fun p => indexLetter p.1 == letter).map fun p => s.indexLine p.2 current)

end ScadManual.Page.Setting
