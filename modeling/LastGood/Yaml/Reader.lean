import LastGood.Text.Quoted
import LastGood.Text.Split
import LastGood.Yaml.Document
import LastGood.Yaml.Scalar

/-!
# Reading YAML

A document is read as a tree whose root is a map. Keys are texts, whatever they look
like, and of two equal ones the later one stays. A node with the name of a variant is a
map with that name as its only key; points in the name divide it into the keys of nested
maps, up to an empty key.

A map below the root may stand for one of its values and say from which source that value
comes. Every node of the tree is marked with the number of the source that is said to be
its own, if there is one.

Nodes may lie a limited number of levels deep, and aliases may be followed a limited
number of times, so every document is read in bounded time, also one whose aliases stand
for collections around them.
-/

namespace LastGood.Yaml

/-- The number of collections that may enclose each other. -/
def depthLimit : Nat := 128

/-- How often aliases may be followed for each event of a document. -/
def aliasLimit : Nat := 100

/-- The number of a source, if a document names one. -/
abbrev Source := Option Nat

/-- The key of the value that a map stands for. -/
def valueKey : String := "___figment_value_value"

/-- The key of the source of the value that a map stands for. -/
def sourceKey : String := "___figment_value_id"

/-- The keys that a name stands for: the pieces between its points, up to an empty one. -/
def keysOf (name : String) : List String :=
  ((Text.pieces '.' name.toList).takeWhile fun piece => !piece.isEmpty).map String.ofList

/-- What the entries of a map have come to. -/
structure Held where
  /-- The entries under ordinary keys. -/
  entries : List (String × Tree Source) := []
  /-- The value that the map stands for. -/
  value : Option (Tree Source) := none
  /-- The source of that value. -/
  source : Source := none

/-- The tree that the entries of a map make up. A source without a value says nothing. -/
def Held.toTree (held : Held) : Tree Source :=
  match held.value, held.source with
  | none, _ => .map none held.entries
  | some value, none => value
  | some value, some number => value.marked (some number)

/-- What a scalar tree is called where something else was expected. -/
def scalarText {α : Type} : Tree α → String
  | .null _ => "unit value"
  | .bool _ value => "boolean `" ++ (if value then "true" else "false") ++ "`"
  | .number _ (.unsigned n) =>
      "integer `" ++ toString n ++ "`" ++ (if n < Number.wordBound then "" else " as u128")
  | .number _ (.signed n) =>
      "integer `" ++ toString n ++ "`" ++
        (if -(Number.signedWordBound : Int) ≤ n then "" else " as i128")
  | .number _ (.float x) => "floating point `" ++ Decimal.pointed x ++ "`"
  | .text _ value => "string " ++ Text.quoted value
  | .list .. => "sequence"
  | .map .. => "map"

/-- A place among the events of a document that are being read. -/
structure Place where
  /-- The number of the next event. -/
  position : Nat
  /-- How many more collections may be entered. -/
  depth : Nat
  /-- The path of the node that is being read. -/
  path : NodePath
  /-- How often an alias has been followed. -/
  jumps : Nat

/-- A reader of something at a place; it gives the number of the event behind it and how
    often an alias has been followed by then. -/
abbrev PlaceReader (α : Type) := Place → Except Error (α × Nat × Nat)

namespace Document

/-- The event at a place. -/
def eventAt (document : Document) (place : Place) : Except Error Event :=
  match document.events[place.position]? with
  | some event => .ok event
  | none => .error (document.error.getD (.syntactic { message := "EOF while parsing a value" }))

/-- The place that an alias leads to. -/
def jump (document : Document) (place : Place) : Except Error Place :=
  let jumps := place.jumps + 1
  if document.events.size * aliasLimit < jumps then .error .tooManyAliases
  else .ok { place with position := document.target place.position, jumps }

/-- The error that a node is not what its place asks for. -/
def mismatch (place : Place) (mark : Mark) (found expected : String) : Error :=
  .mismatch ("invalid type: " ++ found ++ ", expected " ++ expected) place.path mark

/-- A scalar as a tree. -/
def readScalar (place : Place) (mark : Mark) (scalar : Scalar) : Except Error (Tree Source) :=
  match scalar.toTree with
  | .ok tree => .ok (tree.marked none)
  | .error expected =>
      .error (.mismatch
        ("invalid value: string " ++ Text.quoted scalar.text ++ ", expected " ++ expected)
        place.path mark)

/-- Reads a key: its text, and its name in paths. -/
def readKey (document : Document) : PlaceReader (String × Option String) := fun place => do
  let event ← document.eventAt place
  match event.kind with
  | .scalar scalar => return ((scalar.text, some scalar.text), place.position + 1, place.jumps)
  | .alias _ => do
      let there ← document.jump place
      let node ← document.eventAt there
      match node.kind with
      | .scalar scalar => return ((scalar.text, none), place.position + 1, there.jumps)
      | .listStart _ => .error (mismatch place node.mark "sequence" "a string")
      | _ => .error (mismatch place node.mark "map" "a string")
  | .listStart _ => .error (mismatch place event.mark "sequence" "a string")
  | _ => .error (mismatch place event.mark "map" "a string")

/-- The name that a tag gives to a variant. -/
def variantName? : EventKind → Option String
  | .scalar { tag := some (.variant name), .. } => some name
  | .listStart (some (.variant name)) => some name
  | .mapStart (some (.variant name)) => some name
  | _ => none

/-- The place inside a collection, if there may be one more. -/
def inside (place : Place) (mark : Mark) : Except Error Place :=
  match place.depth with
  | 0 => .error (.tooDeep mark)
  | depth + 1 => .ok { place with position := place.position + 1, depth }

/-- Reads the number of a source: a whole number of sixty-four bits without a sign. -/
def readSource (document : Document) : PlaceReader Nat := fun place => do
  let event ← document.eventAt place
  let there ←
    match event.kind with
    | .alias _ => document.jump place
    | _ => .ok place
  let node ← document.eventAt there
  let refused (found : String) : Error :=
    mismatch there node.mark found "a 64-bit metadata id integer"
  match variantName? node.kind, node.kind with
  | some _, _ => .error (refused "enum")
  | none, .scalar scalar => do
      let tree ← readScalar there node.mark scalar
      match tree with
      | .number _ (.unsigned n) =>
          if n < Number.wordBound then return (n, place.position + 1, there.jumps)
          else .error (refused (scalarText tree))
      | _ => .error (refused (scalarText tree))
  | none, .listStart _ => do
      let _ ← inside there node.mark
      .error (refused "sequence")
  | none, _ => do
      let _ ← inside there node.mark
      .error (refused "map")

mutual

/-- Reads a node without regard to the name of a variant. -/
def readBody (document : Document) : (fuel : Nat) → PlaceReader (Tree Source)
  | 0, _ => .error .tooManyAliases
  | fuel + 1, place => do
      let event ← document.eventAt place
      match event.kind with
      | .alias _ => do
          let there ← document.jump place
          let (tree, _, jumps) ← document.readNode fuel there
          return (tree, place.position + 1, jumps)
      | .scalar scalar => do
          let tree ← readScalar place event.mark scalar
          return (tree, place.position + 1, place.jumps)
      | .listStart _ => do
          let first ← inside place event.mark
          let (items, position, jumps) ← document.readItems fuel place.path 0 first
          return (.list none items, position, jumps)
      | .mapStart _ => do
          let first ← inside place event.mark
          let (held, position, jumps) ← document.readEntries fuel false {} first
          return (held.toTree, position, jumps)
      | .listEnd | .mapEnd => .error .tooManyAliases

/-- Reads a node. -/
def readNode (document : Document) : (fuel : Nat) → PlaceReader (Tree Source)
  | 0, _ => .error .tooManyAliases
  | fuel + 1, place => do
      let event ← document.eventAt place
      let (tree, position, jumps) ← document.readBody fuel place
      match variantName? event.kind with
      | some name => return (Tree.nested none (keysOf name) tree, position, jumps)
      | none => return (tree, position, jumps)

/-- Reads the items of the list at `parent` from the one with number `count` on. -/
def readItems (document : Document) :
    (fuel : Nat) → (parent : NodePath) → (count : Nat) → PlaceReader (List (Tree Source))
  | 0, _, _, _ => .error .tooManyAliases
  | fuel + 1, parent, count, place => do
      let event ← document.eventAt place
      match event.kind with
      | .listEnd => return ([], place.position + 1, place.jumps)
      | _ => do
          let (item, position, jumps) ←
            document.readNode fuel { place with path := .item parent count }
          let (items, stop, total) ←
            document.readItems fuel parent (count + 1) { place with position, jumps }
          return (item :: items, stop, total)

/-- Reads the entries of the map at the path of the place, and adds them to those that
    came before. At the root all keys are ordinary. -/
def readEntries (document : Document) :
    (fuel : Nat) → (isRoot : Bool) → (before : Held) → PlaceReader Held
  | 0, _, _, _ => .error .tooManyAliases
  | fuel + 1, isRoot, before, place => do
      let event ← document.eventAt place
      match event.kind with
      | .mapEnd => return (before, place.position + 1, place.jumps)
      | _ => do
          let ((key, name?), position, jumps) ← document.readKey place
          let path :=
            match name? with
            | some name => .key place.path name
            | none => .unnamed place.path
          let there := { place with position, jumps, path }
          if !isRoot && key == sourceKey then
            let (number, stop, total) ← document.readSource there
            document.readEntries fuel isRoot { before with source := some number }
              { place with position := stop, jumps := total }
          else
            let (value, stop, total) ← document.readNode fuel there
            let held :=
              if !isRoot && key == valueKey then { before with value := some value }
              else { before with entries := Entries.put key value before.entries }
            document.readEntries fuel isRoot held { place with position := stop, jumps := total }

end

/-- The entries of the map that a document is. A document without content has none. -/
def readRoot (document : Document) : Except Error (List (String × Tree Source)) := do
  let place : Place := { position := 0, depth := depthLimit, path := .root, jumps := 0 }
  let event ← document.eventAt place
  match event.kind with
  | .mapStart _ => do
      let first ← inside place event.mark
      let fuel := 2 * (depthLimit + 2) * (document.events.size + 2)
      let (held, _, _) ← document.readEntries fuel true {} first
      return held.entries
  | .scalar scalar =>
      if scalar.style == .plain && scalar.text == "" then return []
      else do
        let tree ← readScalar place event.mark scalar
        .error (mismatch place event.mark (scalarText tree) "a map")
  | _ => .error (mismatch place event.mark "sequence" "a map")

/-- The entries of a document that is the only one of its text. -/
def entries (document : Document) : Except Error (List (String × Tree Source)) := do
  let found ← if document.isEmpty then .ok [] else document.readRoot
  match document.error with
  | some error => .error error
  | none => if document.hasMore then .error .manyDocuments else .ok found

end Document

/-- The entries of the map that a YAML text writes. -/
def entriesOf (text : String) : Except Error (List (String × Tree Source)) :=
  (Document.ofText text).entries

end LastGood.Yaml
