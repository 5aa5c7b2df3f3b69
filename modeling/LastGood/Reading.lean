import LastGood.Tree

/-!
# Reading typed values from trees

A reader turns a tree into a value or says what is wrong with it. A fault names the
path of keys and positions from the root to the offending node, the mark of that
node, and the cause; the wording of causes belongs to the formats that report them.

Maps are read entry by entry in the order they have, so that of several faults the
first entry's is reported, and unknown keys are skipped. A record may also be
written as a list of its fields in their declared order; fields that are left out
keep their blank values unless they are required.
-/

namespace LastGood

/-- What was found where something else was expected. -/
inductive Found where
  /-- No value. -/
  | null
  /-- A truth value. -/
  | bool (value : Bool)
  /-- A number. -/
  | number (value : Number)
  /-- A text. -/
  | text (value : String)
  /-- A list. -/
  | list
  /-- A map. -/
  | map
  deriving DecidableEq, Repr

/-- Why a tree cannot be read. -/
inductive Cause where
  /-- The node has the wrong kind. -/
  | wrongKind (found : Found) (expected : String)
  /-- The node has the right kind and a value outside the type. -/
  | wrongValue (found : Found) (expected : String)
  /-- A list has the wrong number of items. -/
  | wrongLength (length : Nat) (expected : String)
  /-- A name is none of the known ones. -/
  | unknownVariant (name : String) (known : List String)
  /-- A required field is absent. -/
  | missingField (name : String)
  deriving DecidableEq, Repr

/-- A cause together with the place it was found at. -/
structure Fault (α : Type) where
  /-- Keys and positions from the root, outermost first. -/
  path : List String
  /-- The mark of the node at that place. -/
  mark : α
  /-- What is wrong there. -/
  cause : Cause
  deriving DecidableEq, Repr

/-- The same fault seen from one level further up. -/
def Fault.under {α : Type} (key : String) (fault : Fault α) : Fault α :=
  { fault with path := key :: fault.path }

/-- A reader of values of type `β`. -/
abbrev Reader (α β : Type) := Tree α → Except (Fault α) β

/-- How strictly a format reads records that are written as lists. -/
structure Strictness where
  /-- Whether items behind the last field are a fault. -/
  refusesExtraItems : Bool
  deriving DecidableEq, Repr

namespace Tree

variable {α β : Type}

/-- The kind of a node, with its value if it is a scalar. -/
def found : Tree α → Found
  | null _ => .null
  | bool _ value => .bool value
  | number _ value => .number value
  | text _ value => .text value
  | list .. => .list
  | map .. => .map

/-- The fault of a node with the given cause. -/
def fault (tree : Tree α) (cause : Cause) : Fault α := ⟨[], tree.mark, cause⟩

/-- Refuses a node for its kind. -/
def refused (tree : Tree α) (expected : String) : Except (Fault α) β :=
  .error (tree.fault (.wrongKind tree.found expected))

/-- Reads a text. -/
def readText (expected : String) : Reader α String
  | text _ value => .ok value
  | tree => tree.refused expected

/-- Reads a truth value. -/
def readBool : Reader α Bool
  | bool _ value => .ok value
  | tree => tree.refused "a boolean"

/-- Reads a whole number below `limit`. Numbers beyond sixty-four bits are refused for
    their kind, numbers outside the limit for their value. -/
def readBelow (limit : Nat) (expected : String) : Reader α { n : Nat // n < limit }
  | tree@(number _ (.unsigned n)) =>
      if fits : n < limit then .ok ⟨n, fits⟩
      else if n < Number.wordBound then .error (tree.fault (.wrongValue tree.found expected))
      else tree.refused expected
  | tree@(number _ (.signed n)) =>
      if fits : 0 ≤ n ∧ n.toNat < limit then .ok ⟨n.toNat, fits.2⟩
      else if -(Number.signedWordBound : Int) ≤ n ∧ n < Number.signedWordBound then
        .error (tree.fault (.wrongValue tree.found expected))
      else tree.refused expected
  | tree => tree.refused expected

/-- Reads a word of sixteen bits. -/
def readUInt16 (tree : Tree α) : Except (Fault α) UInt16 :=
  (tree.readBelow UInt16.size "u16").map fun n => UInt16.ofNatLT n.1 n.2

/-- Reads a word of thirty-two bits. -/
def readUInt32 (tree : Tree α) : Except (Fault α) UInt32 :=
  (tree.readBelow UInt32.size "u32").map fun n => UInt32.ofNatLT n.1 n.2

/-- Reads a word of sixty-four bits. -/
def readUInt64 (tree : Tree α) : Except (Fault α) UInt64 :=
  (tree.readBelow UInt64.size "u64").map fun n => UInt64.ofNatLT n.1 n.2

/-- Reads nothing from an absent value, and a value otherwise. -/
def readOptional (reader : Reader α β) : Reader α (Option β)
  | null _ => .ok none
  | tree => (reader tree).map some

/-- Reads the items of a list, the first of which stands at position `start`. -/
def readItems (reader : Reader α β) (start : Nat) : List (Tree α) → Except (Fault α) (List β)
  | [] => .ok []
  | item :: rest => do
      let value ← (reader item).mapError (Fault.under (toString start))
      let values ← readItems reader (start + 1) rest
      return value :: values

/-- Reads a list. -/
def readList (reader : Reader α β) : Reader α (List β)
  | list _ items => readItems reader 0 items
  | tree => tree.refused "a sequence"

end Tree

/-- One field of a record of type `β`: its key, whether it must be present, and how a
    tree read under that key changes the record. -/
structure Field (α β : Type) where
  /-- The key. -/
  key : String
  /-- Whether the record cannot be read without it. -/
  required : Bool
  /-- The record with this field read from the tree. -/
  read : β → Tree α → Except (Fault α) β

/-- How a record of type `β` is read. -/
structure Record (α β : Type) where
  /-- What the record is called in faults. -/
  name : String
  /-- The record before any field has been read. -/
  blank : β
  /-- The fields in their declared order. -/
  fields : List (Field α β)

namespace Record

variable {α β : Type}

/-- The field with a key. -/
def field? (record : Record α β) (key : String) : Option (Field α β) :=
  record.fields.find? fun field => field.key == key

/-- Reads the entries of a map in their order, skipping unknown keys. -/
def readEntries (record : Record α β) (value : β) :
    List (String × Tree α) → Except (Fault α) β
  | [] => .ok value
  | (key, tree) :: rest =>
      match record.field? key with
      | none => record.readEntries value rest
      | some field => do
          let next ← (field.read value tree).mapError (Fault.under key)
          record.readEntries next rest

/-- The first required field without an entry. -/
def missing? (record : Record α β) (entries : List (String × Tree α)) : Option String :=
  (record.fields.find? fun field =>
    field.required && (Entries.get? field.key entries).isNone).map Field.key

/-- Reads items as fields in their declared order. When the items run out, the fields
    that are left keep their blank values, unless one of them is required. -/
def readPositions (record : Record α β) (tree : Tree α) (value : β) (position : Nat) :
    List (Field α β) → List (Tree α) → Except (Fault α) (β × List (Tree α))
  | [], items => .ok (value, items)
  | field :: fields, item :: items => do
      let next ← (field.read value item).mapError (Fault.under (toString position))
      record.readPositions tree next (position + 1) fields items
  | field :: fields, [] =>
      if field.required then
        let expected := record.name ++ " with " ++ toString record.fields.length ++ " elements"
        .error (tree.fault (.wrongLength position expected))
      else record.readPositions tree value (position + 1) fields []

/-- Reads a record from a map or from a list of its fields. -/
def read (record : Record α β) (strictness : Strictness) : Reader α β
  | tree@(.map _ entries) => do
      let value ← record.readEntries record.blank entries
      match record.missing? entries with
      | none => return value
      | some key => .error (tree.fault (.missingField key))
  | tree@(.list _ items) => do
      let (value, extra) ← record.readPositions tree record.blank 0 record.fields items
      if strictness.refusesExtraItems && !extra.isEmpty then
        .error (tree.fault (.wrongLength items.length "fewer elements in array"))
      else return value
  | tree => tree.refused record.name

end Record

end LastGood
