import LastGood.Choice

/-!
# Snapshots

A snapshot is one configuration in two forms that were made together: what the server
runs on, and what is edited and saved again. With them goes the checksum of the text
that both were made from. The pair is installed as a whole or not at all.

A locked write says whether it changed anything. The validity of a cache is that of
its latest load, which is a matter apart from the snapshot it serves.
-/

namespace LastGood

/-- The two forms of a configuration and the checksum of their text. -/
structure Snapshot (C : Type) where
  /-- What running components use. -/
  runtime : C
  /-- What is edited and saved again. -/
  editable : C
  /-- The checksum of the text behind both. -/
  checksum : String
  deriving DecidableEq, Repr

/-- What a locked write did to the persisted configuration. -/
inductive SaveState where
  /-- The configuration changed and was persisted. -/
  | updated
  /-- The configuration was left as it was, and nothing was written. -/
  | unchanged
  deriving DecidableEq, Repr

namespace SaveState

/-- The name of a state. -/
def name : SaveState → String
  | .updated => "updated"
  | .unchanged => "unchanged"

/-- The states under their names. -/
def known : List (String × SaveState) :=
  [("updated", .updated), ("unchanged", .unchanged)]

/-- A state as a tree. -/
def toTree {α : Type} (mark : α) (state : SaveState) : Tree α := .text mark state.name

/-- Reads a state. -/
def read {α : Type} : Reader α SaveState := Tree.readChoice known

end SaveState

/-- The outcome of a locked write: the snapshot to install, and what was done. -/
structure SaveResult (C : Type) where
  /-- The snapshot that is now the persisted one. -/
  snapshot : Snapshot C
  /-- Whether it was written. -/
  state : SaveState
  deriving DecidableEq, Repr

/-- Whether the latest load succeeded. -/
inductive ConfigValidity where
  /-- It did, or nothing was ever loaded. -/
  | valid
  /-- It failed with this message. -/
  | invalid (message : String)
  deriving DecidableEq, Repr

namespace ConfigValidity

/-- Whether there is no failure. -/
def isValid : ConfigValidity → Bool
  | .valid => true
  | .invalid _ => false

/-- The message of the failure. -/
def errorMessage? : ConfigValidity → Option String
  | .valid => none
  | .invalid message => some message

/-- A validity as a tree: its name under `status`, the message of a failure beside it. -/
def toTree {α : Type} (mark : α) : ConfigValidity → Tree α
  | .valid => .map mark [("status", .text mark "valid")]
  | .invalid message =>
      .map mark [("status", .text mark "invalid"), ("message", .text mark message)]

/-- The names of the two validities, with whether a message belongs to them. -/
def known : List (String × Bool) := [("valid", false), ("invalid", true)]

/-- What the form of a validity is called. -/
def formName : String := "adjacently tagged enum ConfigValidity"

/-- Reads the content of a validity whose name is known. -/
def readContent {α : Type} (hasMessage : Bool) (content : Tree α) :
    Except (Fault α) ConfigValidity :=
  if hasMessage then (content.readText "a string").map .invalid
  else
    match content with
    | .null _ => .ok .valid
    | other => other.refused "unit variant ConfigValidity::Valid"

/-- Reads a validity from a map with its name and its message, or from a list of the
    two. -/
def read {α : Type} : Reader α ConfigValidity
  | tree@(.map _ entries) =>
      match Entries.get? "status" entries with
      | none => .error (tree.fault (.missingField "status"))
      | some tag => do
          let hasMessage ← tag.readChoice known
          match Entries.get? "message" entries with
          | some content => readContent hasMessage content
          | none =>
              if hasMessage then .error (tree.fault (.missingField "message")) else return .valid
  | tree@(.list _ items) =>
      match items with
      | [] => .error (tree.fault (.wrongLength 0 formName))
      | tag :: rest => do
          let hasMessage ← tag.readChoice known
          match rest with
          | [] => .error (tree.fault (.wrongLength 1 formName))
          | content :: extra => do
              let validity ← readContent hasMessage content
              if extra.isEmpty then return validity
              else .error (tree.fault (.wrongLength items.length "fewer elements in array"))
  | tree => tree.refused formName

end ConfigValidity

end LastGood
