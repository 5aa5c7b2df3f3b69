import LastGood.Store

/-!
# The scripted store

A store whose outcomes are given in advance, one for each call. When they have run out it
keeps names: a load gives nothing new, a text is a name unless it starts with `bad`, and a
command renames. It stands for every store that a cache can have.
-/

namespace LastGood

/-- The outcomes of the calls to come, in order. -/
structure Script where
  /-- Of loads. -/
  loads : List (Outcome (Option (Snapshot String))) := []
  /-- Of writes. -/
  writes : List (Outcome (Snapshot String)) := []
  /-- Of locked writes. -/
  locks : List (Outcome (SaveResult String)) := []

namespace Script

/-- The snapshot of a name. -/
def snapshotOf (name : String) : Snapshot String := ⟨name, name, name⟩

/-- Gives the next outcome of a load. -/
def load (script : Script) : Called Script (Option (Snapshot String)) :=
  match script.loads with
  | outcome :: rest => ⟨outcome, { script with loads := rest }, []⟩
  | [] => ⟨.ok none, script, []⟩

/-- Whether a text is no name. -/
def isBad (content : String) : Bool := "bad".toList.isPrefixOf content.toList

/-- Gives the next outcome of a write. -/
def write (script : Script) (content : String) (_migrate : Bool) :
    Called Script (Snapshot String) :=
  match script.writes with
  | outcome :: rest => ⟨outcome, { script with writes := rest }, []⟩
  | [] =>
      if isBad content then ⟨.failed (.parse ("cannot parse " ++ content)), script, []⟩
      else ⟨.ok (snapshotOf content), script, []⟩

/-- Runs a command on the name of a snapshot, or on the empty name. -/
def applyTo (command : Command String) (base : Option (Snapshot String)) :
    Outcome (SaveResult String) :=
  match command.update ((base.map Snapshot.editable).getD "") with
  | (_, .refused error) => .failed error
  | (_, .panicked message) => .panicked message
  | (name, .accepted) =>
      match base with
      | some snapshot =>
          if name = snapshot.editable then .ok ⟨snapshot, .unchanged⟩
          else .ok ⟨snapshotOf name, .updated⟩
      | none => .ok ⟨snapshotOf name, .updated⟩

/-- Gives the next outcome of a locked write. -/
def writeWithLock (script : Script) (command : Command String)
    (base : Option (Snapshot String)) : Called Script (SaveResult String) :=
  match script.locks with
  | outcome :: rest => ⟨outcome, { script with locks := rest }, []⟩
  | [] => ⟨applyTo command base, script, []⟩

/-- Where a scripted store says it keeps its configuration. -/
def location : Path := ⟨"/fake/confcache.yaml"⟩

/-- The command that sets a name, which may not be empty. -/
def rename (name : String) : Command String where
  update _ := if name = "" then Command.refusal name "empty name" else (name, .accepted)

end Script

/-- The scripted store. -/
def scriptedStore : Store Script String where
  fallback := ""
  load := Script.load
  write := Script.write
  writeWithLock := Script.writeWithLock
  location _ := Script.location

end LastGood
