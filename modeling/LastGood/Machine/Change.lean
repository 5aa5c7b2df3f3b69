import LastGood.Machine

/-!
# Changes from outside

What others may do to a machine between two operations of the program: to files, to
directories, and to the environment. A change that the disk refuses is no change. Each
change makes known to whoever watches the directory what happened to which path.
-/

namespace LastGood

/-- What happened to an entry of a directory. -/
inductive NoticeKind where
  /-- It came into being. -/
  | created
  /-- Its content is another one, or another entry took its place. -/
  | modified
  /-- It is gone. -/
  | removed
  /-- It was looked at. -/
  | accessed
  /-- Something else, or it is not known what. -/
  | other
  deriving DecidableEq, Repr

/-- What the system makes known. -/
structure Notice where
  /-- What happened. -/
  kind : NoticeKind
  /-- To which paths. A name that is given away is named together with the new one. -/
  paths : List Path
  deriving DecidableEq, Repr

/-- A change from outside. -/
inductive Change where
  /-- Bytes are written to a file, and directories above it are made. -/
  | put (path : Path) (content : ByteArray)
  /-- Bytes are written to one file, which then takes the place of another. -/
  | replace (aside path : Path) (content : ByteArray)
  /-- A file is removed. -/
  | remove (path : Path)
  /-- A directory is made. -/
  | makeDirectory (path : Path)
  /-- An empty directory is removed. -/
  | removeDirectory (path : Path)
  /-- Variables are removed from the environment and others are set. -/
  | setEnvironment (unset : List String) (set : List (String × String))

namespace Change

/-- The machine after a change. -/
def apply (machine : Machine) : Change → Machine
  | put path content => machine.put path content
  | replace aside path content =>
      let written := machine.put aside content
      written.orSame (written.rename aside path)
  | remove path => machine.remove path
  | makeDirectory path => machine.makeDirectory path
  | removeDirectory path => machine.removeDirectory path
  | setEnvironment unset set =>
      let without :=
        unset.foldl (fun environment name => environment.unset name) machine.environment
      { machine with
        environment :=
          set.foldl (fun environment entry => environment.set entry.1 entry.2) without }

/-- Whether something stands at a path. -/
def isThere (machine : Machine) (path : Path) : Bool :=
  match machine.disk.lookup machine.directory path with
  | .ok _ => true
  | .error _ => false

/-- Whether a file with these bytes stands at a path. -/
def holds (machine : Machine) (path : Path) (content : ByteArray) : Bool :=
  match machine.disk.read machine.directory path with
  | .ok found => found == content
  | .error _ => false

/-- What a change makes known. -/
def notices (machine : Machine) (change : Change) : List Notice :=
  let after := change.apply machine
  let came (path : Path) : NoticeKind := if isThere machine path then .modified else .created
  match change with
  | put path content => if holds after path content then [⟨came path, [path]⟩] else []
  | replace aside path content =>
      ⟨came aside, [aside]⟩ ::
        (if holds after path content then [⟨.modified, [path]⟩, ⟨.modified, [aside, path]⟩] else [])
  | remove path | removeDirectory path =>
      if isThere machine path && !isThere after path then [⟨.removed, [path]⟩] else []
  | makeDirectory path =>
      if !isThere machine path && isThere after path then [⟨.created, [path]⟩] else []
  | setEnvironment .. => []

end Change

end LastGood
