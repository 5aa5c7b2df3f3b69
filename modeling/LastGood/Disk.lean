import LastGood.Path

/-!
# Disks

A disk is a set of files and directories, each known by the names that lead to it from
the root. A path is followed name by name, and everything but its last name must lead to
a directory. Operations fail with one of a few reasons and then change nothing.
-/

namespace LastGood

/-- The names that lead from the root to an entry. -/
abbrev Location := List String

/-- What stands at a location. -/
inductive Item where
  /-- A file and its bytes. -/
  | file (content : ByteArray)
  /-- A directory. -/
  | directory

/-- Why an operation on a disk fails. -/
inductive DiskFault where
  /-- Nothing is there. -/
  | missing
  /-- A directory is there. -/
  | isDirectory
  /-- Something else than a directory is there. -/
  | notDirectory
  /-- The directory is not empty. -/
  | notEmpty
  /-- The name cannot be given away. -/
  | busy
  /-- A name is longer than names may be. -/
  | nameTooLong
  /-- The path holds a zero character. -/
  | zeroInPath
  /-- The bytes are not text. -/
  | notText
  /-- Any other reason that a system gives. -/
  | other (reason : String)
  deriving DecidableEq, Repr

namespace DiskFault

/-- The text of a reason. -/
def text : DiskFault → String
  | missing => "No such file or directory (os error 2)"
  | isDirectory => "Is a directory (os error 21)"
  | notDirectory => "Not a directory (os error 20)"
  | notEmpty => "Directory not empty (os error 39)"
  | busy => "Device or resource busy (os error 16)"
  | nameTooLong => "File name too long (os error 36)"
  | zeroInPath => "file name contained an unexpected NUL byte"
  | notText => "stream did not contain valid UTF-8"
  | other reason => reason

end DiskFault

/-- The entries of a disk. The root is there without being listed. -/
structure Disk where
  /-- The entries, in no particular order. -/
  entries : List (Location × Item)

namespace Disk

/-- The disk with nothing but its root. -/
def empty : Disk := ⟨[]⟩

/-- What stands at a location. -/
def get? (disk : Disk) : Location → Option Item
  | [] => some .directory
  | location => (disk.entries.find? fun entry => entry.1 == location).map Prod.snd

/-- The disk with something else at a location. -/
def put (disk : Disk) (location : Location) (item : Item) : Disk :=
  ⟨(location, item) :: disk.entries.filter fun entry => entry.1 != location⟩

/-- The disk with nothing at a location. -/
def erase (disk : Disk) (location : Location) : Disk :=
  ⟨disk.entries.filter fun entry => entry.1 != location⟩

/-- What was put at a location is there. -/
theorem get?_put_self {location : Location} (inner : location ≠ []) (disk : Disk) (item : Item) :
    (disk.put location item).get? location = some item := by
  cases location with
  | nil => exact absurd rfl inner
  | cons name rest => simp [put, get?]

/-- Putting something at one location leaves all others alone. -/
theorem get?_put_of_ne {location other : Location} (different : other ≠ location) (disk : Disk)
    (item : Item) : (disk.put location item).get? other = disk.get? other := by
  cases other with
  | nil => rfl
  | cons name rest =>
      have unequal : (location == name :: rest) = false := by
        simpa using fun same => different (Eq.symm same)
      have kept : ∀ entry : Location × Item,
          decide ((entry.1 != location) = true ∧ (entry.1 == name :: rest) = true) =
            (entry.1 == name :: rest) := by
        intro entry
        by_cases same : entry.1 = name :: rest
        · simp [same, different]
        · simp [same]
      simp only [put, get?, List.find?_cons, unequal, List.find?_filter, kept]

/-- The longest name of an entry, in bytes. -/
def nameLimit : Nat := 255

/-- The longest path, in bytes. -/
def pathLimit : Nat := 4095

/-- The names of a path, with single dots where they are written. -/
def names (path : Path) : List String :=
  (Text.pieces '/' path.text.toList).filterMap fun piece =>
    if piece.isEmpty then none else some (String.ofList piece)

/-- Follows one name from a location. -/
def enter (disk : Disk) (location : Location) (name : String) : Except DiskFault Location :=
  match disk.get? location with
  | none => .error .missing
  | some (.file _) => .error .notDirectory
  | some .directory =>
      if name == "." then .ok location
      else if name == ".." then .ok location.dropLast
      else if nameLimit < name.utf8ByteSize then .error .nameTooLong
      else .ok (location ++ [name])

/-- Follows names from a location. What they lead to need not be there, but all on the
    way to it must be. -/
def follow (disk : Disk) (location : Location) : List String → Except DiskFault Location
  | [] => .ok location
  | name :: rest => do
      let next ← disk.enter location name
      disk.follow next rest

/-- The locations that names lead through, with the one that they start from, as if all
    of them were directories. -/
def waypoints (location : Location) : List String → List Location
  | [] => [location]
  | name :: rest =>
      let next :=
        if name == "." then location
        else if name == ".." then location.dropLast
        else location ++ [name]
      location :: waypoints next rest

/-- The names of a path and the location that they start from. -/
def startOf (directory : Location) (path : Path) : Except DiskFault (Location × List String) :=
  if path.text.toList.contains '\x00' then .error .zeroInPath
  else if path.text == "" then .error .missing
  else if pathLimit < path.text.utf8ByteSize then .error .nameTooLong
  else .ok (if path.isAbsolute then [] else directory, names path)

/-- The location of a path as seen from a directory. -/
def locate (disk : Disk) (directory : Location) (path : Path) : Except DiskFault Location := do
  let (start, names) ← startOf directory path
  disk.follow start names

/-- What stands at a path. A slash at the end asks for a directory. -/
def lookup (disk : Disk) (directory : Location) (path : Path) : Except DiskFault Item := do
  let location ← disk.locate directory path
  match disk.get? location with
  | none => .error .missing
  | some .directory => .ok .directory
  | some (.file content) => if path.endsInSlash then .error .notDirectory else .ok (.file content)

/-- The bytes of the file at a path. -/
def read (disk : Disk) (directory : Location) (path : Path) : Except DiskFault ByteArray := do
  match ← disk.lookup directory path with
  | .file content => return content
  | .directory => .error .isDirectory

/-- The text of the file at a path. -/
def readText (disk : Disk) (directory : Location) (path : Path) : Except DiskFault String := do
  let content ← disk.read directory path
  match String.fromUTF8? content with
  | some text => return text
  | none => .error .notText

/-- Whether there is a file at a path. Every file on a disk may be read. -/
def isFile (disk : Disk) (directory : Location) (path : Path) : Bool :=
  match disk.read directory path with
  | .ok _ => true
  | .error _ => false

/-- Whether a name leads somewhere else than into the directory. -/
def isStep (name : String) : Bool := name == "." || name == ".."

/-- The location of a path whose last name need not be there, and that name. -/
def locateLast (disk : Disk) (directory : Location) (path : Path) :
    Except DiskFault (Location × Option String) := do
  let (start, names) ← startOf directory path
  let parent ← disk.follow start names.dropLast
  match disk.get? parent with
  | some .directory => return (parent, names.getLast?)
  | some (.file _) => .error .notDirectory
  | none => .error .missing

/-- The disk with a file of these bytes at a path. -/
def write (disk : Disk) (directory : Location) (path : Path) (content : ByteArray) :
    Except DiskFault Disk := do
  match ← disk.locateLast directory path with
  | (_, none) => .error .isDirectory
  | (parent, some name) =>
      if isStep name || path.endsInSlash then .error .isDirectory
      else
        let location ← disk.enter parent name
        match disk.get? location with
        | some .directory => .error .isDirectory
        | _ => return disk.put location (.file content)

/-- The disk with the file at one path moved to another one, where it takes the place of
    what file was there. -/
def rename (disk : Disk) (directory : Location) (source target : Path) : Except DiskFault Disk := do
  let (sourceParent, sourceName) ← disk.locateLast directory source
  let (targetParent, targetName) ← disk.locateLast directory target
  match sourceName, targetName with
  | some oldName, some newName =>
      if isStep oldName || isStep newName then .error .busy
      else
        let old ← disk.enter sourceParent oldName
        let new ← disk.enter targetParent newName
        match disk.get? old with
        | none => .error .missing
        | some .directory => .error .isDirectory
        | some (.file content) =>
            if source.endsInSlash || target.endsInSlash then .error .notDirectory
            else
              match disk.get? new with
              | some .directory => .error .isDirectory
              | _ => return (disk.erase old).put new (.file content)
  | _, _ => .error .busy

/-- The disk with directories along names, as far as they are not there yet. -/
def makeAlong (disk : Disk) (location : Location) : List String → Except DiskFault Disk
  | [] => .ok disk
  | name :: rest => do
      let next ← disk.enter location name
      match disk.get? next with
      | some (.file _) => .error .notDirectory
      | some .directory => disk.makeAlong next rest
      | none => (disk.put next .directory).makeAlong next rest

/-- The disk with the directory at a path and all directories above it. -/
def makeDirectories (disk : Disk) (directory : Location) (path : Path) : Except DiskFault Disk := do
  let (start, names) ← startOf directory path
  disk.makeAlong start names

/-- The disk without the file at a path. -/
def remove (disk : Disk) (directory : Location) (path : Path) : Except DiskFault Disk := do
  match ← disk.lookup directory path with
  | .directory => .error .isDirectory
  | .file _ =>
      let location ← disk.locate directory path
      return disk.erase location

/-- The disk without the empty directory at a path. -/
def removeDirectory (disk : Disk) (directory : Location) (path : Path) :
    Except DiskFault Disk := do
  match ← disk.lookup directory path with
  | .file _ => .error .notDirectory
  | .directory =>
      let location ← disk.locate directory path
      if disk.entries.any fun entry => entry.1 != location && location.isPrefixOf entry.1 then
        .error .notEmpty
      else return disk.erase location

end Disk

end LastGood
