import LastGood.Disk
import LastGood.Environment

/-!
# Machines

What a program finds outside of itself: a disk, the directory that relative paths start
from, and an environment.
-/

namespace LastGood

/-- Where a program runs. -/
structure Machine where
  /-- The disk. -/
  disk : Disk
  /-- The current directory. -/
  directory : Location := []
  /-- The environment. -/
  environment : Environment := []

namespace Machine

/-- The current directory as a path. -/
def directoryPath (machine : Machine) : Path :=
  ⟨"/" ++ String.intercalate "/" machine.directory⟩

/-- The machine with another disk. -/
def withDisk (machine : Machine) (disk : Disk) : Machine := { machine with disk }

/-- The text of the file at a path. -/
def readText (machine : Machine) (path : Path) : Except DiskFault String :=
  machine.disk.readText machine.directory path

/-- The machine with a text at a path. -/
def writeText (machine : Machine) (path : Path) (content : String) : Except DiskFault Machine :=
  (machine.disk.write machine.directory path content.toUTF8).map machine.withDisk

/-- The machine with a file moved from one path to another. -/
def rename (machine : Machine) (source target : Path) : Except DiskFault Machine :=
  (machine.disk.rename machine.directory source target).map machine.withDisk

/-- A path as seen from the root. -/
def absolute (machine : Machine) (path : Path) : Path :=
  Path.absolute machine.directoryPath path

/-- Another machine, unless the step to it fails. -/
def orSame (machine : Machine) (next : Except DiskFault Machine) : Machine :=
  match next with
  | .ok changed => changed
  | .error _ => machine

/-- The machine with bytes in the file at a path and with the directories above it, as
    far as they can be made. -/
def put (machine : Machine) (path : Path) (content : ByteArray) : Machine :=
  let prepared :=
    match path.parent? with
    | some parent =>
        if parent.text == "" then machine
        else machine.orSame
          ((machine.disk.makeDirectories machine.directory parent).map machine.withDisk)
    | none => machine
  prepared.orSame
    ((prepared.disk.write prepared.directory path content).map prepared.withDisk)

/-- The machine without the file at a path. -/
def remove (machine : Machine) (path : Path) : Machine :=
  machine.orSame ((machine.disk.remove machine.directory path).map machine.withDisk)

/-- The machine with a directory at a path. -/
def makeDirectory (machine : Machine) (path : Path) : Machine :=
  machine.orSame ((machine.disk.makeDirectories machine.directory path).map machine.withDisk)

/-- The machine without the empty directory at a path. -/
def removeDirectory (machine : Machine) (path : Path) : Machine :=
  machine.orSame ((machine.disk.removeDirectory machine.directory path).map machine.withDisk)

end Machine

end LastGood
