import LastGood.Machine.Change
import LastGood.Proofs.Disk.Beside

/-!
# Changes from outside that spare a location

Others may write, replace, make and remove what they like. As long as no path that they use
leads to a location or through it, and they do not remove the directory that holds it, two
machines that differ at that location at most still do so afterwards.
-/

namespace LastGood

/-- Two machines whose disks differ at one location at most. -/
structure Machine.SameBeside (location : Location) (machine other : Machine) : Prop where
  /-- The disks do. -/
  disk : Disk.SameBeside location machine.disk other.disk
  /-- The current directory is the same. -/
  directory : other.directory = machine.directory
  /-- The environment is the same. -/
  environment : other.environment = machine.environment

namespace Machine

/-- What is tried on the disk of a machine leaves its current directory as it is. -/
theorem or_same_directory (machine : Machine) (attempt : Except DiskFault Disk) :
    (machine.orSame (attempt.map machine.withDisk)).directory = machine.directory := by
  cases attempt <;> rfl

/-- Putting bytes into a file leaves the current directory as it is. -/
theorem put_directory (machine : Machine) (path : Path) (content : ByteArray) :
    (machine.put path content).directory = machine.directory := by
  unfold Machine.put
  cases path.parent? with
  | none => exact or_same_directory ..
  | some parent =>
    simp only
    split
    · exact or_same_directory ..
    · exact (or_same_directory ..).trans (or_same_directory ..)

end Machine

namespace Machine.SameBeside

variable {location : Location} {machine other : Machine}

/-- What is done to both disks, or refused by both, leaves them so. -/
theorem orSame (beside : machine.SameBeside location other)
    {attempt attempt' : Except DiskFault Disk} (ends : Disk.SameEnd location attempt attempt') :
    (machine.orSame (attempt.map machine.withDisk)).SameBeside location
      (other.orSame (attempt'.map other.withDisk)) := by
  cases ends with
  | done disks => exact ⟨disks, beside.directory, beside.environment⟩
  | refused fault => exact beside

/-- Bytes are put into a file on both machines, or on none. -/
theorem put (beside : machine.SameBeside location other) {path : Path} (content : ByteArray)
    (apart : location ∉ Disk.route machine.directory path)
    (above : ∀ parent, path.parent? = some parent →
      location ∉ Disk.route machine.directory parent) :
    (machine.put path content).SameBeside location (other.put path content) := by
  have written : ∀ prepared prepared' : Machine, prepared.SameBeside location prepared' →
      prepared.directory = machine.directory →
      (prepared.orSame ((prepared.disk.write prepared.directory path content).map
        prepared.withDisk)).SameBeside location
      (prepared'.orSame ((prepared'.disk.write prepared'.directory path content).map
        prepared'.withDisk)) := by
    intro prepared prepared' same directory
    refine same.orSame ?_
    rw [same.directory, directory]
    exact same.disk.write (fun member => apart (Disk.mem_route_of_approach member)) content
  unfold Machine.put
  cases found : path.parent? with
  | none => exact written machine other beside rfl
  | some parent =>
    simp only
    split
    · exact written machine other beside rfl
    · have made : Disk.SameEnd location (machine.disk.makeDirectories machine.directory parent)
          (other.disk.makeDirectories other.directory parent) := by
        rw [beside.directory]
        exact beside.disk.makeDirectories (above parent found)
      exact written _ _ (beside.orSame made) (or_same_directory ..)

/-- A file is moved on both machines, or on none. -/
theorem rename (beside : machine.SameBeside location other) {source target : Path}
    (from_apart : location ∉ Disk.route machine.directory source)
    (to_apart : location ∉ Disk.route machine.directory target) :
    (machine.orSame (machine.rename source target)).SameBeside location
      (other.orSame (other.rename source target)) := by
  refine beside.orSame ?_
  rw [beside.directory]
  exact beside.disk.rename (beside.disk.agree from_apart) (beside.disk.agree to_apart)

end Machine.SameBeside

namespace Change

/-- The paths that a change goes along. -/
def paths : Change → List Path
  | put path _ => path :: path.parent?.toList
  | replace aside path _ => aside :: path :: aside.parent?.toList
  | remove path | makeDirectory path | removeDirectory path => [path]
  | setEnvironment _ _ => []

/-- A change does not touch a location, nor the directory that holds it. -/
structure Avoids (directory location : Location) (change : Change) : Prop where
  /-- None of its paths leads to the location or through it. -/
  routes : ∀ path ∈ change.paths, location ∉ Disk.route directory path
  /-- It does not remove the directory that holds the location. -/
  holder : ∀ path, change = .removeDirectory path →
    (Disk.route directory path).getLast? ≠ some location.dropLast

/-- What a change from outside does to the disk of a machine. -/
def onDisk (machine : Machine) (change : Change) (disk : Disk) : Disk :=
  (change.apply (machine.withDisk disk)).disk

/-- A change that avoids a location takes machines that differ there at most to machines that
differ there at most. -/
theorem apply_beside {change : Change} {location : Location} {machine other : Machine}
    (beside : machine.SameBeside location other)
    (avoids : change.Avoids machine.directory location) :
    (change.apply machine).SameBeside location (change.apply other) := by
  have apart := avoids.routes
  cases change with
  | put path content =>
    refine beside.put content (apart path (by simp [paths])) fun parent found => ?_
    exact apart parent (by simp [paths, found])
  | replace aside path content =>
    have put := beside.put content (apart aside (by simp [paths])) fun parent found =>
      apart parent (by simp [paths, found])
    refine put.rename ?_ ?_
    · rw [Machine.put_directory]
      exact apart aside (by simp [paths])
    · rw [Machine.put_directory]
      exact apart path (by simp [paths])
  | remove path =>
    refine beside.orSame ?_
    rw [beside.directory]
    exact beside.disk.remove (apart path (by simp [paths]))
  | makeDirectory path =>
    refine beside.orSame ?_
    rw [beside.directory]
    exact beside.disk.makeDirectories (apart path (by simp [paths]))
  | removeDirectory path =>
    refine beside.orSame ?_
    rw [beside.directory]
    exact beside.disk.removeDirectory (apart path (by simp [paths])) (avoids.holder path rfl)
  | setEnvironment unset set =>
    exact ⟨beside.disk, beside.directory, by simp only [apply, beside.environment]⟩

/-- A change that avoids a location spares it. -/
theorem Avoids.spares {change : Change} {location : Location} {machine : Machine}
    (avoids : change.Avoids machine.directory location) :
    Disk.Spares location (change.onDisk machine) := by
  intro disk other beside
  have machines : (machine.withDisk disk).SameBeside location (machine.withDisk other) :=
    ⟨beside, rfl, rfl⟩
  exact (apply_beside machines avoids).disk

end Change

end LastGood
