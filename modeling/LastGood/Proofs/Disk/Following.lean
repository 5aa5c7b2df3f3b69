import LastGood.Disk

/-!
# Following paths on a changing disk

A path is followed through directories alone. So a change that takes no directory away
leaves every path that led somewhere leading to the same location; in particular putting a
file where no directory is, and taking a file away, do so.

The last name of a path that may be written to leads from its parent directory to a
location of its own. A file at that location is what reading the path finds.
-/

namespace LastGood.Disk

/-- Every directory of the one disk is a directory of the other. -/
def KeepsDirectories (disk other : Disk) : Prop :=
  ∀ location : Location, disk.get? location = some .directory →
    other.get? location = some .directory

/-- Erasing at one location leaves all others alone. -/
theorem get?_erase_of_ne {location other : Location} (different : other ≠ location)
    (disk : Disk) : (disk.erase location).get? other = disk.get? other := by
  cases other with
  | nil => rfl
  | cons name rest =>
    have kept : ∀ entry : Location × Item,
        decide ((entry.1 != location) = true ∧ (entry.1 == name :: rest) = true) =
          (entry.1 == name :: rest) := by
      intro entry
      by_cases same : entry.1 = name :: rest
      · simp [same, different]
      · simp [same]
    simp only [erase, get?, List.find?_filter, kept]

/-- Nothing is left at an erased location. -/
theorem get?_erase_self {location : Location} (inner : location ≠ []) (disk : Disk) :
    (disk.erase location).get? location = none := by
  cases location with
  | nil => exact absurd rfl inner
  | cons name rest => simp [erase, get?, List.find?_filter]

/-- Putting something where no directory is takes no directory away. -/
theorem put_keeps_directories (disk : Disk) (location : Location) (item : Item)
    (free : disk.get? location ≠ some .directory) :
    disk.KeepsDirectories (disk.put location item) := by
  intro other found
  have different : other ≠ location := fun same => free (same ▸ found)
  rw [get?_put_of_ne different]
  exact found

/-- Erasing what is no directory takes no directory away. -/
theorem erase_keeps_directories (disk : Disk) (location : Location)
    (free : disk.get? location ≠ some .directory) :
    disk.KeepsDirectories (disk.erase location) := by
  intro other found
  have different : other ≠ location := fun same => free (same ▸ found)
  rw [get?_erase_of_ne different]
  exact found

/-- A name is entered from a directory only. -/
theorem directory_of_enter {disk : Disk} {location target : Location} {name : String}
    (entered : disk.enter location name = .ok target) :
    disk.get? location = some .directory := by
  unfold enter at entered
  cases found : disk.get? location with
  | none => simp [found] at entered
  | some item =>
    cases item with
    | file content => simp [found] at entered
    | directory => rfl

/-- A name that is no step leads into the directory. -/
theorem enter_name {disk : Disk} {location target : Location} {name : String}
    (named : isStep name = false) (entered : disk.enter location name = .ok target) :
    target = location ++ [name] := by
  have directory := directory_of_enter entered
  simp only [isStep, Bool.or_eq_false_iff] at named
  simp only [enter, directory, named] at entered
  by_cases long : nameLimit < name.utf8ByteSize
  · simp [long] at entered
  · simpa [long] using entered.symm

/-- An entry of a directory is entered by its own name only. -/
theorem name_of_enter {disk : Disk} {location : Location} {name other : String}
    (entered : disk.enter location other = .ok (location ++ [name])) : name = other := by
  have directory := directory_of_enter entered
  have longer : (location ++ [name]).length = location.length + 1 := by simp
  simp only [enter, directory] at entered
  split at entered
  · have same := congrArg List.length (Except.ok.inj entered)
    omega
  · split at entered
    · have same := congrArg List.length (Except.ok.inj entered)
      rw [List.length_dropLast] at same
      omega
    · split at entered
      · cases entered
      · have same := List.append_cancel_left (Except.ok.inj entered)
        exact (List.cons.inj same).1.symm

/-- What can be entered can still be entered when no directory was taken away. -/
theorem enter_kept {disk other : Disk} (kept : disk.KeepsDirectories other)
    {location target : Location} {name : String}
    (entered : disk.enter location name = .ok target) :
    other.enter location name = .ok target := by
  have directory := directory_of_enter entered
  simp only [enter, directory] at entered
  simp only [enter, kept location directory]
  exact entered

/-- Names still lead where they led when no directory was taken away. -/
theorem follow_kept {disk other : Disk} (kept : disk.KeepsDirectories other)
    {location target : Location} {names : List String}
    (followed : disk.follow location names = .ok target) :
    other.follow location names = .ok target := by
  induction names generalizing location with
  | nil => exact followed
  | cons name rest ih =>
    cases entered : disk.enter location name with
    | error fault => simp [follow, entered, bind, Except.bind] at followed
    | ok next =>
      simp only [follow, entered, bind, Except.bind] at followed
      simp only [follow, enter_kept kept entered, bind, Except.bind]
      exact ih followed

/-- Following names in two stretches goes on from where the first one leads. -/
theorem follow_append (disk : Disk) (location : Location) (names others : List String) :
    disk.follow location (names ++ others) =
      (disk.follow location names).bind fun reached => disk.follow reached others := by
  induction names generalizing location with
  | nil => rfl
  | cons name rest ih =>
    simp only [List.cons_append, follow, bind, Except.bind]
    cases disk.enter location name with
    | error fault => rfl
    | ok next => exact ih next

/-- A path still leads where it led when no directory was taken away. -/
theorem locate_kept {disk other : Disk} (kept : disk.KeepsDirectories other)
    {directory location : Location} {path : Path}
    (located : disk.locate directory path = .ok location) :
    other.locate directory path = .ok location := by
  cases started : startOf directory path with
  | error fault => simp [locate, started, bind, Except.bind] at located
  | ok start =>
    simp only [locate, started, bind, Except.bind] at located
    simp only [locate, started, bind, Except.bind]
    exact follow_kept kept located

/-- What reading a path finds is a file at the location that the path leads to. -/
theorem read_ok {disk : Disk} {directory : Location} {path : Path} {content : ByteArray}
    (reading : disk.read directory path = .ok content) :
    ∃ location, disk.locate directory path = .ok location ∧
      disk.get? location = some (.file content) ∧ path.endsInSlash = false := by
  cases located : disk.locate directory path with
  | error fault => simp [read, lookup, located, bind, Except.bind] at reading
  | ok location =>
    cases standing : disk.get? location with
    | none => simp [read, lookup, located, standing, bind, Except.bind] at reading
    | some item =>
      cases item with
      | directory => simp [read, lookup, located, standing, bind, Except.bind] at reading
      | file found =>
        cases plain : path.endsInSlash with
        | true => simp [read, lookup, located, standing, plain, bind, Except.bind] at reading
        | false =>
          have same : found = content := by
            simpa [read, lookup, located, standing, plain, bind, Except.bind, pure,
              Except.pure] using reading
          exact ⟨location, rfl, same ▸ standing, rfl⟩

/-- The start of a path is the root or the current directory, and its names are all names
of the path. Only a path with text has a start. -/
theorem start_ok {directory start : Location} {path : Path} {found : List String}
    (started : startOf directory path = .ok (start, found)) :
    path.text ≠ "" ∧ start = (if path.isAbsolute then [] else directory) ∧
      found = names path := by
  unfold startOf at started
  split at started
  · cases started
  · split at started
    · cases started
    · split at started
      · cases started
      · rename_i written _
        have same := Prod.mk.inj (Except.ok.inj started)
        exact ⟨by simpa using written, same.1.symm, same.2.symm⟩

/-- The place of a path that may be written to: its last name is an entry of the directory
that the names before it lead to. -/
structure Place (disk : Disk) (directory : Location) (path : Path) (parent : Location)
    (name : String) : Prop where
  /-- The names of the path before the last one lead to the parent. -/
  followed : disk.follow (if path.isAbsolute then [] else directory)
    (names path).dropLast = .ok parent
  /-- The last name of the path. -/
  last : (names path).getLast? = some name
  /-- The path has a start. -/
  started : startOf directory path =
    .ok (if path.isAbsolute then [] else directory, names path)
  /-- The name is not one that leads elsewhere. -/
  named : isStep name = false
  /-- No slash asks for a directory. -/
  plain : path.endsInSlash = false
  /-- The name leads into the parent. -/
  entered : disk.enter parent name = .ok (parent ++ [name])

namespace Place

variable {disk other : Disk} {directory parent : Location} {path : Path} {name : String}

/-- A path keeps its place when no directory is taken away. -/
theorem kept (place : disk.Place directory path parent name)
    (keeps : disk.KeepsDirectories other) : other.Place directory path parent name where
  followed := follow_kept keeps place.followed
  last := place.last
  started := place.started
  named := place.named
  plain := place.plain
  entered := enter_kept keeps place.entered

/-- A path leads to its place. -/
theorem locate (place : disk.Place directory path parent name) :
    disk.locate directory path = .ok (parent ++ [name]) := by
  obtain ⟨before, split⟩ := List.getLast?_eq_some_iff.mp place.last
  have followed := place.followed
  rw [split, List.dropLast_concat] at followed
  simp only [Disk.locate, place.started, bind, Except.bind]
  rw [split, follow_append, followed]
  simp only [follow, place.entered, bind, Except.bind]

/-- The file at its place is what reading the path finds. -/
theorem read (place : disk.Place directory path parent name) {content : ByteArray}
    (found : disk.get? (parent ++ [name]) = some (.file content)) :
    disk.read directory path = .ok content := by
  simp [Disk.read, lookup, place.locate, found, place.plain, bind, Except.bind, pure,
    Except.pure]

end Place

/-- A path whose last name is located, and may be written to, has a place. -/
theorem place_of_locate_last {disk : Disk} {directory parent target : Location} {path : Path}
    {name : String} (located : disk.locateLast directory path = .ok (parent, some name))
    (named : isStep name = false) (plain : path.endsInSlash = false)
    (entered : disk.enter parent name = .ok target) :
    disk.Place directory path parent name ∧ target = parent ++ [name] := by
  unfold locateLast at located
  cases started : startOf directory path with
  | error fault => simp [started, bind, Except.bind] at located
  | ok start =>
    obtain ⟨location, found⟩ := start
    obtain ⟨_, rfl, rfl⟩ := start_ok started
    simp only [started, bind, Except.bind] at located
    cases followed : disk.follow (if path.isAbsolute then [] else directory)
        (names path).dropLast with
    | error fault => simp [followed] at located
    | ok reached =>
      have item := directory_of_enter entered
      have same : reached = parent ∧ (names path).getLast? = some name := by
        cases standing : disk.get? reached with
        | none => simp [followed, standing] at located
        | some item =>
          cases item with
          | file content => simp [followed, standing] at located
          | directory => simpa [followed, standing, pure, Except.pure] using located
      obtain ⟨rfl, last⟩ := same
      have target_eq := enter_name named entered
      exact ⟨⟨followed, last, started, named, plain, target_eq ▸ entered⟩, target_eq⟩

end LastGood.Disk
