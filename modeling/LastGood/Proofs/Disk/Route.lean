import LastGood.Proofs.Disk.Replacement

/-!
# Routes

The route of a path is the list of locations that it leads through and to, as if all of them were
directories. Where a path leads, and what is found there, depends on what stands on its route
alone. Before its last name a path that leads somewhere leads through directories only.
-/

namespace LastGood.Disk

/-- The locations that a path leads through and the one that it leads to. -/
def route (directory : Location) (path : Path) : List Location :=
  match startOf directory path with
  | .ok (start, names) => waypoints start names
  | .error _ => []

/-- The locations that a path leads through before its last name. -/
def approach (directory : Location) (path : Path) : List Location :=
  match startOf directory path with
  | .ok (start, names) => waypoints start names.dropLast
  | .error _ => []

/-- The location that a name leads to from another one, if that is a directory. -/
def stepFrom (location : Location) (name : String) : Location :=
  if name == "." then location else if name == ".." then location.dropLast else location ++ [name]

/-- Names lead through the location that they start from, and then on. -/
theorem waypoints_cons (location : Location) (name : String) (rest : List String) :
    waypoints location (name :: rest) = location :: waypoints (stepFrom location name) rest := rfl

/-- Names lead through the location that they start from. -/
theorem start_mem_waypoints (location : Location) (names : List String) :
    location ∈ waypoints location names := by
  cases names <;> simp [waypoints]

/-- A name that can be entered leads where it would lead from a directory. -/
theorem step_of_enter {disk : Disk} {location target : Location} {name : String}
    (entered : disk.enter location name = .ok target) : target = stepFrom location name := by
  have directory := directory_of_enter entered
  simp only [enter, directory] at entered
  unfold stepFrom
  split at entered
  · rename_i same
    simp only [same, if_true]
    exact (Except.ok.inj entered).symm
  · rename_i other
    split at entered
    · rename_i up
      simp only [other, up, if_true]
      exact (Except.ok.inj entered).symm
    · rename_i down
      split at entered
      · cases entered
      · simp only [other, down]
        exact (Except.ok.inj entered).symm

/-- What is entered depends on what stands at the location alone. -/
theorem enter_congr {disk other : Disk} {location : Location}
    (same : disk.get? location = other.get? location) (name : String) :
    disk.enter location name = other.enter location name := by
  simp only [enter, same]

/-- Where names lead depends on what stands on their way alone. -/
theorem follow_congr {disk other : Disk} {location : Location} {names : List String}
    (same : ∀ passed ∈ waypoints location names, disk.get? passed = other.get? passed) :
    disk.follow location names = other.follow location names := by
  induction names generalizing location with
  | nil => rfl
  | cons name rest ih =>
    rw [waypoints_cons] at same
    simp only [follow, enter_congr (same location List.mem_cons_self), bind, Except.bind]
    cases entered : other.enter location name with
    | error fault => rfl
    | ok next =>
      refine ih fun passed member => same passed (List.mem_cons_of_mem _ ?_)
      rw [← step_of_enter entered]
      exact member

/-- Names lead to the last location on their way, and before that through directories alone. -/
theorem waypoints_of_follow {disk : Disk} {location target : Location} {names : List String}
    (followed : disk.follow location names = .ok target) :
    ∃ passed, waypoints location names = passed ++ [target] ∧
      ∀ before ∈ passed, disk.get? before = some .directory := by
  induction names generalizing location with
  | nil =>
    cases followed
    exact ⟨[], rfl, by simp⟩
  | cons name rest ih =>
    cases entered : disk.enter location name with
    | error fault => simp [follow, entered, bind, Except.bind] at followed
    | ok next =>
      simp only [follow, entered, bind, Except.bind] at followed
      obtain ⟨passed, split, directories⟩ := ih followed
      refine ⟨location :: passed, ?_, ?_⟩
      · rw [waypoints_cons, ← step_of_enter entered, split]
        rfl
      · intro before member
        rcases List.mem_cons.mp member with rfl | later
        · exact directory_of_enter entered
        · exact directories before later

/-- One name more leads one location further. -/
theorem waypoints_snoc {disk : Disk} {location target : Location} {names : List String}
    (followed : disk.follow location names = .ok target) (name : String) :
    waypoints location (names ++ [name]) =
      waypoints location names ++ [stepFrom target name] := by
  induction names generalizing location with
  | nil =>
    cases followed
    rfl
  | cons first rest ih =>
    cases entered : disk.enter location first with
    | error fault => simp [follow, entered, bind, Except.bind] at followed
    | ok next =>
      simp only [follow, entered, bind, Except.bind] at followed
      rw [List.cons_append, waypoints_cons, waypoints_cons, ← step_of_enter entered, ih followed]
      rfl

/-- A path leads to the last location on its route. -/
theorem route_of_locate {disk : Disk} {directory target : Location} {path : Path}
    (located : disk.locate directory path = .ok target) :
    ∃ passed, route directory path = passed ++ [target] := by
  cases started : startOf directory path with
  | error fault => simp [locate, started, bind, Except.bind] at located
  | ok start =>
    simp only [locate, started, bind, Except.bind] at located
    obtain ⟨passed, split, _⟩ := waypoints_of_follow located
    exact ⟨passed, by simp only [route, started, split]⟩

/-- Where a path leads depends on what stands on its route alone. -/
theorem locate_congr {disk other : Disk} {directory : Location} {path : Path}
    (same : ∀ passed ∈ route directory path, disk.get? passed = other.get? passed) :
    disk.locate directory path = other.locate directory path := by
  unfold locate
  cases started : startOf directory path with
  | error fault => rfl
  | ok start =>
    simp only [route, started] at same
    exact follow_congr same

/-- What stands at a path depends on what stands on its route alone. -/
theorem lookup_congr {disk other : Disk} {directory : Location} {path : Path}
    (same : ∀ passed ∈ route directory path, disk.get? passed = other.get? passed) :
    disk.lookup directory path = other.lookup directory path := by
  unfold lookup
  rw [locate_congr same]
  cases located : other.locate directory path with
  | error fault => rfl
  | ok target =>
    obtain ⟨passed, split⟩ := route_of_locate located
    have last : target ∈ route directory path := by simp [split]
    simp only [bind, Except.bind, same target last]

/-- Where the last name of a path is depends on what stands before it alone. -/
theorem locate_last_congr {disk other : Disk} {directory : Location} {path : Path}
    (same : ∀ passed ∈ approach directory path, disk.get? passed = other.get? passed) :
    disk.locateLast directory path = other.locateLast directory path := by
  unfold locateLast
  cases started : startOf directory path with
  | error fault => rfl
  | ok start =>
    obtain ⟨start, found⟩ := start
    simp only [approach, started] at same
    simp only [bind, Except.bind, follow_congr same]
    cases followed : other.follow start found.dropLast with
    | error fault => rfl
    | ok parent =>
      obtain ⟨passed, split, _⟩ := waypoints_of_follow followed
      have last : parent ∈ waypoints start found.dropLast := by simp [split]
      simp only [same parent last]

/-- The directory of the last name of a path is on the way to it, and the last name leads to the
end of the route. -/
theorem mem_of_locate_last {disk : Disk} {directory parent : Location} {path : Path}
    {last : Option String} (located : disk.locateLast directory path = .ok (parent, last)) :
    parent ∈ approach directory path ∧
      (∀ passed ∈ approach directory path, disk.get? passed = some .directory) ∧
      ∀ name, last = some name →
        route directory path = approach directory path ++ [stepFrom parent name] := by
  unfold locateLast at located
  cases started : startOf directory path with
  | error fault => simp [started, bind, Except.bind] at located
  | ok start =>
    obtain ⟨start, found⟩ := start
    simp only [started, bind, Except.bind] at located
    cases followed : disk.follow start found.dropLast with
    | error fault => simp [followed] at located
    | ok reached =>
      have standing : disk.get? reached = some .directory ∧ (reached, found.getLast?) =
          (parent, last) := by
        cases standing : disk.get? reached with
        | none => simp [followed, standing] at located
        | some item =>
          cases item with
          | file content => simp [followed, standing] at located
          | directory => simpa [followed, standing, pure, Except.pure] using located
      obtain ⟨directory_there, same⟩ := standing
      obtain ⟨rfl, rfl⟩ := Prod.mk.inj same
      obtain ⟨passed, split, directories⟩ := waypoints_of_follow followed
      simp only [approach, route, started]
      refine ⟨by simp [split], ?_, ?_⟩
      · intro before member
        rw [split, List.mem_append, List.mem_singleton] at member
        rcases member with earlier | rfl
        · exact directories before earlier
        · exact directory_there
      · intro name ends
        obtain ⟨before, rfl⟩ := List.getLast?_eq_some_iff.mp ends
        rw [List.dropLast_concat] at followed ⊢
        exact waypoints_snoc followed name

/-- What leads to the directory of the last name of a path is on the route of the path. -/
theorem mem_route_of_approach {directory passed : Location} {path : Path}
    (member : passed ∈ approach directory path) : passed ∈ route directory path := by
  have shorter : ∀ (names : List String) (location : Location),
      passed ∈ waypoints location names.dropLast → passed ∈ waypoints location names := by
    intro names
    induction names with
    | nil => exact fun _ found => found
    | cons name rest ih =>
      intro location found
      cases rest with
      | nil =>
        rw [List.mem_singleton.mp found]
        exact start_mem_waypoints ..
      | cons next others =>
        rw [List.dropLast_cons_cons, waypoints_cons] at found
        rw [waypoints_cons]
        rcases List.mem_cons.mp found with rfl | later
        · exact List.mem_cons_self
        · exact List.mem_cons_of_mem _ (ih _ later)
  unfold approach at member
  unfold route
  cases started : startOf directory path with
  | error fault => simp [started] at member
  | ok start =>
    simp only [started] at member
    exact shorter _ _ member

/-- A path that is continued by text without slashes has one name that ends in that text, behind
names that are those of the path, or those of the path without its last one. -/
theorem names_continued (path : Path) {suffix : String} (free : '/' ∉ suffix.toList)
    (longer : suffix ≠ "") :
    ∃ (before : List String) (last : String),
      names (path.extended suffix) = before ++ [last ++ suffix] ∧
        (names path = before ∨ names path = before ++ [last]) := by
  obtain ⟨before, last, split, extended, _⟩ :=
    Text.pieces_append '/' path.text.toList suffix.toList free
  have written : suffix.toList ≠ [] := fun none => longer (String.toList_eq_nil_iff.mp none)
  refine ⟨before.filterMap fun piece => if piece.isEmpty then none else some (.ofList piece),
    String.ofList last, ?_, ?_⟩
  · simp [names, Path.extended, String.toList_append, extended, written, String.ofList_append]
  · by_cases vacant : last = []
    · exact .inl (by simp [names, split, vacant])
    · exact .inr (by simp [names, split, vacant])

end LastGood.Disk
