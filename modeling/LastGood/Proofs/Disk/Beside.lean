import LastGood.Proofs.Disk.Route

/-!
# Disks that differ at one location

Two disks that have the same at every location but one, where neither has a directory, cannot be
told apart by a path that does not lead there. Whatever is written, moved, made or removed along
such paths is so on both disks or is refused for the same reason on both, and leads to two disks
that still differ at that location at most.

A second file that was written and then not moved into place leaves such a difference, and the
path that it was written for does not lead there.
-/

namespace LastGood.Disk

/-- Two disks that have the same at every location but one. Neither has a directory at that one,
and the directory that holds it is there. -/
structure SameBeside (location : Location) (disk other : Disk) : Prop where
  /-- Everywhere else both have the same. -/
  same : ∀ elsewhere, elsewhere ≠ location → disk.get? elsewhere = other.get? elsewhere
  /-- The directory that holds the location is there. -/
  holder : disk.get? location.dropLast = some .directory
  /-- The one disk has no directory at the location. -/
  free : disk.get? location ≠ some .directory
  /-- The other disk has none either. -/
  free' : other.get? location ≠ some .directory

/-- A change that spares a location: disks that differ there at most it takes to disks that differ
there at most, and the directory that holds the location stays. -/
def Spares (location : Location) (change : Disk → Disk) : Prop :=
  ∀ disk other : Disk, SameBeside location disk other →
    SameBeside location (change disk) (change other)

/-- Two ends of what was tried on two disks: both were refused for the same reason, or led to
disks that differ at one location at most. -/
inductive SameEnd (location : Location) : Except DiskFault Disk → Except DiskFault Disk → Prop where
  /-- Both were done. -/
  | done {disk other : Disk} (beside : SameBeside location disk other) :
      SameEnd location (.ok disk) (.ok other)
  /-- Both were refused. -/
  | refused (fault : DiskFault) : SameEnd location (.error fault) (.error fault)

/-- Something stands below a location. -/
def HoldsBelow (disk : Disk) (target : Location) : Prop :=
  ∃ deeper, deeper ≠ target ∧ target <+: deeper ∧ disk.get? deeper ≠ none

/-- There are entries below a location exactly if something stands below it. The root is no entry,
but it is below nothing. -/
theorem entries_below_iff (disk : Disk) (target : Location) :
    (disk.entries.any fun entry => entry.1 != target && target.isPrefixOf entry.1) = true ↔
      disk.HoldsBelow target := by
  simp only [List.any_eq_true, Bool.and_eq_true, bne_iff_ne, List.isPrefixOf_iff_prefix]
  constructor
  · rintro ⟨⟨deeper, item⟩, member, different, inside⟩
    refine ⟨deeper, different, inside, ?_⟩
    cases deeper with
    | nil => exact absurd (List.prefix_nil.mp inside).symm different
    | cons name rest =>
      simp only [get?, ne_eq, Option.map_eq_none_iff, List.find?_eq_none]
      exact fun none => none _ member (by simp)
  · rintro ⟨deeper, different, inside, standing⟩
    cases deeper with
    | nil => exact absurd (List.prefix_nil.mp inside).symm different
    | cons name rest =>
      simp only [get?, ne_eq, Option.map_eq_none_iff] at standing
      obtain ⟨entry, found⟩ := Option.ne_none_iff_exists'.mp standing
      have here : entry.1 = name :: rest := by simpa using List.find?_some found
      exact ⟨entry, List.mem_of_find?_eq_some found, here ▸ different, here ▸ inside⟩

namespace SameBeside

variable {location : Location} {disk other : Disk}

/-- The location is not the root. -/
theorem inner (beside : SameBeside location disk other) : location ≠ [] := by
  rintro rfl
  exact beside.free rfl

/-- The location is not in the place of the directory that holds it. -/
theorem holder_ne (beside : SameBeside location disk other) : location.dropLast ≠ location := by
  intro same
  have shorter := congrArg List.length same
  rw [List.length_dropLast] at shorter
  have longer := List.length_pos_iff.mpr beside.inner
  omega

/-- Which of the two disks is named first does not matter. -/
theorem symm (beside : SameBeside location disk other) : SameBeside location other disk where
  same elsewhere apart := (beside.same elsewhere apart).symm
  holder := (beside.same _ beside.holder_ne).symm.trans beside.holder
  free := beside.free'
  free' := beside.free

/-- Away from the location both disks have the same on every route. -/
theorem agree (beside : SameBeside location disk other) {locations : List Location}
    (apart : location ∉ locations) :
    ∀ passed ∈ locations, disk.get? passed = other.get? passed := by
  intro passed member
  exact beside.same passed fun here => apart (here ▸ member)

/-- Putting the same somewhere on both disks keeps them so, if no directory is put at the location
and its holder stays a directory. -/
theorem put (beside : SameBeside location disk other) {target : Location} {item : Item}
    (vacant : target = location → item ≠ .directory)
    (held : target = location.dropLast → item = .directory) :
    SameBeside location (disk.put target item) (other.put target item) := by
  refine ⟨?same, ?holder, ?free, ?free'⟩
  case same =>
    intro elsewhere apart
    by_cases here : elsewhere = target
    · subst here
      by_cases root : elsewhere = []
      · subst root
        rfl
      · rw [get?_put_self root, get?_put_self root]
    · rw [get?_put_of_ne here, get?_put_of_ne here]
      exact beside.same elsewhere apart
  case holder =>
    by_cases here : location.dropLast = target
    · by_cases root : target = []
      · rw [here, root]
        rfl
      · rw [here, get?_put_self root, held here.symm]
    · rw [get?_put_of_ne here]
      exact beside.holder
  case free =>
    by_cases here : location = target
    · subst here
      rw [get?_put_self beside.inner]
      exact fun found => vacant rfl (Option.some.inj found)
    · rw [get?_put_of_ne here]
      exact beside.free
  case free' =>
    by_cases here : location = target
    · subst here
      rw [get?_put_self beside.inner]
      exact fun found => vacant rfl (Option.some.inj found)
    · rw [get?_put_of_ne here]
      exact beside.free'

/-- Erasing the same on both disks keeps them so, if the holder of the location stays. -/
theorem erase (beside : SameBeside location disk other) {target : Location}
    (held : target ≠ location.dropLast) :
    SameBeside location (disk.erase target) (other.erase target) := by
  have gone : ∀ any : Disk, location = target → (any.erase target).get? location ≠
      some .directory := by
    rintro any rfl
    rw [get?_erase_self beside.inner]
    exact fun found => by cases found
  refine ⟨?same, ?holder, ?free, ?free'⟩
  case same =>
    intro elsewhere apart
    by_cases here : elsewhere = target
    · subst here
      by_cases root : elsewhere = []
      · subst root
        rfl
      · rw [get?_erase_self root, get?_erase_self root]
    · rw [get?_erase_of_ne here, get?_erase_of_ne here]
      exact beside.same elsewhere apart
  case holder =>
    rw [get?_erase_of_ne (Ne.symm held)]
    exact beside.holder
  case free =>
    by_cases here : location = target
    · exact gone disk here
    · rw [get?_erase_of_ne here]
      exact beside.free
  case free' =>
    by_cases here : location = target
    · exact gone other here
    · rw [get?_erase_of_ne here]
      exact beside.free'

/-- A file is written on both disks, or on none. The path may lead to the location, but not
through it. -/
theorem write (beside : SameBeside location disk other) {directory : Location} {path : Path}
    (apart : location ∉ approach directory path) (content : ByteArray) :
    SameEnd location (disk.write directory path content) (other.write directory path content) := by
  have agree := beside.agree apart
  unfold Disk.write
  rw [locate_last_congr agree]
  cases located : other.locateLast directory path with
  | error fault => exact .refused fault
  | ok found =>
    obtain ⟨parent, last⟩ := found
    obtain ⟨member, _⟩ := mem_of_locate_last located
    cases last with
    | none => exact .refused _
    | some name =>
      simp only [bind, Except.bind]
      split
      · exact .refused _
      · rw [enter_congr (agree parent member)]
        cases entered : other.enter parent name with
        | error fault => exact .refused fault
        | ok target =>
          have put : disk.get? target ≠ some .directory →
              SameBeside location (disk.put target (.file content))
                (other.put target (.file content)) := by
            intro vacant
            refine beside.put (fun _ same => by cases same) fun holder => ?_
            exact absurd (holder ▸ beside.holder) vacant
          by_cases here : target = location
          · subst here
            have free := beside.free
            have free' := beside.free'
            simp only
            exact .done (put free)
          · have same := beside.same target here
            simp only [same]
            split
            · exact .refused _
            · rename_i vacant
              exact .done (put fun found => vacant (same ▸ found))

/-- A file is moved on both disks, or on none, if what stands on both routes is the same. -/
theorem rename (beside : SameBeside location disk other) {directory : Location}
    {source target : Path}
    (from_same : ∀ passed ∈ route directory source, disk.get? passed = other.get? passed)
    (to_same : ∀ passed ∈ route directory target, disk.get? passed = other.get? passed) :
    SameEnd location (disk.rename directory source target)
      (other.rename directory source target) := by
  have sources := locate_last_congr fun passed member =>
    from_same passed (mem_route_of_approach member)
  have targets := locate_last_congr fun passed member =>
    to_same passed (mem_route_of_approach member)
  unfold Disk.rename
  rw [sources, targets]
  cases sourceLocated : other.locateLast directory source with
  | error fault => exact .refused fault
  | ok sourceFound =>
    cases targetLocated : other.locateLast directory target with
    | error fault => exact .refused fault
    | ok targetFound =>
      obtain ⟨oldParent, oldLast⟩ := sourceFound
      obtain ⟨newParent, newLast⟩ := targetFound
      obtain ⟨oldMember, _, oldRoute⟩ := mem_of_locate_last sourceLocated
      obtain ⟨newMember, _, newRoute⟩ := mem_of_locate_last targetLocated
      simp only [bind, Except.bind]
      -- Only two names that are no steps, entered from their parents, lead to a move.
      split
      · rename_i oldName newName
        split
        · exact .refused _
        · rw [enter_congr (from_same oldParent (mem_route_of_approach oldMember)),
            enter_congr (to_same newParent (mem_route_of_approach newMember))]
          cases oldEntered : other.enter oldParent oldName with
          | error fault => exact .refused fault
          | ok old =>
            cases newEntered : other.enter newParent newName with
            | error fault => exact .refused fault
            | ok new =>
              have oldSame : disk.get? old = other.get? old := by
                refine from_same old ?_
                rw [oldRoute oldName rfl, step_of_enter oldEntered]
                exact List.mem_append_right _ (List.mem_singleton_self _)
              have newSame : disk.get? new = other.get? new := by
                refine to_same new ?_
                rw [newRoute newName rfl, step_of_enter newEntered]
                exact List.mem_append_right _ (List.mem_singleton_self _)
              have moved : ∀ content, disk.get? old = some (.file content) →
                  disk.get? new ≠ some .directory →
                  SameBeside location ((disk.erase old).put new (.file content))
                    ((other.erase old).put new (.file content)) := by
                intro content standing vacant
                have erased : SameBeside location (disk.erase old) (other.erase old) := by
                  refine beside.erase fun holder => ?_
                  rw [holder, beside.holder] at standing
                  cases standing
                refine erased.put (fun _ same => by cases same) fun holder => ?_
                exact absurd (holder ▸ beside.holder) vacant
              simp only [oldSame, newSame] at moved ⊢
              split
              · exact .refused _
              · exact .refused _
              · rename_i content standing
                split
                · exact .refused _
                · split
                  · exact .refused _
                  · rename_i vacant
                    exact .done (moved content standing vacant)
      · exact .refused _

/-- Directories are made along names on both disks, or on none, if the names do not lead to the
location or through it. -/
theorem makeAlong (beside : SameBeside location disk other) {start : Location}
    {names : List String} (apart : location ∉ waypoints start names) :
    SameEnd location (disk.makeAlong start names) (other.makeAlong start names) := by
  induction names generalizing start disk other with
  | nil => exact .done beside
  | cons name rest ih =>
    rw [waypoints_cons, List.mem_cons, not_or] at apart
    obtain ⟨here, later⟩ := apart
    have first := beside.same start (Ne.symm here)
    simp only [Disk.makeAlong, enter_congr first, bind, Except.bind]
    cases entered : other.enter start name with
    | error fault => exact .refused fault
    | ok next =>
      rw [← step_of_enter entered] at later
      have elsewhere : next ≠ location := fun same => later (same ▸ start_mem_waypoints next rest)
      have same := beside.same next elsewhere
      simp only [same]
      split
      · exact .refused _
      · exact ih beside later
      · rename_i missing
        exact ih (beside.put (fun same => absurd same elsewhere) fun _ => rfl) later

/-- The directories of a path are made on both disks, or on none, if the path does not lead to the
location or through it. -/
theorem makeDirectories (beside : SameBeside location disk other) {directory : Location}
    {path : Path} (apart : location ∉ route directory path) :
    SameEnd location (disk.makeDirectories directory path)
      (other.makeDirectories directory path) := by
  unfold Disk.makeDirectories
  cases started : startOf directory path with
  | error fault => exact .refused fault
  | ok start =>
    simp only [route, started] at apart
    exact beside.makeAlong apart

/-- A file is removed from both disks, or from none, if its path does not lead to the location or
through it. -/
theorem remove (beside : SameBeside location disk other) {directory : Location} {path : Path}
    (apart : location ∉ route directory path) :
    SameEnd location (disk.remove directory path) (other.remove directory path) := by
  have agree := beside.agree apart
  unfold Disk.remove
  rw [← lookup_congr agree, ← locate_congr agree]
  cases found : disk.lookup directory path with
  | error fault => exact .refused fault
  | ok item =>
    cases item with
    | directory => exact .refused _
    | file content =>
      have reading : disk.read directory path = .ok content := by
        simp only [read, found, bind, Except.bind, pure, Except.pure]
      obtain ⟨target, located, standing, _⟩ := read_ok reading
      simp only [located, bind, Except.bind]
      refine .done (beside.erase fun holder => ?_)
      rw [holder, beside.holder] at standing
      cases standing

/-- What is below a directory on the one disk there is something below it on the other, unless the
directory is the one that holds the location. -/
theorem below (beside : SameBeside location disk other) {target : Location}
    (held : target ≠ location.dropLast) (found : disk.HoldsBelow target) :
    other.HoldsBelow target := by
  obtain ⟨deeper, different, inside, standing⟩ := found
  by_cases here : deeper = location
  · -- What stands at the location is held by a directory that is below the target as well.
    subst here
    refine ⟨deeper.dropLast, Ne.symm held, ?_, ?_⟩
    · have split := List.dropLast_concat_getLast beside.inner
      rw [← split, List.prefix_concat_iff] at inside
      rcases inside with whole | inner
      · exact absurd (whole.trans split).symm different
      · exact inner
    · rw [← beside.same _ (holder_ne beside), beside.holder]
      exact fun nothing => by cases nothing
  · exact ⟨deeper, different, inside, beside.same deeper here ▸ standing⟩

/-- An empty directory is removed from both disks, or from none, if its path does not lead to the
location, through it, or to the directory that holds it. -/
theorem removeDirectory (beside : SameBeside location disk other) {directory : Location}
    {path : Path} (apart : location ∉ route directory path)
    (held : (route directory path).getLast? ≠ some location.dropLast) :
    SameEnd location (disk.removeDirectory directory path)
      (other.removeDirectory directory path) := by
  have agree := beside.agree apart
  unfold Disk.removeDirectory
  rw [← lookup_congr agree, ← locate_congr agree]
  cases found : disk.lookup directory path with
  | error fault => exact .refused fault
  | ok item =>
    cases item with
    | file content => exact .refused _
    | directory =>
      cases located : disk.locate directory path with
      | error fault => exact .refused fault
      | ok target =>
        obtain ⟨passed, split⟩ := route_of_locate located
        rw [split, List.getLast?_concat] at held
        have kept : target ≠ location.dropLast := fun same => held (congrArg some same)
        have same : (disk.entries.any fun entry =>
            entry.1 != target && target.isPrefixOf entry.1) =
            other.entries.any fun entry => entry.1 != target && target.isPrefixOf entry.1 := by
          rw [Bool.eq_iff_iff, entries_below_iff, entries_below_iff]
          exact ⟨beside.below kept, beside.symm.below kept⟩
        simp only [bind, Except.bind, same]
        split
        · exact .refused _
        · exact .done (beside.erase kept)

end SameBeside

/-- A path that was written to leads through directories to a place where none is. -/
theorem approach_of_write {disk written : Disk} {directory location : Location} {path : Path}
    {content : ByteArray} (writing : disk.write directory path content = .ok written)
    (located : disk.locate directory path = .ok location) :
    location ∉ approach directory path ∧ SameBeside location written disk := by
  obtain ⟨parent, name, place, vacant, rfl⟩ := write_ok writing
  cases located.symm.trans place.locate
  have holder := directory_of_enter place.entered
  obtain ⟨passed, split, directories⟩ := waypoints_of_follow place.followed
  constructor
  · intro member
    simp only [approach, place.started, split, List.mem_append, List.mem_singleton] at member
    rcases member with earlier | last
    · exact vacant (directories _ earlier)
    · rw [← last] at holder
      exact vacant holder
  · refine ⟨fun elsewhere apart => get?_put_of_ne apart _ _, ?_, ?_, vacant⟩
    · rw [List.dropLast_concat, get?_put_of_ne (by simp)]
      exact holder
    · rw [get?_put_self (by simp)]
      exact fun found => by cases found

/-- What was written is what then stands at the end of the route. -/
theorem get?_of_write {disk written : Disk} {directory location : Location} {path : Path}
    {content : ByteArray} (writing : disk.write directory path content = .ok written)
    (ends : (route directory path).getLast? = some location) :
    written.get? location = some (.file content) := by
  obtain ⟨parent, name, place, _, rfl⟩ := write_ok writing
  obtain ⟨passed, split⟩ := route_of_locate place.locate
  rw [split, List.getLast?_concat] at ends
  cases ends
  exact get?_put_self (by simp) _ _

/-- A path does not lead to what was written beside it, and not through it. -/
theorem route_of_write_beside {disk written : Disk} {directory location : Location} {path : Path}
    {suffix : String} {content : ByteArray} (free : '/' ∉ suffix.toList) (longer : suffix ≠ "")
    (writing : disk.write directory (path.extended suffix) content = .ok written)
    (located : disk.locate directory (path.extended suffix) = .ok location) :
    location ∉ route directory path := by
  obtain ⟨apart, _⟩ := approach_of_write writing located
  obtain ⟨parent, name, place, _, rfl⟩ := write_ok writing
  cases located.symm.trans place.locate
  intro member
  cases started : startOf directory path with
  | error fault => simp [route, started] at member
  | ok start =>
    obtain ⟨start, found⟩ := start
    obtain ⟨text, rfl, rfl⟩ := start_ok started
    obtain ⟨before, last, extended, own⟩ := names_continued path free longer
    have followed := place.followed
    have ends := place.last
    simp only [approach, place.started] at apart
    rw [extended, List.dropLast_concat, absolute_extended path suffix text] at followed apart
    rw [extended, List.getLast?_concat] at ends
    simp only [route, started] at member
    rcases own with short | long
    · exact apart (short ▸ member)
    · rw [long, waypoints_snoc followed, List.mem_append, List.mem_singleton] at member
      rcases member with earlier | same
      · exact apart earlier
      · -- The last name of the path leads to its parent, above that, or to a shorter name there.
        have name_eq : name = last ++ suffix := (Option.some.inj ends).symm
        unfold stepFrom at same
        split at same
        · have lengths := congrArg List.length same
          simp at lengths
        · split at same
          · have lengths := congrArg List.length same
            simp at lengths
            omega
          · have lengths := congrArg String.length
              ((List.cons.inj (List.append_cancel_left same)).1.symm.trans name_eq)
            rw [String.length_append] at lengths
            exact longer (String.length_eq_zero_iff.mp (by omega))

end LastGood.Disk
