import LastGood.Machine
import LastGood.Proofs.Disk.Replacement

/-!
# Paths from the root

A relative path can be written behind the path of the current directory. Both lead to the same
file, if the current directory is reached from the root by its own names and the longer path is not
too long.
-/

namespace LastGood

namespace Text

/-- The pieces around a separator are those before it and those behind it. -/
theorem pieces_append_separator (separator : Char) (before after : List Char) :
    pieces separator (before ++ separator :: after) =
      pieces separator before ++ pieces separator after := by
  induction before with
  | nil => simp [pieces]
  | cons c rest ih =>
    rw [List.cons_append, pieces, pieces, ih]
    split
    · rfl
    · cases split : pieces separator rest with
      | nil => exact absurd split (pieces_ne_nil separator rest)
      | cons piece others => rfl

end Text

namespace Disk

/-- A name that can stand in a path: it is not empty, and holds neither slashes nor zeros. -/
def Writable (name : String) : Prop := name ≠ "" ∧ '/' ∉ name.toList ∧ '\x00' ∉ name.toList

/-- The names of two paths with a slash between them. -/
theorem names_append_slash (before after : String) :
    names ⟨before ++ "/" ++ after⟩ = names ⟨before⟩ ++ names ⟨after⟩ := by
  have split : (before ++ "/" ++ after).toList = before.toList ++ '/' :: after.toList := by
    simp [String.toList_append]
  simp only [names, split, Text.pieces_append_separator, List.filterMap_append]

/-- A name is the one name of its path. -/
theorem names_of_writable {name : String} (writable : Writable name) : names ⟨name⟩ = [name] := by
  obtain ⟨written, free, _⟩ := writable
  have filled : name.toList ≠ [] := fun none => written (String.toList_eq_nil_iff.mp none)
  simp [names, Text.pieces_of_free free, filled]

/-- Names with slashes between them are the names of that path. -/
theorem names_intercalate {found : List String} (writable : ∀ name ∈ found, Writable name) :
    names ⟨String.intercalate "/" found⟩ = found := by
  induction found with
  | nil => rfl
  | cons name rest ih =>
    have first := names_of_writable (writable name (by simp))
    cases rest with
    | nil =>
      rw [String.intercalate_singleton]
      exact first
    | cons next others =>
      rw [String.intercalate_cons_cons, names_append_slash, first,
        ih fun other member => writable other (List.mem_cons_of_mem _ member)]
      rfl

/-- The names of a relative path behind another path. -/
theorem names_join {base next : Path} (relative : next.isAbsolute = false) :
    names (base.join next) = names base ++ names next := by
  obtain ⟨text⟩ := base
  obtain ⟨further⟩ := next
  unfold Path.join
  rw [if_neg (by simp [relative])]
  split
  case isTrue nothing =>
    have nothing : text = "" := by simpa using nothing
    subst nothing
    rfl
  case isFalse =>
    split
    case isFalse => exact names_append_slash text further
    case isTrue slashed =>
      -- The slash is there already, so it is taken off the base.
      obtain ⟨before, split⟩ : ∃ before, text.toList = before ++ ['/'] := by
        simpa [Path.endsInSlash, List.getLast?_eq_some_iff] using slashed
      have whole : text = String.ofList before ++ "/" ++ "" := by
        apply String.toList_injective
        simp [split, String.toList_append]
      have shorter : names ⟨text⟩ = names ⟨String.ofList before⟩ := by
        rw [whole, names_append_slash]
        exact List.append_nil _
      rw [shorter, ← names_append_slash]
      congr 2
      apply String.toList_injective
      simp [split, String.toList_append]

/-- What is read at a path is read at any other one that starts, leads on and ends the same. -/
theorem read_of_start {disk : Disk} {directory : Location} {path other : Path}
    {content : ByteArray} (reading : disk.read directory path = .ok content)
    (same : disk.locate directory other = disk.locate directory path)
    (ending : other.endsInSlash = path.endsInSlash) : disk.read directory other = .ok content := by
  rw [← reading]
  simp only [read, lookup, same, ending]

end Disk

namespace Machine

/-- The current directory is reached from the root by its own names, and the path of it with another
path behind it is not too long. -/
structure Reaches (machine : Machine) (path : Path) : Prop where
  /-- Each name of the directory can stand in a path. -/
  writable : ∀ name ∈ machine.directory, Disk.Writable name
  /-- They lead from the root to the directory. -/
  followed : machine.disk.follow [] machine.directory = .ok machine.directory
  /-- The longer path is not too long. -/
  short : (machine.directoryPath.join path).text.utf8ByteSize ≤ Disk.pathLimit

variable {machine : Machine} {path : Path}

/-- The names of the path of the current directory are those of the directory. -/
theorem names_directory_path (reaches : machine.Reaches path) :
    Disk.names machine.directoryPath = machine.directory := by
  have split := Disk.names_append_slash "" (String.intercalate "/" machine.directory)
  rw [Disk.names_intercalate reaches.writable] at split
  exact split

/-- A character of the path of the current directory is a slash or stands in one of its names. -/
theorem mem_directory_path {c : Char} {names : List String}
    (member : c ∈ (String.intercalate "/" names).toList) :
    c = '/' ∨ ∃ name ∈ names, c ∈ name.toList := by
  induction names with
  | nil => simp at member
  | cons name rest ih =>
    cases rest with
    | nil =>
      rw [String.intercalate_singleton] at member
      exact .inr ⟨name, by simp, member⟩
    | cons next others =>
      rw [String.intercalate_cons_cons, String.toList_append, String.toList_append] at member
      rcases List.mem_append.mp member with first | later
      · rcases List.mem_append.mp first with own | slash
        · exact .inr ⟨name, by simp, own⟩
        · exact .inl (by simpa using slash)
      · rcases ih later with slash | ⟨other, found, inner⟩
        · exact .inl slash
        · exact .inr ⟨other, List.mem_cons_of_mem _ found, inner⟩

/-- A relative path behind the path of the current directory: that one and a slash, unless it ends
in one, stand before it. -/
theorem text_join_directory (machine : Machine) (relative : path.isAbsolute = false) :
    ∃ between : List Char, (∀ c ∈ between, c = '/') ∧
      (machine.directoryPath.join path).text.toList =
        '/' :: (String.intercalate "/" machine.directory).toList ++ between ++
          path.text.toList := by
  have start : machine.directoryPath.text.toList =
      '/' :: (String.intercalate "/" machine.directory).toList := by
    simp [directoryPath, String.toList_append]
  have written : machine.directoryPath.text ≠ "" := by
    intro nothing
    rw [nothing] at start
    cases start
  unfold Path.join
  rw [if_neg (by simp [relative]), if_neg (by simpa using written)]
  split
  · exact ⟨[], by simp, by simp [String.toList_append, start]⟩
  · exact ⟨['/'], by simp, by simp [String.toList_append, start]⟩

/-- Where a relative path has a start, it has one from the root as well, behind the names of the
current directory. -/
theorem start_from_root (reaches : machine.Reaches path) (relative : path.isAbsolute = false)
    {start : Location × List String}
    (started : Disk.startOf machine.directory path = .ok start) :
    Disk.startOf machine.directory (machine.directoryPath.join path) =
      .ok ([], machine.directory ++ Disk.names path) := by
  obtain ⟨between, slashes, text⟩ := text_join_directory machine relative
  have names : Disk.names (machine.directoryPath.join path) =
      machine.directory ++ Disk.names path := by
    rw [Disk.names_join relative, names_directory_path reaches]
  have short := reaches.short
  generalize machine.directoryPath.join path = whole at text names short ⊢
  have unzeroed : '\x00' ∉ path.text.toList := by
    intro zero
    simp [Disk.startOf, zero] at started
  have plain : '\x00' ∉ whole.text.toList := by
    rw [text]
    intro member
    rcases List.mem_append.mp member with member | own
    · rcases List.mem_append.mp member with member | slash
      · rcases List.mem_cons.mp member with slash | member
        · cases slash
        · rcases mem_directory_path member with slash | ⟨name, inner, zero⟩
          · cases slash
          · exact (reaches.writable name inner).2.2 zero
      · cases slashes _ slash
    · exact unzeroed own
  have written : whole.text ≠ "" := by
    intro nothing
    rw [nothing] at text
    cases text
  have absolute : whole.isAbsolute = true := by simp [Path.isAbsolute, text]
  unfold Disk.startOf
  rw [if_neg (by simpa using plain), if_neg (by simpa using written),
    if_neg (Nat.not_lt.mpr short), absolute, names]
  rfl

/-- What is read at a relative path is read at the same path from the root. -/
theorem read_from_root (reaches : machine.Reaches path) (relative : path.isAbsolute = false)
    {content : ByteArray} (reading : machine.disk.read machine.directory path = .ok content) :
    machine.disk.read machine.directory (machine.directoryPath.join path) = .ok content := by
  obtain ⟨location, located, _, _⟩ := Disk.read_ok reading
  cases started : Disk.startOf machine.directory path with
  | error fault => simp [Disk.locate, started, bind, Except.bind] at located
  | ok start =>
    have started' := start_from_root reaches relative started
    obtain ⟨start, found⟩ := start
    obtain ⟨written, rfl, rfl⟩ := Disk.start_ok started
    refine Disk.read_of_start reading ?located ?ending
    case located =>
      simp only [Disk.locate, started, started', bind, Except.bind]
      rw [Disk.follow_append, reaches.followed, relative]
      rfl
    case ending =>
      obtain ⟨between, _, text⟩ := text_join_directory machine relative
      have filled : path.text.toList ≠ [] := fun none =>
        written (String.toList_eq_nil_iff.mp none)
      simp only [Path.endsInSlash, text, List.getLast?_append,
        List.getLast?_eq_some_getLast filled, Option.some_or]

end Machine

end LastGood
