import LastGood.Proofs.Disk.Replacement
import LastGood.Proofs.Tree.Parts
import LastGood.System

/-!
# What systems promise

A file store asks a system to write and to move, and relies on what systems say of these steps. The
laws are about single steps and mention no store. What was written through a path is read through
it, and what is moved is read at its new place. A write touches nothing but the entries that its
path reaches, and one that fails may have begun; a move that fails changes nothing.

A machine keeps them all. Where a link stands in the place of what is moved, the first two need not
hold: the link itself is moved, and what it leads to afterwards is another matter.
-/

namespace LastGood

/-- Bytes are those of a text when they can be taken for one. -/
theorem Text.from_utf8_eq_some_iff {content : ByteArray} {text : String} :
    String.fromUTF8? content = some text ↔ content = text.toUTF8 := by
  unfold String.fromUTF8?
  constructor
  · intro found
    split at found
    · rw [← Option.some.inj found]
      rfl
    · cases found
  · rintro rfl
    simp only [String.toUTF8_eq_toByteArray, dif_pos text.isValidUTF8]
    rfl

namespace System

variable {μ κ : Type} [System μ]

/-- What is written through one path and then moved to another is read there. -/
structure Faithful (machine : μ) (source target : Path) : Prop where
  /-- What was written is read. -/
  written : ∀ content after, writeText machine source content = (.ok (), after) →
    readText after source = .ok content
  /-- What is moved is read as before. -/
  moved : ∀ content before after, writeText machine source content = (.ok (), before) →
    rename before source target = (.ok (), after) → readText after target = readText before source

/-- The entries of a system: what stands there, and which of them a text reaches that is written
to a path. -/
structure View (μ κ : Type) where
  /-- What stands at an entry. -/
  item? : μ → κ → Option Item
  /-- A path reaches an entry. -/
  Reaches : μ → Path → κ → Prop

/-- The item that holds no more of a text than its first bytes. -/
def startOf (content : String) (count : Nat) : Item := .file (content.toUTF8.extract 0 count)

/-- Steps change no other entries than they have to, also when they fail. -/
structure Orderly (view : View μ κ) : Prop where
  /-- A write leaves the entries alone that its path does not reach. -/
  aside : ∀ machine path content place, ¬ view.Reaches machine path place →
    view.item? (writeText machine path content).2 place = view.item? machine place
  /-- A write that succeeds puts the whole text where its path leads. -/
  whole : ∀ machine path content after place, writeText machine path content = (.ok (), after) →
    view.Reaches machine path place → view.item? after place = some (.file content.toUTF8)
  /-- One that fails leaves what was there, or a start of the text. -/
  cut : ∀ machine path content fault after place,
    writeText machine path content = (.error fault, after) → view.Reaches machine path place →
    view.item? after place = view.item? machine place ∨
      ∃ count, view.item? after place = some (startOf content count)
  /-- A move that fails changes nothing. -/
  unmoved : ∀ machine source target fault after place,
    rename machine source target = (.error fault, after) →
    view.item? after place = view.item? machine place

end System

namespace Machine

/-- A path has a text exactly when its file holds the bytes of that text. -/
theorem read_text_ok_iff (machine : Machine) (path : Path) (text : String) :
    machine.readText path = .ok text ↔
      machine.disk.read machine.directory path = .ok text.toUTF8 := by
  cases found : machine.disk.read machine.directory path with
  | error fault => simp [readText, Disk.readText, found, bind, Except.bind]
  | ok content =>
    simp only [readText, Disk.readText, found, bind, Except.bind, Except.ok.injEq]
    rw [← Text.from_utf8_eq_some_iff]
    cases String.fromUTF8? content <;> simp [pure, Except.pure]

/-- A step of a machine succeeds as a whole, or fails and leaves all as it is. -/
theorem attempt_cases {machine after : Machine} {next : Except DiskFault Machine}
    {ended : Except DiskFault Unit} (attempted : machine.attempt next = (ended, after)) :
    (next = .ok after ∧ ended = .ok ()) ∨
      ∃ fault, next = .error fault ∧ ended = .error fault ∧ after = machine := by
  cases next with
  | ok changed =>
    cases attempted
    exact .inl ⟨rfl, rfl⟩
  | error fault =>
    cases attempted
    exact .inr ⟨fault, rfl, rfl, rfl⟩

/-- What a machine writes is written to its disk. -/
theorem written_of_attempt {machine after : Machine} {path : Path} {content : String}
    (writing : System.writeText machine path content = (.ok (), after)) :
    ∃ written, machine.disk.write machine.directory path content.toUTF8 = .ok written ∧
      after = machine.withDisk written := by
  rcases attempt_cases writing with ⟨done, _⟩ | ⟨fault, _, impossible, _⟩
  · obtain ⟨written, wrote, rfl⟩ := read_of_map done
    exact ⟨written, wrote, rfl⟩
  · cases impossible

/-- What a machine moves is moved on its disk. -/
theorem renamed_of_attempt {machine after : Machine} {source target : Path}
    (moving : System.rename machine source target = (.ok (), after)) :
    ∃ renamed, machine.disk.rename machine.directory source target = .ok renamed ∧
      after = machine.withDisk renamed := by
  rcases attempt_cases moving with ⟨done, _⟩ | ⟨fault, _, impossible, _⟩
  · obtain ⟨renamed, moved, rfl⟩ := read_of_map done
    exact ⟨renamed, moved, rfl⟩
  · cases impossible

/-- Whatever paths are named, a machine is faithful. -/
theorem faithful (machine : Machine) (source target : Path) :
    System.Faithful machine source target where
  written content after writing := by
    obtain ⟨written, wrote, rfl⟩ := written_of_attempt writing
    exact (read_text_ok_iff _ _ _).mpr (Disk.read_written wrote)
  moved content before after _ moving := by
    obtain ⟨renamed, moved, rfl⟩ := renamed_of_attempt moving
    simp only [system_read_text, readText, Disk.readText, withDisk, Disk.read_renamed moved]

/-- The entries of the disk of a machine. A path reaches the location that it leads to. -/
def view : System.View Machine Location where
  item? machine := machine.disk.get?
  Reaches machine path location := machine.disk.locate machine.directory path = .ok location

/-- A machine is orderly. -/
theorem orderly : System.Orderly view where
  aside machine path content place apart := by
    cases writing : System.writeText machine path content with
    | mk ended after =>
      rcases attempt_cases writing with ⟨done, rfl⟩ | ⟨fault, _, _, rfl⟩
      · obtain ⟨written, wrote, rfl⟩ := written_of_attempt writing
        obtain ⟨parent, name, there, _, rfl⟩ := Disk.write_ok wrote
        have elsewhere : place ≠ parent ++ [name] := by
          rintro rfl
          exact apart there.locate
        exact Disk.get?_put_of_ne elsewhere _ _
      · rfl
  whole machine path content after place writing reached := by
    obtain ⟨written, wrote, rfl⟩ := written_of_attempt writing
    obtain ⟨parent, name, there, _, rfl⟩ := Disk.write_ok wrote
    cases reached.symm.trans there.locate
    exact Disk.get?_put_self (by simp) _ _
  cut machine path content fault after place writing _ := by
    rcases attempt_cases writing with ⟨_, impossible⟩ | ⟨_, _, _, rfl⟩
    · cases impossible
    · exact .inl rfl
  unmoved machine source target fault after place moving := by
    rcases attempt_cases moving with ⟨_, impossible⟩ | ⟨_, _, _, rfl⟩
    · cases impossible
    · rfl

end Machine

end LastGood
