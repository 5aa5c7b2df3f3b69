import LastGood.Proofs.System.Laws

/-!
# A disk that is full

On a machine whose disk has room for so many bytes of a text, a longer text is not written, and yet
its start is there afterwards. Such a machine is an orderly system, and not all that it does is done
as a whole or not at all.
-/

namespace LastGood

/-- A machine on whose disk there is room for so many bytes of a text. -/
structure Cramped where
  /-- The machine. -/
  machine : Machine
  /-- How many bytes there is room for. -/
  room : Nat

namespace Cramped

/-- Why a text does not fit. -/
def full : DiskFault := .other "No space left on device (os error 28)"

instance : System Cramped where
  environment cramped := cramped.machine.environment
  readText cramped := cramped.machine.readText
  writeText cramped path content :=
    let machine := cramped.machine
    match machine.disk.write machine.directory path (content.toUTF8.extract 0 cramped.room) with
    | .error fault => (.error fault, cramped)
    | .ok written =>
        (if content.toUTF8.size ≤ cramped.room then .ok () else .error full,
          { cramped with machine := machine.withDisk written })
  rename cramped source target :=
    let (ended, left) := cramped.machine.attempt (cramped.machine.rename source target)
    (ended, { cramped with machine := left })
  absolute cramped := cramped.machine.absolute

/-- The entries of the disk. -/
def view : System.View Cramped Location where
  item? cramped := cramped.machine.disk.get?
  Reaches cramped path location :=
    cramped.machine.disk.locate cramped.machine.directory path = .ok location

/-- What a write leaves is what was there, or the start of the text in the place of the path. It
succeeds only if that is all of the text. -/
theorem write_cases (cramped : Cramped) (path : Path) (content : String) :
    (∃ fault, System.writeText cramped path content = (.error fault, cramped)) ∨
      ∃ location, view.Reaches cramped path location ∧
        (∀ place, view.item? (System.writeText cramped path content).2 place =
          if place = location then some (System.startOf content cramped.room)
          else view.item? cramped place) ∧
        ((System.writeText cramped path content).1 = .ok () →
          content.toUTF8.size ≤ cramped.room) := by
  cases writing : cramped.machine.disk.write cramped.machine.directory path
      (content.toUTF8.extract 0 cramped.room) with
  | error fault => exact .inl ⟨fault, by simp only [System.writeText, writing]⟩
  | ok written =>
    obtain ⟨parent, name, there, _, rfl⟩ := Disk.write_ok writing
    refine .inr ⟨_, there.locate, fun place => ?_, ?_⟩
    · simp only [System.writeText, writing, view, Machine.withDisk]
      split
      case isTrue here =>
        rw [here]
        exact Disk.get?_put_self (by simp) _ _
      case isFalse apart => exact Disk.get?_put_of_ne apart _ _
    · simp only [System.writeText, writing]
      split
      case isTrue fits => exact fun _ => fits
      case isFalse =>
        intro ended
        cases ended

/-- Such a machine is orderly. -/
theorem orderly : System.Orderly view where
  aside cramped path content place apart := by
    rcases write_cases cramped path content with ⟨fault, ended⟩ | ⟨location, reached, items, _⟩
    · rw [ended]
    · have elsewhere : place ≠ location := by
        rintro rfl
        exact apart reached
      rw [items, if_neg elsewhere]
  whole cramped path content after place ended reached := by
    rcases write_cases cramped path content with ⟨fault, other⟩ | ⟨location, leads, items, fits⟩
    · cases ended.symm.trans other
    · rw [ended] at items fits
      cases reached.symm.trans leads
      have all : content.toUTF8.extract 0 cramped.room = content.toUTF8 :=
        ByteArray.ext (ByteArray.data_extract.trans (Array.extract_eq_self_of_le (fits rfl)))
      rw [items, if_pos rfl, System.startOf, all]
  cut cramped path content fault after place ended reached := by
    rcases write_cases cramped path content with ⟨fault, other⟩ | ⟨location, leads, items, _⟩
    · cases ended.symm.trans other
      exact .inl rfl
    · rw [ended] at items
      cases reached.symm.trans leads
      exact .inr ⟨_, by rw [items, if_pos rfl]⟩
  unmoved cramped source target fault after place moving := by
    cases attempted : cramped.machine.attempt (cramped.machine.rename source target) with
    | mk result left =>
      simp only [System.rename, attempted, Prod.mk.injEq] at moving
      obtain ⟨rfl, rfl⟩ := moving
      exact Machine.orderly.unmoved _ _ _ _ _ place attempted

end Cramped

end LastGood
