import LastGood.Machine

/-!
# Systems

A file store needs little of the system that it runs on: an environment, texts at paths that are
read and written, and files that are moved from one path to another. A machine is a system, on
which a step that fails changes nothing. On others such a step may leave something behind: of a
text that does not fit, a first part may be there.
-/

namespace LastGood

/-- What a file store needs of a system in some state. -/
class System (μ : Type) where
  /-- The environment. -/
  environment : μ → Environment
  /-- The text of the file at a path. -/
  readText : μ → Path → Except DiskFault String
  /-- How writing a text to a path ends, and what it leaves behind. -/
  writeText : μ → Path → (content : String) → Except DiskFault Unit × μ
  /-- How moving a file from one path to another ends, and what it leaves behind. -/
  rename : μ → (source target : Path) → Except DiskFault Unit × μ
  /-- A path as seen from the root. -/
  absolute : μ → Path → Path

/-- How a step ends that is made as a whole or not at all. -/
def Machine.attempt (machine : Machine) : Except DiskFault Machine → Except DiskFault Unit × Machine
  | .ok changed => (.ok (), changed)
  | .error fault => (.error fault, machine)

instance : System Machine where
  environment := Machine.environment
  readText := Machine.readText
  writeText machine path content := machine.attempt (machine.writeText path content)
  rename machine source target := machine.attempt (machine.rename source target)
  absolute := Machine.absolute

namespace Machine

/-- The environment of a machine. -/
@[simp] theorem system_environment (machine : Machine) :
    System.environment machine = machine.environment := rfl

/-- What a machine reads at a path. -/
@[simp] theorem system_read_text (machine : Machine) (path : Path) :
    System.readText machine path = machine.readText path := rfl

/-- A machine writes a text or leaves all as it is. -/
@[simp] theorem system_write_text (machine : Machine) (path : Path) (content : String) :
    System.writeText machine path content = machine.attempt (machine.writeText path content) := rfl

/-- A machine moves a file or leaves all as it is. -/
@[simp] theorem system_rename (machine : Machine) (source target : Path) :
    System.rename machine source target = machine.attempt (machine.rename source target) := rfl

/-- How a machine sees a path from the root. -/
@[simp] theorem system_absolute (machine : Machine) (path : Path) :
    System.absolute machine path = machine.absolute path := rfl

end Machine

end LastGood
