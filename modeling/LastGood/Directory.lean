import LastGood.Path

/-!
# Directories

The directory of a configuration has a name that the system knows it by. That is a sequence of
bytes: those of a text, or bytes that are no text. Only a text can be written down. Two directories
are the same when they are so as paths, and a text is never the same as bytes that are none.
-/

namespace LastGood

/-- A name as the system knows it. -/
inductive SystemName where
  /-- A text. -/
  | text (text : String)
  /-- Bytes that are no text. -/
  | bytes (content : ByteArray) (foreign : String.fromUTF8? content = none)

namespace SystemName

instance : DecidableEq SystemName
  | .text a, .text b => decidable_of_iff (a = b) (by rw [text.injEq])
  | .bytes a _, .bytes b _ =>
      decidable_of_iff (a.data = b.data) (by rw [bytes.injEq, ByteArray.ext_iff])
  | .text _, .bytes _ _ | .bytes _ _, .text _ => .isFalse (by simp)

instance : Coe String SystemName := ⟨text⟩

instance : Repr SystemName where
  reprPrec
    | .text written, level => reprPrec written level
    | .bytes content _, level => reprPrec content.toList level

/-- The text of a name that is one. -/
def text? : SystemName → Option String
  | .text written => some written
  | .bytes _ _ => none

/-- The characters of a name. A byte that is part of no text stands for itself. -/
def characters : SystemName → String
  | .text written => written
  | .bytes content _ => String.ofList (content.toList.map fun byte => Char.ofNat byte.toNat)

end SystemName

/-- A directory, by the name that was given to it. -/
structure Directory where
  /-- The name. -/
  name : SystemName
  deriving DecidableEq, Repr

namespace Directory

/-- The text of the directory, if its name is one. -/
def text? (directory : Directory) : Option String := directory.name.text?

/-- The text that stands for the directory where it is written down. -/
def text (directory : Directory) : String := directory.text?.getD ""

/-- Whether two directories are the same as paths. -/
def sameAs (a b : Directory) : Bool :=
  a.text?.isSome == b.text?.isSome &&
    Path.sameAs ⟨a.name.characters⟩ ⟨b.name.characters⟩

/-- Why a directory without a text cannot be written down. -/
def foreignText : String := "path contains invalid UTF-8 characters"

/-- What is written with the directory in it, or why nothing is. -/
def writing {β : Type} (directory : Directory) (written : β) : Except String β :=
  if directory.text?.isSome then .ok written else .error foreignText

/-- A directory is the same as itself. -/
@[simp] theorem sameAs_refl (directory : Directory) : directory.sameAs directory = true := by
  simp [sameAs]

end Directory

end LastGood
