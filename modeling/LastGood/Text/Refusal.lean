import LastGood.Text.Octets
import LastGood.Text.Quoted

/-!
# Texts that are refused

A reader refuses a text that is malformed. One that counts octets where it should count
characters may be led into the middle of a character, and then it crashes.
-/

namespace LastGood.Text

/-- Why a text is not read. -/
inductive Refusal where
  /-- It is not of the language. -/
  | malformed
  /-- Its reading crashed, with this message. -/
  | crash (message : String)
  deriving DecidableEq, Repr

/-- The message of a crash at the octet `index`, when the octets of the characters are
    counted from `start`. -/
def cutMessage (index : Nat) : (start : Nat) → List Char → String
  | _, [] => ""
  | start, c :: rest =>
      let stop := start + c.utf8Size
      if stop ≤ index then cutMessage index stop rest
      else
        "end byte index " ++ toString index ++ " is not a char boundary; it is inside '" ++
          String.ofList (quotedChar c) ++ "' (bytes " ++ toString start ++ ".." ++
          toString stop ++ " of string)"

/-- A list of characters cut behind a number of octets, with a crash inside of a
    character. -/
def cut (count : Nat) (cs : List Char) : Except Refusal (List Char × List Char) :=
  match cutAt? count cs with
  | some parts => .ok parts
  | none => .error (.crash (cutMessage count 0 cs))

/-- The part of a list of characters between two octets. -/
def part (first stop : Nat) (cs : List Char) : Except Refusal (List Char) := do
  let (before, _) ← cut stop cs
  let (_, part) ← cut first before
  return part

end LastGood.Text
