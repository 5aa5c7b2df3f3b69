import LastGood.Yaml.Character
import LastGood.Yaml.Mark

/-!
# How far a text can be read

A text is taken in block by block. A block with a character that no text may hold is
refused as a whole, so what can be read ends in front of it. A problem further ahead
therefore stays unnoticed as long as nothing of its block is needed.
-/

namespace LastGood.Yaml

/-- The number of octets that are taken in at once. -/
def blockSize : Nat := 16384

/-- What is taken in of a text. -/
structure Intake where
  /-- The characters that can be read. -/
  readable : List Char
  /-- What is wrong with the block behind them, unless they are the whole text. -/
  problem : Option Problem
  deriving Repr

namespace Intake

/-- The problem of a character that no text may hold, behind so many octets. -/
def forbidden (offset : Nat) : Problem :=
  { message := "control characters are not allowed", offset }

/-- Takes in characters, the first of which has `offset` octets in front of it. The block
    that is being filled has room for so many octets more; `block` holds its characters and
    `taken` those of the blocks before it, both the last character first. -/
def takeIn (taken block : List Char) (room offset : Nat) : List Char → Intake
  | [] => ⟨(block ++ taken).reverse, none⟩
  | c :: rest =>
      let fits := c.utf8Size ≤ room
      let before := if fits then taken else block ++ taken
      if isAllowed c then
        takeIn before (c :: if fits then block else [])
          ((if fits then room else blockSize) - c.utf8Size) (offset + c.utf8Size) rest
      else ⟨before.reverse, some (forbidden offset)⟩

/-- What is taken in of characters. -/
def ofList (cs : List Char) : Intake := takeIn [] [] blockSize 0 cs

end Intake

end LastGood.Yaml
