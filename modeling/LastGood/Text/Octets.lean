/-!
# Octets of a text

A character takes between one and four octets. A text can be cut at a number of octets
only where no character lies across the cut.
-/

namespace LastGood.Text

/-- The number of octets of a list of characters. -/
def octetCount (cs : List Char) : Nat := cs.foldr (fun c count => c.utf8Size + count) 0

/-- A list of characters cut behind a number of octets, if no character lies across the
    cut. -/
def cutAt? : (count : Nat) → List Char → Option (List Char × List Char)
  | 0, cs => some ([], cs)
  | _ + 1, [] => none
  | count + 1, c :: rest =>
      if c.utf8Size ≤ count + 1 then
        (cutAt? (count + 1 - c.utf8Size) rest).map fun (before, after) => (c :: before, after)
      else none

end LastGood.Text
