/-!
# Splitting

A text with separators is the list of the pieces between them. There is always at
least one piece, and pieces may be empty.
-/

namespace LastGood.Text

/-- The pieces of a list of characters between the separators, the empty ones
    included. -/
def pieces (separator : Char) : List Char → List (List Char)
  | [] => [[]]
  | c :: rest =>
      if c = separator then [] :: pieces separator rest
      else
        match pieces separator rest with
        | piece :: others => (c :: piece) :: others
        | [] => [[c]]

/-- There is at least one piece. -/
theorem pieces_ne_nil (separator : Char) (cs : List Char) : pieces separator cs ≠ [] := by
  cases cs with
  | nil => simp [pieces]
  | cons c rest =>
      unfold pieces
      split
      · simp
      · split <;> simp

end LastGood.Text
