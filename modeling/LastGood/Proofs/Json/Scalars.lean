import LastGood.Json.Reader

/-!
# Texts and numbers of JSON

A text is written character by character, a number digit by digit. Each character is read back
from what was written for it, so that the text is; and the digits of a number are read back as
the number, if what stands behind them does not go on with them.
-/

namespace LastGood.Json

/-- A control character written as a code of four digits is read as itself. -/
theorem code_of_control {n : Nat} (control : n < 32) (rest : List Char) :
    codeEscape? (Text.hexPadded 4 n ++ rest) = some (Char.ofNat n, rest) := by
  have padded : ∀ n : Fin 32, (Text.hexPadded 4 n.val).length = 4 ∧
      Text.hexNumber? (Text.hexPadded 4 n.val) = some n.val := by decide +kernel
  obtain ⟨four, number⟩ := padded ⟨n, control⟩
  have unit : unit? (Text.hexPadded 4 n ++ rest) = some (n, rest) := by
    simp [unit?, four, number]
  have low : n < 0xD800 := by omega
  simp [codeEscape?, unit, low]

/-- The three ways in which a character is written inside a text. -/
inductive Spelling (c : Char) : List Char → Prop where
  /-- As a letter behind a backslash. -/
  | letter {letter : Char} (other : letter ≠ 'u') (meant : letterEscape? letter = some c) :
      Spelling c ['\\', letter]
  /-- As a code of four digits. -/
  | code (control : c.toNat < 32) : Spelling c ('\\' :: 'u' :: Text.hexPadded 4 c.toNat)
  /-- As it is. -/
  | plain (quote : c ≠ '"') (backslash : c ≠ '\\') (printed : ¬ c.toNat < 32) : Spelling c [c]

/-- Every character of a text is written in one of these ways. -/
theorem spelling_of_escaped (c : Char) : Spelling c (escapedChar c) := by
  have known : ∀ special letter : Char, (c == special) = true → letter ≠ 'u' →
      letterEscape? letter = some special → Spelling c ['\\', letter] := by
    intro special letter same other meant
    rw [eq_of_beq same]
    exact .letter other meant
  unfold escapedChar
  split
  case isTrue quote => exact known _ _ quote (by decide) rfl
  case isFalse quote =>
  split
  case isTrue backslash => exact known _ _ backslash (by decide) rfl
  case isFalse backslash =>
  split
  case isTrue same => exact known _ _ same (by decide) rfl
  split
  case isTrue same => exact known _ _ same (by decide) rfl
  split
  case isTrue same => exact known _ _ same (by decide) rfl
  split
  case isTrue same => exact known _ _ same (by decide) rfl
  split
  case isTrue same => exact known _ _ same (by decide) rfl
  split
  case isTrue control => exact .code control
  case isFalse printed => exact .plain (by simpa using quote) (by simpa using backslash) printed

/-- A character in front of a text is read back as that character. -/
theorem text_body_escaped (fuel : Nat) (c : Char) (rest : List Char) :
    textBody? (fuel + 1) (escapedChar c ++ rest) =
      (textBody? fuel rest).map fun (body, rest) => (c :: body, rest) := by
  have spelled := spelling_of_escaped c
  generalize escapedChar c = written at spelled
  cases spelled with
  | letter other meant =>
    simp only [List.cons_append, List.nil_append, textBody?, meant]
    cases textBody? fuel rest <;> rfl
  | code control =>
    simp only [List.cons_append, textBody?, code_of_control control, Char.ofNat_toNat,
      Option.bind_eq_bind, Option.bind_some]
    cases textBody? fuel rest <;> rfl
  | plain quote backslash printed =>
    simp [textBody?, backslash, printed]

/-- A text is read back up to the quote that closes it. -/
theorem text_body_flat (cs : List Char) {fuel : Nat} (rest : List Char)
    (enough : cs.length < fuel) :
    textBody? fuel (cs.flatMap escapedChar ++ '"' :: rest) = some (cs, rest) := by
  induction cs generalizing fuel with
  | nil =>
    obtain ⟨more, rfl⟩ := Nat.exists_eq_add_of_lt enough
    simp [textBody?]
  | cons c cs ih =>
    obtain ⟨more, rfl⟩ := Nat.exists_eq_add_of_lt enough
    rw [List.flatMap_cons, List.append_assoc, text_body_escaped, ih (by simp; omega)]
    rfl

/-- A text is as long as what it stands for at least. -/
theorem length_le_escaped (cs : List Char) : cs.length ≤ (cs.flatMap escapedChar).length := by
  induction cs with
  | nil => exact Nat.le_refl _
  | cons c cs ih =>
    have some_char : 1 ≤ (escapedChar c).length := by
      have spelled := spelling_of_escaped c
      generalize escapedChar c = written at spelled
      cases spelled <;> simp
    simp only [List.flatMap_cons, List.length_cons, List.length_append]
    omega

/-- Text that goes on with no number: it does not start with a digit, a point or an exponent. -/
def Apart (rest : List Char) : Prop :=
  ∀ c ∈ rest.head?, Decimal.isDigit c = false ∧ c ≠ '.' ∧ c ≠ 'e' ∧ c ≠ 'E'

/-- Whole numbers are written with decimal digits. -/
theorem is_digit_of_digits {n : Nat} {c : Char} (member : c ∈ Nat.toDigits 10 n) :
    Decimal.isDigit c = true := by
  have digit := Nat.isDigit_of_mem_toDigits (by decide) (by decide) member
  simpa [Char.isDigit, Decimal.isDigit, Char.le_def] using digit

/-- The digits of a number amount to it. -/
theorem digits_value_digits (n : Nat) : Decimal.digitsValue (Nat.toDigits 10 n) = n := by
  have same : ∀ (cs : List Char) (total : Nat),
      cs.foldl (fun total c => total * 10 + (c.toNat - 48)) total =
        Nat.ofDigitChars 10 cs total := by
    intro cs total
    rw [Nat.ofDigitChars_eq_foldl]
    simp only [Nat.mul_comm]
    rfl
  rw [Decimal.digitsValue, same, Nat.ofDigitChars_ten_toDigits]

/-- A number that is not zero is written without a zero in front. -/
theorem head_digits_ne_zero (n : Nat) (positive : 0 < n) :
    (Nat.toDigits 10 n).head? ≠ some '0' := by
  induction n using Nat.strongRecOn with
  | ind n ih =>
    by_cases short : n < 10
    · have every : ∀ n : Fin 10, 0 < n.val → [n.val.digitChar].head? ≠ some '0' := by decide
      rw [Nat.toDigits_of_lt_base short]
      exact every ⟨n, short⟩ positive
    · have shorter : 0 < n / 10 ∧ n / 10 < n := by omega
      have head := ih (n / 10) shorter.2 shorter.1
      rw [Nat.toDigits_of_base_le (by decide) (Nat.le_of_not_lt short)]
      rwa [List.head?_append, Option.or_of_isSome (by simp [Nat.toDigits_ne_nil])]

/-- A number is written without needless zeros. -/
theorem is_whole_digits (n : Nat) : isWhole (Nat.toDigits 10 n) = true := by
  by_cases zero : n = 0
  · rw [zero, Nat.toDigits_zero]
    rfl
  · have head := head_digits_ne_zero n (Nat.pos_of_ne_zero zero)
    have some_digit : Nat.toDigits 10 n ≠ [] := Nat.toDigits_ne_nil
    generalize Nat.toDigits 10 n = digits at head some_digit
    unfold isWhole
    split
    · exact absurd rfl some_digit
    · rfl
    · exact absurd rfl head
    · rfl

/-- A whole word is read back from its digits, if no number goes on behind them. -/
theorem number_digits {n : Nat} (fits : n < Number.wordBound) {rest : List Char}
    (apart : Apart rest) :
    number? (Nat.toDigits 10 n ++ rest) = some (.unsigned n, rest) := by
  have digits : ∀ c ∈ Nat.toDigits 10 n, Decimal.isDigit c = true := fun c => is_digit_of_digits
  have stops : rest.takeWhile Decimal.isDigit = [] ∧ rest.dropWhile Decimal.isDigit = rest := by
    cases rest with
    | nil => exact ⟨rfl, rfl⟩
    | cons c tail => simp [(apart c rfl).1]
  have taken : (Nat.toDigits 10 n ++ rest).takeWhile Decimal.isDigit = Nat.toDigits 10 n := by
    rw [List.takeWhile_append_of_pos digits, stops.1, List.append_nil]
  have left : (Nat.toDigits 10 n ++ rest).dropWhile Decimal.isDigit = rest := by
    rw [List.dropWhile_append_of_pos digits, stops.2]
  have whole := is_whole_digits n
  have value := digits_value_digits n
  obtain ⟨first, others, split⟩ :=
    List.exists_cons_of_ne_nil (Nat.toDigits_ne_nil (n := n) (b := 10))
  have unsigned : first ≠ '-' := by
    rintro rfl
    exact absurd (digits '-' (by simp [split])) (by decide)
  rw [split] at taken left whole value ⊢
  rw [List.cons_append] at taken left ⊢
  generalize others ++ rest = body at taken left ⊢
  cases rest with
  | nil => simp [number?, taken, left, unsigned, whole, numberOf?, value, fits]
  | cons c tail =>
    obtain ⟨_, point, lower, upper⟩ := apart c rfl
    simp [number?, taken, left, unsigned, whole, numberOf?, value, fits, point, lower, upper]

/-- The digits of a number start with a digit, which is neither a blank nor the start of any other
value. -/
theorem digits_start (n : Nat) :
    ∃ c cs, Nat.toDigits 10 n = c :: cs ∧ isSpace c = false ∧
      ∀ other, Decimal.isDigit other = false → c ≠ other := by
  obtain ⟨c, cs, split⟩ :=
    List.exists_cons_of_ne_nil (Nat.toDigits_ne_nil (n := n) (b := 10))
  have digit : Decimal.isDigit c = true := is_digit_of_digits (n := n) (by simp [split])
  have different : ∀ other, Decimal.isDigit other = false → c ≠ other := by
    rintro other none rfl
    exact absurd digit (by simp [none])
  refine ⟨c, cs, split, ?_, different⟩
  simp [isSpace, different ' ' rfl, different '\n' rfl, different '\t' rfl, different '\r' rfl]

end LastGood.Json
