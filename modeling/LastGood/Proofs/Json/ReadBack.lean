import LastGood.Proofs.Json.Scalars

/-!
# Reading JSON back

A value is read back whatever the layout of its text: it is read from the text whatever stands
behind it, if that is no further part of a number, and blanks in front do not matter. So items are
read back one by one, entries too, and a container is read back when what it holds is. Only the
order of the entries is lost, since a map comes out in the order of its keys.
-/

namespace LastGood.Json

/-- A tree that text can hold within some depth: its numbers are whole words, and it has no more
containers within each other than the depth allows. -/
inductive Fits : Nat → Json → Prop where
  /-- No value. -/
  | null {depth : Nat} : Fits depth (.null ())
  /-- A truth value. -/
  | bool {depth : Nat} {value : Bool} : Fits depth (.bool () value)
  /-- A whole number. -/
  | number {depth n : Nat} (word : n < Number.wordBound) : Fits depth (.number () (.unsigned n))
  /-- A text. -/
  | text {depth : Nat} {value : String} : Fits depth (.text () value)
  /-- A list. -/
  | list {depth : Nat} {items : List Json} (inner : ∀ item ∈ items, Fits depth item) :
      Fits (depth + 1) (.list () items)
  /-- A map. -/
  | map {depth : Nat} {entries : List (String × Json)}
      (inner : ∀ entry ∈ entries, Fits depth entry.2) : Fits (depth + 1) (.map () entries)

/-- Blanks that were skipped need not be skipped again. -/
@[simp] theorem skip_skipped (cs : List Char) : skipSpaces (skipSpaces cs) = skipSpaces cs := by
  unfold skipSpaces
  induction cs with
  | nil => rfl
  | cons c rest ih =>
    by_cases blank : isSpace c = true
    · simp only [List.dropWhile_cons, blank, if_true, ih]
    · simp [blank]

/-- Skipping blanks makes nothing longer. -/
theorem skip_length (cs : List Char) : (skipSpaces cs).length ≤ cs.length :=
  (List.dropWhile_suffix isSpace).length_le

/-- What stands behind ink is shorter than what is left of the whole. -/
theorem length_behind_ink {c : Char} (ink : isSpace c = false) (cs rest : List Char) :
    rest.length < (skipSpaces (cs ++ c :: rest)).length := by
  unfold skipSpaces
  induction cs with
  | nil => simp [ink]
  | cons d cs ih =>
    by_cases blank : isSpace d = true
    · simpa only [List.cons_append, List.dropWhile_cons, blank, if_true] using ih
    · simp [blank]
      omega

/-- Blanks in front of a text are skipped. -/
theorem skip_blank {blanks : List Char} (blank : ∀ c ∈ blanks, isSpace c = true) (cs : List Char) :
    skipSpaces (blanks ++ cs) = skipSpaces cs :=
  List.dropWhile_append_of_pos blank

/-- Nothing is skipped in front of ink. -/
theorem skip_none {c : Char} {cs : List Char} (ink : isSpace c = false) :
    skipSpaces (c :: cs) = c :: cs := by
  simp [skipSpaces, ink]

variable {layout : Layout}

/-- Gaps are skipped. -/
@[simp] theorem Layout.skip_gap (layout : Layout) (depth : Nat) (cs : List Char) :
    skipSpaces (layout.gap depth ++ cs) = skipSpaces cs := skip_blank (layout.blank_gap depth) cs

/-- So is the space. -/
@[simp] theorem Layout.skip_space (layout : Layout) (cs : List Char) :
    skipSpaces (layout.space ++ cs) = skipSpaces cs := skip_blank layout.blank_space cs

/-- No value starts with a blank or with the end of a list. -/
theorem Layout.chars_start (layout : Layout) {depth : Nat} {json : Json}
    (fits : Fits depth json) (indent : Nat) :
    ∃ c cs, layout.chars indent json = c :: cs ∧ isSpace c = false ∧ c ≠ ']' := by
  cases fits with
  | null => exact ⟨'n', _, rfl, rfl, by decide⟩
  | @bool _ value =>
    cases value
    · exact ⟨'f', _, rfl, rfl, by decide⟩
    · exact ⟨'t', _, rfl, rfl, by decide⟩
  | @number _ n word =>
    obtain ⟨c, cs, split, ink, different⟩ := digits_start n
    refine ⟨c, cs, ?_, ink, different _ rfl⟩
    simpa [chars, numberChars, Nat.toString_eq_ofList_toDigits] using split
  | text => exact ⟨'"', _, rfl, rfl, by decide⟩
  | @list _ items inner =>
    cases items with
    | nil => exact ⟨'[', _, rfl, rfl, by decide⟩
    | cons item rest => exact ⟨'[', _, rfl, rfl, by decide⟩
  | @map _ entries inner =>
    cases entries with
    | nil => exact ⟨'\x7b', _, rfl, rfl, by decide⟩
    | cons entry rest => exact ⟨'\x7b', _, rfl, rfl, by decide⟩

/-- A value is read back from its text, whatever stands behind it, if that does not go on with a
number. Blanks in front do not matter. -/
def ReadsBack (layout : Layout) (depth : Nat) (json : Json) : Prop :=
  ∀ (size indent : Nat) (cs rest : List Char), Apart rest → cs.length ≤ size →
    skipSpaces cs = skipSpaces (layout.chars indent json ++ rest) →
    value? size depth cs = some (json.sorted, rest)

/-- A whole word is read back. -/
theorem number_reads_back {n : Nat} (word : n < Number.wordBound) (depth : Nat) :
    ReadsBack layout depth (.number () (.unsigned n)) := by
  intro size indent cs rest apart enough text
  obtain ⟨c, others, split, ink, different⟩ := digits_start n
  have number := number_digits word apart
  have written : skipSpaces cs = c :: (others ++ rest) := by
    rw [text, ← skip_none ink, ← List.cons_append, ← split]
    simp [Layout.chars, numberChars]
  rw [split, List.cons_append] at number
  rw [value?]
  simp [written, number, different '"' rfl, different '[' rfl, different '\x7b' rfl,
    different 't' rfl, different 'f' rfl, different 'n' rfl, Tree.sorted]

/-- Behind the quote that opens a text, the text is read up to the quote that closes it. -/
theorem text_body_string (value : String) {size : Nat} {cs rest : List Char}
    (enough : cs.length ≤ size) (written : skipSpaces cs = skipSpaces (stringChars value ++ rest)) :
    ∃ body, skipSpaces cs = '"' :: body ∧ textBody? size body = some (value.toList, rest) := by
  refine ⟨value.toList.flatMap escapedChar ++ '"' :: rest, ?_, ?_⟩
  · rw [written, stringChars]
    simp only [List.cons_append, List.append_assoc, List.nil_append]
    exact skip_none rfl
  · refine text_body_flat value.toList rest ?_
    have shorter := skip_length cs
    have longer := length_le_escaped value.toList
    rw [written, stringChars, List.cons_append, List.cons_append, skip_none rfl] at shorter
    simp only [List.length_cons, List.length_append] at shorter
    omega

/-- A text is read back. -/
theorem text_reads_back (value : String) (depth : Nat) :
    ReadsBack layout depth (.text () value) := by
  intro size indent cs rest apart enough text
  obtain ⟨body, written, read⟩ := text_body_string value enough text
  rw [value?]
  simp [written, read, Tree.sorted]

/-- Neither a comma nor the end of a container goes on with a number. -/
theorem apart_of_mark {c : Char} (mark : c ∈ [',', ']', '\x7d']) (rest : List Char) :
    Apart (c :: rest) := by
  simp only [List.mem_cons, List.not_mem_nil, or_false] at mark
  rintro _ ⟨⟩
  rcases mark with rfl | rfl | rfl <;> decide

/-- Neither does a gap in front of what goes on with none. -/
theorem Layout.apart_of_gap (layout : Layout) (depth : Nat) {rest : List Char}
    (apart : Apart rest) : Apart (layout.gap depth ++ rest) := by
  intro c starts
  cases gap : layout.gap depth with
  | nil => exact apart c (by simpa [gap] using starts)
  | cons blank others =>
    obtain rfl : blank = c := by simpa [gap] using starts
    have space := layout.blank_gap depth blank (by simp [gap])
    simp only [isSpace, Bool.or_eq_true, beq_iff_eq] at space
    rcases space with ((rfl | rfl) | rfl) | rfl <;> decide

/-- Items are read back when each of them is. -/
theorem items_read_back {depth : Nat} {items : List Json}
    (inner : ∀ item ∈ items, ReadsBack layout depth item) (filled : items ≠ [])
    {size count indent outer : Nat} {cs rest : List Char} (counted : items.length ≤ count)
    (enough : cs.length ≤ size)
    (text : skipSpaces cs =
      skipSpaces (layout.items indent items ++ (layout.gap outer ++ ']' :: rest))) :
    items? size depth count cs = some (Tree.sortedItems items, rest) := by
  induction items generalizing count cs with
  | nil => exact absurd rfl filled
  | cons item others ih =>
    cases count with
    | zero => cases counted
    | succ count =>
      rw [items?]
      cases others with
      | nil =>
        simp only [Layout.items, List.append_assoc, Layout.skip_gap] at text
        have behind := layout.apart_of_gap outer (apart_of_mark (c := ']') (by simp) rest)
        have read := inner item (by simp) size indent cs _ behind enough text
        simp [read, Layout.skip_gap, skip_none (c := ']') rfl, Tree.sortedItems]
      | cons next more =>
        simp only [Layout.items, List.append_assoc, Layout.skip_gap, List.cons_append] at text
        have read := inner item (by simp) size indent cs _ (apart_of_mark (by simp) _) enough text
        have left := length_behind_ink (c := ',') rfl (layout.chars indent item)
          (layout.items indent (next :: more) ++ (layout.gap outer ++ ']' :: rest))
        rw [← text] at left
        have shorter := skip_length cs
        have further := ih (fun other member => inner other (List.mem_cons_of_mem item member))
          (List.cons_ne_nil next more) (Nat.le_of_succ_le_succ counted)
          (show (layout.items indent (next :: more) ++ (layout.gap outer ++ ']' :: rest)).length ≤
            size by omega) rfl
        simp only [read, skip_none (c := ',') rfl, further, Tree.sortedItems, Option.bind_eq_bind,
          Option.bind_some]
        rfl

/-- A list has one item more at most than its text has characters: there are the commas. -/
theorem Layout.length_le_items (layout : Layout) (indent : Nat) (items : List Json) :
    items.length ≤ (layout.items indent items).length + 1 := by
  induction items with
  | nil => exact Nat.zero_le _
  | cons item others ih =>
    cases others with
    | nil => simp
    | cons next more =>
      simp only [Layout.items, List.length_append, List.length_cons] at ih ⊢
      omega

/-- A list that is not empty does not end where it starts. -/
theorem items_start {depth : Nat} {item : Json} (fits : Fits depth item) (others : List Json)
    (indent : Nat) (behind : List Char) :
    ∃ c tail, skipSpaces (layout.items indent (item :: others) ++ behind) = c :: tail ∧
      c ≠ ']' := by
  obtain ⟨c, cs, starts, ink, inside⟩ := layout.chars_start fits indent
  cases others with
  | nil =>
    simp only [Layout.items, List.append_assoc, Layout.skip_gap, starts, List.cons_append,
      skip_none ink]
    exact ⟨c, _, rfl, inside⟩
  | cons next more =>
    simp only [Layout.items, List.append_assoc, Layout.skip_gap, starts, List.cons_append,
      skip_none ink]
    exact ⟨c, _, rfl, inside⟩

/-- A list is read back when its items are. -/
theorem list_reads_back {depth : Nat} {items : List Json} (fits : ∀ item ∈ items, Fits depth item)
    (inner : ∀ item ∈ items, ReadsBack layout depth item) :
    ReadsBack layout (depth + 1) (.list () items) := by
  intro size indent cs rest apart enough text
  cases items with
  | nil =>
    have written : skipSpaces cs = '[' :: ']' :: rest := text.trans (skip_none rfl)
    rw [value?]
    simp [written, skip_none (c := ']') rfl, Tree.sorted, Tree.sortedItems]
  | cons item others =>
    have written : skipSpaces cs = '[' ::
        (layout.items (indent + 1) (item :: others) ++ (layout.gap indent ++ ']' :: rest)) := by
      rw [text]
      simp only [Layout.chars, List.cons_append, List.append_assoc, List.nil_append]
      exact skip_none rfl
    have shorter := skip_length cs
    have counted := layout.length_le_items (indent + 1) (item :: others)
    rw [written, List.length_cons, List.length_append] at shorter
    have body_shorter := skip_length
      (layout.items (indent + 1) (item :: others) ++ (layout.gap indent ++ ']' :: rest))
    rw [List.length_append] at body_shorter
    have read : items? size depth size (skipSpaces
        (layout.items (indent + 1) (item :: others) ++ (layout.gap indent ++ ']' :: rest))) =
          some (Tree.sortedItems (item :: others), rest) :=
      items_read_back inner (List.cons_ne_nil item others) (by omega) (by omega) (skip_skipped _)
    obtain ⟨c, tail, starts, inside⟩ :=
      items_start (fits item (by simp)) others (indent + 1) (layout.gap indent ++ ']' :: rest)
    rw [starts] at read
    rw [value?]
    simp [written, starts, inside, read, Tree.sorted]

/-- One entry is read back when its value is: first the key, then the value. -/
theorem entry_reads_back {depth : Nat} {key : String} {value : Json}
    (inner : ReadsBack layout depth value) {size indent : Nat} {cs rest : List Char}
    (apart : Apart rest) (enough : cs.length ≤ size)
    (text : skipSpaces cs = skipSpaces
      (stringChars key ++ ':' :: (layout.space ++ (layout.chars indent value ++ rest)))) :
    ∃ body behind, skipSpaces cs = '"' :: body ∧
      textBody? size body = some (key.toList, ':' :: behind) ∧
      value? size depth behind = some (value.sorted, rest) ∧ rest.length ≤ cs.length := by
  obtain ⟨body, written, read⟩ := text_body_string key enough text
  have left := length_behind_ink (c := ':') rfl (stringChars key)
    (layout.space ++ (layout.chars indent value ++ rest))
  have shorter := skip_length cs
  rw [← text] at left
  refine ⟨body, _, written, read, ?_, ?_⟩
  · exact inner size indent _ rest apart (by omega) (layout.skip_space _)
  · simp only [List.length_append] at left
    omega

/-- Entries are read back when the values of all of them are. -/
theorem entries_read_back {depth : Nat} {entries : List (String × Json)}
    (inner : ∀ entry ∈ entries, ReadsBack layout depth entry.2) (filled : entries ≠ [])
    {size count indent outer : Nat} {cs rest : List Char} (counted : entries.length ≤ count)
    (enough : cs.length ≤ size)
    (text : skipSpaces cs =
      skipSpaces (layout.entries indent entries ++ (layout.gap outer ++ '\x7d' :: rest))) :
    entries? size depth count cs = some (Tree.sortedEntries entries, rest) := by
  induction entries generalizing count cs with
  | nil => exact absurd rfl filled
  | cons entry others ih =>
    obtain ⟨key, value⟩ := entry
    have value_back : ReadsBack layout depth value := inner (key, value) (by simp)
    cases count with
    | zero => cases counted
    | succ count =>
      rw [entries?]
      cases others with
      | nil =>
        simp only [Layout.entries, List.append_assoc, Layout.skip_gap,
          List.cons_append] at text
        have apart := layout.apart_of_gap outer (apart_of_mark (c := '\x7d') (by simp) rest)
        obtain ⟨body, behind, written, named, read, _⟩ :=
          entry_reads_back value_back apart enough text
        simp [written, named, skip_none (c := ':') rfl, read, Layout.skip_gap,
          skip_none (c := '\x7d') rfl, Tree.sortedEntries]
      | cons next more =>
        simp only [Layout.entries, List.append_assoc, Layout.skip_gap,
          List.cons_append] at text
        obtain ⟨body, behind, written, named, read, shorter⟩ :=
          entry_reads_back value_back (apart_of_mark (by simp) _) enough text
        have further := ih (fun other member => inner other (List.mem_cons_of_mem _ member))
          (List.cons_ne_nil next more) (Nat.le_of_succ_le_succ counted)
          (Nat.le_trans (Nat.le_of_succ_le shorter) enough) rfl
        simp only [written, named, skip_none (c := ':') rfl, read, skip_none (c := ',') rfl,
          further, Tree.sortedEntries, Option.bind_eq_bind, Option.bind_some, String.ofList_toList]
        rfl

/-- So it is with the entries of a map. -/
theorem Layout.length_le_entries (layout : Layout) (indent : Nat)
    (entries : List (String × Json)) :
    entries.length ≤ (layout.entries indent entries).length + 1 := by
  induction entries with
  | nil => exact Nat.zero_le _
  | cons entry others ih =>
    cases others with
    | nil => simp
    | cons next more =>
      simp only [Layout.entries, List.length_append, List.length_cons] at ih ⊢
      omega

/-- A map that is not empty starts with the key of its first entry. -/
theorem entries_start (entry : String × Json) (others : List (String × Json)) (indent : Nat)
    (behind : List Char) :
    ∃ tail, skipSpaces (layout.entries indent (entry :: others) ++ behind) = '"' :: tail := by
  cases others with
  | nil =>
    simp only [Layout.entries, stringChars, List.append_assoc, Layout.skip_gap, List.cons_append,
      skip_none (c := '"') rfl]
    exact ⟨_, rfl⟩
  | cons next more =>
    simp only [Layout.entries, stringChars, List.append_assoc, Layout.skip_gap, List.cons_append,
      skip_none (c := '"') rfl]
    exact ⟨_, rfl⟩

/-- A map is read back when its values are, in the order of its keys. -/
theorem map_reads_back {depth : Nat} {entries : List (String × Json)}
    (inner : ∀ entry ∈ entries, ReadsBack layout depth entry.2) :
    ReadsBack layout (depth + 1) (.map () entries) := by
  intro size indent cs rest apart enough text
  cases entries with
  | nil =>
    have written : skipSpaces cs = '\x7b' :: '\x7d' :: rest := text.trans (skip_none rfl)
    rw [value?]
    simp [written, skip_none (c := '\x7d') rfl, Tree.sorted, Tree.sortedEntries, Entries.ofList]
  | cons entry others =>
    have written : skipSpaces cs = '\x7b' :: (layout.entries (indent + 1) (entry :: others) ++
        (layout.gap indent ++ '\x7d' :: rest)) := by
      rw [text]
      simp only [Layout.chars, List.cons_append, List.append_assoc, List.nil_append]
      exact skip_none rfl
    have shorter := skip_length cs
    have counted := layout.length_le_entries (indent + 1) (entry :: others)
    rw [written, List.length_cons, List.length_append] at shorter
    have body_shorter := skip_length
      (layout.entries (indent + 1) (entry :: others) ++ (layout.gap indent ++ '\x7d' :: rest))
    rw [List.length_append] at body_shorter
    have read : entries? size depth size (skipSpaces
        (layout.entries (indent + 1) (entry :: others) ++ (layout.gap indent ++ '\x7d' :: rest))) =
          some (Tree.sortedEntries (entry :: others), rest) :=
      entries_read_back inner (List.cons_ne_nil entry others) (by omega) (by omega)
        (skip_skipped _)
    obtain ⟨tail, starts⟩ :=
      entries_start entry others (indent + 1) (layout.gap indent ++ '\x7d' :: rest)
    rw [starts] at read
    rw [value?]
    simp [written, starts, read, Tree.sorted]

/-- Every tree that fits is read back. -/
theorem reads_back_of_fits {depth : Nat} {json : Json} (fits : Fits depth json) :
    ReadsBack layout depth json := by
  induction fits with
  | null =>
    intro size indent cs rest apart enough text
    have written : skipSpaces cs = 'n' :: 'u' :: 'l' :: 'l' :: rest := text.trans (skip_none rfl)
    rw [value?]
    simp [written, word?, Tree.sorted]
  | @bool _ value =>
    intro size indent cs rest apart enough text
    cases value with
    | true =>
      have written : skipSpaces cs = 't' :: 'r' :: 'u' :: 'e' :: rest := text.trans (skip_none rfl)
      rw [value?]
      simp [written, word?, Tree.sorted]
    | false =>
      have written : skipSpaces cs = 'f' :: 'a' :: 'l' :: 's' :: 'e' :: rest :=
        text.trans (skip_none rfl)
      rw [value?]
      simp [written, word?, Tree.sorted]
  | number word => exact number_reads_back word _
  | text => exact text_reads_back _ _
  | list fits inner => exact list_reads_back fits inner
  | map fits inner => exact map_reads_back inner

/-- The text of a tree is read back in any layout as that tree with its maps in the order of their
keys. -/
theorem Layout.of_text_text (layout : Layout) {json : Json} (fits : Fits maxDepth json) :
    ofText? (layout.text json) = some json.sorted := by
  have read := reads_back_of_fits fits (layout.chars 0 json).length 0 (layout.chars 0 json) []
    (by rintro c ⟨⟩) (Nat.le_refl _) (by rw [List.append_nil])
  have written : (layout.text json).toList = layout.chars 0 json := String.toList_ofList
  simp only [ofText?, written, read, Option.bind_eq_bind, Option.bind_some]
  rfl

end LastGood.Json
