import LastGood.Proofs.Tree.Marks

/-!
# One tree over another

What a tree holds at a path of keys is nothing, if a map on the way has no such key, or what stands
at the end. A value on the way that is no map is another matter: laid over other trees, it takes
away all that is below it there.

Where the upper tree holds nothing, the lower one stays; and where it holds something, that is laid
over what the lower one holds. For this the maps on the way must be in ascending order, as all maps
are that are made by putting entries into them.
-/

namespace LastGood

variable {α β : Type}

namespace Entries

variable {γ : Type}

/-- The keys ascend, so no key occurs twice. -/
def Ascending (entries : List (String × γ)) : Prop :=
  entries.Pairwise fun entry other => entry.1 < other.1

/-- No key occurs twice. -/
def Distinct (entries : List (String × γ)) : Prop := (entries.map Prod.fst).Nodup

/-- Ascending keys are distinct. -/
theorem Ascending.distinct {entries : List (String × γ)} (ascending : Ascending entries) :
    Distinct entries := by
  refine (List.pairwise_map.mpr ascending).imp ?_
  rintro key other below rfl
  exact String.lt_irrefl key below

/-- Nothing is found under a key that no entry has. -/
theorem get?_eq_none_iff {key : String} {entries : List (String × γ)} :
    get? key entries = none ↔ key ∉ entries.map Prod.fst := by
  induction entries with
  | nil => simp [get?]
  | cons entry rest ih =>
    rw [get?, List.map_cons, List.mem_cons, not_or, ← ih]
    by_cases same : entry.1 = key
    · simp [same]
    · simp [same, Ne.symm same]

/-- What is found is there. -/
theorem mem_of_get? {key : String} {value : γ} {entries : List (String × γ)}
    (found : get? key entries = some value) : (key, value) ∈ entries := by
  induction entries with
  | nil => cases found
  | cons entry rest ih =>
    obtain ⟨other, own⟩ := entry
    rw [get?] at found
    split at found
    case isTrue same =>
      obtain rfl := Option.some.inj found
      exact same ▸ List.mem_cons_self
    case isFalse => exact List.mem_cons_of_mem _ (ih found)

/-- Behind an entry of distinct ones its key does not occur again. -/
theorem Distinct.get?_tail {key : String} {value : γ} {rest : List (String × γ)}
    (distinct : Distinct ((key, value) :: rest)) : get? key rest = none :=
  get?_eq_none_iff.mpr (List.nodup_cons.mp distinct).1

/-- What is there under one of distinct keys is found under it. -/
theorem Distinct.get?_of_mem {key : String} {value : γ} {entries : List (String × γ)}
    (distinct : Distinct entries) (member : (key, value) ∈ entries) :
    get? key entries = some value := by
  induction entries with
  | nil => cases member
  | cons entry rest ih =>
    obtain ⟨alone, later⟩ := List.nodup_cons.mp distinct
    rcases List.mem_cons.mp member with rfl | inner
    · rw [get?, if_pos rfl]
    · have different : entry.1 ≠ key := fun same => alone (same ▸ List.mem_map_of_mem inner)
      rw [get?, if_neg different]
      exact ih later inner

/-- The keys of entries among which one was put are those before and its own. -/
theorem key_of_mem_put {key : String} {value : γ} {entries : List (String × γ)}
    {entry : String × γ} (member : entry ∈ put key value entries) :
    entry.1 = key ∨ ∃ other ∈ entries, other.1 = entry.1 := by
  induction entries with
  | nil => exact .inl (by rw [List.mem_singleton.mp member])
  | cons first rest ih =>
    obtain ⟨other, found⟩ := first
    unfold put at member
    split at member
    · rcases List.mem_cons.mp member with rfl | later
      · exact .inl rfl
      · exact .inr ⟨entry, later, rfl⟩
    · split at member
      · rcases List.mem_cons.mp member with rfl | later
        · exact .inl rfl
        · exact .inr ⟨entry, by simp [later], rfl⟩
      · rcases List.mem_cons.mp member with rfl | later
        · exact .inr ⟨_, by simp, rfl⟩
        · rcases ih later with own | ⟨third, inner, same⟩
          · exact .inl own
          · exact .inr ⟨third, by simp [inner], same⟩

/-- Putting an entry among ascending ones leaves them ascending. -/
theorem Ascending.put {entries : List (String × γ)} (ascending : Ascending entries) (key : String)
    (value : γ) : Ascending (put key value entries) := by
  induction entries with
  | nil => exact List.pairwise_singleton ..
  | cons first rest ih =>
    obtain ⟨other, found⟩ := first
    obtain ⟨above, later⟩ := List.pairwise_cons.mp ascending
    unfold Entries.put
    split
    case isTrue below =>
      refine List.pairwise_cons.mpr ⟨?_, ascending⟩
      intro entry member
      rcases List.mem_cons.mp member with rfl | inner
      · exact below
      · exact String.lt_trans below (above entry inner)
    case isFalse unbelow =>
      split
      case isTrue same => exact List.pairwise_cons.mpr ⟨same ▸ above, later⟩
      case isFalse different =>
        have past : other < key :=
          Std.lt_of_le_of_ne (String.not_lt.mp unbelow) (Ne.symm different)
        refine List.pairwise_cons.mpr ⟨?_, ih later⟩
        intro entry member
        rcases key_of_mem_put member with own | ⟨third, inner, same⟩
        · exact own ▸ past
        · exact same ▸ above third inner

end Entries

namespace Tree

open Entries (Ascending)

/-- Entries laid over ascending ones leave them ascending. -/
theorem ascending_overlaid {lower : List (String × Tree α)} (ascending : Ascending lower)
    (upper : List (String × Tree α)) : Ascending (entriesOverlaid lower upper) := by
  induction upper generalizing lower with
  | nil => exact ascending
  | cons entry rest ih =>
    rw [entriesOverlaid]
    exact ih (ascending.put ..)

/-- What is found where something may be laid over something else, neither of which need be
there. -/
def laid : Option (Tree α) → Option (Tree α) → Option (Tree α)
  | lower, none => lower
  | none, some upper => some upper
  | some lower, some upper => some (lower.overlaidBy upper)

/-- What is found among entries over which others are laid. -/
theorem get?_overlaid (key : String) (lower : List (String × Tree α))
    {upper : List (String × Tree α)} (ascending : Ascending upper) :
    Entries.get? key (entriesOverlaid lower upper) =
      laid (Entries.get? key lower) (Entries.get? key upper) := by
  induction upper generalizing lower with
  | nil => rfl
  | cons entry rest ih =>
    obtain ⟨other, value⟩ := entry
    rw [entriesOverlaid, ih _ (List.pairwise_cons.mp ascending).2, Entries.get?]
    by_cases same : other = key
    · rw [if_pos same, ← same, ascending.distinct.get?_tail, Entries.get?_put_self]
      cases Entries.get? other lower <;> rfl
    · rw [if_neg same, Entries.get?_put_of_ne same]

/-- Laid over nothing, something stays as it is. -/
@[simp] theorem laid_none (upper : Option (Tree α)) : laid none upper = upper := by
  cases upper <;> rfl

/-- What a tree holds at a path: what stands there, or nothing if a map on the way lacks the key.
All that stands on the way are maps in ascending order. -/
inductive Holds : List String → Tree α → Option (Tree α) → Prop where
  /-- The path is at its end. -/
  | here (tree : Tree α) : Holds [] tree (some tree)
  /-- The key is not there. -/
  | absent {key : String} {path : List String} {mark : α} {entries : List (String × Tree α)}
      (ascending : Ascending entries) (missing : Entries.get? key entries = none) :
      Holds (key :: path) (.map mark entries) none
  /-- The path goes on under the key. -/
  | within {key : String} {path : List String} {mark : α} {entries : List (String × Tree α)}
      {tree : Tree α} {held : Option (Tree α)} (ascending : Ascending entries)
      (found : Entries.get? key entries = some tree) (holds : Holds path tree held) :
      Holds (key :: path) (.map mark entries) held

/-- Neither of two paths is the beginning of the other one. -/
def Apart (path other : List String) : Prop := ¬ path <+: other ∧ ¬ other <+: path

/-- No value of a tree stands in the way of a path: whatever there is on the way is a map. -/
def Open : List String → Tree α → Prop
  | [], _ => True
  | key :: path, .map _ entries => ∀ below, (key, below) ∈ entries → Open path below
  | _ :: _, _ => False

variable {path : List String} {base top : Tree α} {lower upper : Option (Tree α)}

/-- A tree over another one holds what the upper one holds, over what the lower one does. -/
theorem Holds.overlaid (holds : Holds path base lower) (topped : Holds path top upper) :
    Holds path (base.overlaidBy top) (laid lower upper) := by
  induction topped generalizing base lower with
  | here tree =>
    cases holds with
    | here base => exact .here _
  | absent ascending missing =>
    cases holds with
    | absent own lacks =>
      refine .absent (ascending_overlaid own _) ?_
      rw [get?_overlaid _ _ ascending, lacks, missing]
      rfl
    | within own found holds =>
      refine .within (ascending_overlaid own _) ?_ holds
      rw [get?_overlaid _ _ ascending, found, missing]
      rfl
  | within ascending found topped ih =>
    cases holds with
    | absent own lacks =>
      rw [laid_none]
      refine .within (ascending_overlaid own _) ?_ topped
      rw [get?_overlaid _ _ ascending, lacks, found]
      rfl
    | within own found' holds =>
      refine .within (ascending_overlaid own _) ?_ (ih holds)
      rw [get?_overlaid _ _ ascending, found', found]
      rfl

/-- Where an entry holds something, it still does when entries are laid over it of which those with
its key leave something held. -/
theorem found_under_entries {key : String} {upper : List (String × Tree α)}
    (step : ∀ below, (key, below) ∈ upper → ∀ (tree held : Tree α), Holds path tree (some held) →
      ∃ result, Holds path (tree.overlaidBy below) (some result))
    {lower : List (String × Tree α)} {tree held : Tree α}
    (found : Entries.get? key lower = some tree) (holds : Holds path tree (some held)) :
    ∃ after result, Entries.get? key (entriesOverlaid lower upper) = some after ∧
      Holds path after (some result) := by
  induction upper generalizing lower tree held with
  | nil => exact ⟨tree, held, found, holds⟩
  | cons entry rest ih =>
    obtain ⟨other, value⟩ := entry
    have others : ∀ below, (key, below) ∈ rest → ∀ (tree held : Tree α),
        Holds path tree (some held) → ∃ result, Holds path (tree.overlaidBy below) (some result) :=
      fun below member => step below (by simp [member])
    rw [entriesOverlaid]
    by_cases same : other = key
    · subst same
      obtain ⟨result, holds⟩ := step value (by simp) tree held holds
      refine ih others ?_ holds
      rw [Entries.get?_put_self, found]
    · refine ih others ?_ holds
      rw [Entries.get?_put_of_ne same, found]

/-- Where something is held, something still is when a tree is laid over it that has no value in the
way. -/
theorem Holds.under_open {held : Tree α} (holds : Holds path base (some held))
    (clear : Open path top) : ∃ result, Holds path (base.overlaidBy top) (some result) := by
  induction path generalizing base top held with
  | nil => exact ⟨_, .here _⟩
  | cons key path ih =>
    cases top with
    | map mark upper =>
      cases holds with
      | within ascending found holds =>
        have step : ∀ below, (key, below) ∈ upper → ∀ (tree held : Tree α),
            Holds path tree (some held) →
            ∃ result, Holds path (tree.overlaidBy below) (some result) :=
          fun below member tree held holds => ih holds (clear below member)
        obtain ⟨after, result, found, holds⟩ := found_under_entries step found holds
        exact ⟨result, .within (ascending_overlaid ascending upper) found holds⟩
    | null mark | bool mark value | number mark value | text mark value | list mark items =>
      exact absurd clear (by simp [Open])

/-- Marked, a tree holds what it held, marked. -/
theorem Holds.mapMarks (f : α → β) (holds : Holds path base lower) :
    Holds path (base.mapMarks f) (lower.map (Tree.mapMarks f)) := by
  have marked : ∀ {entries : List (String × Tree α)}, Ascending entries →
      Ascending (mapEntryMarks f entries) := by
    intro entries ascending
    rw [map_entry_marks_eq]
    exact List.pairwise_map.mpr ascending
  induction holds with
  | here tree => exact .here _
  | absent ascending missing =>
    exact .absent (marked ascending) (by rw [get?_map_entry_marks, missing]; rfl)
  | within ascending found holds ih =>
    exact .within (marked ascending) (by rw [get?_map_entry_marks, found]; rfl) ih

/-- Away from its path a value below a path of keys holds nothing. -/
theorem holds_nested_apart {other : List String} (mark : α) (value : Tree α)
    (apart : Apart other path) : Holds path (nested mark other value) none := by
  induction path generalizing other with
  | nil => exact absurd (List.nil_prefix) apart.2
  | cons key path ih =>
    cases other with
    | nil => exact absurd (List.nil_prefix) apart.1
    | cons first other =>
      have alone : Ascending [(first, nested mark other value)] := List.pairwise_singleton ..
      by_cases same : first = key
      · subst same
        have apart : Apart other path := by
          simpa [Apart, List.cons_prefix_cons] using apart
        exact .within alone (by simp [Entries.get?]) (ih apart)
      · exact .absent alone (by simp [Entries.get?, same])

/-- At its path a value below a path of keys is what is held. -/
theorem holds_nested (mark : α) (path : List String) (value : Tree α) :
    Holds path (nested mark path value) (some value) := by
  induction path with
  | nil => exact .here value
  | cons key path ih =>
    exact .within (List.pairwise_singleton ..) (by simp [Entries.get?]) ih

end Tree

end LastGood
