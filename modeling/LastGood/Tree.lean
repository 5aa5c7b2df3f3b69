import LastGood.Number.Binary64

/-!
# Trees of settings

Everything that is read from outside, be it a document, an override or a message,
is a tree of scalars, lists and maps before it becomes a typed value. Every node
carries a mark that says where it came from; trees that need no such mark carry the
unit.

A map is a list of entries. The entries that come out of `Entries.put` are in
ascending order of their keys and no key occurs twice, and laying one tree over
another keeps that order: maps are combined key by key, and everything else is
replaced.
-/

namespace LastGood

/-- A number in a tree. Whole numbers remember whether they were written without a
    sign that makes them negative; minus zero is a signed zero. -/
inductive Number where
  /-- A whole number that is not negative. -/
  | unsigned (n : Nat)
  /-- A whole number written with a minus sign. -/
  | signed (n : Int)
  /-- A number with a fraction or an exponent. -/
  | float (x : Binary64)
  deriving DecidableEq, Repr

namespace Number

/-- One more than the greatest whole number of sixty-four bits without a sign. -/
def wordBound : Nat := 18446744073709551616

/-- One more than the greatest whole number of sixty-four bits with a sign. -/
def signedWordBound : Nat := 9223372036854775808

end Number

/-- A tree of settings with a mark of type `α` at every node. -/
inductive Tree (α : Type) where
  /-- No value. -/
  | null (mark : α)
  /-- A truth value. -/
  | bool (mark : α) (value : Bool)
  /-- A number. -/
  | number (mark : α) (value : Number)
  /-- A text. -/
  | text (mark : α) (value : String)
  /-- A list of trees. -/
  | list (mark : α) (items : List (Tree α))
  /-- Trees under keys. -/
  | map (mark : α) (entries : List (String × Tree α))
  deriving Repr

namespace Entries

variable {β : Type}

/-- The value under the first entry with this key. -/
def get? (key : String) : List (String × β) → Option β
  | [] => none
  | (k, v) :: rest => if k = key then some v else get? key rest

/-- Entries with the value under `key` replaced, or added in front of the first
    larger key. -/
def put (key : String) (value : β) : List (String × β) → List (String × β)
  | [] => [(key, value)]
  | (k, v) :: rest =>
      if key < k then (key, value) :: (k, v) :: rest
      else if key = k then (key, value) :: rest
      else (k, v) :: put key value rest

/-- Entries in ascending order; of two with one key the later one stays. -/
def ofList (entries : List (String × β)) : List (String × β) :=
  entries.foldl (fun sorted (key, value) => put key value sorted) []

/-- What was put is what is found. -/
@[simp] theorem get?_put_self (key : String) (value : β) (entries : List (String × β)) :
    get? key (put key value entries) = some value := by
  induction entries with
  | nil => simp [put, get?]
  | cons entry rest ih =>
      obtain ⟨k, v⟩ := entry
      unfold put
      split
      · simp [get?]
      · split
        · simp [get?]
        · rename_i _ different
          have other : ¬k = key := fun same => different same.symm
          simp [get?, other, ih]

/-- Putting a value under one key leaves what is found under another. -/
theorem get?_put_of_ne {key other : String} (different : key ≠ other) (value : β)
    (entries : List (String × β)) : get? other (put key value entries) = get? other entries := by
  induction entries with
  | nil => simp [put, get?, different]
  | cons entry rest ih =>
      obtain ⟨k, v⟩ := entry
      unfold put
      split
      · simp [get?, different]
      · split
        · rename_i _ same
          subst same
          simp [get?, different]
        · simp only [get?, ih]

end Entries

namespace Tree

variable {α β : Type}

/-- The mark of the root. -/
def mark : Tree α → α
  | null m | bool m _ | number m _ | text m _ | list m _ | map m _ => m

mutual

/-- The same tree with every mark put through a function. -/
def mapMarks (f : α → β) : Tree α → Tree β
  | null m => null (f m)
  | bool m value => bool (f m) value
  | number m value => number (f m) value
  | text m value => text (f m) value
  | list m items => list (f m) (mapItemMarks f items)
  | map m entries => map (f m) (mapEntryMarks f entries)

/-- The items of a list with every mark put through a function. -/
def mapItemMarks (f : α → β) : List (Tree α) → List (Tree β)
  | [] => []
  | item :: rest => item.mapMarks f :: mapItemMarks f rest

/-- The entries of a map with every mark put through a function. -/
def mapEntryMarks (f : α → β) : List (String × Tree α) → List (String × Tree β)
  | [] => []
  | (key, value) :: rest => (key, value.mapMarks f) :: mapEntryMarks f rest

end

/-- The same tree with every mark replaced. -/
def marked (new : β) (tree : Tree α) : Tree β := tree.mapMarks fun _ => new

mutual

/-- The tree with `top` laid over `base`: two maps are combined, and otherwise `top`
    stays alone. A combined map has the mark of the upper one. -/
def overlaidBy (base : Tree α) : (top : Tree α) → Tree α
  | map mark upper =>
      match base with
      | map _ lower => map mark (entriesOverlaid lower upper)
      | _ => map mark upper
  | top => top

/-- The entries of `top` laid over those of `base`, key by key. -/
def entriesOverlaid (base : List (String × Tree α)) :
    (top : List (String × Tree α)) → List (String × Tree α)
  | [] => base
  | (key, value) :: rest =>
      let combined :=
        match Entries.get? key base with
        | some lower => overlaidBy lower value
        | none => value
      entriesOverlaid (Entries.put key combined base) rest

end

mutual

/-- The same tree with the entries of every map in ascending order. -/
def sorted : Tree α → Tree α
  | list mark items => list mark (sortedItems items)
  | map mark entries => map mark (Entries.ofList (sortedEntries entries))
  | scalar => scalar

/-- Every item of a list with its maps in order. -/
def sortedItems : List (Tree α) → List (Tree α)
  | [] => []
  | item :: rest => item.sorted :: sortedItems rest

/-- Every value of a map with its maps in order. -/
def sortedEntries : List (String × Tree α) → List (String × Tree α)
  | [] => []
  | (key, value) :: rest => (key, value.sorted) :: sortedEntries rest

end

/-- The subtree that a path of keys leads to. -/
def at? : List String → Tree α → Option (Tree α)
  | [], tree => some tree
  | key :: path, map _ entries => (Entries.get? key entries).bind (at? path)
  | _ :: _, _ => none

/-- A value below a path of keys, each key the only one in its map. -/
def nested (mark : α) : List String → Tree α → Tree α
  | [], value => value
  | key :: path, value => map mark [(key, nested mark path value)]

section Equality

variable [DecidableEq α]

mutual

/-- Whether two trees are the same, with their marks. -/
def decideEq : (tree other : Tree α) → Decidable (tree = other)
  | .null m, other => match other with
    | .null n => decidable_of_iff (m = n) (by simp)
    | .bool .. | .number .. | .text .. | .list .. | .map .. => isFalse nofun
  | .bool m a, other => match other with
    | .bool n b => decidable_of_iff (m = n ∧ a = b) (by simp)
    | .null .. | .number .. | .text .. | .list .. | .map .. => isFalse nofun
  | .number m a, other => match other with
    | .number n b => decidable_of_iff (m = n ∧ a = b) (by simp)
    | .null .. | .bool .. | .text .. | .list .. | .map .. => isFalse nofun
  | .text m a, other => match other with
    | .text n b => decidable_of_iff (m = n ∧ a = b) (by simp)
    | .null .. | .bool .. | .number .. | .list .. | .map .. => isFalse nofun
  | .list m items, other => match other with
    | .list n others =>
        have := decideItemsEq items others
        decidable_of_iff (m = n ∧ items = others) (by simp)
    | .null .. | .bool .. | .number .. | .text .. | .map .. => isFalse nofun
  | .map m entries, other => match other with
    | .map n others =>
        have := decideEntriesEq entries others
        decidable_of_iff (m = n ∧ entries = others) (by simp)
    | .null .. | .bool .. | .number .. | .text .. | .list .. => isFalse nofun

/-- Whether two lists of trees are the same. -/
def decideItemsEq : (items others : List (Tree α)) → Decidable (items = others)
  | [], [] => isTrue rfl
  | [], _ :: _ | _ :: _, [] => isFalse nofun
  | tree :: items, other :: others =>
      have := decideEq tree other
      have := decideItemsEq items others
      decidable_of_iff (tree = other ∧ items = others) (by simp)

/-- Whether two lists of entries are the same. -/
def decideEntriesEq : (entries others : List (String × Tree α)) → Decidable (entries = others)
  | [], [] => isTrue rfl
  | [], _ :: _ | _ :: _, [] => isFalse nofun
  | (key, tree) :: entries, (key', other) :: others =>
      have := decideEq tree other
      have := decideEntriesEq entries others
      decidable_of_iff (key = key' ∧ tree = other ∧ entries = others) (by simp [and_assoc])

end

instance : DecidableEq (Tree α) := decideEq

end Equality

end Tree

end LastGood
