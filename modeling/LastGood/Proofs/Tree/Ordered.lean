import Mathlib.Data.List.Perm.Basic
import LastGood.Proofs.Tree.Overlay

/-!
# Trees in order

A tree is in order when the keys of each of its maps ascend, so that none occurs twice. It stays in
order whatever its marks become, below a path of keys, and among others that it is put into. Any tree
can be put in order, and that neither adds nor drops an entry, unless a key occurs twice.
-/

namespace LastGood

variable {α β γ : Type}

namespace Entries

/-- Whether keys are distinct does not depend on the order of the entries. -/
theorem Distinct.of_perm {entries others : List (String × γ)} (distinct : Distinct entries)
    (order : others.Perm entries) : Distinct others :=
  (order.map Prod.fst).nodup_iff.mpr distinct

/-- An entry whose key is new comes to the others. -/
theorem put_perm {key : String} {value : γ} {entries : List (String × γ)}
    (absent : key ∉ entries.map Prod.fst) :
    (put key value entries).Perm ((key, value) :: entries) := by
  induction entries with
  | nil => exact .refl _
  | cons first rest ih =>
    obtain ⟨other, found⟩ := first
    obtain ⟨different, later⟩ := not_or.mp (mt List.mem_cons.mpr absent)
    rw [put, if_neg different]
    split
    · exact .refl _
    · exact ((ih later).cons _).trans (.swap ..)

/-- Entries whose keys are new come to the others one by one. -/
theorem foldl_put_perm {rest sorted : List (String × γ)} (distinct : Distinct (sorted ++ rest)) :
    (rest.foldl (fun sorted entry => put entry.1 entry.2 sorted) sorted).Perm
      (sorted ++ rest) := by
  induction rest generalizing sorted with
  | nil => simp
  | cons entry rest ih =>
    obtain ⟨key, value⟩ := entry
    have front : ((key, value) :: sorted ++ rest).Perm (sorted ++ (key, value) :: rest) :=
      List.perm_middle.symm
    have fronted := distinct.of_perm front
    have absent : key ∉ sorted.map Prod.fst := fun member =>
      (List.nodup_cons.mp fronted).1 (by simp [List.mem_map.mp member])
    have placed : (put key value sorted ++ rest).Perm ((key, value) :: sorted ++ rest) :=
      (put_perm absent).append_right rest
    exact (ih (fronted.of_perm placed)).trans (placed.trans front)

/-- Entries with distinct keys are put in order and nothing else. -/
theorem of_list_perm {entries : List (String × γ)} (distinct : Distinct entries) :
    (ofList entries).Perm entries :=
  foldl_put_perm (by simpa using distinct)

end Entries

namespace Tree

open Entries (Ascending)

/-- A tree whose maps have ascending keys. -/
inductive Ordered : Tree α → Prop where
  /-- No value. -/
  | null {mark : α} : Ordered (.null mark)
  /-- A truth value. -/
  | bool {mark : α} {value : Bool} : Ordered (.bool mark value)
  /-- A number. -/
  | number {mark : α} {value : Number} : Ordered (.number mark value)
  /-- A text. -/
  | text {mark : α} {value : String} : Ordered (.text mark value)
  /-- A list of such trees. -/
  | list {mark : α} {items : List (Tree α)} (inner : ∀ item ∈ items, Ordered item) :
      Ordered (.list mark items)
  /-- Such trees under ascending keys. -/
  | map {mark : α} {entries : List (String × Tree α)} (ascending : Ascending entries)
      (inner : ∀ entry ∈ entries, Ordered entry.2) : Ordered (.map mark entries)

/-- The items of a list are put in order one by one. -/
theorem sorted_items_eq (items : List (Tree α)) : sortedItems items = items.map sorted := by
  induction items with
  | nil => rfl
  | cons item rest ih => rw [sortedItems, ih, List.map_cons]

/-- The values of a map are put in order one by one. -/
theorem sorted_entries_eq (entries : List (String × Tree α)) :
    sortedEntries entries = entries.map fun entry => (entry.1, entry.2.sorted) := by
  induction entries with
  | nil => rfl
  | cons entry rest ih => rw [sortedEntries, ih, List.map_cons]

/-- The marks of a tree have no part in its order. -/
theorem Ordered.mapMarks {tree : Tree α} (ordered : tree.Ordered) (f : α → β) :
    (tree.mapMarks f).Ordered := by
  induction ordered with
  | null => exact .null
  | bool => exact .bool
  | number => exact .number
  | text => exact .text
  | list _ ih =>
    rw [Tree.mapMarks, map_item_marks_eq]
    refine .list ?_
    simpa using ih
  | map ascending _ ih =>
    rw [Tree.mapMarks, map_entry_marks_eq]
    refine .map (List.pairwise_map.mpr ascending) ?_
    intro entry member
    obtain ⟨⟨key, below⟩, inner, rfl⟩ := List.mem_map.mp member
    exact ih (key, below) inner

/-- A tree in order is so below a path of keys. -/
theorem Ordered.nested {tree : Tree α} (ordered : tree.Ordered) (mark : α) (path : List String) :
    (nested mark path tree).Ordered := by
  induction path with
  | nil => exact ordered
  | cons key path ih => exact .map (List.pairwise_singleton ..) (by simpa using ih)

/-- What is put among trees in order is in order, and so are the others still. -/
theorem ordered_put {key : String} {value : Tree α} {entries : List (String × Tree α)}
    (own : value.Ordered) (inner : ∀ entry ∈ entries, entry.2.Ordered) :
    ∀ entry ∈ Entries.put key value entries, entry.2.Ordered := by
  induction entries with
  | nil => simpa [Entries.put] using own
  | cons first rest ih =>
    obtain ⟨other, below⟩ := first
    have later := ih fun entry member => inner entry (List.mem_cons_of_mem _ member)
    have head : below.Ordered := inner (other, below) List.mem_cons_self
    unfold Entries.put
    split
    · exact List.forall_mem_cons.mpr ⟨own, inner⟩
    · split
      · exact List.forall_mem_cons.mpr
          ⟨own, fun entry member => inner entry (List.mem_cons_of_mem _ member)⟩
      · exact List.forall_mem_cons.mpr ⟨head, later⟩

/-- A map stays in order when entries are put into it that are in order themselves. -/
theorem Ordered.foldl_put {mark : α} {rest sorted : List (String × Tree α)}
    (ordered : (Tree.map mark sorted).Ordered) (inner : ∀ entry ∈ rest, entry.2.Ordered) :
    (Tree.map mark
      (rest.foldl (fun sorted entry => Entries.put entry.1 entry.2 sorted) sorted)).Ordered := by
  induction rest generalizing sorted with
  | nil => exact ordered
  | cons entry rest ih =>
    obtain ⟨own, later⟩ := List.forall_mem_cons.mp inner
    cases ordered with
    | map ascending before => exact ih (.map (ascending.put ..) (ordered_put own before)) later

mutual

/-- Every tree can be put in order. -/
theorem ordered_sorted : ∀ tree : Tree α, tree.sorted.Ordered
  | .null _ => .null
  | .bool .. => .bool
  | .number .. => .number
  | .text .. => .text
  | .list _ items => .list (ordered_sorted_items items)
  | .map _ entries => (Ordered.map .nil (by simp)).foldl_put (ordered_sorted_entries entries)

/-- Every item of a list can be put in order. -/
theorem ordered_sorted_items :
    ∀ items : List (Tree α), ∀ item ∈ sortedItems items, item.Ordered
  | [] => by simp [sortedItems]
  | item :: rest => List.forall_mem_cons.mpr ⟨ordered_sorted item, ordered_sorted_items rest⟩

/-- Every value of a map can be put in order. -/
theorem ordered_sorted_entries :
    ∀ entries : List (String × Tree α), ∀ entry ∈ sortedEntries entries, entry.2.Ordered
  | [] => by simp [sortedEntries]
  | (_, value) :: rest =>
    List.forall_mem_cons.mpr ⟨ordered_sorted value, ordered_sorted_entries rest⟩

end

/-- What is found in a map of a tree in order is in order. -/
theorem Ordered.found {mark : α} {entries : List (String × Tree α)}
    (ordered : (Tree.map mark entries).Ordered) {key : String} {tree : Tree α}
    (found : Entries.get? key entries = some tree) : tree.Ordered := by
  cases ordered with
  | map ascending inner => exact inner (key, tree) (Entries.mem_of_get? found)

/-- The keys of a map in order ascend. -/
theorem Ordered.ascending {mark : α} {entries : List (String × Tree α)}
    (ordered : (Tree.map mark entries).Ordered) : Ascending entries := by
  cases ordered with
  | map ascending inner => exact ascending

end Tree

end LastGood
