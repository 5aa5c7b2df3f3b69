import LastGood.Json
import LastGood.Proofs.Tree.Ordered
import LastGood.Proofs.Tree.Parts

/-!
# Extended JSON values

A JSON value is extended by putting the keys of its maps in another order and by adding entries to
them, at any depth, whose keys do not occur there. Some keys may be reserved: they mean something
even where they do not occur, and nothing is added under them.

What is read from a value by the keys of its maps is read from whatever extends it, so a reader
decodes a value when it reads it from all that extends what is written. Readers of scalars do so,
readers of lists whose items are decoded, and readers of records whose parts are.
-/

namespace LastGood

variable {γ : Type}

open Entries (Distinct)

namespace Json

/-- A JSON value none of whose maps has a key twice. -/
inductive Proper : Json → Prop where
  /-- No value. -/
  | null : Proper (.null ())
  /-- A truth value. -/
  | bool {value : Bool} : Proper (.bool () value)
  /-- A number. -/
  | number {value : Number} : Proper (.number () value)
  /-- A text. -/
  | text {value : String} : Proper (.text () value)
  /-- A list of such values. -/
  | list {items : List Json} (inner : ∀ item ∈ items, Proper item) : Proper (.list () items)
  /-- Such values under distinct keys. -/
  | map {entries : List (String × Json)} (distinct : Distinct entries)
      (inner : ∀ entry ∈ entries, Proper entry.2) : Proper (.map () entries)

/-- The second value extends the first one: it has the entries of each map in any order, and others
whose keys are neither there nor reserved. -/
inductive Extended (reserved : List String) : Json → Json → Prop where
  /-- No value stays. -/
  | null : Extended reserved (.null ()) (.null ())
  /-- A truth value stays. -/
  | bool {value : Bool} : Extended reserved (.bool () value) (.bool () value)
  /-- A number stays. -/
  | number {value : Number} : Extended reserved (.number () value) (.number () value)
  /-- A text stays. -/
  | text {value : String} : Extended reserved (.text () value) (.text () value)
  /-- The items of a list are extended one by one. -/
  | list {items others : List Json} (inner : List.Forall₂ (Extended reserved) items others) :
      Extended reserved (.list () items) (.list () others)
  /-- The values of a map are extended one by one, entries are added, and all of them stand in any
  order. -/
  | map {entries kept added others : List (String × Json)}
      (keys : kept.map Prod.fst = entries.map Prod.fst)
      (inner : List.Forall₂ (Extended reserved) (entries.map Prod.snd) (kept.map Prod.snd))
      (unknown : ∀ entry ∈ added, entry.1 ∉ entries.map Prod.fst ∧ entry.1 ∉ reserved)
      (order : others.Perm (kept ++ added)) (distinct : Distinct others) :
      Extended reserved (.map () entries) (.map () others)

variable {reserved : List String}

/-- Every value extends itself. -/
theorem Proper.extended_self {json : Json} (proper : json.Proper) :
    Extended reserved json json := by
  induction proper with
  | null => exact .null
  | bool => exact .bool
  | number => exact .number
  | text => exact .text
  | list _ ih => exact .list (List.forall₂_same.mpr ih)
  | @map entries distinct _ ih =>
    have values : List.Forall₂ (Extended reserved) (entries.map Prod.snd) (entries.map Prod.snd) :=
      List.forall₂_same.mpr (by simpa using fun value key => ih (key, value))
    exact @Extended.map _ entries entries [] entries rfl values (by simp) (by simp) distinct

/-- A value is extended by itself with its maps in the order of their keys. -/
theorem Proper.extended_sorted {json : Json} (proper : json.Proper) :
    Extended reserved json json.sorted := by
  induction proper with
  | null => exact .null
  | bool => exact .bool
  | number => exact .number
  | text => exact .text
  | @list items _ ih =>
    rw [Tree.sorted, Tree.sorted_items_eq]
    exact .list (List.forall₂_map_right_iff.mpr (List.forall₂_same.mpr ih))
  | @map entries distinct _ ih =>
    have keys : (Tree.sortedEntries entries).map Prod.fst = entries.map Prod.fst := by
      simp [Tree.sorted_entries_eq]
    have values : List.Forall₂ (Extended reserved) (entries.map Prod.snd)
        ((Tree.sortedEntries entries).map Prod.snd) := by
      rw [Tree.sorted_entries_eq, List.map_map, List.forall₂_map_left_iff,
        List.forall₂_map_right_iff]
      exact List.forall₂_same.mpr ih
    have own : Distinct (Tree.sortedEntries entries) := by
      unfold Entries.Distinct
      rwa [keys]
    have order := Entries.of_list_perm own
    exact @Extended.map _ entries _ [] _ keys values (by simp) (by simpa using order)
      (own.of_perm order)

/-- What entries that extend others share with them. -/
structure Extends (reserved : List String) (entries others : List (String × Json)) : Prop where
  /-- No key stands there twice. -/
  distinct : Distinct others
  /-- What stood under a key is extended. -/
  found : ∀ key tree, Entries.get? key entries = some tree →
    ∃ other, Entries.get? key others = some other ∧ Extended reserved tree other
  /-- Nothing was added under a reserved key. -/
  missing : ∀ key ∈ reserved, Entries.get? key entries = none → Entries.get? key others = none

/-- What is found among entries that stay is found extended among those that they became. -/
theorem found_kept {key : String} {tree : Json} {entries kept : List (String × Json)}
    (keys : kept.map Prod.fst = entries.map Prod.fst)
    (inner : List.Forall₂ (Extended reserved) (entries.map Prod.snd) (kept.map Prod.snd))
    (found : Entries.get? key entries = some tree) :
    ∃ other, Entries.get? key kept = some other ∧ Extended reserved tree other := by
  induction entries generalizing kept with
  | nil => cases found
  | cons entry rest ih =>
    obtain ⟨own, value⟩ := entry
    cases kept with
    | nil => cases keys
    | cons first others =>
      obtain ⟨same, later⟩ := List.cons.inj keys
      cases inner with
      | cons extended inner =>
        rw [Entries.get?] at found ⊢
        rw [show first.1 = own from same]
        by_cases here : own = key
        · rw [if_pos here] at found ⊢
          exact ⟨_, rfl, Option.some.inj found ▸ extended⟩
        · rw [if_neg here] at found ⊢
          exact ih later inner found

/-- What extends a map is a map. -/
theorem Extended.of_map {entries : List (String × Json)} {json : Json}
    (extended : Extended reserved (.map () entries) json) :
    ∃ others, json = .map () others ∧ Extends reserved entries others := by
  cases extended with
  | @map _ kept added others keys inner unknown order distinct =>
    refine ⟨others, rfl, distinct, ?_, ?_⟩
    · intro key tree found
      obtain ⟨other, under, extended⟩ := found_kept keys inner found
      have member : (key, other) ∈ others :=
        order.mem_iff.mpr (List.mem_append_left _ (Entries.mem_of_get? under))
      exact ⟨other, distinct.get?_of_mem member, extended⟩
    · intro key hidden missing
      have absent := Entries.get?_eq_none_iff.mp missing
      refine Entries.get?_eq_none_iff.mpr fun member => ?_
      have split := ((order.map Prod.fst).mem_iff).mp member
      rw [List.map_append, List.mem_append, keys] at split
      rcases split with own | new
      · exact absent own
      · obtain ⟨entry, inner, rfl⟩ := List.mem_map.mp new
        exact (unknown entry inner).2 hidden

/-- A text that stood under a key stands there still. -/
theorem Extends.found_text {entries others : List (String × Json)} {key text : String}
    (same : Extends reserved entries others)
    (found : Entries.get? key entries = some (.text () text)) :
    Entries.get? key others = some (.text () text) := by
  obtain ⟨other, there, extended⟩ := same.found _ _ found
  cases extended with
  | text => exact there

/-- A reader decodes a value from a JSON value when it reads it from all that extends that. -/
def Decodes (reserved : List String) (json : Json) (reader : Reader Unit γ) (value : γ) : Prop :=
  ∀ other, Extended reserved json other → Reads reader other value

namespace Decodes

variable {reader : Reader Unit γ} {value : γ}

/-- Nothing is decoded when it is read. -/
theorem null (read : reader (.null ()) = .ok value) : Decodes reserved (.null ()) reader value := by
  rintro _ ⟨⟩
  exact read

/-- A truth value is decoded when it is read. -/
theorem bool {own : Bool} (read : reader (.bool () own) = .ok value) :
    Decodes reserved (.bool () own) reader value := by
  rintro _ ⟨⟩
  exact read

/-- A number is decoded when it is read. -/
theorem number {own : Number} (read : reader (.number () own) = .ok value) :
    Decodes reserved (.number () own) reader value := by
  rintro _ ⟨⟩
  exact read

/-- A text is decoded when it is read. -/
theorem text {own : String} (read : reader (.text () own) = .ok value) :
    Decodes reserved (.text () own) reader value := by
  rintro _ ⟨⟩
  exact read

/-- A list is decoded when its items are. -/
theorem list {write : γ → Json} {values : List γ}
    (inner : ∀ value ∈ values, Decodes reserved (write value) reader value) :
    Decodes reserved (.list () (values.map write)) (Tree.readList reader) values := by
  intro other extended
  cases extended with
  | @list _ others items =>
    rw [Reads, Tree.read_list_ok_iff, Tree.lists_list_iff]
    rw [List.forall₂_map_left_iff] at items
    exact (((List.forall₂_and_left values others).mpr ⟨inner, items⟩).imp
      fun value other both => both.1 other both.2).flip

/-- A record is decoded when each part of it is that it is made of. -/
theorem map {record : Record Unit γ} {slots : List (Slot Unit γ)} (made : record.Made slots)
    (strictness : Strictness) {entries : List (String × Json)}
    (parts : ∀ slot ∈ slots, ∃ json, Entries.get? slot.key entries = some json ∧
      Decodes reserved json slot.reader (slot.get value)) :
    Decodes reserved (.map () entries) (record.read strictness) value := by
  intro other extended
  obtain ⟨others, rfl, same⟩ := extended.of_map
  rw [Reads, made.read_map_iff same.distinct]
  intro slot member
  obtain ⟨json, found, decodes⟩ := parts slot member
  obtain ⟨other, own, extended⟩ := same.found _ _ found
  rw [Slot.Given, Entries.Gives, own]
  exact decodes other extended

end Decodes

end Json

end LastGood
