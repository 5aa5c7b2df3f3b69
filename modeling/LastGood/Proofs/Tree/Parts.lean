import LastGood.Proofs.Tree.Overlay

/-!
# The parts of a record

A record is read key by key, so each part of it is what is read under its own key, whatever stands
under the others. When the parts are all there is to a value, this is the whole of reading: a map
whose keys are distinct is read as a value exactly when each part is what its key gives, or the
default of the part where the key is missing. In what order the keys stand does not matter, and keys
of no part are of no consequence.
-/

namespace LastGood

variable {α γ δ : Type}

open Entries (Distinct)

/-- What a reading gives that something was made of was read. -/
theorem read_of_map {ε : Type} {reading : Except ε γ} {make : γ → δ} {made : δ}
    (mapped : reading.map make = .ok made) : ∃ value, reading = .ok value ∧ make value = made := by
  cases reading with
  | error fault => cases mapped
  | ok value => exact ⟨value, rfl, Except.ok.inj mapped⟩

/-- A part of a record stands under a key: what is read there is that part then, and no field with
another key changes it. -/
structure Record.Part (record : Record α γ) (key : String) (reader : Reader α δ) (part : γ → δ) :
    Prop where
  /-- There is a field with the key, and what it reads is the part. -/
  own : ∃ field, record.field? key = some field ∧ ∀ value tree next,
    field.read value tree = .ok next → reader tree = .ok (part next)
  /-- The other fields leave the part alone. -/
  others : ∀ field ∈ record.fields, field.key ≠ key → ∀ value tree next,
    field.read value tree = .ok next → part next = part value

namespace Record.Part

variable {record : Record α γ} {key : String} {reader : Reader α δ} {part : γ → δ}

/-- When entries with distinct keys are read, the part is what is read under its key, or what it was
before. -/
theorem read_entries (own : record.Part key reader part) {entries : List (String × Tree α)}
    (distinct : Distinct entries) {value result : γ}
    (read : record.readEntries value entries = .ok result) :
    match Entries.get? key entries with
    | some tree => reader tree = .ok (part result)
    | none => part result = part value := by
  induction entries generalizing value with
  | nil =>
    cases read
    rfl
  | cons entry rest ih =>
    obtain ⟨other, tree⟩ := entry
    have later := (List.nodup_cons.mp distinct).2
    obtain ⟨field, known, reads⟩ := own.own
    rw [readEntries] at read
    rw [Entries.get?]
    cases found : record.field? other with
    | none =>
      rw [found] at read
      have different : other ≠ key := by
        rintro rfl
        cases found.symm.trans known
      rw [if_neg different]
      exact ih later read
    | some other_field =>
      rw [found] at read
      cases first : other_field.read value tree with
      | error fault =>
        simp [first, Except.mapError, bind, Except.bind] at read
      | ok next =>
        simp only [first, Except.mapError, bind, Except.bind] at read
        have rest_read := ih later read
        by_cases same : other = key
        · subst same
          obtain rfl := Option.some.inj (found.symm.trans known)
          rw [distinct.get?_tail] at rest_read
          rw [if_pos rfl]
          exact (reads _ _ _ first).trans (congrArg Except.ok (Eq.symm rest_read))
        · have named : other_field.key = other := by
            simpa using List.find?_some found
          have kept := own.others _ (List.mem_of_find?_eq_some found) (named ▸ same) _ _ _ first
          rw [if_neg same]
          cases below : Entries.get? key rest with
          | some tree =>
            rw [below] at rest_read
            exact rest_read
          | none =>
            rw [below] at rest_read
            exact Eq.trans rest_read kept

/-- Where a tree holds something at a path that starts with the key of a part, the part is read from
what is under the key, and that holds it at the rest of the path. -/
theorem read (own : record.Part key reader part) {path : List String} {tree held : Tree α}
    (holds : Tree.Holds (key :: path) tree (some held)) {strictness : Strictness} {result : γ}
    (read : record.read strictness tree = .ok result) :
    ∃ below, reader below = .ok (part result) ∧ Tree.Holds path below (some held) := by
  cases holds with
  | @within _ _ mark entries below _ ascending found holds =>
    refine ⟨below, ?_, holds⟩
    simp only [Record.read] at read
    cases entered : record.readEntries record.blank entries with
    | error fault =>
      rw [entered] at read
      cases read
    | ok value =>
      have parted := own.read_entries ascending.distinct entered
      rw [found] at parted
      rw [entered] at read
      simp only [bind, Except.bind] at read
      split at read
      · rw [← Except.ok.inj read]
        exact parted
      · cases read

end Record.Part

/-- A reader reads a value from a tree. -/
def Reads (reader : Reader α δ) (tree : Tree α) (value : δ) : Prop := reader tree = .ok value

namespace Tree

variable {relation other : Tree α → γ → Prop}

/-- A tree is a list of items that are related to values one by one. -/
def Lists (relation : Tree α → γ → Prop) (tree : Tree α) (values : List γ) : Prop :=
  ∃ mark items, tree = .list mark items ∧ List.Forall₂ relation items values

/-- A list lists what its items are related to. -/
@[simp] theorem lists_list_iff {mark : α} {items : List (Tree α)} {values : List γ} :
    (list mark items).Lists relation values ↔ List.Forall₂ relation items values := by
  simp [Lists]

/-- Two relations that agree on each item agree on lists. -/
theorem forall₂_congr_of_mem {items : List (Tree α)} {values : List γ}
    (agree : ∀ item ∈ items, ∀ value, relation item value ↔ other item value) :
    List.Forall₂ relation items values ↔ List.Forall₂ other items values := by
  constructor
  · intro related
    exact ((List.forall₂_and_left items values).mpr ⟨agree, related⟩).imp
      fun item value both => (both.1 value).mp both.2
  · intro related
    exact ((List.forall₂_and_left items values).mpr ⟨agree, related⟩).imp
      fun item value both => (both.1 value).mpr both.2

/-- Of lists related item by item each item is related to a value. -/
theorem related_of_mem {items : List (Tree α)} {values : List γ}
    (related : List.Forall₂ relation items values) {item : Tree α} (member : item ∈ items) :
    ∃ value, relation item value := by
  induction related with
  | nil => cases member
  | cons own _ ih =>
    rcases List.mem_cons.mp member with rfl | later
    · exact ⟨_, own⟩
    · exact ih later

/-- Items are read as values exactly when each of them is read as its value. -/
theorem read_items_ok_iff {reader : Reader α γ} {start : Nat} {items : List (Tree α)}
    {values : List γ} :
    readItems reader start items = .ok values ↔ List.Forall₂ (Reads reader) items values := by
  induction items generalizing start values with
  | nil => simp [readItems, eq_comm]
  | cons item rest ih =>
    rw [readItems]
    cases first : reader item with
    | error fault =>
      constructor
      · intro read
        cases read
      · rintro (_ | ⟨own, _⟩)
        cases first.symm.trans own
    | ok value =>
      constructor
      · intro read
        cases others : readItems reader (start + 1) rest with
        | error fault => simp [others, Except.mapError, bind, Except.bind] at read
        | ok found =>
          simp only [others, Except.mapError, bind, Except.bind] at read
          cases read
          exact .cons first (ih.mp others)
      · rintro (_ | ⟨own, later⟩)
        obtain rfl := Except.ok.inj (first.symm.trans own)
        simp only [ih.mpr later, Except.mapError, bind, Except.bind]
        rfl

/-- A tree is read as a list exactly when it is one and its items are read. -/
theorem read_list_ok_iff {reader : Reader α γ} {tree : Tree α} {values : List γ} :
    tree.readList reader = .ok values ↔ tree.Lists (Reads reader) values := by
  cases tree with
  | list mark items => rw [readList, read_items_ok_iff, lists_list_iff]
  | _ => simp [readList, refused, Lists]

end Tree

namespace Entries

/-- What entries give for a key: what stands under it is in some relation to it, or the key is
missing and it is the default, if there is one. -/
def Gives (key : String) (relation : Tree α → δ → Prop) (blank : Option δ)
    (entries : List (String × Tree α)) (value : δ) : Prop :=
  match get? key entries with
  | some tree => relation tree value
  | none => blank = some value

/-- Entries give the same for a key as others that have there what is in the same relation. -/
theorem gives_iff {key : String} {relation other : Tree α → δ → Prop} {blank : Option δ}
    {entries others : List (String × Tree α)} {change : Tree α → Tree α} {value : δ}
    (found : get? key others = (get? key entries).map change)
    (agree : ∀ tree, get? key entries = some tree →
      (other (change tree) value ↔ relation tree value)) :
    Gives key other blank others value ↔ Gives key relation blank entries value := by
  rw [Gives, Gives, found]
  cases own : get? key entries with
  | none => rfl
  | some tree => exact agree tree own

/-- Entries give the same for a key as others that have the same there. -/
theorem gives_congr {key : String} {relation : Tree α → δ → Prop} {blank : Option δ}
    {entries others : List (String × Tree α)} (same : get? key others = get? key entries)
    (value : δ) :
    Gives key relation blank others value ↔ Gives key relation blank entries value := by
  rw [Gives, Gives, same]

end Entries

/-- A part of the values of `γ`: the key it is written under, how it is read, how it is taken from a
value and put into one, and what it is when the key is missing, unless that is a fault. -/
structure Slot (α γ : Type) where
  /-- The key. -/
  key : String
  /-- What the part is. -/
  Value : Type
  /-- How the part is read. -/
  reader : Reader α Value
  /-- The part of a value. -/
  get : γ → Value
  /-- A value with another part. -/
  set : γ → Value → γ
  /-- The part of a value that was written without it. -/
  blank : Option Value

namespace Slot

/-- The field that reads a part. -/
def field (slot : Slot α γ) : Field α γ where
  key := slot.key
  required := slot.blank.isNone
  read value tree := (slot.reader tree).map (slot.set value)

/-- What entries give for a part is that of a value. -/
def Given (slot : Slot α γ) (entries : List (String × Tree α)) (value : γ) : Prop :=
  Entries.Gives slot.key (Reads slot.reader) slot.blank entries (slot.get value)

end Slot

/-- A record has a field for each of some parts of its values, and these are all there is to a
value. -/
structure Record.Made (record : Record α γ) (slots : List (Slot α γ)) : Prop where
  /-- There is a field for each part. -/
  fields : record.fields = slots.map Slot.field
  /-- Each part has a key of its own. -/
  keys : (slots.map Slot.key).Nodup
  /-- What is put into a value is its part then. -/
  get_set : ∀ slot ∈ slots, ∀ value part, slot.get (slot.set value part) = part
  /-- The other parts stay. -/
  get_set_of_ne : ∀ slot ∈ slots, ∀ other ∈ slots, slot.key ≠ other.key → ∀ value part,
    other.get (slot.set value part) = other.get value
  /-- Before anything is read, a part is what it is when its key is missing. -/
  blank : ∀ slot ∈ slots, ∀ part, slot.blank = some part → slot.get record.blank = part
  /-- Values that have all parts in common are the same. -/
  ext : ∀ value other, (∀ slot ∈ slots, slot.get value = slot.get other) → value = other

namespace Record.Made

variable {record : Record α γ} {slots : List (Slot α γ)}

/-- The field with the key of a part is the one that reads it. -/
theorem field?_eq (made : record.Made slots) {slot : Slot α γ} (member : slot ∈ slots) :
    record.field? slot.key = some slot.field := by
  have keys := made.keys
  unfold field?
  rw [made.fields]
  clear made
  induction slots with
  | nil => cases member
  | cons first rest ih =>
    obtain ⟨alone, later⟩ := List.nodup_cons.mp keys
    rw [List.map_cons, List.find?_cons]
    rcases List.mem_cons.mp member with rfl | inner
    · simp [Slot.field]
    · have different : first.field.key ≠ slot.key := by
        intro (same : first.key = slot.key)
        exact alone (same ▸ List.mem_map_of_mem inner)
      simp only [beq_eq_false_iff_ne.mpr different]
      exact ih inner later

/-- A field of the record reads one of the parts. -/
theorem of_field? (made : record.Made slots) {key : String} {field : Field α γ}
    (found : record.field? key = some field) :
    ∃ slot ∈ slots, slot.key = key ∧ field = slot.field := by
  have member := List.mem_of_find?_eq_some found
  rw [made.fields] at member
  obtain ⟨slot, inner, rfl⟩ := List.mem_map.mp member
  have named : slot.field.key = key := by simpa using List.find?_some found
  exact ⟨slot, inner, named, rfl⟩

/-- Each part stands under its key. -/
theorem part (made : record.Made slots) {slot : Slot α γ} (member : slot ∈ slots) :
    record.Part slot.key slot.reader slot.get where
  own := by
    refine ⟨_, made.field?_eq member, fun value tree next read => ?_⟩
    obtain ⟨found, reads, rfl⟩ := read_of_map read
    rw [made.get_set slot member]
    exact reads
  others := by
    intro field inner different value tree next read
    rw [made.fields] at inner
    obtain ⟨other, known, rfl⟩ := List.mem_map.mp inner
    obtain ⟨found, _, rfl⟩ := read_of_map read
    exact made.get_set_of_ne other known slot member different value found

/-- Entries are read when each of them is that has the key of a part. -/
theorem read_entries_total (made : record.Made slots) {entries : List (String × Tree α)}
    (each : ∀ slot ∈ slots, ∀ tree, (slot.key, tree) ∈ entries →
      ∃ part, slot.reader tree = .ok part) (value : γ) :
    ∃ result, record.readEntries value entries = .ok result := by
  induction entries generalizing value with
  | nil => exact ⟨value, rfl⟩
  | cons entry rest ih =>
    obtain ⟨key, tree⟩ := entry
    have later := ih fun slot member tree inner =>
      each slot member tree (List.mem_cons_of_mem _ inner)
    rw [readEntries]
    cases found : record.field? key with
    | none => exact later value
    | some field =>
      obtain ⟨slot, member, rfl, rfl⟩ := made.of_field? found
      obtain ⟨part, reads⟩ := each slot member tree List.mem_cons_self
      obtain ⟨result, read⟩ := later (slot.set value part)
      refine ⟨result, ?_⟩
      simp only [Slot.field, reads, Except.map, Except.mapError]
      exact read

/-- No required field is missing exactly when every part without a default has an entry. -/
theorem missing_eq_none_iff (made : record.Made slots) (entries : List (String × Tree α)) :
    record.missing? entries = none ↔
      ∀ slot ∈ slots, slot.blank = none → Entries.get? slot.key entries ≠ none := by
  simp [missing?, made.fields, Slot.field]

/-- A map is read as a value exactly when it gives each part of the value. -/
theorem read_map_iff (made : record.Made slots) {entries : List (String × Tree α)}
    (distinct : Distinct entries) (strictness : Strictness) (mark : α) (value : γ) :
    record.read strictness (.map mark entries) = .ok value ↔
      ∀ slot ∈ slots, slot.Given entries value := by
  constructor
  · intro read slot member
    simp only [Record.read] at read
    cases entered : record.readEntries record.blank entries with
    | error fault =>
      rw [entered] at read
      cases read
    | ok result =>
      rw [entered] at read
      simp only [bind, Except.bind] at read
      cases lacking : record.missing? entries with
      | some key =>
        rw [lacking] at read
        cases read
      | none =>
        rw [lacking] at read
        obtain rfl : result = value := Except.ok.inj read
        have parted := (made.part member).read_entries distinct entered
        unfold Slot.Given Entries.Gives
        cases found : Entries.get? slot.key entries with
        | some tree =>
          rw [found] at parted
          exact parted
        | none =>
          rw [found] at parted
          have optional := mt ((made.missing_eq_none_iff entries).mp lacking slot member)
            (not_not_intro found)
          obtain ⟨part, default⟩ := Option.ne_none_iff_exists'.mp optional
          simp only [default, Option.some.injEq]
          exact (made.blank slot member part default).symm.trans parted.symm
  · intro given
    have each : ∀ slot ∈ slots, ∀ tree, (slot.key, tree) ∈ entries →
        ∃ part, slot.reader tree = .ok part := by
      intro slot member tree inner
      have own := given slot member
      rw [Slot.Given, Entries.Gives, distinct.get?_of_mem inner] at own
      exact ⟨_, own⟩
    obtain ⟨result, entered⟩ := made.read_entries_total each record.blank
    have same : result = value := by
      refine made.ext _ _ fun slot member => ?_
      have parted := (made.part member).read_entries distinct entered
      have own := given slot member
      unfold Slot.Given Entries.Gives at own
      cases found : Entries.get? slot.key entries with
      | some tree =>
        rw [found] at parted own
        exact Except.ok.inj (parted.symm.trans own)
      | none =>
        rw [found] at parted own
        exact parted.trans (made.blank slot member _ own)
    have lacking : record.missing? entries = none := by
      refine (made.missing_eq_none_iff entries).mpr fun slot member required missing => ?_
      have own := given slot member
      rw [Slot.Given, Entries.Gives, missing, required] at own
      cases own
    simp only [Record.read, entered, lacking, same]
    rfl

end Record.Made

end LastGood
