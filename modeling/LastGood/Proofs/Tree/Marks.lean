import Mathlib.Data.List.Forall2
import LastGood.Config.Record

/-!
# Marks

The marks of a tree say where its nodes come from, and nothing else depends on them. To look
something up in a tree, to lay it over another one or to read a value from it is the same with
other marks: the same is found, and what is wrong is wrong in the same place.
-/

namespace LastGood

variable {α β γ δ : Type}

namespace Entries

/-- Among entries whose values are put through a function, what is found is put through it. -/
theorem get?_map (f : β → γ) (key : String) (entries : List (String × β)) :
    get? key (entries.map fun (k, v) => (k, f v)) = (get? key entries).map f := by
  induction entries with
  | nil => rfl
  | cons entry rest ih =>
    simp only [List.map_cons, get?]
    split
    · rfl
    · exact ih

/-- Putting a value among entries and then all of them through a function is putting the value
through it first. -/
theorem put_map (f : β → γ) (key : String) (value : β) (entries : List (String × β)) :
    (put key value entries).map (fun (k, v) => (k, f v)) =
      put key (f value) (entries.map fun (k, v) => (k, f v)) := by
  induction entries with
  | nil => rfl
  | cons entry rest ih =>
    simp only [put, List.map_cons]
    split
    · rfl
    · split
      · rfl
      · rw [List.map_cons, ih]

end Entries

namespace Tree

/-- The items of a list are marked one by one. -/
theorem map_item_marks_eq (f : α → β) (items : List (Tree α)) :
    mapItemMarks f items = items.map (mapMarks f) := by
  induction items with
  | nil => rfl
  | cons item rest ih => simp only [mapItemMarks, ih, List.map_cons]

/-- The entries of a map are marked one by one. -/
theorem map_entry_marks_eq (f : α → β) (entries : List (String × Tree α)) :
    mapEntryMarks f entries = entries.map fun (key, tree) => (key, tree.mapMarks f) := by
  induction entries with
  | nil => rfl
  | cons entry rest ih => simp only [mapEntryMarks, ih, List.map_cons]

/-- What is found among marked entries is what is found among the entries, marked. -/
theorem get?_map_entry_marks (f : α → β) (key : String) (entries : List (String × Tree α)) :
    Entries.get? key (mapEntryMarks f entries) =
      (Entries.get? key entries).map (mapMarks f) := by
  rw [map_entry_marks_eq, Entries.get?_map]

/-- The root of a tree is marked as all of it is. -/
@[simp] theorem mark_map_marks (f : α → β) (tree : Tree α) :
    (tree.mapMarks f).mark = f tree.mark := by
  cases tree <;> rfl

mutual

/-- Marking twice is marking once. -/
theorem map_marks_map_marks (f : α → β) (g : β → γ) :
    ∀ tree : Tree α, (tree.mapMarks f).mapMarks g = tree.mapMarks fun mark => g (f mark)
  | .null _ | .bool .. | .number .. | .text .. => rfl
  | .list mark items => congrArg (list (g (f mark))) (map_item_marks_twice f g items)
  | .map mark entries => congrArg (map (g (f mark))) (map_entry_marks_twice f g entries)

/-- Marking the items of a list twice is marking them once. -/
theorem map_item_marks_twice (f : α → β) (g : β → γ) :
    ∀ items : List (Tree α),
      mapItemMarks g (mapItemMarks f items) = mapItemMarks (fun mark => g (f mark)) items
  | [] => rfl
  | item :: rest => congr (congrArg List.cons (map_marks_map_marks f g item))
      (map_item_marks_twice f g rest)

/-- Marking the entries of a map twice is marking them once. -/
theorem map_entry_marks_twice (f : α → β) (g : β → γ) :
    ∀ entries : List (String × Tree α),
      mapEntryMarks g (mapEntryMarks f entries) = mapEntryMarks (fun mark => g (f mark)) entries
  | [] => rfl
  | (key, value) :: rest =>
      congr (congrArg (fun tree => List.cons (key, tree)) (map_marks_map_marks f g value))
        (map_entry_marks_twice f g rest)

end

mutual

/-- One tree is laid over another one whatever their marks are. -/
theorem map_marks_overlaid (f : α → β) (base : Tree α) :
    ∀ top : Tree α,
      (base.overlaidBy top).mapMarks f = (base.mapMarks f).overlaidBy (top.mapMarks f)
  | .null _ | .bool .. | .number .. | .text .. | .list .. => by
      simp only [overlaidBy, mapMarks]
  | .map mark upper => by
      cases base with
      | map _ lower =>
        simp only [overlaidBy, mapMarks]
        exact congrArg (map (f mark)) (map_marks_entries_overlaid f lower upper)
      | _ => rfl

/-- Entries are laid over others whatever their marks are. -/
theorem map_marks_entries_overlaid (f : α → β) (base : List (String × Tree α)) :
    ∀ top : List (String × Tree α),
      mapEntryMarks f (entriesOverlaid base top) =
        entriesOverlaid (mapEntryMarks f base) (mapEntryMarks f top)
  | [] => rfl
  | (key, value) :: rest => by
      simp only [entriesOverlaid, mapEntryMarks]
      rw [map_marks_entries_overlaid f _ rest, map_entry_marks_eq f (Entries.put ..),
        Entries.put_map, ← map_entry_marks_eq, get?_map_entry_marks]
      cases Entries.get? key base with
      | none => rfl
      | some lower =>
        simp only [Option.map_some]
        rw [map_marks_overlaid f lower value]

end

end Tree

/-- The same fault in a tree with other marks. -/
def Fault.mapMark (f : α → β) (fault : Fault α) : Fault β := ⟨fault.path, f fault.mark, fault.cause⟩

/-- Of a tree with other marks the second reader reads what the first one reads, or finds the same
fault. -/
def Follows (f : α → β) (first : Reader α γ) (second : Reader β γ) : Prop :=
  ∀ tree : Tree α, second (tree.mapMarks f) = (first tree).mapError (Fault.mapMark f)

namespace Follows

variable {f : α → β} {first : Reader α γ} {second : Reader β γ}

/-- A reader that follows another one does so when both make something of the value. -/
theorem map (follows : Follows f first second) (make : γ → δ) :
    Follows f (fun tree => (first tree).map make) fun tree => (second tree).map make := by
  intro tree
  simp only [follows tree]
  cases first tree <;> rfl

/-- A text is read whatever the marks are. -/
theorem readText (f : α → β) (expected : String) :
    Follows f (Tree.readText expected) (Tree.readText expected) := by
  intro tree
  cases tree <;> rfl

/-- A truth value is read whatever the marks are. -/
theorem readBool (f : α → β) : Follows f Tree.readBool Tree.readBool := by
  intro tree
  cases tree <;> rfl

/-- A whole number is read whatever the marks are. -/
theorem readBelow (f : α → β) (limit : Nat) (expected : String) :
    Follows f (Tree.readBelow limit expected) (Tree.readBelow limit expected) := by
  intro tree
  cases tree with
  | number mark value =>
    cases value with
    | unsigned n =>
      simp only [Tree.mapMarks, Tree.readBelow]
      split
      · rfl
      · split <;> rfl
    | signed n =>
      simp only [Tree.mapMarks, Tree.readBelow]
      split
      · rfl
      · split <;> rfl
    | float x => rfl
  | _ => rfl

/-- A value that may be absent is read whatever the marks are, if the value is. -/
theorem readOptional (follows : Follows f first second) :
    Follows f (Tree.readOptional first) (Tree.readOptional second) := by
  intro tree
  have present := follows.map some tree
  cases tree with
  | null mark => rfl
  | _ => exact present

/-- A fault below a key is the same fault with other marks. -/
theorem under (follows : Follows f first second) (key : String) (tree : Tree α) :
    (second (tree.mapMarks f)).mapError (Fault.under key) =
      ((first tree).mapError (Fault.under key)).mapError (Fault.mapMark f) := by
  rw [follows tree]
  cases first tree <;> rfl

/-- The items of a list are read whatever the marks are, if an item is. -/
theorem readItems (follows : Follows f first second) (start : Nat) (items : List (Tree α)) :
    Tree.readItems second start (items.map (Tree.mapMarks f)) =
      (Tree.readItems first start items).mapError (Fault.mapMark f) := by
  induction items generalizing start with
  | nil => rfl
  | cons item rest ih =>
    simp only [List.map_cons, Tree.readItems, follows.under, ih]
    cases (first item).mapError (Fault.under (toString start)) with
    | error fault => rfl
    | ok value => cases Tree.readItems first (start + 1) rest <;> rfl

/-- A list is read whatever the marks are, if its items are. -/
theorem readList (follows : Follows f first second) :
    Follows f (Tree.readList first) (Tree.readList second) := by
  intro tree
  cases tree with
  | list mark items =>
    simp only [Tree.mapMarks, Tree.map_item_marks_eq, Tree.readList]
    exact follows.readItems 0 items
  | _ => rfl

end Follows

/-- Two fields with one key that is required of both or of neither, of which the second reads what
the first one reads, whatever was read before. -/
structure Field.Follows (f : α → β) (first : Field α γ) (second : Field β γ) : Prop where
  /-- The keys are the same. -/
  key : second.key = first.key
  /-- Both are required, or neither is. -/
  required : second.required = first.required
  /-- The second reads what the first reads. -/
  read : ∀ value, LastGood.Follows f (first.read value) (second.read value)

/-- Two records of one name and one blank value, field by field. -/
structure Record.Follows (f : α → β) (first : Record α γ) (second : Record β γ) : Prop where
  /-- The names are the same. -/
  name : second.name = first.name
  /-- The blank values are the same. -/
  blank : second.blank = first.blank
  /-- The fields follow one another. -/
  fields : List.Forall₂ (Field.Follows f) first.fields second.fields

namespace Record.Follows

variable {f : α → β} {first : Record α γ} {second : Record β γ}

/-- Both records have a field with a key, or neither has. -/
theorem field? (follows : first.Follows f second) (key : String) :
    Option.Rel (Field.Follows f) (first.field? key) (second.field? key) := by
  obtain ⟨_, _, fields⟩ := follows
  unfold Record.field?
  generalize first.fields = own at fields ⊢
  generalize second.fields = others at fields ⊢
  induction fields with
  | nil => exact .none
  | cons field _ ih =>
    simp only [List.find?_cons, field.key]
    split
    · exact .some field
    · exact ih

/-- Entries are read whatever the marks are. -/
theorem readEntries (follows : first.Follows f second) (value : γ)
    (entries : List (String × Tree α)) :
    second.readEntries value (Tree.mapEntryMarks f entries) =
      (first.readEntries value entries).mapError (Fault.mapMark f) := by
  induction entries generalizing value with
  | nil => rfl
  | cons entry rest ih =>
    obtain ⟨key, tree⟩ := entry
    have field := follows.field? key
    simp only [Tree.mapEntryMarks, Record.readEntries]
    generalize first.field? key = own at field ⊢
    generalize second.field? key = other at field ⊢
    cases field with
    | none => exact ih value
    | @some field other same =>
      simp only [(same.read value).under]
      cases (field.read value tree).mapError (Fault.under key) with
      | error fault => rfl
      | ok next => exact ih next

/-- The same required field is missing whatever the marks are. -/
theorem missing? (follows : first.Follows f second) (entries : List (String × Tree α)) :
    second.missing? (Tree.mapEntryMarks f entries) = first.missing? entries := by
  obtain ⟨_, _, fields⟩ := follows
  unfold Record.missing?
  simp only [Tree.get?_map_entry_marks, Option.isNone_map]
  generalize first.fields = own at fields ⊢
  generalize second.fields = others at fields ⊢
  induction fields with
  | nil => rfl
  | cons field _ ih =>
    simp only [List.find?_cons, field.key, field.required]
    split
    · simp only [Option.map_some, field.key]
    · exact ih

/-- Items are read as fields whatever the marks are. -/
theorem readPositions (follows : first.Follows f second) (tree : Tree α) (value : γ)
    (position : Nat) {fields : List (Field α γ)} {others : List (Field β γ)}
    (same : List.Forall₂ (Field.Follows f) fields others) (items : List (Tree α)) :
    second.readPositions (tree.mapMarks f) value position others (items.map (Tree.mapMarks f)) =
      ((first.readPositions tree value position fields items).map fun (read, extra) =>
        (read, extra.map (Tree.mapMarks f))).mapError (Fault.mapMark f) := by
  have count : second.fields.length = first.fields.length := follows.fields.length_eq.symm
  induction same generalizing value position items with
  | nil => cases items <;> rfl
  | @cons field other fields others same _ ih =>
    cases items with
    | nil =>
      simp only [List.map_nil, Record.readPositions, same.required, follows.name, count]
      split
      · simp only [Tree.fault, Tree.mark_map_marks]
        rfl
      · exact ih value (position + 1) []
    | cons item items =>
      simp only [List.map_cons, Record.readPositions, (same.read value).under]
      cases (field.read value item).mapError (Fault.under (toString position)) with
      | error fault => rfl
      | ok next => exact ih next (position + 1) items

/-- A record is read whatever the marks are. -/
theorem read (follows : first.Follows f second) (strictness : Strictness) :
    LastGood.Follows f (first.read strictness) (second.read strictness) := by
  intro tree
  cases tree with
  | map mark entries =>
    simp only [Tree.mapMarks, Record.read, follows.blank, follows.readEntries, follows.missing?]
    cases first.readEntries first.blank entries with
    | error fault => rfl
    | ok value => cases first.missing? entries <;> rfl
  | list mark items =>
    have positions := follows.readPositions (.list mark items) first.blank 0 follows.fields items
    simp only [Tree.mapMarks, Tree.map_item_marks_eq] at positions
    simp only [Tree.mapMarks, Tree.map_item_marks_eq, Record.read, follows.blank, positions]
    cases first.readPositions (.list mark items) first.blank 0 first.fields items with
    | error fault => rfl
    | ok result =>
      obtain ⟨value, extra⟩ := result
      simp only [Except.map, Except.mapError, bind, Except.bind, List.isEmpty_map, List.length_map]
      split <;> rfl
  | null mark | bool mark value | number mark value | text mark value =>
    simp only [Tree.mapMarks, Record.read, Tree.refused, Tree.fault, follows.name]
    rfl

end Record.Follows

/-- Server settings are read whatever the marks are. -/
theorem ServerConfig.record_follows (f : α → β) :
    Record.Follows f ServerConfig.record ServerConfig.record where
  name := rfl
  blank := rfl
  fields :=
    .cons ⟨rfl, rfl, fun _ => (Follows.readText f _).map _⟩ <|
    .cons ⟨rfl, rfl, fun _ => ((Follows.readBelow f _ _).map _).map _⟩ <|
    .cons ⟨rfl, rfl, fun _ => ((Follows.readText f _).map _).map _⟩ <|
    .cons ⟨rfl, rfl, fun _ => (((Follows.readBelow f _ _).map _).readOptional).map _⟩ .nil

/-- A pipeline is read whatever the marks are. -/
theorem PipelineConfig.record_follows (f : α → β) :
    Record.Follows f PipelineConfig.record PipelineConfig.record where
  name := rfl
  blank := rfl
  fields :=
    .cons ⟨rfl, rfl, fun _ => (Follows.readText f _).map _⟩ <|
    .cons ⟨rfl, rfl, fun _ => (Follows.readText f _).map _⟩ <|
    .cons ⟨rfl, rfl, fun _ => ((Follows.readText f _).readList).map _⟩ <|
    .cons ⟨rfl, rfl, fun _ => (Follows.readBool f).map _⟩ .nil

/-- A configuration is read whatever the marks are. -/
theorem Config.record_follows (f : α → β) (strictness : Strictness) :
    Record.Follows f (Config.record strictness) (Config.record strictness) where
  name := rfl
  blank := rfl
  fields :=
    .cons ⟨rfl, rfl, fun _ => ((Follows.readBelow f _ _).map _).map _⟩ <|
    .cons ⟨rfl, rfl, fun _ => ((ServerConfig.record_follows f).read strictness).map _⟩ <|
    .cons ⟨rfl, rfl, fun _ =>
      (((PipelineConfig.record_follows f).read strictness).readList).map _⟩ .nil

end LastGood
