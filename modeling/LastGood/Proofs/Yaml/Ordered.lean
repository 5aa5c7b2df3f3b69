import LastGood.Proofs.Tree.Ordered
import LastGood.Yaml.Reader

/-!
# The order of YAML maps

Whatever a YAML text is read as, the keys of each of its maps ascend, and so none occurs twice. The
reader puts one entry after the other into a map that is in order already.
-/

namespace LastGood

/-- What a step gives that was followed by another one. -/
theorem ok_of_bind {ε γ δ : Type} {step : Except ε γ} {next : γ → Except ε δ} {result : δ}
    (ended : step >>= next = .ok result) : ∃ value, step = .ok value ∧ next value = .ok result := by
  cases step with
  | error fault => cases ended
  | ok value => exact ⟨value, rfl, ended⟩

namespace Yaml

open Entries (Ascending)

/-- What the entries of a map have come to so far is in order. -/
structure Held.Ordered (held : Held) : Prop where
  /-- The keys ascend. -/
  ascending : Ascending held.entries
  /-- What stands under them is in order. -/
  inner : ∀ entry ∈ held.entries, entry.2.Ordered
  /-- So is the value that the map may stand for. -/
  value : ∀ tree, held.value = some tree → tree.Ordered

/-- No entries are in order. -/
theorem Held.ordered_nothing : Held.Ordered {} where
  ascending := .nil
  inner := by simp
  value := by simp

/-- What entries in order come to is in order. -/
theorem Held.Ordered.toTree {held : Held} (ordered : held.Ordered) : held.toTree.Ordered := by
  unfold Held.toTree
  split
  · exact .map ordered.ascending ordered.inner
  · exact ordered.value _ ‹_›
  · exact (ordered.value _ ‹_›).mapMarks _

/-- A plain scalar is in order. -/
theorem ordered_plain (text : String) : (plainTree text).Ordered := by
  unfold plainTree
  split
  · exact .null
  · split
    · exact .bool
    · split
      · exact .number
      · split
        · exact .number
        · exact .text

/-- A scalar is in order, with a tag or without. -/
theorem Scalar.ordered {scalar : Scalar} {tree : Tree Unit} (read : scalar.toTree = .ok tree) :
    tree.Ordered := by
  have untagged : (if scalar.style == .plain then plainTree scalar.text
      else Tree.text () scalar.text).Ordered := by
    split
    · exact ordered_plain _
    · exact .text
  -- A tag either leaves the text as it is or asks for one kind of scalar.
  rcases tagged : scalar.tag with _ | tag
  all_goals rw [toTree, tagged] at read
  · cases read
    exact untagged
  · cases tag with
    | variant name | namelessVariant =>
      cases read
      exact untagged
    | bool =>
      dsimp only at read
      split at read
      next value found =>
        obtain ⟨_, _, rfl⟩ := Option.map_eq_some_iff.mp found
        cases read
        exact .bool
      next => cases read
    | int | float =>
      dsimp only at read
      split at read
      next value found =>
        obtain ⟨_, _, rfl⟩ := Option.map_eq_some_iff.mp found
        cases read
        exact .number
      next => cases read
    | null =>
      by_cases word : isNullWord scalar.text = true
      · simp only [word, if_true] at read
        cases read
        exact .null
      · simp only [word, Bool.false_eq_true, if_false] at read
        cases read
    | other =>
      cases read
      exact .text

namespace Document

/-- With so much fuel every tree that is read is in order. -/
structure ReadsOrdered (document : Document) (fuel : Nat) : Prop where
  /-- A node without regard to its name. -/
  body : ∀ {place tree position jumps},
    document.readBody fuel place = .ok (tree, position, jumps) → tree.Ordered
  /-- A node. -/
  node : ∀ {place tree position jumps},
    document.readNode fuel place = .ok (tree, position, jumps) → tree.Ordered
  /-- The items of a list. -/
  items : ∀ {parent count place items position jumps},
    document.readItems fuel parent count place = .ok (items, position, jumps) →
      ∀ item ∈ items, item.Ordered
  /-- The entries of a map, behind others that are in order. -/
  entries : ∀ {isRoot before place held position jumps}, before.Ordered →
    document.readEntries fuel isRoot before place = .ok (held, position, jumps) → held.Ordered

/-- A scalar is in order. -/
theorem ordered_of_scalar {place : Place} {mark : Mark} {scalar : Scalar} {tree : Tree Source}
    (read : readScalar place mark scalar = .ok tree) : tree.Ordered := by
  unfold readScalar at read
  split at read
  · cases read
    exact (scalar.ordered ‹_›).mapMarks _
  · cases read

/-- With one more step of fuel they are in order as well. -/
theorem ReadsOrdered.succ {document : Document} {fuel : Nat} (ih : document.ReadsOrdered fuel) :
    document.ReadsOrdered (fuel + 1) where
  body := by
    intro place tree position jumps read
    rw [readBody] at read
    obtain ⟨event, _, read⟩ := ok_of_bind read
    rcases kind : event.kind with anchor | scalar | tag | _ | tag | _
    all_goals simp only [kind] at read
    · obtain ⟨there, _, read⟩ := ok_of_bind read
      obtain ⟨⟨inner, _, total⟩, own, read⟩ := ok_of_bind read
      cases read
      exact ih.node own
    · obtain ⟨inner, own, read⟩ := ok_of_bind read
      cases read
      exact ordered_of_scalar own
    · obtain ⟨first, _, read⟩ := ok_of_bind read
      obtain ⟨⟨items, stop, total⟩, own, read⟩ := ok_of_bind read
      cases read
      exact .list (ih.items own)
    · cases read
    · obtain ⟨first, _, read⟩ := ok_of_bind read
      obtain ⟨⟨held, stop, total⟩, own, read⟩ := ok_of_bind read
      cases read
      exact (ih.entries Held.ordered_nothing own).toTree
    · cases read
  node := by
    intro place tree position jumps read
    rw [readNode] at read
    obtain ⟨event, _, read⟩ := ok_of_bind read
    obtain ⟨⟨inner, stop, total⟩, own, read⟩ := ok_of_bind read
    have ordered := ih.body own
    dsimp only at read
    split at read
    · cases read
      exact ordered.nested none _
    · cases read
      exact ordered
  items := by
    intro parent count place items position jumps read
    rw [readItems] at read
    obtain ⟨event, _, read⟩ := ok_of_bind read
    split at read
    · cases read
      simp
    · obtain ⟨⟨item, stop, total⟩, own, read⟩ := ok_of_bind read
      obtain ⟨⟨others, stop', total'⟩, later, read⟩ := ok_of_bind read
      cases read
      exact List.forall_mem_cons.mpr ⟨ih.node own, ih.items later⟩
  entries := by
    intro isRoot before place held position jumps ordered read
    rw [readEntries] at read
    obtain ⟨event, _, read⟩ := ok_of_bind read
    split at read
    · cases read
      exact ordered
    · obtain ⟨⟨⟨key, name?⟩, stop, total⟩, _, read⟩ := ok_of_bind read
      dsimp only at read
      split at read
      · obtain ⟨⟨number, _, _⟩, _, read⟩ := ok_of_bind read
        have same : Held.Ordered { before with source := some number } :=
          ⟨ordered.ascending, ordered.inner, ordered.value⟩
        exact ih.entries same read
      · obtain ⟨⟨value, _, _⟩, own, read⟩ := ok_of_bind read
        have inner := ih.node own
        refine ih.entries ?_ read
        split
        · refine ⟨ordered.ascending, ordered.inner, ?_⟩
          rintro tree ⟨⟩
          exact inner
        · exact ⟨ordered.ascending.put key value, Tree.ordered_put inner ordered.inner,
            ordered.value⟩

/-- With whatever fuel, every tree that is read is in order. -/
theorem reads_ordered (document : Document) (fuel : Nat) : document.ReadsOrdered fuel := by
  induction fuel with
  | zero =>
    refine ⟨?_, ?_, ?_, ?_⟩
    · intro place tree position jumps read
      rw [readBody] at read
      cases read
    · intro place tree position jumps read
      rw [readNode] at read
      cases read
    · intro parent count place items position jumps read
      rw [readItems] at read
      cases read
    · intro isRoot before place held position jumps ordered read
      rw [readEntries] at read
      cases read
  | succ fuel ih => exact ih.succ

/-- The entries of the map that a document is are in order. -/
theorem read_root_ordered {document : Document} {found : List (String × Tree Source)}
    (read : document.readRoot = .ok found) (mark : Source) : (Tree.map mark found).Ordered := by
  unfold readRoot at read
  obtain ⟨event, _, read⟩ := ok_of_bind read
  split at read
  · obtain ⟨first, _, read⟩ := ok_of_bind read
    obtain ⟨⟨held, stop, total⟩, own, read⟩ := ok_of_bind read
    cases read
    have ordered := (document.reads_ordered _).entries Held.ordered_nothing own
    exact .map ordered.ascending ordered.inner
  · split at read
    · cases read
      exact .map .nil (by simp)
    · obtain ⟨tree, _, read⟩ := ok_of_bind read
      cases read
  · cases read

end Document

/-- The entries of a document are those of its root, or there are none. -/
theorem Document.entries_made {document : Document} {entries : List (String × Tree Source)}
    (read : document.entries = .ok entries) : entries = [] ∨ document.readRoot = .ok entries := by
  unfold Document.entries at read
  by_cases empty : document.isEmpty = true
  · rw [if_pos empty] at read
    split at read
    · cases read
    · split at read
      · cases read
      · exact .inl (Except.ok.inj read).symm
  · rw [if_neg empty] at read
    obtain ⟨found, root, ended⟩ := ok_of_bind read
    split at ended
    · cases ended
    · split at ended
      · cases ended
      · exact .inr (root.trans ended)

/-- What a YAML text is read as is in order. -/
theorem entries_ordered {text : String} {entries : List (String × Tree Source)}
    (written : entriesOf text = .ok entries) (mark : Source) : (Tree.map mark entries).Ordered := by
  rcases Document.entries_made written with rfl | read
  · exact .map .nil (by simp)
  · exact Document.read_root_ordered read mark

end Yaml

end LastGood
