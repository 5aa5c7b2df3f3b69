import LastGood.Yaml.Error
import LastGood.Yaml.Event.Grammar
import LastGood.Yaml.Token.Lexer

/-!
# Documents

A document is its events with the aliases followed to the events that they stand for.
An anchor takes the number of different names before it; when a name is used again, a
number may be given twice, and then every alias of that number stands for the last node
that got it.
-/

namespace LastGood.Yaml

/-- A document of a text. -/
structure Document where
  /-- Its events, up to its end or to an error. -/
  events : Array Event
  /-- For every alias among the events, the number of the event that it stands for. -/
  targets : List (Nat × Nat)
  /-- Why there are no more events. -/
  error : Option Error
  /-- Whether the text holds nothing at all. -/
  isEmpty : Bool
  /-- Whether the text holds more than this document. -/
  hasMore : Bool
  deriving Repr

namespace Document

/-- What is known about anchors while events are followed. -/
structure Anchors where
  /-- The number of each name. -/
  numbers : List (String × Nat) := []
  /-- The event that got a number last. -/
  places : List (Nat × Nat) := []
  /-- The numbers that aliases refer to. -/
  uses : List (Nat × Nat) := []

/-- The anchors after the event at `position`, or `none` when it is an alias of a name
    that is not known. -/
def Anchors.after (anchors : Anchors) (position : Nat) (event : Event) : Option Anchors :=
  match event.kind, event.anchor with
  | .alias name, _ =>
      (anchors.numbers.find? fun known => known.1 == name).map fun known =>
        { anchors with uses := (position, known.2) :: anchors.uses }
  | _, some name =>
      let number := anchors.numbers.length
      let others := anchors.numbers.filter fun known => known.1 != name
      some { anchors with
        numbers := (name, number) :: others
        places := (number, position) :: anchors.places }
  | _, none => some anchors

/-- The anchors of all events, or of those before the first alias of an unknown name,
    with the number of that one. -/
def anchorsOf (anchors : Anchors) (position : Nat) : List Event → Anchors × Option (Nat × Mark)
  | [] => (anchors, none)
  | event :: rest =>
      match anchors.after position event with
      | some next => anchorsOf next (position + 1) rest
      | none => (anchors, some (position, event.mark))

/-- The document that events make up. -/
def ofEvents (events : Events) : Document :=
  let (anchors, unknown) := anchorsOf {} 0 events.events
  let targets := anchors.uses.filterMap fun (position, number) =>
    (anchors.places.find? fun place => place.1 == number).map fun place => (position, place.2)
  match unknown with
  | some (count, mark) =>
      { events := (events.events.take count).toArray, targets, error := some (.unknownAnchor mark)
        isEmpty := false, hasMore := false }
  | none =>
      { events := events.events.toArray, targets, error := events.problem.map .syntactic
        isEmpty := events.isEmpty, hasMore := events.hasMore }

/-- The first document of a text. -/
def ofText (text : String) : Document := ofEvents (Events.ofTokens (Tokens.ofText text))

/-- The event that the alias at a position stands for. -/
def target (document : Document) (position : Nat) : Nat :=
  ((document.targets.find? fun entry => entry.1 == position).map Prod.snd).getD 0

end Document

end LastGood.Yaml
