import LastGood.Proofs.Scheduler.Timeline

/-!
# What the loop of a scheduler sees

A scheduler is told to stop through a channel that keeps the latest word only, and its loop looks
at the channel when it has a turn. So an order to stop counts from the moment when it is given if
it is still the latest word at the next turn, since no time passes before that. An order that is
taken back before the next turn was never seen.
-/

namespace LastGood

namespace SchedulerInput

/-- The time that an input takes. -/
def nanos : SchedulerInput → Nat
  | .pass nanos => nanos
  | _ => 0

/-- Whether the loop has a turn by an input. -/
def isTurn : SchedulerInput → Bool
  | .pass _ | .turn => true
  | _ => false

end SchedulerInput

namespace StopChannel

end StopChannel

namespace Scheduler

/-- The time that some inputs take. -/
def passed (inputs : List SchedulerInput) : Nat := (inputs.map SchedulerInput.nanos).sum

/-- An order to stop is taken back among some inputs before the loop has a turn. -/
def TakenBack (inputs : List SchedulerInput) : Prop :=
  ∃ before between after, inputs = before ++ .signal true :: between ++ .signal false :: after ∧
    ∀ input ∈ between, input.isTurn = false

/-- What is taken back later is taken back. -/
theorem TakenBack.cons {inputs : List SchedulerInput} (back : TakenBack inputs)
    (input : SchedulerInput) : TakenBack (input :: inputs) := by
  obtain ⟨before, between, after, rfl, waits⟩ := back
  exact ⟨input :: before, between, after, rfl, waits⟩

end Scheduler

end LastGood
