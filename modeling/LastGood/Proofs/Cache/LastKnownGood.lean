import LastGood.Proofs.Cache.Run
import LastGood.Store.Scripted

/-!
# The last known good configuration

Over any store, whatever it answers, and with any listeners, a cache serves the snapshot of
the latest answer that brought one, and shows the error of the latest failed load unless a
snapshot came since. Both are read off the answers of the store alone, which are kept by a
store that knows nothing of the cache.

The invariant is that readers see just what the answers so far amount to. One answer keeps
it, hence one operation does, hence a run does.
-/

namespace LastGood

variable {σ C : Type}

namespace CacheState

/-- What readers see when a store has given these answers. -/
def ofAnswers (answers : List (StoreAnswer C)) : CacheState C where
  snapshot := latestSnapshot answers
  lastError := pendingFailure answers

/-- One answer more changes what readers see as taking it does. -/
theorem taking_of_answers (answers : List (StoreAnswer C)) (answer : StoreAnswer C) :
    (ofAnswers answers).taking answer = ofAnswers (answers ++ [answer]) := by
  unfold taking ofAnswers
  rw [latest_snapshot_snoc, pending_failure_snoc]
  cases answer.snapshot? with
  | some snapshot => simp
  | none => cases answer.loadFailure? <;> simp

/-- Taking some answers in order is having been given them behind the others. -/
theorem foldl_taking (answers given : List (StoreAnswer C)) :
    given.foldl taking (ofAnswers answers) = ofAnswers (answers ++ given) := by
  induction given generalizing answers with
  | nil => simp
  | cons answer rest ih => simp [taking_of_answers, ih]

/-- An answer with neither a snapshot nor the error of a load changes nothing. -/
theorem taking_quiet (state : CacheState C) (answer : StoreAnswer C)
    (brought : answer.snapshot? = none) (failed : answer.loadFailure? = none) :
    state.taking answer = state := by
  simp [taking, brought, failed]

/-- Answers of that kind change nothing together either. -/
theorem foldl_taking_quiet (state : CacheState C) (given : List (StoreAnswer C))
    (quiet : ∀ answer ∈ given, answer.snapshot? = none ∧ answer.loadFailure? = none) :
    given.foldl taking state = state := by
  induction given with
  | nil => rfl
  | cons answer rest ih =>
    have first := quiet answer (by simp)
    rw [List.foldl_cons, taking_quiet state answer first.1 first.2]
    exact ih fun other member => quiet other (by simp [member])

/-- No answer takes a snapshot away. -/
theorem taking_populated (state : CacheState C) (answer : StoreAnswer C)
    (populated : state.snapshot.isSome) : (state.taking answer).snapshot.isSome := by
  unfold taking
  split
  · rfl
  · exact populated
  · exact populated

/-- No answers take a snapshot away. -/
theorem foldl_taking_populated (state : CacheState C) (given : List (StoreAnswer C))
    (populated : state.snapshot.isSome) : (given.foldl taking state).snapshot.isSome := by
  induction given generalizing state with
  | nil => exact populated
  | cons answer rest ih => exact ih _ (taking_populated state answer populated)

end CacheState

namespace Cache

/-- Readers see what the answers of the store amount to. -/
theorem run_state (store : Store σ C) (start : σ) (operations : List (Operation C)) :
    (run store start operations).1.state =
      CacheState.ofAnswers (answersDuring store start operations) := by
  induction operations using List.reverseRecOn with
  | nil => rfl
  | append_singleton operations operation ih =>
    rw [run_snoc, answers_during_snoc, ← CacheState.foldl_taking, ← ih]
    exact perform_state ..

/-- An operation never empties a cache. -/
theorem next_populated (store : Store σ C) (reached : Cache C × σ) (operation : Operation C)
    (populated : reached.1.state.snapshot.isSome) :
    (next store reached operation).1.state.snapshot.isSome := by
  have shown : (next store reached operation).1.state = _ :=
    perform_state store operation reached.2 reached.1
  rw [shown]
  exact CacheState.foldl_taking_populated _ _ populated

/-- A run never empties a cache. -/
theorem foldl_populated (store : Store σ C) (reached : Cache C × σ)
    (operations : List (Operation C)) (populated : reached.1.state.snapshot.isSome) :
    (operations.foldl (next store) reached).1.state.snapshot.isSome := by
  induction operations generalizing reached with
  | nil => exact populated
  | cons operation rest ih => exact ih _ (next_populated store reached operation populated)

/-- After any operations over any store, with any listeners, the cache serves the snapshot
of the latest answer that brought one, or the fallback if none did. It shows the error of
the latest failed load unless a snapshot was brought since. One operation more adds the
answers that it asks for, one at most, and unless that brings a snapshot or is a failed load,
readers see what they saw before. A cache that holds a snapshot always will. A locked write
and a save end as the store ends them.

Proof: what readers see is determined by the answers (`run_state`), and the rest follows
from what one operation asks for. -/
theorem run_serves_last_known_good (store : Store σ C) (start : σ)
    (operations : List (Operation C)) :
    let reached := run store start operations
    let answers := answersDuring store start operations
    reached.1.state.snapshot = latestSnapshot answers ∧
      reached.1.state.lastError = pendingFailure answers ∧
      reached.1.state.current store.fallback =
        ((latestSnapshot answers).map Snapshot.runtime).getD store.fallback ∧
      reached.1.state.validity =
        (pendingFailure answers).elim .valid (fun error => .invalid error.message) ∧
      (∀ operation : Operation C,
        let given := reached.1.answers store operation reached.2
        given.length ≤ 1 ∧
        answersDuring store start (operations ++ [operation]) = answers ++ given ∧
        ((∀ answer ∈ given, answer.snapshot? = none ∧ answer.loadFailure? = none) →
          (run store start (operations ++ [operation])).1.state = reached.1.state)) ∧
      (reached.1.state.snapshot.isSome → ∀ further : List (Operation C),
        (run store start (operations ++ further)).1.state.snapshot.isSome) ∧
      (∀ command : Command C,
        (reached.1.perform store (.writeWithLock command) reached.2).outcome =
          (store.writeWithLock reached.2 command reached.1.state.snapshot).outcome.map
            fun result => .saved result.state) ∧
      ∀ (content : String) (migrate : Bool),
        (reached.1.perform store (.save content migrate) reached.2).outcome =
          (store.write reached.2 content migrate).outcome.map fun _ => .done := by
  intro reached answers
  have shown : reached.1.state = CacheState.ofAnswers answers := run_state ..
  refine ⟨by rw [shown]; rfl, by rw [shown]; rfl, ?current, ?validity, ?operation, ?populated,
    ?lock, ?save⟩
  case current =>
    rw [shown]
    cases latest : latestSnapshot answers <;>
      simp [CacheState.current, CacheState.ofAnswers, latest]
  case validity =>
    rw [shown]
    cases pending : pendingFailure answers <;>
      simp [CacheState.validity, CacheState.ofAnswers, pending]
  case operation =>
    intro operation given
    refine ⟨answers_length_le .., ?_, ?_⟩
    · exact answers_during_snoc ..
    · intro quiet
      rw [run_snoc]
      exact (perform_state ..).trans (CacheState.foldl_taking_quiet _ _ quiet)
  case populated =>
    intro populated further
    rw [run_append]
    exact foldl_populated store reached further populated
  case lock =>
    intro command
    have ended := write_with_lock_outcome store command reached.2 reached.1
    simp only [perform, Step.map, ended]
    cases (store.writeWithLock reached.2 command reached.1.state.snapshot).outcome <;> rfl
  case save =>
    intro content migrate
    have ended := save_outcome store content migrate reached.2 reached.1
    simp only [perform, Step.map, ended]
    cases (store.write reached.2 content migrate).outcome <;> rfl

-- A failed load and one with nothing new: the snapshot is kept, and so is the error.
example :
    (run scriptedStore
      { loads := [.ok (some ⟨"runs", "edits", "sum"⟩), .failed (.parse "bad"), .ok none] }
      ([.reload, .reload, .reload] : List (Operation String))).1.state =
        { snapshot := some ⟨"runs", "edits", "sum"⟩, lastError := some (.parse "bad") } := rfl

end Cache

end LastGood
