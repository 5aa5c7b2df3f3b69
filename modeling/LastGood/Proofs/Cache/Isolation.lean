import Mathlib.Data.List.Forall2
import LastGood.Proofs.Cache.Reports
import LastGood.Proofs.Cache.Trail
import LastGood.Store.Scripted

/-!
# Listeners are on their own

Two runs perform the same operations over the same store, but their listeners behave in
different ways: at any delivery one may apply the configuration in the one run and fail or
panic in the other. Step by step both runs come to the same state, the same registry, the same
calls and the same reports, whatever they do, and the same results and deliveries are due in both.
A run falls short of what is due only where something that a panic left behind panics again when
it is dropped. Otherwise both log the same, but for one record behind each delivery that was not
applied.

The relation that is kept in any case says that two caches show the same and differ in the
reactions of their listeners at most. If they have made as many deliveries besides, one operation
matches what happens in the one run with what happens in the other, up to a panic that escapes.
-/

namespace LastGood

variable {σ C π α β : Type}

/-- The same listener, but for how it reacts. -/
structure Listener.Matches (listener other : Listener C π) : Prop where
  /-- It cannot be told from the other one. -/
  id : other.id = listener.id
  /-- It is called the same. -/
  name : other.name = listener.name

/-- The same operation, but for how a listener reacts. -/
inductive Operation.Matches : Operation C π → Operation C π → Prop where
  /-- Nothing differs. -/
  | same (operation : Operation C π) : Matches operation operation
  /-- A listener may. -/
  | register {listener other : Listener C π} (matching : listener.Matches other) :
      Matches (.register listener) (.register other)

/-- The same occurrence, but for how a listener reacts. -/
inductive Occurrence.Matches : Occurrence C π → Occurrence C π → Prop where
  /-- Nothing differs. -/
  | same (occurrence : Occurrence C π) : Matches occurrence occurrence
  /-- A listener may. It gets the same delivery. -/
  | received {listener other : Listener C π} (matching : listener.Matches other)
      (delivery : Delivery C) :
      Matches (.received ⟨listener, delivery⟩) (.received ⟨other, delivery⟩)

/-- The same trail, but for how listeners react. -/
abbrev TrailsMatch (trail other : List (Occurrence C π)) : Prop :=
  List.Forall₂ Occurrence.Matches trail other

/-- A trail matches itself. -/
theorem trails_match_refl (trail : List (Occurrence C π)) : TrailsMatch trail trail :=
  List.forall₂_same.mpr fun occurrence _ => .same occurrence

/-- Whether an event is a log record. -/
def CacheEvent.isRecord : CacheEvent C → Bool
  | .logged _ => true
  | _ => false

/-- The events that are no log records: calls to the store, reports and deliveries. -/
def unrecorded (events : List (CacheEvent C)) : List (CacheEvent C) :=
  events.filter fun event => !event.isRecord

/-- No log record is left among the events that are none. -/
theorem unrecorded_logged (records : List LogRecord) :
    unrecorded (records.map .logged : List (CacheEvent C)) = [] := by
  induction records with
  | nil => rfl
  | cons record rest ih => exact ih

/-- Matching registries have the same names in the same order. -/
theorem names_of_match {listeners others : List (Listener C π)}
    (matching : List.Forall₂ Listener.Matches listeners others) :
    others.map (fun listener => (listener.id, listener.name)) =
      listeners.map fun listener => (listener.id, listener.name) := by
  induction matching with
  | nil => rfl
  | cons first _ ih => rw [List.map_cons, List.map_cons, ih, first.id, first.name]

/-- Trails that match differ in log records at most. -/
theorem unrecorded_of_match [Payload π] {trail other : List (Occurrence C π)}
    (matching : TrailsMatch trail other) :
    unrecorded (shownOf other) = unrecorded (shownOf trail) := by
  induction matching with
  | nil => rfl
  | @cons occurrence another rest others first _ ih =>
    have split : ∀ (occurrence : Occurrence C π) (rest : List (Occurrence C π)),
        unrecorded (shownOf (occurrence :: rest)) =
          unrecorded occurrence.events ++ unrecorded (shownOf rest) :=
      fun _ _ => List.filter_append ..
    rw [split, split, ih]
    cases first with
    | same => rfl
    | @received listener other same delivery =>
      have alone : ∀ receipt : Receipt C π, unrecorded receipt.events =
          [.delivered receipt.listener.id receipt.delivery] :=
        fun receipt => congrArg (_ :: ·) (unrecorded_logged receipt.complaints)
      refine congrArg (· ++ _) ?_
      simp only [Occurrence.events, alone, same.id]

/-- Trails that match have as many receipts. -/
theorem receipts_length_of_match {trail other : List (Occurrence C π)}
    (matching : TrailsMatch trail other) :
    (receiptsOf other).length = (receiptsOf trail).length := by
  induction matching with
  | nil => rfl
  | @cons occurrence _ _ _ first _ ih =>
    cases first with
    | same => cases occurrence <;> simp [ih]
    | received => simp [ih]

namespace Cache

/-- A cache that shows the same and has the same listeners, but for how they react. -/
structure Resembles (cache other : Cache C π) : Prop where
  /-- Readers see the same. -/
  state : other.state = cache.state
  /-- The registries have the same listeners in the same order. -/
  listeners : List.Forall₂ Listener.Matches cache.listeners other.listeners

/-- The same cache, but for how its listeners react. -/
structure Matches (cache other : Cache C π) : Prop extends cache.Resembles other where
  /-- As many deliveries were made. -/
  deliveries : other.deliveries = cache.deliveries

/-- Matching listeners get the same of caches that match. -/
theorem receipts_match (cache other : Cache C π) (state : other.state = cache.state)
    (deliveries : other.deliveries = cache.deliveries) {listeners others : List (Listener C π)}
    (matching : List.Forall₂ Listener.Matches listeners others) (config : C) :
    TrailsMatch ((cache.receipts config listeners).map .received)
      ((other.receipts config others).map .received) := by
  simp only [receipts, state, deliveries]
  generalize cache.deliveries = count
  induction matching generalizing count with
  | nil => exact .nil
  | cons first _ ih =>
    simp only [List.mapIdx_cons, List.map_cons]
    refine .cons (.received first _) ?_
    simpa only [Nat.add_assoc, Nat.add_comm 1] using ih (count + 1)

/-- An install in caches that match. -/
theorem Matches.install {cache other : Cache C π} (matching : cache.Matches other)
    (snapshot : Snapshot C) :
    TrailsMatch (cache.installTrail snapshot) (other.installTrail snapshot) := by
  unfold installTrail
  rw [matching.listeners.length_eq]
  refine .cons (.same _) (.cons (.same _) ?_)
  let shown : CacheState C := { snapshot := some snapshot, lastError := none }
  exact List.rel_append
    (receipts_match { cache with state := shown } { other with state := shown } rfl
      matching.deliveries matching.listeners snapshot.runtime) (trails_match_refl _)

/-- A load into caches that match. -/
theorem Matches.load {cache other : Cache C π} (matching : cache.Matches other)
    (store : Store σ C) (state : σ) :
    TrailsMatch (cache.loadTrail store state) (other.loadTrail store state) := by
  unfold loadTrail
  rw [matching.state]
  refine .cons (.same _) (List.rel_append (trails_match_refl _) ?_)
  cases (store.load state).outcome with
  | ok found =>
    cases found with
    | some snapshot => exact matching.install snapshot
    | none => exact trails_match_refl _
  | failed error => exact trails_match_refl _
  | panicked message => exact trails_match_refl _

/-- A call that may bring a snapshot into caches that match. -/
theorem Matches.call {cache other : Cache C π} (matching : cache.Matches other)
    (call : StoreCall) (called : Called σ α) (fields : α → List (String × FieldValue))
    (snapshot : α → Snapshot C) :
    TrailsMatch (cache.callTrail call called fields snapshot)
      (other.callTrail call called fields snapshot) := by
  unfold callTrail
  refine .cons (.same _) (List.rel_append (trails_match_refl _) ?_)
  cases called.outcome with
  | ok value => exact .cons (.same _) (matching.install (snapshot value))
  | failed error => exact .nil
  | panicked message => exact .nil

/-- Matching operations leave the same trail of caches that match. -/
theorem Matches.trail {cache other : Cache C π} (matching : cache.Matches other)
    (store : Store σ C) {operation another : Operation C π} (same : operation.Matches another)
    (state : σ) :
    TrailsMatch (cache.trail store operation state) (other.trail store another state) := by
  cases same with
  | register same =>
    simp only [Cache.trail, matching.state, matching.deliveries]
    cases cache.state.snapshot with
    | none => exact .nil
    | some snapshot => exact .cons (.received same _) .nil
  | same =>
    cases operation with
    | reload => exact matching.load store state
    | ensureLoaded | forEditing =>
      simp only [Cache.trail, matching.state]
      split
      · exact .nil
      · exact matching.load store state
    | writeWithLock command =>
      simp only [Cache.trail, matching.state]
      exact matching.call _ _ _ _
    | save content migrate => exact matching.call _ _ _ _
    | register listener =>
      simp only [Cache.trail, matching.state, matching.deliveries]
      exact trails_match_refl _
    | renotify =>
      simp only [Cache.trail, matching.state]
      exact receipts_match cache other matching.state matching.deliveries matching.listeners _
    | clearListeners => exact .nil

/-- Matching operations ask for the same answers. -/
theorem Resembles.answers {cache other : Cache C π} (resembling : cache.Resembles other)
    (store : Store σ C) {operation another : Operation C π} (same : operation.Matches another)
    (state : σ) : other.answers store another state = cache.answers store operation state := by
  cases same with
  | register => rfl
  | same => cases operation <;> simp only [Cache.answers, resembling.state]

/-- They end the same unless a panic escapes: that is decided by the answers of the store and by
what readers see. -/
theorem Resembles.due {cache other : Cache C π} (resembling : cache.Resembles other)
    (store : Store σ C) {operation another : Operation C π} (same : operation.Matches another)
    (state : σ) : other.due store another state = cache.due store operation state := by
  cases same with
  | register => rfl
  | same => cases operation <;> simp only [Cache.due, Cache.answers, resembling.state]

section

variable [Payload π]

/-- Matching operations leave the store the same. -/
theorem Resembles.store {cache other : Cache C π} (resembling : cache.Resembles other)
    (store : Store σ C) {operation another : Operation C π} (same : operation.Matches another)
    (state : σ) :
    (other.perform store another state).store = (cache.perform store operation state).store := by
  rw [perform_store, perform_store]
  cases same with
  | register => rfl
  | same => cases operation <;> simp only [resembling.state]

/-- They make the same calls. -/
theorem Resembles.calls {cache other : Cache C π} (resembling : cache.Resembles other)
    (store : Store σ C) {operation another : Operation C π} (same : operation.Matches another)
    (state : σ) :
    callsOf (other.perform store another state).events =
      callsOf (cache.perform store operation state).events := by
  rw [perform_calls, perform_calls]
  cases same with
  | register => rfl
  | same => cases operation <;> simp only [resembling.state]

/-- They make the same reports. -/
theorem Resembles.reports {cache other : Cache C π} (resembling : cache.Resembles other)
    (store : Store σ C) {operation another : Operation C π} (same : operation.Matches another)
    (state : σ) :
    reportsOf (other.perform store another state).events =
      reportsOf (cache.perform store operation state).events := by
  rw [perform_reports, perform_reports, resembling.answers store same]

/-- An operation keeps caches alike, whatever their listeners do. -/
theorem Resembles.next {cache other : Cache C π} (resembling : cache.Resembles other)
    (store : Store σ C) {operation another : Operation C π} (same : operation.Matches another)
    (state : σ) :
    (cache.perform store operation state).cache.Resembles
      (other.perform store another state).cache := by
  constructor
  · rw [perform_state, perform_state, resembling.answers store same, resembling.state]
  · rw [perform_listeners, perform_listeners]
    cases same with
    | register same => exact List.rel_append resembling.listeners (.cons same .nil)
    | same =>
      cases operation with
      | register listener =>
        exact List.rel_append resembling.listeners (.cons ⟨rfl, rfl⟩ .nil)
      | clearListeners => exact .nil
      | _ => exact resembling.listeners

/-- An operation that no panic escapes keeps caches matching. -/
theorem Matches.next {cache other : Cache C π} (matching : cache.Matches other)
    (store : Store σ C) {operation another : Operation C π} (same : operation.Matches another)
    (state : σ) (quiet : escapeOf (cache.trail store operation state) = none)
    (calm : escapeOf (other.trail store another state) = none) :
    (cache.perform store operation state).cache.Matches
      (other.perform store another state).cache := by
  refine ⟨matching.toResembles.next store same state, ?_⟩
  rw [perform_deliveries, perform_deliveries, cut_of_quiet quiet, cut_of_quiet calm,
    matching.deliveries, receipts_length_of_match (matching.trail store same state)]

/-- What a step leaves and asks for: what readers see, who is registered, the state of the store,
and which calls and reports were made, in order. -/
def keptStep (step : Step σ C (Answer C) π) :
    CacheState C × List (String × String) × σ × List StoreCall × List HealthState :=
  (step.cache.state, step.cache.listeners.map fun listener => (listener.id, listener.name),
    step.store, callsOf step.events, reportsOf step.events)

/-- What a step amounts to apart from log records: how it ended, what readers see, who is
registered, the state of the store, and which calls, reports and deliveries were made, in
order. -/
def unrecordedStep (step : Step σ C (Answer C) π) :
    Outcome (Answer C) × CacheState C × List (String × String) × σ × List (CacheEvent C) :=
  (step.outcome, step.cache.state,
    step.cache.listeners.map fun listener => (listener.id, listener.name), step.store,
    unrecorded step.events)

/-- Matching operations on caches that are alike leave and ask for the same. -/
theorem Resembles.step {cache other : Cache C π} (resembling : cache.Resembles other)
    (store : Store σ C) {operation another : Operation C π} (same : operation.Matches another)
    (state : σ) :
    keptStep (other.perform store another state) =
      keptStep (cache.perform store operation state) := by
  have next := resembling.next store same state
  simp only [keptStep, next.state, names_of_match next.listeners,
    resembling.store store same, resembling.calls store same, resembling.reports store same]

/-- Matching operations on caches that match amount to the same, log records apart, if no panic
escapes. -/
theorem Matches.step {cache other : Cache C π} (matching : cache.Matches other)
    (store : Store σ C) {operation another : Operation C π} (same : operation.Matches another)
    (state : σ) (quiet : escapeOf (cache.trail store operation state) = none)
    (calm : escapeOf (other.trail store another state) = none) :
    unrecordedStep (other.perform store another state) =
      unrecordedStep (cache.perform store operation state) := by
  have next := matching.next store same state quiet calm
  have outcome : (other.perform store another state).outcome =
      (cache.perform store operation state).outcome := by
    rw [perform_outcome, perform_outcome, quiet, calm, matching.due store same]
  have events : unrecorded (other.perform store another state).events =
      unrecorded (cache.perform store operation state).events := by
    rw [perform_events, perform_events, cut_of_quiet quiet, cut_of_quiet calm]
    exact unrecorded_of_match (matching.trail store same state)
  simp only [unrecordedStep, outcome, next.state, names_of_match next.listeners,
    matching.store store same, events]

/-- What caches that are alike agree on in each step, matching runs agree on step by step. -/
theorem Resembles.run {see : Cache C π × σ → Operation C π → β} {cache other : Cache C π}
    (resembling : cache.Resembles other)
    (agreed : ∀ {cache other : Cache C π}, cache.Resembles other →
      ∀ {operation another : Operation C π}, operation.Matches another → ∀ state,
        see (other, state) another = see (cache, state) operation)
    (store : Store σ C) (state : σ) {operations others : List (Operation C π)}
    (same : List.Forall₂ Operation.Matches operations others) :
    seenFrom store see (other, state) others = seenFrom store see (cache, state) operations := by
  induction same generalizing cache other state with
  | nil => rfl
  | cons first _ ih =>
    have stores := resembling.store store first state
    simp only [seenFrom, Cache.next, stores]
    exact List.cons_eq_cons.mpr
      ⟨agreed resembling first state, ih (resembling.next store first state) _⟩

/-- What happens from a cache on, each operation's up to a panic that escapes it. -/
def trailFrom (store : Store σ C) (reached : Cache C π × σ) (operations : List (Operation C π)) :
    List (Occurrence C π) :=
  (seenFrom store (fun reached operation => cut (reached.1.trail store operation reached.2))
    reached operations).flatten

/-- What happens during the first operation is followed by what happens from there on. -/
theorem trail_from_cons (store : Store σ C) (reached : Cache C π × σ) (operation : Operation C π)
    (rest : List (Operation C π)) :
    trailFrom store reached (operation :: rest) =
      cut (reached.1.trail store operation reached.2) ++
        trailFrom store (Cache.next store reached operation) rest := rfl

/-- Matching runs from caches that match amount to the same, step by step, and leave trails
that match, if no panic escapes. -/
theorem Matches.run {cache other : Cache C π} (matching : cache.Matches other)
    (store : Store σ C) (state : σ) {operations others : List (Operation C π)}
    (same : List.Forall₂ Operation.Matches operations others)
    (quiet : escapeOf (trailFrom store (cache, state) operations) = none)
    (calm : escapeOf (trailFrom store (other, state) others) = none) :
    (seenFrom store (fun reached operation =>
        unrecordedStep (reached.1.perform store operation reached.2)) (other, state) others =
      seenFrom store (fun reached operation =>
        unrecordedStep (reached.1.perform store operation reached.2)) (cache, state)
          operations) ∧
      TrailsMatch (trailFrom store (cache, state) operations)
        (trailFrom store (other, state) others) := by
  induction same generalizing cache other state with
  | nil => exact ⟨rfl, .nil⟩
  | @cons operation another _ _ first _ ih =>
    rw [trail_from_cons, escape_append, escape_cut, Option.or_eq_none_iff] at quiet calm
    rw [trail_from_cons, trail_from_cons, cut_of_quiet quiet.1, cut_of_quiet calm.1]
    have next := matching.next store first state quiet.1 calm.1
    have stores := matching.store store first state
    have reached : Cache.next store (other, state) another =
        ((other.perform store another state).cache, (cache.perform store operation state).store) :=
      congrArg (Prod.mk _) stores
    rw [reached] at calm ⊢
    obtain ⟨steps, trails⟩ := ih next _ quiet.2 calm.2
    simp only [seenFrom, reached]
    exact ⟨List.cons_eq_cons.mpr ⟨matching.step store first state quiet.1 calm.1, steps⟩,
      List.rel_append (matching.trail store first state) trails⟩

/-- Nothing that a listener leaves behind in a run panics when it is dropped. -/
def Quiet (store : Store σ C) (start : σ) (operations : List (Operation C π)) : Prop :=
  ∀ receipt ∈ receiptsOf (trailDuring store start operations), receipt.reaction.relapse? = none

/-- No panic escapes a run then. -/
theorem Quiet.escape {store : Store σ C} {start : σ} {operations : List (Operation C π)}
    (quiet : Quiet store start operations) :
    escapeOf (trailDuring store start operations) = none := by
  rw [escapeOf, List.findSome?_eq_none_iff]
  intro occurrence member
  cases occurrence with
  | received receipt =>
    exact quiet receipt (List.mem_filterMap.mpr ⟨.received receipt, member, rfl⟩)
  | called | logged | reported => rfl

end

/-- Something that panics when it is dropped. -/
inductive Unstable where
  /-- There is one. -/
  | one

instance : Payload Unstable where
  message _ := "non-string panic payload"
  relapse? _ := some "dropped"

-- Where that is left behind, the load ends in its panic, but what it brought is installed.
example :
    let script : Script := { loads := [.ok (some ⟨"runs", "edits", "sum"⟩)] }
    let steps := stepsDuring scriptedStore script
      [.register ⟨"a", "first", fun _ => .panicked Unstable.one⟩, .reload]
    steps.map (fun step => (step.outcome, step.cache.state.snapshot)) =
      [(.ok .done, none), (.panicked "dropped", some ⟨"runs", "edits", "sum"⟩)] := rfl

end Cache

end LastGood
