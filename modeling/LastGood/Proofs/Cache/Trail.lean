import LastGood.Proofs.Cache.Run

/-!
# What happens during operations

The events of an operation show that a listener got a configuration, and behind that at most
one log record, by which one knows that the listener failed or panicked. A trail is the same
list with the listeners left in it: it says who is to get what, and nothing of what comes of it.
The events are the trail with every receipt written out, up to the first one whose listener
leaves something behind that panics when it is dropped. Where that does not happen, they are the
whole trail.

A trail is determined by the state of the cache and the answers of the store. Listeners take
part in it by their names alone.
-/

namespace LastGood

variable {σ C π α β : Type}

/-- A delivery and the listener that gets it. -/
structure Receipt (C : Type) (π : Type := PanicPayload) where
  /-- Who gets it. -/
  listener : Listener C π
  /-- What it is. -/
  delivery : Delivery C

namespace Receipt

/-- How the listener takes the delivery. -/
def reaction (receipt : Receipt C π) : Reaction π := receipt.listener.react receipt.delivery

variable [Payload π]

/-- What is logged of that. -/
def complaints (receipt : Receipt C π) : List LogRecord :=
  Cache.reactionLog receipt.listener.name receipt.reaction

/-- The events that a receipt shows as. -/
def events (receipt : Receipt C π) : List (CacheEvent C) :=
  .delivered receipt.listener.id receipt.delivery :: receipt.complaints.map .logged

end Receipt

/-- What happens while the cache works, with the listeners that take part. -/
inductive Occurrence (C : Type) (π : Type := PanicPayload) where
  /-- The store is called. -/
  | called (call : StoreCall)
  /-- The cache or the store logs a record. -/
  | logged (record : LogRecord)
  /-- The health of the configuration is reported. -/
  | reported (state : HealthState)
  /-- A listener gets a configuration. -/
  | received (receipt : Receipt C π)

namespace Occurrence

/-- The receipt that an occurrence is, if it is one. -/
def receipt? : Occurrence C π → Option (Receipt C π)
  | .received receipt => some receipt
  | .called _ | .logged _ | .reported _ => none

variable [Payload π]

/-- The events that an occurrence shows as. -/
def events : Occurrence C π → List (CacheEvent C)
  | .called call => [.called call]
  | .logged record => [.logged record]
  | .reported state => [.reported state]
  | .received receipt => receipt.events

/-- The message of the panic that escapes an occurrence, if one does. -/
def relapse? : Occurrence C π → Option String
  | .received receipt => receipt.reaction.relapse?
  | .called _ | .logged _ | .reported _ => none

end Occurrence

/-- The receipts of a trail, in order. -/
def receiptsOf (trail : List (Occurrence C π)) : List (Receipt C π) :=
  trail.filterMap Occurrence.receipt?

section

variable [Payload π]

/-- The events that a trail shows as. -/
def shownOf (trail : List (Occurrence C π)) : List (CacheEvent C) :=
  trail.flatMap Occurrence.events

/-- The message of the first panic that escapes an occurrence of a trail, if one does. -/
def escapeOf (trail : List (Occurrence C π)) : Option String :=
  trail.findSome? Occurrence.relapse?

/-- A trail up to the first occurrence that a panic escapes. -/
def cut : List (Occurrence C π) → List (Occurrence C π)
  | [] => []
  | first :: rest => first :: if first.relapse?.isSome then [] else cut rest

/-- A trail that no panic escapes is not cut. -/
theorem cut_of_quiet {trail : List (Occurrence C π)} (quiet : escapeOf trail = none) :
    cut trail = trail := by
  induction trail with
  | nil => rfl
  | cons first rest ih =>
    cases alone : first.relapse? with
    | some message => simp [escapeOf, alone] at quiet
    | none =>
      have later : escapeOf rest = none := by simpa [escapeOf, alone] using quiet
      simp [cut, alone, ih later]

/-- What stands in front of a trail and no panic escapes stays in front of it. -/
theorem cut_append_quiet {trail : List (Occurrence C π)} (quiet : escapeOf trail = none)
    (further : List (Occurrence C π)) : cut (trail ++ further) = trail ++ cut further := by
  induction trail with
  | nil => rfl
  | cons first rest ih =>
    cases alone : first.relapse? with
    | some message => simp [escapeOf, alone] at quiet
    | none =>
      have later : escapeOf rest = none := by simpa [escapeOf, alone] using quiet
      simp [cut, alone, ih later]

/-- Where a panic escapes, nothing of what stands behind is left. -/
theorem cut_append_escaped {trail : List (Occurrence C π)} {message : String}
    (escaped : escapeOf trail = some message) (further : List (Occurrence C π)) :
    cut (trail ++ further) = cut trail := by
  induction trail with
  | nil => cases escaped
  | cons first rest ih =>
    cases alone : first.relapse? with
    | some other => simp [cut, alone]
    | none =>
      have later : escapeOf rest = some message := by simpa [escapeOf, alone] using escaped
      simp [cut, alone, ih later]

/-- What is left of a trail is a beginning of it. -/
theorem prefix_cut (trail : List (Occurrence C π)) : cut trail <+: trail := by
  induction trail with
  | nil => exact List.prefix_refl _
  | cons first rest ih =>
    rw [cut, List.cons_prefix_cons]
    refine ⟨rfl, ?_⟩
    split
    · exact List.nil_prefix
    · exact ih

/-- The first panic that escapes a trail is not cut off. -/
@[simp] theorem escape_cut (trail : List (Occurrence C π)) :
    escapeOf (cut trail) = escapeOf trail := by
  induction trail with
  | nil => rfl
  | cons first rest ih =>
    unfold escapeOf at ih ⊢
    cases alone : first.relapse? <;> simp [cut, alone, ih]

/-- Of an empty trail nothing is cut off. -/
@[simp] theorem cut_nil : cut ([] : List (Occurrence C π)) = [] := rfl

/-- A trail is not cut behind a call. -/
@[simp] theorem cut_called_cons (call : StoreCall) (trail : List (Occurrence C π)) :
    cut (.called call :: trail) = .called call :: cut trail := rfl

/-- Nor behind a record. -/
@[simp] theorem cut_logged_cons (record : LogRecord) (trail : List (Occurrence C π)) :
    cut (.logged record :: trail) = .logged record :: cut trail := rfl

/-- Nor behind a report. -/
@[simp] theorem cut_reported_cons (state : HealthState) (trail : List (Occurrence C π)) :
    cut (.reported state :: trail) = .reported state :: cut trail := rfl

/-- The first panic of two trails is that of the first one, or else that of the second. -/
@[simp] theorem escape_append (trail further : List (Occurrence C π)) :
    escapeOf (trail ++ further) = (escapeOf trail).or (escapeOf further) :=
  List.findSome?_append

/-- No panic escapes an empty trail. -/
@[simp] theorem escape_nil : escapeOf ([] : List (Occurrence C π)) = none := rfl

/-- None escapes a call. -/
@[simp] theorem escape_called_cons (call : StoreCall) (trail : List (Occurrence C π)) :
    escapeOf (.called call :: trail) = escapeOf trail := rfl

/-- None escapes a record. -/
@[simp] theorem escape_logged_cons (record : LogRecord) (trail : List (Occurrence C π)) :
    escapeOf (.logged record :: trail) = escapeOf trail := rfl

/-- None escapes a report. -/
@[simp] theorem escape_reported_cons (state : HealthState) (trail : List (Occurrence C π)) :
    escapeOf (.reported state :: trail) = escapeOf trail := rfl

/-- None escapes log records. -/
@[simp] theorem escape_logged (records : List LogRecord) :
    escapeOf (records.map .logged : List (Occurrence C π)) = none := by
  induction records with
  | nil => rfl
  | cons record rest ih => exact ih

/-- The events of two trails are those of the first and those of the second. -/
@[simp] theorem shown_append (trail further : List (Occurrence C π)) :
    shownOf (trail ++ further) = shownOf trail ++ shownOf further :=
  List.flatMap_append

/-- Log records show as themselves. -/
@[simp] theorem shown_logged (records : List LogRecord) :
    shownOf (records.map .logged : List (Occurrence C π)) = records.map .logged := by
  induction records with
  | nil => rfl
  | cons record rest ih => exact congrArg (CacheEvent.logged record :: ·) ih

end

/-- What panics leave behind here can be dropped, and so no panic escapes a trail. -/
@[simp] theorem escape_eq_none (trail : List (Occurrence C)) : escapeOf trail = none := by
  rw [escapeOf, List.findSome?_eq_none_iff]
  intro occurrence _
  cases occurrence with
  | received receipt => exact Cache.relapse_eq_none _
  | called | logged | reported => rfl

/-- Hence no trail is cut. -/
@[simp] theorem cut_eq_self (trail : List (Occurrence C)) : cut trail = trail :=
  cut_of_quiet (escape_eq_none trail)

/-- The receipts of two trails are those of the first and those of the second. -/
@[simp] theorem receipts_append (trail further : List (Occurrence C π)) :
    receiptsOf (trail ++ further) = receiptsOf trail ++ receiptsOf further :=
  List.filterMap_append

/-- An empty trail has no receipt. -/
@[simp] theorem receipts_nil : receiptsOf ([] : List (Occurrence C π)) = [] := rfl

/-- A call is no receipt. -/
@[simp] theorem receipts_called_cons (call : StoreCall) (trail : List (Occurrence C π)) :
    receiptsOf (.called call :: trail) = receiptsOf trail := rfl

/-- A record is no receipt. -/
@[simp] theorem receipts_logged_cons (record : LogRecord) (trail : List (Occurrence C π)) :
    receiptsOf (.logged record :: trail) = receiptsOf trail := rfl

/-- A report is no receipt. -/
@[simp] theorem receipts_reported_cons (state : HealthState) (trail : List (Occurrence C π)) :
    receiptsOf (.reported state :: trail) = receiptsOf trail := rfl

/-- A receipt is the first one, with those behind it. -/
@[simp] theorem receipts_received_cons (receipt : Receipt C π) (trail : List (Occurrence C π)) :
    receiptsOf (.received receipt :: trail) = receipt :: receiptsOf trail := rfl

/-- Log records are no receipts. -/
@[simp] theorem receipts_logged (records : List LogRecord) :
    receiptsOf (records.map .logged : List (Occurrence C π)) = [] := by
  induction records with
  | nil => rfl
  | cons record rest ih => exact ih

/-- Receipts are all their receipts. -/
@[simp] theorem receipts_received (receipts : List (Receipt C π)) :
    receiptsOf (receipts.map .received) = receipts := by
  induction receipts with
  | nil => rfl
  | cons receipt rest ih => exact congrArg (receipt :: ·) ih

/-- The call that an event is, if it is one. -/
def CacheEvent.call? : CacheEvent C → Option StoreCall
  | .called call => some call
  | _ => none

/-- The calls to the store among some events, in order. -/
def callsOf (events : List (CacheEvent C)) : List StoreCall :=
  events.filterMap CacheEvent.call?

/-- The calls among more events come after those among the first. -/
@[simp] theorem calls_append (events others : List (CacheEvent C)) :
    callsOf (events ++ others) = callsOf events ++ callsOf others :=
  List.filterMap_append

/-- Log records are no calls. -/
@[simp] theorem calls_logged (records : List LogRecord) :
    callsOf (records.map .logged : List (CacheEvent C)) = [] := by
  induction records with
  | nil => rfl
  | cons record rest ih => exact ih

section

variable [Payload π]

/-- The calls of a trail are those of its first occurrence and those of the others. -/
theorem calls_shown_cons (occurrence : Occurrence C π) (rest : List (Occurrence C π)) :
    callsOf (shownOf (occurrence :: rest)) =
      callsOf occurrence.events ++ callsOf (shownOf rest) :=
  calls_append ..

/-- Receipts are no calls. -/
@[simp] theorem calls_received (receipts : List (Receipt C π)) :
    callsOf (shownOf (receipts.map .received)) = [] := by
  induction receipts with
  | nil => rfl
  | cons receipt rest ih =>
    have own : callsOf receipt.events = [] := calls_logged receipt.complaints
    rw [List.map_cons, calls_shown_cons, ih, List.append_nil]
    exact own

end

namespace Cache

/-- One receipt of a configuration for each of some listeners, in their order. -/
def receipts (cache : Cache C π) (config : C) (listeners : List (Listener C π)) :
    List (Receipt C π) :=
  listeners.mapIdx fun position listener =>
    ⟨listener, ⟨cache.deliveries + position, config, cache.state⟩⟩

/-- The first of some listeners, and then the others, get what all of them get. -/
theorem receipts_cons (cache : Cache C π) (config : C) (listener : Listener C π)
    (rest : List (Listener C π)) :
    cache.receipts config (listener :: rest) =
      ⟨listener, ⟨cache.deliveries, config, cache.state⟩⟩ ::
        { cache with deliveries := cache.deliveries + 1 }.receipts config rest := by
  simp only [receipts, List.mapIdx_cons, Nat.add_assoc, Nat.add_comm 1, Nat.add_zero]

/-- What happens when a snapshot is installed. The cache shows it, and a good report was made,
before anyone receives it. -/
def installTrail (cache : Cache C π) (snapshot : Snapshot C) : List (Occurrence C π) :=
  let shown := { cache with state := { snapshot := some snapshot, lastError := none } }
  .reported (.success .invalidConfig) ::
    .logged (notifyingLog snapshot.checksum cache.listeners.length) ::
    (shown.receipts snapshot.runtime cache.listeners).map .received ++ [.logged notifiedLog]

/-- What happens during a load. -/
def loadTrail (store : Store σ C) (state : σ) (cache : Cache C π) : List (Occurrence C π) :=
  let called := store.load state
  .called .load :: called.logs.map .logged ++
    match called.outcome with
    | .ok (some snapshot) => cache.installTrail snapshot
    | .ok none => [.logged nothingNewLog]
    | .failed error =>
        [.logged (failureLog (store.location called.state) error cache.state.snapshot.isSome),
          .reported (.error .invalidConfig invalidConfiguration error.message)]
    | .panicked _ => []

/-- What happens during a call that may bring a snapshot. -/
def callTrail (cache : Cache C π) (call : StoreCall) (called : Called σ α)
    (fields : α → List (String × FieldValue)) (snapshot : α → Snapshot C) :
    List (Occurrence C π) :=
  .called call :: called.logs.map .logged ++
    match called.outcome with
    | .ok value => .logged (savingLog (fields value)) :: cache.installTrail (snapshot value)
    | _ => []

/-- What happens during an operation. -/
def trail (store : Store σ C) (operation : Operation C π) (state : σ) (cache : Cache C π) :
    List (Occurrence C π) :=
  match operation with
  | .reload => cache.loadTrail store state
  | .ensureLoaded | .forEditing =>
      if cache.state.snapshot.isSome then [] else cache.loadTrail store state
  | .writeWithLock command =>
      let base := cache.state.snapshot
      cache.callTrail (.lock (base.map Snapshot.checksum)) (store.writeWithLock state command base)
        (fun result => [("state", .text result.state.name)]) SaveResult.snapshot
  | .save content migrate =>
      cache.callTrail (.write content migrate) (store.write state content migrate)
        (fun _ => []) id
  | .register listener =>
      cache.state.snapshot.toList.map fun snapshot =>
        .received ⟨listener, ⟨cache.deliveries, snapshot.runtime, cache.state⟩⟩
  | .renotify =>
      (cache.receipts (cache.state.current store.fallback) cache.listeners).map .received
  | .clearListeners => []

/-- An install is received once by each listener, in order. -/
theorem receipts_install_trail (cache : Cache C π) (snapshot : Snapshot C) :
    receiptsOf (cache.installTrail snapshot) =
      { cache with state := { snapshot := some snapshot, lastError := none } }.receipts
        snapshot.runtime cache.listeners := by
  simp [installTrail]

/-- A call is received as the install that its answer leads to, if it leads to one. -/
theorem receipts_call_trail (cache : Cache C π) (call : StoreCall) (called : Called σ α)
    (fields : α → List (String × FieldValue)) (snapshot : α → Snapshot C) :
    receiptsOf (cache.callTrail call called fields snapshot) =
      (called.outcome.value?.map snapshot).toList.flatMap fun found =>
        receiptsOf (cache.installTrail found) := by
  cases ended : called.outcome <;> simp [callTrail, ended, Outcome.value?]

/-- The same of a load. -/
theorem receipts_load_trail (store : Store σ C) (state : σ) (cache : Cache C π) :
    receiptsOf (cache.loadTrail store state) =
      (StoreAnswer.loaded (store.load state).outcome).snapshot?.toList.flatMap fun found =>
        receiptsOf (cache.installTrail found) := by
  cases ended : (store.load state).outcome with
  | ok found => cases found <;> simp [loadTrail, ended, StoreAnswer.snapshot?]
  | failed error => simp [loadTrail, ended, StoreAnswer.snapshot?]
  | panicked message => simp [loadTrail, ended, StoreAnswer.snapshot?]

/-- Who receives what during an operation: a new listener what is installed, all listeners what
is served when they are told again, and otherwise all listeners each snapshot that the store
brought. -/
theorem receipts_trail (store : Store σ C) (operation : Operation C π) (state : σ)
    (cache : Cache C π) :
    receiptsOf (cache.trail store operation state) =
      match operation with
      | .register listener => cache.state.snapshot.toList.map fun snapshot =>
          ⟨listener, ⟨cache.deliveries, snapshot.runtime, cache.state⟩⟩
      | .renotify => cache.receipts (cache.state.current store.fallback) cache.listeners
      | _ => ((cache.answers store operation state).filterMap StoreAnswer.snapshot?).flatMap
          fun snapshot =>
            { cache with state := { snapshot := some snapshot, lastError := none } }.receipts
              snapshot.runtime cache.listeners := by
  have loading : receiptsOf (cache.loadTrail store state) =
      (([.loaded (store.load state).outcome] : List (StoreAnswer C)).filterMap
        StoreAnswer.snapshot?).flatMap fun snapshot =>
          { cache with state := { snapshot := some snapshot, lastError := none } }.receipts
            snapshot.runtime cache.listeners := by
    rw [receipts_load_trail]
    simp only [receipts_install_trail, List.filterMap_cons, List.filterMap_nil]
    cases (StoreAnswer.loaded (store.load state).outcome).snapshot? <;> rfl
  cases operation with
  | reload => exact loading
  | ensureLoaded | forEditing =>
    simp only [trail, answers]
    split
    · rfl
    · exact loading
  | writeWithLock command =>
    simp only [trail, answers, receipts_call_trail, receipts_install_trail]
    cases (store.writeWithLock state command cache.state.snapshot).outcome <;> rfl
  | save content migrate =>
    simp only [trail, answers, receipts_call_trail, receipts_install_trail]
    cases (store.write state content migrate).outcome <;> rfl
  | register listener => simp [trail, receiptsOf, Occurrence.receipt?, Function.comp_def]
  | renotify => exact receipts_received _
  | clearListeners => rfl

variable [Payload π]

/-- Notifying listeners is one receipt for each of them, up to one that a panic escapes. -/
theorem notify_receipts (cache : Cache C π) (config : C) (listeners : List (Listener C π)) :
    let trail : List (Occurrence C π) := (cache.receipts config listeners).map .received
    cache.notify config listeners =
      { cache := { cache with deliveries := cache.deliveries + (receiptsOf (cut trail)).length }
        events := shownOf (cut trail)
        escaped := escapeOf trail } := by
  intro trail
  induction listeners generalizing cache with
  | nil => rfl
  | cons listener rest ih =>
    let delivery : Delivery C := ⟨cache.deliveries, config, cache.state⟩
    have first : trail = .received ⟨listener, delivery⟩ ::
        ({ cache with deliveries := cache.deliveries + 1 }.receipts config rest).map .received :=
      congrArg (List.map Occurrence.received) (receipts_cons cache config listener rest)
    have reaction : (Occurrence.received ⟨listener, delivery⟩).relapse? =
        (listener.react delivery).relapse? := rfl
    rw [first]
    cases alone : (listener.react delivery).relapse? with
    | some message =>
      simp only [notify, deliver, cut, escapeOf, reaction, List.findSome?_cons, delivery, alone,
        Option.isSome_some, if_true]
      exact congrArg (Told.mk _ · _) (List.append_nil _).symm
    | none =>
      simp only [notify, deliver, cut, escapeOf, reaction, List.findSome?_cons, delivery, alone,
        Option.isSome_none, Bool.false_eq_true, if_false, ih, receipts_received_cons,
        List.length_cons, Nat.add_assoc, Nat.add_comm 1]
      rfl

/-- An install makes one delivery more for every listener that is told, and shows as its trail. -/
theorem install_trail (cache : Cache C π) (snapshot : Snapshot C) :
    cache.install snapshot =
      { cache := {
          state := { snapshot := some snapshot, lastError := none }
          listeners := cache.listeners
          deliveries :=
            cache.deliveries + (receiptsOf (cut (cache.installTrail snapshot))).length }
        events := shownOf (cut (cache.installTrail snapshot))
        escaped := escapeOf (cache.installTrail snapshot) } := by
  let shown : Cache C π :=
    { cache with state := { snapshot := some snapshot, lastError := none } }
  generalize told :
    (shown.receipts snapshot.runtime cache.listeners).map Occurrence.received = trail
  have whole : cache.installTrail snapshot =
      [.reported (.success .invalidConfig),
        .logged (notifyingLog snapshot.checksum cache.listeners.length)] ++
          (trail ++ [.logged notifiedLog]) := told ▸ rfl
  have notified := notify_receipts shown snapshot.runtime cache.listeners
  simp only [told] at notified
  rw [whole, cut_append_quiet rfl, escape_append, escape_append]
  simp only [install]
  rw [show shown.notify snapshot.runtime shown.listeners = _ from notified]
  cases escaped : escapeOf trail with
  | some message =>
    rw [cut_append_escaped escaped]
    simp [shown, shownOf, Occurrence.events]
  | none =>
    rw [cut_append_quiet escaped, cut_of_quiet escaped]
    simp [shown, shownOf, Occurrence.events]

/-- The call that a trail starts with and what the store logs during it are not cut off. -/
theorem cut_opening (call : StoreCall) (logs : List LogRecord) (trail : List (Occurrence C π)) :
    cut (.called call :: logs.map .logged ++ trail) =
      .called call :: logs.map .logged ++ cut trail :=
  cut_append_quiet (by simp) trail

/-- They show in front of all else. -/
theorem shown_cut_opening (call : StoreCall) (logs : List LogRecord)
    (trail : List (Occurrence C π)) :
    shownOf (cut (.called call :: logs.map .logged ++ trail)) =
      .called call :: logs.map .logged ++ shownOf (cut trail) := by
  rw [cut_opening, shown_append]
  exact congrArg (CacheEvent.called call :: · ++ _) (shown_logged logs)

/-- The events of a load are its trail written out. -/
theorem reload_events (store : Store σ C) (state : σ) (cache : Cache C π) :
    (cache.reload store state).events = shownOf (cut (cache.loadTrail store state)) := by
  unfold loadTrail
  rw [shown_cut_opening]
  cases ended : (store.load state).outcome with
  | ok found =>
    cases found with
    | some snapshot => simp only [reload, ended, install_trail]
    | none => simp only [reload, ended]; rfl
  | failed error => simp only [reload, ended, recordError]; rfl
  | panicked message =>
    simp only [reload, ended]
    exact (List.append_nil _).symm

/-- The events of a call that may bring a snapshot are its trail written out. -/
theorem install_called_events (cache : Cache C π) (call : StoreCall) (called : Called σ α)
    (fields : α → List (String × FieldValue)) (snapshot : α → Snapshot C) (answer : α → β) :
    (cache.installCalled call called fields snapshot answer).events =
      shownOf (cut (cache.callTrail call called fields snapshot)) := by
  unfold callTrail
  rw [shown_cut_opening]
  cases ended : called.outcome with
  | ok value => simp only [installCalled, ended, install_trail]; rfl
  | failed error =>
    simp only [installCalled, ended]
    exact (List.append_nil _).symm
  | panicked message =>
    simp only [installCalled, ended]
    exact (List.append_nil _).symm

/-- The events of every operation are its trail written out. -/
theorem perform_events (store : Store σ C) (operation : Operation C π) (state : σ)
    (cache : Cache C π) :
    (cache.perform store operation state).events =
      shownOf (cut (cache.trail store operation state)) := by
  have loading : (cache.ensureLoaded store state).events =
      shownOf (cut (if cache.state.snapshot.isSome then [] else cache.loadTrail store state)) := by
    unfold ensureLoaded
    split
    · rfl
    · exact reload_events store state cache
  cases operation with
  | reload => exact reload_events store state cache
  | ensureLoaded => exact loading
  | forEditing => exact loading
  | writeWithLock command =>
    exact install_called_events cache _ (store.writeWithLock state command cache.state.snapshot)
      _ _ SaveResult.state
  | save content migrate =>
    exact install_called_events cache _ (store.write state content migrate) _ _ fun _ => ()
  | register listener =>
    cases installed : cache.state.snapshot with
    | none => simp only [perform, Step.map, register, trail, installed]; rfl
    | some snapshot =>
      simp only [perform, Step.map, register, trail, installed, deliver, Option.toList_some,
        List.map_cons, List.map_nil, cut, ite_self]
      exact (List.append_nil _).symm
  | renotify => exact congrArg Told.events (notify_receipts cache _ cache.listeners)
  | clearListeners => rfl

/-- Only a registration and a clearing change the registry. -/
theorem perform_listeners (store : Store σ C) (operation : Operation C π) (state : σ)
    (cache : Cache C π) :
    (cache.perform store operation state).cache.listeners =
      match operation with
      | .register listener => cache.listeners ++ [listener]
      | .clearListeners => []
      | _ => cache.listeners := by
  have loading : (cache.reload store state).cache.listeners = cache.listeners := by
    cases ended : (store.load state).outcome with
    | ok found => cases found <;> simp [reload, ended, install_trail]
    | failed error => simp [reload, ended, recordError]
    | panicked message => simp [reload, ended]
  have maybe_loading : (cache.ensureLoaded store state).cache.listeners = cache.listeners := by
    unfold ensureLoaded
    split
    · rfl
    · exact loading
  cases operation with
  | reload => exact loading
  | ensureLoaded | forEditing => exact maybe_loading
  | writeWithLock command =>
    cases ended : (store.writeWithLock state command cache.state.snapshot).outcome <;>
      simp [perform, Step.map, writeWithLock, installCalled, ended, install_trail]
  | save content migrate =>
    cases ended : (store.write state content migrate).outcome <;>
      simp [perform, Step.map, save, installCalled, ended, install_trail]
  | register listener =>
    cases installed : cache.state.snapshot <;>
      simp [perform, Step.map, register, installed, deliver]
  | renotify => simp [perform, Step.map, renotify, notify_receipts]
  | clearListeners => rfl

/-- An operation makes as many deliveries as its trail has receipts, up to one that a panic
escapes. -/
theorem perform_deliveries (store : Store σ C) (operation : Operation C π) (state : σ)
    (cache : Cache C π) :
    (cache.perform store operation state).cache.deliveries =
      cache.deliveries + (receiptsOf (cut (cache.trail store operation state))).length := by
  have loading : (cache.reload store state).cache.deliveries =
      cache.deliveries + (receiptsOf (cut (cache.loadTrail store state))).length := by
    unfold loadTrail
    rw [cut_opening]
    cases ended : (store.load state).outcome with
    | ok found => cases found <;> simp [reload, ended, install_trail]
    | failed error => simp [reload, ended, recordError]
    | panicked message => simp [reload, ended]
  have calling : ∀ {α β : Type} (call : StoreCall) (called : Called σ α)
      (fields : α → List (String × FieldValue)) (snapshot : α → Snapshot C) (answer : α → β),
      (cache.installCalled call called fields snapshot answer).cache.deliveries =
        cache.deliveries +
          (receiptsOf (cut (cache.callTrail call called fields snapshot))).length := by
    intro α β call called fields snapshot answer
    unfold callTrail
    rw [cut_opening]
    cases ended : called.outcome <;> simp [installCalled, ended, install_trail]
  have maybe_loading : (cache.ensureLoaded store state).cache.deliveries =
      cache.deliveries + (receiptsOf (cut
        (if cache.state.snapshot.isSome then [] else cache.loadTrail store state))).length := by
    unfold ensureLoaded
    split
    · rfl
    · exact loading
  cases operation with
  | reload => exact loading
  | ensureLoaded | forEditing => exact maybe_loading
  | writeWithLock command => exact calling _ _ _ _ SaveResult.state
  | save content migrate => exact calling _ _ _ _ fun _ => ()
  | register listener =>
    cases shown : cache.state.snapshot <;>
      simp [perform, Step.map, Cache.register, deliver, Cache.trail, shown, receiptsOf,
        Occurrence.receipt?, cut]
  | renotify => simp only [perform, Step.map, renotify, notify_receipts, Cache.trail]
  | clearListeners => rfl

/-- Where a trail has no call, there is none in what is left of it. -/
theorem calls_cut {trail : List (Occurrence C π)} (idle : callsOf (shownOf trail) = []) :
    callsOf (shownOf (cut trail)) = [] := by
  obtain ⟨rest, whole⟩ := prefix_cut trail
  rw [← whole, shown_append, calls_append] at idle
  exact (List.append_eq_nil_iff.mp idle).1

/-- The call that a trail starts with is the only one, if there is none behind it. -/
theorem calls_opening (call : StoreCall) (logs : List LogRecord) {trail : List (Occurrence C π)}
    (idle : callsOf (shownOf trail) = []) :
    callsOf (shownOf (cut (.called call :: logs.map .logged ++ trail))) = [call] := by
  have none_logged : callsOf (logs.map .logged : List (CacheEvent C)) = [] := calls_logged logs
  rw [shown_cut_opening, calls_append, calls_cut idle, List.append_nil]
  exact congrArg (call :: ·) none_logged

/-- An install makes no call. -/
theorem calls_install_trail (cache : Cache C π) (snapshot : Snapshot C) :
    callsOf (shownOf (cache.installTrail snapshot)) = [] := by
  simp only [installTrail, List.cons_append, calls_shown_cons, shown_append, calls_append,
    calls_received]
  rfl

/-- A load makes one call, however it ends. -/
theorem calls_load_trail (store : Store σ C) (state : σ) (cache : Cache C π) :
    callsOf (shownOf (cut (cache.loadTrail store state))) = [.load] := by
  refine calls_opening _ _ ?_
  cases (store.load state).outcome with
  | ok found =>
    cases found with
    | some snapshot => exact calls_install_trail cache snapshot
    | none => rfl
  | failed error => rfl
  | panicked message => rfl

/-- A call that may bring a snapshot is the only one. -/
theorem calls_call_trail (cache : Cache C π) (call : StoreCall) (called : Called σ α)
    (fields : α → List (String × FieldValue)) (snapshot : α → Snapshot C) :
    callsOf (shownOf (cut (cache.callTrail call called fields snapshot))) = [call] := by
  refine calls_opening _ _ ?_
  cases called.outcome with
  | ok value => exact calls_install_trail cache (snapshot value)
  | failed error => rfl
  | panicked message => rfl

/-- The calls that an operation makes: at most one. -/
theorem perform_calls (store : Store σ C) (operation : Operation C π) (state : σ)
    (cache : Cache C π) :
    callsOf (cache.perform store operation state).events =
      match operation with
      | .reload => [.load]
      | .ensureLoaded | .forEditing => if cache.state.snapshot.isSome then [] else [.load]
      | .writeWithLock _ => [.lock (cache.state.snapshot.map Snapshot.checksum)]
      | .save content migrate => [.write content migrate]
      | .register _ | .renotify | .clearListeners => [] := by
  rw [perform_events]
  cases operation with
  | reload => exact calls_load_trail store state cache
  | ensureLoaded | forEditing =>
    simp only [trail]
    split
    · rfl
    · exact calls_load_trail store state cache
  | writeWithLock command => exact calls_call_trail cache _ _ _ _
  | save content migrate => exact calls_call_trail cache _ _ _ _
  | register listener =>
    simp only [trail]
    cases cache.state.snapshot with
    | none => rfl
    | some snapshot =>
      exact calls_cut
        (calls_received [⟨listener, ⟨cache.deliveries, snapshot.runtime, cache.state⟩⟩])
  | renotify => exact calls_cut (calls_received _)
  | clearListeners => rfl

/-- How a load ends unless a panic escapes it: with the panic of its call, if that panicked. -/
def loading (store : Store σ C) (state : σ) : Outcome Unit :=
  match (store.load state).outcome with
  | .panicked message => .panicked message
  | _ => .ok ()

/-- How an operation ends unless a panic escapes it. What is there to edit is what readers see
then, and a write ends as its call does. -/
def due (store : Store σ C) (operation : Operation C π) (state : σ) (cache : Cache C π) :
    Outcome (Answer C) :=
  let maybeLoading := if cache.state.snapshot.isSome then .ok () else loading store state
  match operation with
  | .reload => (loading store state).map fun _ => .done
  | .ensureLoaded => maybeLoading.map fun _ => .done
  | .forEditing => (maybeLoading.andThen fun _ =>
      ((cache.answers store operation state).foldl CacheState.taking cache.state).editing).map
        .config
  | .writeWithLock command =>
      ((store.writeWithLock state command cache.state.snapshot).outcome.map SaveResult.state).map
        .saved
  | .save content migrate => (store.write state content migrate).outcome.map fun _ => .done
  | .register _ | .renotify | .clearListeners => .ok .done

omit [Payload π] in
/-- Whoever is told ends with the panic that escaped, if one did. -/
theorem ending_eq (told : Told C π) (value : α) :
    told.ending value = told.escaped.elim (.ok value) .panicked := by
  unfold Told.ending
  cases told.escaped <;> rfl

/-- A load ends with a panic that escapes it, and otherwise as is due. -/
theorem reload_ends (store : Store σ C) (state : σ) (cache : Cache C π) :
    (cache.reload store state).outcome =
      (escapeOf (cache.loadTrail store state)).elim (loading store state) .panicked := by
  cases ended : (store.load state).outcome with
  | ok found =>
    cases found <;> simp [reload, loadTrail, loading, ended, ending_eq, install_trail]
  | failed error => simp [reload, loadTrail, loading, ended]
  | panicked message => simp [reload, loadTrail, loading, ended]

/-- So does loading into an empty cache only. -/
theorem ensure_loaded_ends (store : Store σ C) (state : σ) (cache : Cache C π) :
    (cache.ensureLoaded store state).outcome =
      (escapeOf (if cache.state.snapshot.isSome then [] else cache.loadTrail store state)).elim
        (if cache.state.snapshot.isSome then .ok () else loading store state) .panicked := by
  unfold ensureLoaded
  split
  · rfl
  · exact reload_ends store state cache

/-- A call that may bring a snapshot ends with a panic that escapes it, and otherwise as the call
does. -/
theorem install_called_ends (cache : Cache C π) (call : StoreCall) (called : Called σ α)
    (fields : α → List (String × FieldValue)) (snapshot : α → Snapshot C) (answer : α → β) :
    (cache.installCalled call called fields snapshot answer).outcome =
      (escapeOf (cache.callTrail call called fields snapshot)).elim (called.outcome.map answer)
        .panicked := by
  cases ended : called.outcome <;>
    simp [installCalled, callTrail, ended, ending_eq, install_trail, Outcome.map]

/-- Replacing the value of an outcome leaves a panic that escaped as it is. -/
theorem map_elim_panicked (escaped : Option String) (outcome : Outcome α) (f : α → β) :
    (escaped.elim outcome .panicked).map f = escaped.elim (outcome.map f) .panicked := by
  cases escaped <;> rfl

/-- An operation ends with a panic that escapes it, and otherwise as is due. -/
theorem perform_outcome (store : Store σ C) (operation : Operation C π) (state : σ)
    (cache : Cache C π) :
    (cache.perform store operation state).outcome =
      (escapeOf (cache.trail store operation state)).elim (cache.due store operation state)
        .panicked := by
  cases operation with
  | reload => simp only [perform, Step.map, reload_ends, trail, due, map_elim_panicked]
  | ensureLoaded =>
    simp only [perform, Step.map, ensure_loaded_ends, trail, due, map_elim_panicked]
  | forEditing =>
    have shown : (cache.ensureLoaded store state).cache.state =
        (cache.answers store .forEditing state).foldl CacheState.taking cache.state :=
      ensure_loaded_state store state cache
    simp only [perform, Step.map, for_editing_outcome, ensure_loaded_ends, shown, trail, due]
    cases escapeOf (if cache.state.snapshot.isSome then [] else cache.loadTrail store state) <;> rfl
  | writeWithLock command =>
    simp only [perform, Step.map, writeWithLock, install_called_ends, trail, due,
      map_elim_panicked]
  | save content migrate =>
    simp only [perform, Step.map, save, install_called_ends, trail, due, map_elim_panicked,
      Outcome.map_map]
  | register listener =>
    cases installed : cache.state.snapshot with
    | none => simp [perform, Step.map, register, trail, due, installed, Outcome.map]
    | some snapshot =>
      simp [perform, Step.map, register, trail, due, installed, ending_eq, deliver, escapeOf,
        map_elim_panicked, Occurrence.relapse?, Receipt.reaction]
  | renotify =>
    simp only [perform, Step.map, renotify, notify_receipts, ending_eq, map_elim_panicked, trail,
      due]
    rfl
  | clearListeners => rfl

/-- What is seen of each operation of a run that goes on from a cache and its store, in order. -/
def seenFrom (store : Store σ C) (see : Cache C π × σ → Operation C π → β)
    (reached : Cache C π × σ) : List (Operation C π) → List β
  | [] => []
  | operation :: rest =>
      see reached operation :: seenFrom store see (next store reached operation) rest

/-- What is seen of one operation more is what is seen of it where the run got to. -/
theorem seen_snoc (store : Store σ C) (see : Cache C π × σ → Operation C π → β)
    (reached : Cache C π × σ) (operations : List (Operation C π)) (operation : Operation C π) :
    seenFrom store see reached (operations ++ [operation]) =
      seenFrom store see reached operations ++
        [see (operations.foldl (next store) reached) operation] := by
  induction operations generalizing reached with
  | nil => rfl
  | cons first rest ih => exact congrArg (see reached first :: ·) (ih _)

/-- The steps of a run of an empty cache. -/
def stepsDuring (store : Store σ C) (start : σ) (operations : List (Operation C π)) :
    List (Step σ C (Answer C) π) :=
  seenFrom store (fun reached operation => reached.1.perform store operation reached.2)
    ({}, start) operations

/-- The events of a run of an empty cache. -/
def eventsDuring (store : Store σ C) (start : σ) (operations : List (Operation C π)) :
    List (CacheEvent C) :=
  (stepsDuring store start operations).flatMap Step.events

/-- The trail of a run of an empty cache, each operation's up to a panic that escapes it. -/
def trailDuring (store : Store σ C) (start : σ) (operations : List (Operation C π)) :
    List (Occurrence C π) :=
  (seenFrom store (fun reached operation => cut (reached.1.trail store operation reached.2))
    ({}, start) operations).flatten

/-- One operation more adds its own trail where the run got to. -/
theorem trail_during_snoc (store : Store σ C) (start : σ) (operations : List (Operation C π))
    (operation : Operation C π) :
    trailDuring store start (operations ++ [operation]) =
      trailDuring store start operations ++
        cut ((run store start operations).1.trail store operation
          (run store start operations).2) := by
  simp only [trailDuring, seen_snoc, List.flatten_append, List.flatten_cons, List.flatten_nil,
    List.append_nil]
  rfl

/-- It adds its own events, too. -/
theorem events_during_snoc (store : Store σ C) (start : σ) (operations : List (Operation C π))
    (operation : Operation C π) :
    eventsDuring store start (operations ++ [operation]) =
      eventsDuring store start operations ++
        ((run store start operations).1.perform store operation
          (run store start operations).2).events := by
  simp only [eventsDuring, stepsDuring, seen_snoc, List.flatMap_append, List.flatMap_cons,
    List.flatMap_nil, List.append_nil]
  rfl

/-- The events of a run are its trail written out. -/
theorem events_during (store : Store σ C) (start : σ) (operations : List (Operation C π)) :
    eventsDuring store start operations = shownOf (trailDuring store start operations) := by
  induction operations using List.reverseRecOn with
  | nil => rfl
  | append_singleton operations operation ih =>
    rw [events_during_snoc, trail_during_snoc, shown_append, ih, perform_events]

end Cache

end LastGood
