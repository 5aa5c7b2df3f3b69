import LastGood.Proofs.Cache.Ledger
import LastGood.Proofs.Cache.Trail
import LastGood.Store.Scripted

/-!
# Who gets which configuration

A run makes just the deliveries of its ledger, in their order: nobody gets too much, too
little, something old or something out of turn, whatever listeners make of what they get. An
install shows the snapshot to readers and makes a good report before the first delivery of it.
-/

namespace LastGood

variable {σ C : Type}

/-- The deliveries among some events, in order. -/
def deliveriesOf : List (CacheEvent C) → List (String × Delivery C)
  | [] => []
  | .delivered listener delivery :: rest => (listener, delivery) :: deliveriesOf rest
  | _ :: rest => deliveriesOf rest

/-- The deliveries among more events come after those among the first. -/
@[simp] theorem deliveries_append (events others : List (CacheEvent C)) :
    deliveriesOf (events ++ others) = deliveriesOf events ++ deliveriesOf others := by
  induction events with
  | nil => rfl
  | cons event rest ih => cases event <;> simp [deliveriesOf, ih]

/-- Log records are no deliveries. -/
@[simp] theorem deliveries_logged (records : List LogRecord) :
    deliveriesOf (records.map CacheEvent.logged : List (CacheEvent C)) = [] := by
  induction records with
  | nil => rfl
  | cons record rest ih => exact ih

/-- The deliveries of a trail are its receipts. -/
theorem deliveries_shown (trail : List (Occurrence C)) :
    deliveriesOf (shownOf trail) =
      (receiptsOf trail).map fun receipt => (receipt.listener.id, receipt.delivery) := by
  induction trail with
  | nil => rfl
  | cons occurrence rest ih =>
    have split : shownOf (occurrence :: rest) = occurrence.events ++ shownOf rest := rfl
    rw [split, deliveries_append, ih]
    cases occurrence with
    | received receipt =>
      have own : deliveriesOf receipt.events = [(receipt.listener.id, receipt.delivery)] :=
        congrArg ((receipt.listener.id, receipt.delivery) :: ·) (deliveries_logged _)
      exact congrArg (· ++ _) own
    | called call => rfl
    | logged record => rfl
    | reported state => rfl

namespace Cache

/-- The minutes of a run: its operations, each with what the store answered during it. -/
def minutes (store : Store σ C) (start : σ) (operations : List (Operation C)) :
    List (Operation C × List (StoreAnswer C)) :=
  seenFrom store (fun reached operation =>
    (operation, reached.1.answers store operation reached.2)) ({}, start) operations

/-- The minutes of one operation more hold it last, with the answers from where the others got to.
-/
theorem minutes_snoc (store : Store σ C) (start : σ) (operations : List (Operation C))
    (operation : Operation C) :
    minutes store start (operations ++ [operation]) =
      minutes store start operations ++ [(operation,
        (run store start operations).1.answers store operation
          (run store start operations).2)] :=
  seen_snoc ..

/-- The minutes of a longer run start with those of the shorter one. -/
theorem minutes_append (store : Store σ C) (start : σ) (operations further : List (Operation C)) :
    ∃ later, minutes store start (operations ++ further) =
      minutes store start operations ++ later ∧ later.map Prod.fst = further := by
  induction further using List.reverseRecOn with
  | nil => exact ⟨[], by simp⟩
  | append_singleton further operation ih =>
    obtain ⟨later, split, same⟩ := ih
    rw [← List.append_assoc, minutes_snoc, split]
    exact ⟨later ++ [_], List.append_assoc .., by rw [List.map_append, same]; rfl⟩

/-- The answers in the minutes are all that the store gave. -/
theorem minutes_answers (store : Store σ C) (start : σ) (operations : List (Operation C)) :
    (minutes store start operations).flatMap Prod.snd = answersDuring store start operations := by
  induction operations using List.reverseRecOn with
  | nil => rfl
  | append_singleton operations operation ih =>
    rw [minutes_snoc, answers_during_snoc, List.flatMap_append, ih]
    exact congrArg (_ ++ ·) (List.append_nil _)

/-- The ledger of a run. -/
def ledger (store : Store σ C) (start : σ) (operations : List (Operation C)) : Ledger C :=
  .ofMinutes store.fallback (minutes store start operations)

/-- One operation more is entered in the ledger of the others. -/
theorem ledger_snoc (store : Store σ C) (start : σ) (operations : List (Operation C))
    (operation : Operation C) :
    ledger store start (operations ++ [operation]) =
      (ledger store start operations).next store.fallback (operation,
        (run store start operations).1.answers store operation
          (run store start operations).2) := by
  rw [ledger, minutes_snoc, Ledger.ofMinutes, List.foldl_append]
  rfl

/-- A ledger shows a cache: its registry and what readers see. -/
structure Kept (cache : Cache C) (ledger : Ledger C) : Prop where
  /-- The registry. -/
  listeners : cache.listeners = ledger.entries.map Entry.listener
  /-- What readers see. -/
  state : cache.state = ledger.shown

/-- What is received during an operation is what the ledger has as due then. -/
theorem Kept.receipts {cache : Cache C} {ledger : Ledger C} (kept : cache.Kept ledger)
    (store : Store σ C) (operation : Operation C) (state : σ) :
    ledger.deliveries.map (fun due => (due.1.listener, due.2)) ++
        (receiptsOf (cache.trail store operation state)).map
          (fun receipt => (receipt.listener, receipt.delivery.config)) =
      (ledger.next store.fallback (operation, cache.answers store operation state)).deliveries.map
        (fun due => (due.1.listener, due.2)) := by
  have all : ∀ (cache' : Cache C) (config : C),
      (cache'.receipts config cache.listeners).map
          (fun receipt => (receipt.listener, receipt.delivery.config)) =
        (ledger.toAll config).map fun due => (due.1.listener, due.2) := by
    intro cache' config
    rw [kept.listeners]
    simp only [Cache.receipts, Ledger.toAll, List.map_map, Function.comp_def]
    generalize ledger.entries = entries
    induction entries using List.reverseRecOn with
    | nil => rfl
    | append_singleton entries entry ih => simp [List.mapIdx_append, ih]
  have brought : ∀ snapshots : List (Snapshot C),
      (snapshots.flatMap fun snapshot =>
        ({ cache with state := { snapshot := some snapshot, lastError := none } }.receipts
          snapshot.runtime cache.listeners).map
            fun receipt : Receipt C => (receipt.listener, receipt.delivery.config)) =
        snapshots.flatMap fun snapshot =>
          (ledger.toAll snapshot.runtime).map fun due => (due.1.listener, due.2) := by
    intro snapshots
    simp only [all]
  rw [receipts_trail]
  cases operation with
  | register listener =>
    simp only [Ledger.next, ← kept.state, List.map_append, List.map_map]
    cases cache.state.snapshot <;> rfl
  | renotify => simp only [Ledger.next, ← kept.state, List.map_append, all]
  | clearListeners => simp [Ledger.next, answers]
  | reload | ensureLoaded | forEditing | writeWithLock _ | save _ _ =>
    simp only [Ledger.next, List.map_append, List.map_flatMap, brought]

/-- An operation takes cache and ledger the same way. -/
theorem Kept.next {cache : Cache C} {ledger : Ledger C} (kept : cache.Kept ledger)
    (store : Store σ C) (operation : Operation C) (state : σ) :
    (cache.perform store operation state).cache.Kept
      (ledger.next store.fallback (operation, cache.answers store operation state)) := by
  constructor
  · rw [perform_listeners, kept.listeners]
    cases operation with
    | register listener => simp [Ledger.next]
    | clearListeners => rfl
    | _ => rfl
  · rw [perform_state, kept.state]
    cases operation <;> rfl

/-- A ledger shows the cache of its run. -/
theorem run_kept (store : Store σ C) (start : σ) (operations : List (Operation C)) :
    (run store start operations).1.Kept (ledger store start operations) := by
  induction operations using List.reverseRecOn with
  | nil => exact ⟨rfl, rfl⟩
  | append_singleton operations operation ih =>
    rw [run_snoc, ledger_snoc]
    exact ih.next store operation _

/-- Listeners receive what the ledger has, in its order. -/
theorem run_receipts (store : Store σ C) (start : σ) (operations : List (Operation C)) :
    (receiptsOf (trailDuring store start operations)).map
        (fun receipt => (receipt.listener, receipt.delivery.config)) =
      (ledger store start operations).deliveries.map fun due => (due.1.listener, due.2) := by
  induction operations using List.reverseRecOn with
  | nil => rfl
  | append_singleton operations operation ih =>
    rw [trail_during_snoc, cut_eq_self, ledger_snoc, receipts_append, List.map_append, ih]
    exact (run_kept store start operations).receipts store operation _

/-- An operation during which the store brought a snapshot ends in an install, and delivers
nothing before. -/
theorem trail_of_install {store : Store σ C} {operation : Operation C} {state : σ}
    {cache : Cache C} {snapshot : Snapshot C}
    (brought : (cache.answers store operation state).filterMap StoreAnswer.snapshot? =
      [snapshot]) :
    ∃ opening, cache.trail store operation state = opening ++ cache.installTrail snapshot ∧
      receiptsOf opening = [] := by
  have of_answer : ∀ answer : StoreAnswer C,
      [answer].filterMap StoreAnswer.snapshot? = [snapshot] → answer.snapshot? = some snapshot := by
    intro answer only
    cases found : answer.snapshot? with
    | none => simp [found] at only
    | some other => simpa [found] using only
  have loading : (StoreAnswer.loaded (store.load state).outcome).snapshot? = some snapshot →
      ∃ opening, cache.loadTrail store state = opening ++ cache.installTrail snapshot ∧
        receiptsOf opening = [] := by
    intro found
    cases ended : (store.load state).outcome with
    | ok loaded =>
      rw [ended] at found
      obtain rfl : loaded = some snapshot := found
      refine ⟨.called .load :: (store.load state).logs.map .logged, ?_, by simp⟩
      simp only [loadTrail, ended]
    | failed error => simp [ended, StoreAnswer.snapshot?] at found
    | panicked message => simp [ended, StoreAnswer.snapshot?] at found
  have calling : ∀ {α : Type} (call : StoreCall) (called : Called σ α)
      (fields : α → List (String × FieldValue)) (value : α) (taken : α → Snapshot C),
      called.outcome = .ok value → taken value = snapshot →
      ∃ opening, cache.callTrail call called fields taken =
        opening ++ cache.installTrail snapshot ∧ receiptsOf opening = [] := by
    intro α call called fields value taken ended same
    refine ⟨.called call :: called.logs.map .logged ++ [.logged (savingLog (fields value))], ?_,
      by simp⟩
    simp only [callTrail, ended, same, List.append_assoc, List.cons_append, List.nil_append]
  cases operation with
  | reload => exact loading (of_answer _ brought)
  | ensureLoaded | forEditing =>
    simp only [trail, answers] at brought ⊢
    split at brought
    · cases brought
    · rw [if_neg ‹_›]
      exact loading (of_answer _ brought)
  | writeWithLock command =>
    have found := of_answer _ brought
    cases ended : (store.writeWithLock state command cache.state.snapshot).outcome with
    | ok result =>
      rw [ended] at found
      exact calling _ _ _ result _ ended (Option.some.inj found)
    | failed error => simp [ended, StoreAnswer.snapshot?] at found
    | panicked message => simp [ended, StoreAnswer.snapshot?] at found
  | save content migrate =>
    have found := of_answer _ brought
    cases ended : (store.write state content migrate).outcome with
    | ok written =>
      rw [ended] at found
      exact calling _ _ _ written _ ended (Option.some.inj found)
    | failed error => simp [ended, StoreAnswer.snapshot?] at found
    | panicked message => simp [ended, StoreAnswer.snapshot?] at found
  | register _ | renotify | clearListeners => cases brought

/-- During an install a good report comes before all deliveries, and each delivery is of the new
snapshot, which readers see already. -/
theorem install_deliveries {store : Store σ C} {operation : Operation C} {state : σ}
    {cache : Cache C} {snapshot : Snapshot C}
    (brought : (cache.answers store operation state).filterMap StoreAnswer.snapshot? =
      [snapshot]) :
    (∃ earlier later, (cache.perform store operation state).events =
        earlier ++ .reported (.success .invalidConfig) :: later ∧ deliveriesOf earlier = []) ∧
      ∀ told ∈ deliveriesOf (cache.perform store operation state).events,
        told.2.config = snapshot.runtime ∧
          told.2.shown = { snapshot := some snapshot, lastError := none } := by
  obtain ⟨opening, split, silent⟩ := trail_of_install brought
  rw [perform_events, cut_eq_self, split]
  constructor
  · refine ⟨shownOf opening, _, shown_append .., ?_⟩
    rw [deliveries_shown, silent, List.map_nil]
  · intro told member
    rw [deliveries_shown, receipts_append, silent, List.nil_append,
      receipts_install_trail] at member
    obtain ⟨receipt, received, rfl⟩ := List.mem_map.mp member
    obtain ⟨_, _, rfl⟩ := List.mem_mapIdx.mp received
    exact ⟨rfl, rfl⟩

/-- Without a snapshot from the store, only a new listener gets anything, or all of them when
they are told again. -/
theorem quiet_deliveries {store : Store σ C} {operation : Operation C} {state : σ}
    {cache : Cache C}
    (quiet : ∀ answer ∈ cache.answers store operation state, answer.snapshot? = none)
    (no_register : ∀ listener, operation ≠ .register listener)
    (no_renotify : operation ≠ .renotify) :
    deliveriesOf (cache.perform store operation state).events = [] := by
  have nothing : (cache.answers store operation state).filterMap StoreAnswer.snapshot? = [] :=
    List.filterMap_eq_nil_iff.mpr quiet
  rw [perform_events, cut_eq_self, deliveries_shown, receipts_trail]
  cases operation with
  | register listener => exact absurd rfl (no_register listener)
  | renotify => exact absurd rfl no_renotify
  | _ => simp only [nothing, List.flatMap_nil, List.map_nil]

/-- Deliveries are exact. Over any store, whatever it answers, and with any listeners, the
deliveries of a run are those of its ledger, which is kept of the operations and the answers of
the store alone: the same configurations to the same listeners in the same order.

An operation during which the store brings a snapshot makes a good report before it delivers
anything, and every delivery is of the new runtime configuration, at a time when readers see it
already and see no error. One during which the store brings none delivers nothing, unless it
adds a listener or tells all again. An entry from before a clearing of the registry gets nothing
after it. And as soon as there is a snapshot, what an entry of the registry got last is what the
cache serves.

Proof: trails are the events with the listeners in them (`perform_events`), and ledgers are
followed along the run (`run_receipts`); the last two facts are of ledgers alone. -/
theorem run_delivers_exactly (store : Store σ C) (start : σ) (operations : List (Operation C)) :
    let reached := run store start operations
    let book := ledger store start operations
    ((minutes store start operations).map Prod.fst = operations ∧
      (minutes store start operations).flatMap Prod.snd = answersDuring store start operations) ∧
    (deliveriesOf (eventsDuring store start operations)).map
        (fun told => (told.1, told.2.config)) =
      book.deliveries.map (fun due => (due.1.listener.id, due.2)) ∧
    reached.1.listeners = book.entries.map Entry.listener ∧
    (∀ operation snapshot,
      (reached.1.answers store operation reached.2).filterMap StoreAnswer.snapshot? =
        [snapshot] →
      let events := (reached.1.perform store operation reached.2).events
      (∃ earlier later, events = earlier ++ .reported (.success .invalidConfig) :: later ∧
        deliveriesOf earlier = []) ∧
      ∀ told ∈ deliveriesOf events, told.2.config = snapshot.runtime ∧
        told.2.shown.current store.fallback = told.2.config ∧
        told.2.shown.validity = .valid) ∧
    (∀ operation, (∀ listener, operation ≠ .register listener) → operation ≠ .renotify →
      (∀ answer ∈ reached.1.answers store operation reached.2, answer.snapshot? = none) →
      deliveriesOf (reached.1.perform store operation reached.2).events = []) ∧
    (∀ before further, operations = before ++ .clearListeners :: further →
      ∃ later, book.deliveries = (ledger store start before).deliveries ++ later ∧
        ∀ entry ∈ (ledger store start before).entries, ∀ due ∈ later,
          due.1.number ≠ entry.number) ∧
    ∀ snapshot, reached.1.state.snapshot = some snapshot → ∀ entry ∈ book.entries,
      Ledger.lastTo? entry.number book.deliveries =
        some (reached.1.state.current store.fallback) := by
  intro reached book
  have kept : reached.1.Kept book := run_kept store start operations
  refine ⟨⟨?asked, minutes_answers store start operations⟩, ?exact, kept.listeners, ?install,
    ?quiet, ?cleared, ?current⟩
  case asked =>
    obtain ⟨later, split, same⟩ := minutes_append store start [] operations
    rw [List.nil_append] at split
    rw [split, List.map_append, same]
    rfl
  case exact =>
    rw [events_during, deliveries_shown, List.map_map]
    have names := congrArg (List.map fun due : Listener C × C => (due.1.id, due.2))
      (run_receipts store start operations)
    simpa only [List.map_map, Function.comp_def] using names
  case install =>
    intro operation snapshot brought
    obtain ⟨reported, deliveries⟩ := install_deliveries brought
    refine ⟨reported, ?_⟩
    intro told member
    obtain ⟨config, shown⟩ := deliveries told member
    refine ⟨config, ?_, ?_⟩
    · rw [shown, config]
      rfl
    · rw [shown]
      rfl
  case quiet =>
    intro operation no_register no_renotify quiet
    exact quiet_deliveries quiet no_register no_renotify
  case cleared =>
    intro before further split
    obtain ⟨later, minuted, same⟩ :=
      minutes_append store start before (.clearListeners :: further)
    obtain ⟨⟨_, given⟩, others, rfl, rfl, _⟩ := List.map_eq_cons_iff.mp same
    have new := Ledger.new_only_of_cleared store.fallback (minutes store start before) others given
    rw [← minuted, ← split] at new
    obtain ⟨more, behind, fresh⟩ := new.deliveries
    refine ⟨more, behind, ?_⟩
    intro entry old due member same
    have entered := (Ledger.sound_of_minutes store.fallback
      (minutes store start before)).entered entry old
    have late : _ ≤ due.1.number := fresh due member
    omega
  case current =>
    intro snapshot installed entry member
    have served : reached.1.state.current store.fallback = snapshot.runtime := by
      simp only [CacheState.current, installed]
    rw [served]
    exact (Ledger.sound_of_minutes store.fallback _).current snapshot
      (kept.state ▸ installed) entry member

-- One listener is registered twice: a delivery for the load, one for the second registration
-- alone, and two when all are told again. That it panics makes no difference.
example :
    (deliveriesOf (eventsDuring scriptedStore
      { loads := [.ok (some ⟨"runs", "edits", "sum"⟩)] }
      ([.register ⟨"a", "a", fun _ => .panicked .otherValue⟩, .reload,
        .register ⟨"a", "a", fun _ => .applied⟩, .renotify] : List (Operation String)))).map
      (fun told => (told.1, told.2.ordinal, told.2.config)) =
        [("a", 0, "runs"), ("a", 1, "runs"), ("a", 2, "runs"), ("a", 3, "runs")] := rfl

end Cache

end LastGood
