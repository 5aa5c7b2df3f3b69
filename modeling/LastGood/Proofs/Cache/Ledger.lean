import Mathlib.Data.List.Induction
import LastGood.Proofs.Cache.Effect

/-!
# Ledgers of deliveries

A ledger is kept of a run from its minutes alone, which are the operations and, with each,
what the store answered during it. The ledger holds the registry and every delivery that is
due: a snapshot that the store brought is due to each entry of the registry in order, what is
installed is due to a new entry, and what is served is due to all entries that are told
again. Nothing else is due, and listeners have no say in it.

What is due to an entry last is always what is installed, so nobody is left behind; and once
the registry is cleared, nothing is due but to entries that come later.
-/

namespace LastGood

variable {C : Type}

/-- An entry of the registry. A listener that is registered twice has two entries. -/
structure Entry (C : Type) where
  /-- How many registrations there were before. -/
  number : Nat
  /-- Who is registered. -/
  listener : Listener C

/-- What is known of a run from its minutes. -/
structure Ledger (C : Type) where
  /-- How many registrations there were. -/
  registered : Nat := 0
  /-- The registry. -/
  entries : List (Entry C) := []
  /-- What readers see. -/
  shown : CacheState C := {}
  /-- What was due, and to which entry, in order. -/
  deliveries : List (Entry C × C) := []

namespace Ledger

/-- A configuration that is due to all entries. -/
def toAll (ledger : Ledger C) (config : C) : List (Entry C × C) :=
  ledger.entries.map fun entry => (entry, config)

/-- The ledger after an operation during which the store gave these answers. -/
def next (fallback : C) (ledger : Ledger C) : Operation C × List (StoreAnswer C) → Ledger C
  | (.register listener, _) =>
      let entry : Entry C := ⟨ledger.registered, listener⟩
      { ledger with
        registered := ledger.registered + 1
        entries := ledger.entries ++ [entry]
        deliveries := ledger.deliveries ++
          ledger.shown.snapshot.toList.map fun snapshot => (entry, snapshot.runtime) }
  | (.renotify, _) =>
      { ledger with
        deliveries := ledger.deliveries ++ ledger.toAll (ledger.shown.current fallback) }
  | (.clearListeners, _) => { ledger with entries := [] }
  | (_, given) =>
      { ledger with
        shown := given.foldl CacheState.taking ledger.shown
        deliveries := ledger.deliveries ++
          (given.filterMap StoreAnswer.snapshot?).flatMap fun snapshot =>
            ledger.toAll snapshot.runtime }

/-- The ledger of some minutes. -/
def ofMinutes (fallback : C) (minutes : List (Operation C × List (StoreAnswer C))) : Ledger C :=
  minutes.foldl (next fallback) {}

/-- The last configuration among some deliveries to the entry with a number. -/
def lastTo? (number : Nat) (deliveries : List (Entry C × C)) : Option C :=
  (deliveries.filter fun due => due.1.number == number).getLast?.map Prod.snd

/-- Deliveries to others leave the last one to an entry as it is. -/
theorem last_append_others {number : Nat} (deliveries : List (Entry C × C))
    {further : List (Entry C × C)} (others : ∀ due ∈ further, due.1.number ≠ number) :
    lastTo? number (deliveries ++ further) = lastTo? number deliveries := by
  have none_of_them : further.filter (fun due => due.1.number == number) = [] := by
    rw [List.filter_eq_nil_iff]
    intro due member
    simpa using others due member
  simp only [lastTo?, List.filter_append, none_of_them, List.append_nil]

/-- What is due to some entries is the last that each of them gets. -/
theorem last_append_all (deliveries : List (Entry C × C)) {entries : List (Entry C)}
    {entry : Entry C} (member : entry ∈ entries) (config : C) :
    lastTo? entry.number (deliveries ++ entries.map fun entry => (entry, config)) =
      some config := by
  obtain ⟨due, last⟩ : ∃ due, ((entries.map fun entry => (entry, config)).filter
      fun due => due.1.number == entry.number).getLast? = some due := by
    refine List.getLast?_isSome.mpr ?_ |> Option.isSome_iff_exists.mp
    exact List.ne_nil_of_mem (List.mem_filter.mpr
      ⟨List.mem_map.mpr ⟨entry, member, rfl⟩, by simp⟩)
  obtain ⟨_, _, rfl⟩ := List.mem_map.mp
    (List.mem_filter.mp (List.mem_of_getLast? last)).1
  simp only [lastTo?, List.filter_append, List.getLast?_append, last, Option.some_or,
    Option.map_some]

/-- A ledger is sound if its entries have numbers that were given out, and so have those that
deliveries were due to, and if the last that was due to any entry is what is installed. -/
structure Sound (ledger : Ledger C) : Prop where
  /-- The numbers of the registry were given out. -/
  entered : ∀ entry ∈ ledger.entries, entry.number < ledger.registered
  /-- Nobody is left behind. -/
  current : ∀ snapshot, ledger.shown.snapshot = some snapshot → ∀ entry ∈ ledger.entries,
    lastTo? entry.number ledger.deliveries = some snapshot.runtime

/-- An answer brings its snapshot, or the one before stays. -/
theorem snapshot_taking (state : CacheState C) (answer : StoreAnswer C) :
    (state.taking answer).snapshot = answer.snapshot?.or state.snapshot := by
  unfold CacheState.taking
  cases answer.snapshot? with
  | some snapshot => rfl
  | none => cases answer.loadFailure? <;> rfl

/-- Answers leave nobody behind. -/
theorem current_of_answers {ledger : Ledger C} (sound : ledger.Sound)
    (given : List (StoreAnswer C)) (snapshot : Snapshot C)
    (installed : (given.foldl CacheState.taking ledger.shown).snapshot = some snapshot)
    (entry : Entry C) (member : entry ∈ ledger.entries) :
    lastTo? entry.number (ledger.deliveries ++
      (given.filterMap StoreAnswer.snapshot?).flatMap fun snapshot =>
        ledger.toAll snapshot.runtime) = some snapshot.runtime := by
  induction given using List.reverseRecOn with
  | nil => simpa using sound.current snapshot installed entry member
  | append_singleton given answer ih =>
    rw [List.foldl_append, List.foldl_cons, List.foldl_nil, snapshot_taking] at installed
    rw [List.filterMap_append, List.flatMap_append, ← List.append_assoc]
    cases brought : answer.snapshot? with
    | some found =>
      rw [brought, Option.some_or] at installed
      obtain rfl := Option.some.inj installed
      simp only [List.filterMap_cons, brought, List.filterMap_nil, List.flatMap_cons,
        List.flatMap_nil, List.append_nil]
      exact last_append_all _ member _
    | none =>
      rw [brought, Option.none_or] at installed
      simpa [List.filterMap_cons, brought] using ih installed

/-- Every operation keeps a ledger sound. -/
theorem Sound.next {ledger : Ledger C} (sound : ledger.Sound) (fallback : C)
    (operation : Operation C) (given : List (StoreAnswer C)) :
    (ledger.next fallback (operation, given)).Sound := by
  cases operation with
  | register listener =>
    constructor
    · intro entry member
      rcases List.mem_append.mp member with old | new
      · exact Nat.lt_succ_of_lt (sound.entered entry old)
      · obtain rfl := List.mem_singleton.mp new
        exact Nat.lt_succ_self ledger.registered
    · intro snapshot installed entry member
      have shown : ledger.shown.snapshot = some snapshot := installed
      simp only [Ledger.next, shown, Option.toList_some, List.map_cons, List.map_nil]
      rcases List.mem_append.mp member with old | new
      · rw [last_append_others]
        · exact sound.current snapshot shown entry old
        · intro due new same
          obtain rfl := List.mem_singleton.mp new
          exact absurd (sound.entered entry old) (by simp only at same; omega)
      · exact last_append_all ledger.deliveries new snapshot.runtime
  | renotify =>
    refine ⟨sound.entered, ?_⟩
    intro snapshot installed entry member
    have shown : ledger.shown.snapshot = some snapshot := installed
    have served : ledger.shown.current fallback = snapshot.runtime := by
      simp only [CacheState.current, shown]
    simp only [Ledger.next, toAll, served]
    exact last_append_all ledger.deliveries member snapshot.runtime
  | clearListeners =>
    constructor
    · intro entry member
      cases member
    · intro snapshot installed entry member
      cases member
  | reload => exact ⟨sound.entered, current_of_answers sound given⟩
  | ensureLoaded => exact ⟨sound.entered, current_of_answers sound given⟩
  | forEditing => exact ⟨sound.entered, current_of_answers sound given⟩
  | writeWithLock command => exact ⟨sound.entered, current_of_answers sound given⟩
  | save content migrate => exact ⟨sound.entered, current_of_answers sound given⟩

/-- The ledger of any minutes is sound. -/
theorem sound_of_minutes (fallback : C) (minutes : List (Operation C × List (StoreAnswer C))) :
    (ofMinutes fallback minutes).Sound := by
  induction minutes using List.reverseRecOn with
  | nil =>
    constructor
    · intro entry member
      cases member
    · intro snapshot installed
      cases installed
  | append_singleton minutes minute ih =>
    rw [ofMinutes, List.foldl_append]
    exact ih.next fallback minute.1 minute.2

/-- Nothing has been due since some moment but to entries that were registered since. -/
structure NewOnly (before after : Ledger C) : Prop where
  /-- Numbers went on from where they were. -/
  registered : before.registered ≤ after.registered
  /-- No older entry is left. -/
  entries : ∀ entry ∈ after.entries, before.registered ≤ entry.number
  /-- Nothing was due to an older one. -/
  deliveries : ∃ further, after.deliveries = before.deliveries ++ further ∧
    ∀ due ∈ further, before.registered ≤ due.1.number

/-- Every operation keeps to the entries there are, or to the new one. -/
theorem NewOnly.next {before after : Ledger C} (new : before.NewOnly after) (fallback : C)
    (operation : Operation C) (given : List (StoreAnswer C)) :
    before.NewOnly (after.next fallback (operation, given)) := by
  obtain ⟨further, behind, since⟩ := new.deliveries
  have all_new : ∀ config, ∀ due ∈ after.toAll config, before.registered ≤ due.1.number := by
    intro config due member
    obtain ⟨entry, listed, rfl⟩ := List.mem_map.mp member
    exact new.entries entry listed
  have extended : ∀ others : List (Entry C × C),
      (∀ due ∈ others, before.registered ≤ due.1.number) →
      ∃ further, after.deliveries ++ others = before.deliveries ++ further ∧
        ∀ due ∈ further, before.registered ≤ due.1.number := by
    intro others fresh
    refine ⟨further ++ others, by rw [behind, List.append_assoc], ?_⟩
    intro due member
    exact (List.mem_append.mp member).elim (since due) (fresh due)
  have of_answers : before.NewOnly
      { after with
        shown := given.foldl CacheState.taking after.shown
        deliveries := after.deliveries ++
          (given.filterMap StoreAnswer.snapshot?).flatMap fun snapshot =>
            after.toAll snapshot.runtime } := by
    refine ⟨new.registered, new.entries, extended _ ?_⟩
    intro due member
    obtain ⟨snapshot, _, listed⟩ := List.mem_flatMap.mp member
    exact all_new snapshot.runtime due listed
  cases operation with
  | register listener =>
    refine ⟨Nat.le_succ_of_le new.registered, ?_, extended _ ?_⟩
    · intro entry member
      rcases List.mem_append.mp member with old | added
      · exact new.entries entry old
      · obtain rfl := List.mem_singleton.mp added
        exact new.registered
    · intro due member
      obtain ⟨snapshot, _, rfl⟩ := List.mem_map.mp member
      exact new.registered
  | renotify => exact ⟨new.registered, new.entries, extended _ (all_new _)⟩
  | clearListeners =>
    refine ⟨new.registered, ?_, new.deliveries⟩
    intro entry member
    cases member
  | reload | ensureLoaded | forEditing | writeWithLock _ | save _ _ => exact of_answers

/-- After the registry was cleared, nothing is due but to entries that come later. -/
theorem new_only_of_cleared (fallback : C)
    (before further : List (Operation C × List (StoreAnswer C))) (given : List (StoreAnswer C)) :
    (ofMinutes fallback before).NewOnly
      (ofMinutes fallback (before ++ (.clearListeners, given) :: further)) := by
  induction further using List.reverseRecOn with
  | nil =>
    rw [ofMinutes, ofMinutes, List.foldl_append]
    refine ⟨Nat.le_refl _, ?_, [], (List.append_nil _).symm, ?_⟩
    · intro entry member
      cases member
    · intro due member
      cases member
  | append_singleton further minute ih =>
    rw [← List.cons_append, ← List.append_assoc, ofMinutes, ofMinutes, List.foldl_append]
    exact ih.next fallback minute.1 minute.2

end Ledger

end LastGood
