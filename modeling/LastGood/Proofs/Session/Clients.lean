import LastGood.Proofs.Session.Drafts
import LastGood.Proofs.Store.Reading

/-!
# Clients of a session

Several clients work on one session. A client reads the installed snapshot and keeps it;
later it has a command run that expects the checksum of the snapshot it keeps. Between such
steps anything may happen: the steps of other clients, operations of any kind, and changes
from outside.

As long as checksums tell the texts of the run apart, a checksum stands for one editable
configuration, whichever way its snapshot was produced. So a command that was accepted was
run on what its client had read, and a client that has missed a change gets a conflict.
-/

namespace LastGood

/-- A step of some clients of a session. -/
inductive ClientStep (ι : Type) where
  /-- A client reads the installed snapshot, and keeps it. -/
  | reads (client : ι)
  /-- A client has a command run that expects the snapshot it keeps. -/
  | writes (client : ι) (command : Command Config)
  /-- Something else happens. -/
  | elsewhere (happening : Happening)

/-- A session, and what its clients keep. -/
structure Clients (ι : Type) where
  /-- The session. -/
  session : Session
  /-- The snapshot that each client has read last, if any. -/
  kept : ι → Option (Snapshot Config) := fun _ => none

namespace Session

/-- A locked write of a session starts from a snapshot: the installed one, or that of what the
file holds if none is installed. -/
def StartsFrom (session : Session) (base : Snapshot Config) : Prop :=
  session.store.StartsFrom session.cache.state.snapshot base

/-- A locked write starts from the installed snapshot. -/
theorem starts_from_installed {session : Session} {current : Snapshot Config}
    (installed : session.cache.state.snapshot = some current) : session.StartsFrom current :=
  .inl installed

/-- A locked write that expects another checksum than that of the snapshot which it starts from
is a conflict, and nothing else is done: no command is run. -/
theorem write_conflicts {session : Session} {base : Snapshot Config} {expected : String}
    {command : Command Config} (starts : session.StartsFrom base)
    (expects : command.expected = some expected) (stale : expected ≠ base.checksum) :
    session.perform (.writeWithLock command) =
      (.failed (.conflict expected base.checksum), session,
        [.called (.lock (session.cache.state.snapshot.map Snapshot.checksum))]) := by
  have called : fileStore.writeWithLock session.store command session.cache.state.snapshot =
      ⟨.failed (.conflict expected base.checksum), session.store, []⟩ :=
    FileStore.lock_of_stale starts expects stale
  simp only [perform, Cache.perform, Step.map, Cache.writeWithLock, called, Cache.installCalled]
  rfl

/-- A locked write that expects the checksum of the snapshot which it starts from runs its command
on that one. -/
theorem write_of_current {session : Session} {base : Snapshot Config}
    (starts : session.StartsFrom base) (command : Command Config) :
    fileStore.writeWithLock session.store (command.expecting base.checksum)
        session.cache.state.snapshot =
      session.store.applyTo command base := by
  have ran : session.store.writeWithLock (command.expecting base.checksum)
      session.cache.state.snapshot =
        session.store.applyTo (command.expecting base.checksum) base := by
    refine FileStore.lock_of_admitted starts fun expected expects => ?_
    rw [Command.expected_expecting] at expects
    exact (Option.some.inj expects).symm
  exact ran.trans (FileStore.apply_congr session.store rfl)

/-- What a locked write does is decided by what its call to the store does. -/
theorem write_congr {session : Session} {command other : Command Config}
    (same : fileStore.writeWithLock session.store other session.cache.state.snapshot =
      fileStore.writeWithLock session.store command session.cache.state.snapshot) :
    session.perform (.writeWithLock other) = session.perform (.writeWithLock command) := by
  simp only [perform, Cache.perform, Cache.writeWithLock, same]

/-- A locked write ends well when its call to the store does, and leaves the store as that
call does. -/
theorem write_ok {session : Session} {command : Command Config} {answer : Answer Config}
    (ended : (session.perform (.writeWithLock command)).1 = .ok answer) :
    let called := fileStore.writeWithLock session.store command session.cache.state.snapshot
    (∃ result, called.outcome = .ok result ∧ answer = .saved result.state) ∧
      (session.perform (.writeWithLock command)).2.1.store = called.state := by
  intro called
  have outcome := session.cache.write_with_lock_outcome fileStore command session.store
  have store := session.cache.perform_store fileStore (.writeWithLock command) session.store
  refine ⟨?_, store⟩
  simp only [perform, Cache.perform, Step.map, outcome] at ended
  cases finished : called.outcome with
  | ok result =>
    simp only [called] at finished
    rw [finished] at ended
    exact ⟨result, rfl, (Outcome.ok.inj ended).symm⟩
  | failed error =>
    simp only [called] at finished
    rw [finished] at ended
    cases ended
  | panicked message =>
    simp only [called] at finished
    rw [finished] at ended
    cases ended

end Session

namespace Clients

variable {ι : Type} [DecidableEq ι]

/-- What a step does to the session. A client that keeps nothing has no command run. -/
def happening? (clients : Clients ι) : ClientStep ι → Option Happening
  | .reads _ => none
  | .writes client command => (clients.kept client).map fun read =>
      .operation (.writeWithLock (command.expecting read.checksum))
  | .elsewhere happening => some happening

/-- What the clients keep after a step. -/
def keptAfter (clients : Clients ι) : ClientStep ι → ι → Option (Snapshot Config)
  | .reads client => fun other =>
      if other = client then clients.session.cache.state.snapshot else clients.kept other
  | .writes .. | .elsewhere _ => clients.kept

/-- The session and its clients after a step. -/
def next (clients : Clients ι) (step : ClientStep ι) : Clients ι where
  session := clients.session.course fileStore (clients.happening? step).toList
  kept := clients.keptAfter step

/-- The session and its clients after some steps. -/
def run (clients : Clients ι) (steps : List (ClientStep ι)) : Clients ι :=
  steps.foldl next clients

/-- What happens to the session during some steps. -/
def history (clients : Clients ι) : List (ClientStep ι) → List Happening
  | [] => []
  | step :: rest => (clients.happening? step).toList ++ (clients.next step).history rest

/-- One step more is made where the others got to. -/
theorem run_snoc (clients : Clients ι) (steps : List (ClientStep ι)) (step : ClientStep ι) :
    clients.run (steps ++ [step]) = (clients.run steps).next step := by
  simp [run]

/-- What happens in one step more comes last, and depends on where the others got to. -/
theorem history_snoc (clients : Clients ι) (steps : List (ClientStep ι))
    (step : ClientStep ι) :
    clients.history (steps ++ [step]) =
      clients.history steps ++ ((clients.run steps).happening? step).toList := by
  induction steps generalizing clients with
  | nil => simp [history, run]
  | cons first rest ih =>
    simp only [List.cons_append, history, ih, List.append_assoc]
    rfl

/-- The session of some clients takes its course over what happens during their steps. -/
theorem run_session (clients : Clients ι) (steps : List (ClientStep ι)) :
    (clients.run steps).session = clients.session.course fileStore (clients.history steps) := by
  induction steps generalizing clients with
  | nil => rfl
  | cons step rest ih =>
    simp only [history, Session.course_append]
    exact ih (clients.next step)

/-- What a client keeps was installed at some moment of the run. -/
theorem kept_installed {start : Clients ι} (fresh : start.kept = fun _ => none)
    (steps : List (ClientStep ι)) (client : ι) (read : Snapshot Config)
    (kept : (start.run steps).kept client = some read) :
    ∃ before rest : List Happening, start.history steps = before ++ rest ∧
      (start.session.course fileStore before).cache.state.snapshot = some read := by
  induction steps using List.reverseRecOn with
  | nil =>
    have nothing := congrFun fresh client
    cases nothing.symm.trans kept
  | append_singleton steps step ih =>
    rw [history_snoc]
    rw [run_snoc] at kept
    have earlier : (start.run steps).kept client = some read →
        ∃ before rest : List Happening,
          start.history steps ++ ((start.run steps).happening? step).toList = before ++ rest ∧
          (start.session.course fileStore before).cache.state.snapshot = some read := by
      intro before_kept
      obtain ⟨before, rest, split, installed⟩ := ih before_kept
      exact ⟨before, rest ++ _, by rw [split, List.append_assoc], installed⟩
    cases step with
    | reads reader =>
      by_cases same : client = reader
      · simp only [next, keptAfter, same, if_true] at kept
        rw [run_session] at kept
        exact ⟨start.history steps, _, rfl, kept⟩
      · simp only [next, keptAfter, same, if_false] at kept
        exact earlier kept
    | writes writer command => exact earlier kept
    | elsewhere happening => exact earlier kept

/-- The clients of a file that nobody has read. -/
def ofPath (machine : Machine) (path : Path) : Clients ι where
  session := .ofPath machine path

/-- No update is lost. Whatever the steps before, a client that keeps a snapshot finds one
installed when it writes. If that one has another checksum, the write is a conflict with it,
the session is left as it was, and any other command would have fared the same: none was run.
And a write that succeeds was run on the editable configuration that the client had read, which
accepted the command: nothing that the command makes of other configurations plays a part, and
either that configuration is the same after the command and the machine is left alone, or the
file now holds the text of what the command made of it. -/
theorem guarded_write_no_lost_update (machine : Machine) (path : Path)
    (steps : List (ClientStep ι)) (client : ι) (read : Snapshot Config)
    (kept : ((ofPath machine path).run steps).kept client = some read)
    (distinct : CollisionFree ((Session.ofPath machine path).HeldDuring
      ((ofPath machine path).history steps)))
    (command : Command Config) :
    let clients : Clients ι := (ofPath machine path).run steps
    let write := fun command : Command Config =>
      clients.session.perform (.writeWithLock (command.expecting read.checksum))
    let edited := (command.update read.editable).1
    (clients.next (.writes client command)).session = (write command).2.1 ∧
    ∃ current, clients.session.cache.state.snapshot = some current ∧
      (current.checksum ≠ read.checksum →
        (write command).1 = .failed (.conflict read.checksum current.checksum) ∧
        (write command).2.1 = clients.session ∧
        ∀ other, write other = write command) ∧
      ∀ answer, (write command).1 = .ok answer →
        current.editable = read.editable ∧
        (command.update read.editable).2 = .accepted ∧
        (∀ other, other.update read.editable = command.update read.editable →
          write other = write command) ∧
        if edited.sameAs read.editable then
          answer = .saved .unchanged ∧
            (write command).2.1.store.machine = clients.session.store.machine
        else
          answer = .saved .updated ∧ (write command).2.1.store.readText = .ok edited.toYaml := by
  intro clients write edited
  have course : clients.session = (Session.ofPath machine path).course fileStore
      ((ofPath machine path).history steps) := run_session (ofPath machine path) steps
  obtain ⟨before, rest, split, installed⟩ := kept_installed rfl steps client read kept
  have populated : clients.session.cache.state.snapshot.isSome := by
    rw [course, split, Session.course_append]
    exact Session.course_populated _ rest (by
      simp only [ofPath] at installed
      simp only [installed, Option.isSome_some])
  obtain ⟨current, shown⟩ := Option.isSome_iff_exists.mp populated
  have starts : clients.session.StartsFrom current := Session.starts_from_installed shown
  refine ⟨?step, current, shown, ?stale, ?current⟩
  case step =>
    simp only [next, happening?]
    rw [show clients.kept client = some read from kept]
    rfl
  case stale =>
    intro different
    have conflicts : ∀ other, write other = _ := fun other => Session.write_conflicts
      starts (Command.expected_expecting read.checksum other) different.symm
    refine ⟨?_, ?_, ?_⟩
    · rw [conflicts command]
    · rw [conflicts command]
    · intro other
      rw [conflicts other, conflicts command]
  case current =>
    intro answer ended
    have sums : current.checksum = read.checksum := by
      by_contra different
      have conflicts : write command = _ := Session.write_conflicts starts
        (Command.expected_expecting read.checksum command) (Ne.symm different)
      rw [conflicts] at ended
      cases ended
    have editable : current.editable = read.editable :=
      Session.editable_of_checksum rfl distinct (List.append_nil _).symm split
        (course ▸ shown) installed sums
    have ran := Session.write_of_current starts command
    rw [sums] at ran
    obtain ⟨⟨result, called, rfl⟩, store⟩ := Session.write_ok ended
    rw [ran] at called store
    obtain ⟨accepted, result_eq⟩ := FileStore.apply_ok called
    rw [editable] at accepted result_eq
    refine ⟨editable, accepted, ?_, ?_⟩
    · intro other same
      refine Session.write_congr ?_
      have ran' := Session.write_of_current starts other
      rw [sums] at ran'
      rw [ran, ran']
      exact FileStore.apply_congr clients.session.store (editable.symm ▸ same)
    · split
      case isTrue unedited =>
        rw [if_pos unedited] at result_eq
        exact ⟨by rw [result_eq.1], (congrArg FileStore.machine store).trans result_eq.2⟩
      case isFalse edits =>
        rw [if_neg edits] at result_eq
        exact ⟨by rw [result_eq.1], (congrArg FileStore.readText store).trans result_eq.2⟩

/-- Two clients of an empty file read what the first reload installs. -/
def bothRead : List (ClientStep Bool) :=
  [.elsewhere (.operation .reload), .reads false, .reads true]

/-- Then one of them changes the port. -/
def oneWrites : List (ClientStep Bool) :=
  bothRead ++ [.writes false (Command.setServerPort 9000)]

/-- What happens to the session while both read. -/
theorem history_both_read :
    (ofPath Machine.ofEmptyFile ⟨"config.yaml"⟩).history bothRead = [.operation .reload] := rfl

/-- What happens to it until one of them has written. -/
theorem history_one_writes :
    (ofPath Machine.ofEmptyFile ⟨"config.yaml"⟩).history oneWrites = [.operation .reload,
      .operation (.writeWithLock ((Command.setServerPort 9000).expecting (checksum "")))] := rfl

/-- Until then the file holds the empty text and that of the other port. -/
theorem texts_of_one_writes {text : String}
    (held : (Session.ofPath Machine.ofEmptyFile ⟨"config.yaml"⟩).HeldDuring
      ((ofPath Machine.ofEmptyFile ⟨"config.yaml"⟩).history oneWrites) text) :
    text = "" ∨ text = Session.otherPort.toYaml := by
  have first := Session.mirrors_empty_file.held
  obtain ⟨_, _, mirrors⟩ := Session.port_changed (Command.update_expecting (checksum "") _)
    (Command.expected_expecting (checksum "") (Command.setServerPort 9000))
  rw [history_one_writes] at held
  rcases Session.held_cons held with now | held
  · exact .inl (Except.ok.inj (now.symm.trans first))
  rcases Session.held_cons held with now | held
  · exact .inl (Except.ok.inj (now.symm.trans ((Session.reload_read_text _).trans first)))
  · exact .inr (Except.ok.inj ((Session.held_nil held).symm.trans mirrors.held))

/-- The session after both have read. -/
theorem session_both_read :
    ((ofPath Machine.ofEmptyFile ⟨"config.yaml"⟩).run bothRead).session =
      (Session.ofPath Machine.ofEmptyFile ⟨"config.yaml"⟩).course fileStore
        [.operation .reload] := by
  rw [run_session, history_both_read]
  rfl

/-- The session after one of them has written. -/
theorem session_one_writes :
    ((ofPath Machine.ofEmptyFile ⟨"config.yaml"⟩).run oneWrites).session =
      ((Session.ofPath Machine.ofEmptyFile ⟨"config.yaml"⟩).course fileStore
        [.operation .reload]).performed fileStore
          (.writeWithLock ((Command.setServerPort 9000).expecting (checksum ""))) := by
  rw [run_session, history_one_writes]
  rfl

/-- Two clients have read the same. One of them changes the port and succeeds; the other one finds
out about that, and changes nothing. -/
theorem guarded_write_two_clients :
    let read : Snapshot Config := ⟨{}, {}, checksum ""⟩
    let both : Clients Bool := (ofPath Machine.ofEmptyFile ⟨"config.yaml"⟩).run bothRead
    let one : Clients Bool := (ofPath Machine.ofEmptyFile ⟨"config.yaml"⟩).run oneWrites
    let write := fun (clients : Clients Bool) (port : UInt16) => clients.session.perform
      (.writeWithLock ((Command.setServerPort port).expecting read.checksum))
    (both.kept false = some read ∧ (write both 9000).1 = .ok (.saved .updated) ∧
      (write both 9000).2.1.store.readText = .ok Session.otherPort.toYaml) ∧
    one.kept true = some read ∧
      (write one 9001).1 =
        .failed (.conflict (checksum "") (checksum Session.otherPort.toYaml)) ∧
      (write one 9001).2.1 = one.session := by
  obtain ⟨updated, snapshot, mirrors⟩ :=
    Session.port_changed (Command.update_expecting (checksum "") _)
      (Command.expected_expecting (checksum "") (Command.setServerPort 9000))
  rw [← session_both_read] at updated
  constructor
  · obtain ⟨_, current, _, _, accepted⟩ :=
      guarded_write_no_lost_update Machine.ofEmptyFile ⟨"config.yaml"⟩ bothRead false
        ⟨{}, {}, checksum ""⟩ rfl (history_both_read ▸ Session.reload_distinct _)
        (Command.setServerPort 9000)
    obtain ⟨_, _, _, wrote⟩ := accepted _ updated
    rw [if_neg (by decide)] at wrote
    exact ⟨rfl, updated, wrote.2⟩
  · have distinct : CollisionFree ((Session.ofPath Machine.ofEmptyFile ⟨"config.yaml"⟩).HeldDuring
        ((ofPath Machine.ofEmptyFile ⟨"config.yaml"⟩).history oneWrites)) :=
      collision_free_of_two Session.other_port_checksum texts_of_one_writes
    obtain ⟨_, current, shown, stale, _⟩ :=
      guarded_write_no_lost_update Machine.ofEmptyFile ⟨"config.yaml"⟩ oneWrites true
        ⟨{}, {}, checksum ""⟩ rfl distinct (Command.setServerPort 9001)
    -- What the other client finds installed is what the first one has written.
    rw [← session_one_writes] at mirrors
    have sum : current.checksum = checksum Session.otherPort.toYaml := by
      rcases mirrors.shown with nothing | installed
      · rw [nothing] at shown
        cases shown
      · rw [installed] at shown
        cases shown
        exact ((FileStore.snapshot_of_ok_iff _ _ _).mp mirrors.parsed).2.2
    rw [sum] at stale
    obtain ⟨conflict, unmoved, _⟩ := stale Session.other_port_checksum.symm
    exact ⟨rfl, conflict, unmoved⟩

end Clients

end LastGood
