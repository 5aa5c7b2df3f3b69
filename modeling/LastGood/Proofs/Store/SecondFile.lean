import LastGood.Proofs.Session.FailedWrites
import LastGood.Proofs.Store.LockedWrites
import LastGood.Proofs.Store.Migration
import LastGood.Proofs.System.Cramped

/-!
# What is left of the second file

A text is written to a second file beside the path, and that file is then moved to the path. A
call that fails before the text is written leaves the system as it is. One that fails afterwards may
leave something of the second file, because nobody takes it away again: what the write began, if
that failed, or all of the text, if the file was not moved. This is all there is to be left behind
on an orderly system, and the error says which of the two it was.
-/

namespace LastGood

namespace FileStore

section

variable {μ κ : Type} [System μ]

/-- A call that failed left something of the second file behind. Nothing is any different but the
entries that the path of the second file reaches. -/
structure LeavesSecond (view : System.View μ κ) (before after : FileStore μ) (text : String)
    (error : ConfigError) : Prop where
  /-- Nothing but the machine is another one. -/
  unmoved : after = { before with machine := after.machine }
  /-- Everywhere else is what was there. -/
  aside : ∀ place, ¬ view.Reaches before.machine before.temporaryPath place →
    view.item? after.machine place = view.item? before.machine place
  /-- What is reached is as it was or holds a start of the text, and the error is that of writing
  it; or it holds all of the text, and the error is that of moving it. -/
  left : ∃ reason,
    (error = .io before.temporaryPath reason ∧
      ∀ place, view.Reaches before.machine before.temporaryPath place →
        view.item? after.machine place = view.item? before.machine place ∨
          ∃ count, view.item? after.machine place = some (System.startOf text count)) ∨
    (error = .io before.path reason ∧
      ∀ place, view.Reaches before.machine before.temporaryPath place →
        view.item? after.machine place = some (.file text.toUTF8))

variable {view : System.View μ κ} {store : FileStore μ} {text : String} {error : ConfigError}

/-- A second file that is not written leaves what its write began. -/
theorem leaves_second_of_unwritten (orderly : System.Orderly view) {fault : DiskFault} {left : μ}
    (writing : System.writeText store.machine store.temporaryPath text = (.error fault, left)) :
    store.LeavesSecond view { store with machine := left } text
      (.io store.temporaryPath fault.text) where
  unmoved := rfl
  aside place apart := by
    have kept := orderly.aside store.machine store.temporaryPath text place apart
    rwa [writing] at kept
  left := ⟨fault.text, .inl ⟨rfl, fun place => orderly.cut _ _ _ _ _ place writing⟩⟩

/-- A second file that is not moved is left behind with all of the text. -/
theorem leaves_second_of_unmoved (orderly : System.Orderly view) {fault : DiskFault}
    {written left : μ}
    (writing : System.writeText store.machine store.temporaryPath text = (.ok (), written))
    (moving : System.rename written store.temporaryPath store.path = (.error fault, left)) :
    store.LeavesSecond view { store with machine := left } text (.io store.path fault.text) where
  unmoved := rfl
  aside place apart := by
    have kept := orderly.aside store.machine store.temporaryPath text place apart
    rw [writing] at kept
    exact (orderly.unmoved _ _ _ _ _ place moving).trans kept
  left := ⟨fault.text, .inr ⟨rfl, fun place reached =>
    (orderly.unmoved _ _ _ _ _ place moving).trans
      (orderly.whole _ _ _ _ place writing reached)⟩⟩

/-- A snapshot that is not persisted leaves the store as it was, or something of the second file. -/
theorem persist_snapshot_remains (orderly : System.Orderly view)
    (failed : (store.persistSnapshot text).outcome = .failed error) :
    (store.persistSnapshot text).state = store ∨
      store.LeavesSecond view (store.persistSnapshot text).state text error := by
  revert failed
  unfold persistSnapshot
  cases store.parse text with
  | failed _ => exact fun _ => .inl rfl
  | panicked _ => exact fun _ => .inl rfl
  | ok snapshot =>
    have replaced := store.replaces text
    generalize store.persist text = result at replaced ⊢
    cases replaced with
    | placed => rintro ⟨⟩
    | unwritten writing =>
      rintro ⟨⟩
      exact .inr (leaves_second_of_unwritten orderly writing)
    | unmoved writing moving =>
      rintro ⟨⟩
      exact .inr (leaves_second_of_unmoved orderly writing moving)

end

/-- What a failed call leaves behind on an orderly system, for every store, whatever state the
system is in, and for every text and every command. A write that fails leaves all as it was; or the
text could be edited, and something is left of the second file, where what is saved of the text was
to be written. A locked write that fails leaves all as it was; or its command made another
configuration that can be written and read, and something is left of the second file, where the text
of that was to be written. -/
theorem failed_call_leaves_disk {μ κ : Type} [System μ] (view : System.View μ κ)
    (orderly : System.Orderly view) (store : FileStore μ) (error : ConfigError) :
    (∀ (text : String) (migrate : Bool),
      (store.write text migrate).outcome = .failed error →
      (store.write text migrate).state = store ∨
        ∃ config, Config.ofYaml text = .ok config ∧
          store.LeavesSecond view (store.write text migrate).state (savedText text migrate config)
            error) ∧
    ∀ (command : Command Config) (base : Option (Snapshot Config)),
      (store.writeWithLock command base).outcome = .failed error →
      (store.writeWithLock command base).state = store ∨
        ∃ start edited snapshot, store.Commits command base start edited snapshot ∧
          store.LeavesSecond view (store.writeWithLock command base).state edited.toYaml error := by
  constructor
  · intro text migrate failed
    cases edited : Config.ofYaml text with
    | error fault =>
      refine .inl ?_
      unfold write
      rw [edited]
    | ok config =>
      obtain ⟨outcome, state⟩ := write_of_editable store edited migrate
      rw [state]
      rw [outcome] at failed
      rcases persist_snapshot_remains orderly failed with same | left
      · exact .inl same
      · exact .inr ⟨config, rfl, left⟩
  · intro command base failed
    have decided := lock_called store command base
    rw [failed] at decided
    generalize (store.writeWithLock command base).state = after at decided ⊢
    cases decided with
    | unread | faulty | stale | refused | foreign | faultyEdit => exact .inl rfl
    | unwritten commits writing =>
      exact .inr ⟨_, _, _, commits, leaves_second_of_unwritten orderly writing⟩
    | unmoved commits writing moving =>
      exact .inr ⟨_, _, _, commits, leaves_second_of_unmoved orderly writing moving⟩

/-- A new store of an empty file, on a disk with room for three bytes. -/
def ofCramped : FileStore Cramped :=
  { path := ⟨"config.yaml"⟩, machine := ⟨Machine.ofEmptyFile, 3⟩ }

/-- A text with nothing but a comment writes the defaults. -/
theorem of_yaml_comment : Config.ofYaml "# kept\n" = .ok {} := by
  decide +kernel

/-- A write of that text to that store fails. The file is as it was, but the second file is there
with the first three bytes. -/
theorem failed_call_leaves_disk_full :
    let after := (ofCramped.write "# kept\n" false).state
    Cramped.view.item? after.machine ["config.yaml"] = some (.file "".toUTF8) ∧
      Cramped.view.item? ofCramped.machine ["config.yaml.tmp"] = none ∧
      Cramped.view.item? after.machine ["config.yaml.tmp"] = some (.file "# k".toUTF8) := by
  intro after
  have runs : Config.runtimeOfYaml ofCramped.environment "# kept\n" = .ok {} :=
    (Config.runtime_of_yaml_plain rfl _).trans of_yaml_comment
  have parsed : ofCramped.parse "# kept\n" = .ok ⟨{}, {}, checksum "# kept\n"⟩ :=
    (snapshot_of_ok_iff _ _ _).mpr ⟨of_yaml_comment, runs, rfl⟩
  obtain ⟨left, writing, start⟩ : ∃ left, System.writeText ofCramped.machine
      ofCramped.temporaryPath "# kept\n" = (.error Cramped.full, left) ∧
      Cramped.view.item? left ["config.yaml.tmp"] = some (.file "# k".toUTF8) := ⟨_, rfl, rfl⟩
  have called : ofCramped.persistSnapshot "# kept\n" =
      ⟨.failed (.io ofCramped.temporaryPath Cramped.full.text),
        { ofCramped with machine := left }, []⟩ := by
    unfold persistSnapshot
    rw [parsed, persist_of_unwritten writing]
  obtain ⟨outcome, state⟩ := write_of_editable ofCramped of_yaml_comment false
  have saved : savedText "# kept\n" false {} = "# kept\n" := rfl
  rw [saved, called] at outcome state
  refine ⟨?_, rfl, ?_⟩
  · rcases (failed_call_leaves_disk Cramped.view Cramped.orderly ofCramped _).1 _ _ outcome with
      same | ⟨config, _, left⟩
    · rw [show after = ofCramped from same]
      rfl
    · refine left.aside _ fun reached => ?_
      have same : ["config.yaml.tmp"] = ["config.yaml"] := Except.ok.inj reached
      simp at same
  · rw [show after = _ from state]
    exact start

/-- A new store with a directory in the place of its file. -/
def ofDirectory : FileStore := { path := ⟨"config.yaml"⟩, machine := Machine.ofDirectory }

/-- A write to that store fails, and yet there is a file on its disk afterwards that was not there
before. -/
theorem second_file_left_behind :
    (∃ error, (ofDirectory.write "" false).outcome = .failed error) ∧
      ofDirectory.machine.disk.get? ["config.yaml.tmp"] = none ∧
      (ofDirectory.write "" false).state.machine.disk.get? ["config.yaml.tmp"] =
        some (.file "".toUTF8) :=
  ⟨⟨_, rfl⟩, rfl, rfl⟩

end FileStore

end LastGood
