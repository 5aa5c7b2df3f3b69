import LastGood.Proofs.Session.Course
import LastGood.Proofs.Store.Memory
import LastGood.Proofs.Store.Migration

/-!
# Where the installed snapshot comes from

A snapshot that is installed was handed out by some earlier operation. Right after that
operation the file held one text, from which both forms of the snapshot and its checksum
were made. No later operation but one that hands out a snapshot itself changes what the file
holds. So as long as others leave the file alone it holds that very text, and a session that
is started anew reads the same snapshot from it.
-/

namespace LastGood.Session

/-- Others have left the text of the file alone during the later part of a history: each
change of the disk left it as it was. Other files may have changed. -/
def Untouched (start : Session) (before later : List Happening) : Prop :=
  ∀ (passed : List Happening) (change : Disk → Disk) (rest : List Happening),
    later = passed ++ .disk change :: rest →
    (start.course fileStore (before ++ passed ++ [.disk change])).store.readText =
      (start.course fileStore (before ++ passed)).store.readText

/-- Where nothing happens to the disk but by operations, others leave the file alone. -/
theorem untouched_of_no_disk {start : Session} {before later : List Happening}
    (alone : ∀ change, Happening.disk change ∉ later) : start.Untouched before later := by
  rintro passed change rest rfl
  exact absurd (by simp) (alone change)

/-- The operation behind a snapshot, the text that the file held then, and what came of both
in the rest of the history. -/
structure Source (start : Session) (before : List Happening) (operation : Operation Config)
    (later : List Happening) (text : String) (snapshot : Snapshot Config) : Prop where
  /-- The store handed the snapshot out during the operation. -/
  brought : ((start.course fileStore before).cache.answers fileStore operation
    (start.course fileStore before).store).filterMap StoreAnswer.snapshot? = [snapshot]
  /-- It was installed. -/
  shown : (start.course fileStore (before ++ [.operation operation])).cache.state =
    ⟨some snapshot, none⟩
  /-- The file held the text. -/
  held : (start.course fileStore (before ++ [.operation operation])).store.readText = .ok text
  /-- The snapshot was made of the text. -/
  parsed : FileStore.snapshotOf (start.course fileStore
    (before ++ [.operation operation])).store.machine.environment text = .ok snapshot
  /-- The snapshot stayed installed. -/
  installed : ∀ passed rest : List Happening, later = passed ++ rest →
    (start.course fileStore (before ++ [.operation operation] ++ passed)).cache.state.snapshot =
      some snapshot
  /-- The text stayed in the file unless others touched it. -/
  kept : start.Untouched (before ++ [.operation operation]) later →
    (start.course fileStore (before ++ [.operation operation] ++ later)).store.readText = .ok text

/-- One happening more leaves the source of a snapshot that is still installed the same. -/
theorem Source.extended {start : Session} {before later : List Happening}
    {operation : Operation Config} {text : String} {snapshot : Snapshot Config}
    (source : start.Source before operation later text snapshot) (happening : Happening)
    (still : (start.course fileStore (before ++ [.operation operation] ++ later ++
      [happening])).cache.state.snapshot = some snapshot)
    (keeps : (∀ change, happening ≠ .disk change) → ∀ found,
      (start.course fileStore (before ++ [.operation operation] ++ later)).store.readText =
        .ok found →
      (start.course fileStore (before ++ [.operation operation] ++ later ++
        [happening])).store.readText = .ok found) :
    start.Source before operation (later ++ [happening]) text snapshot where
  brought := source.brought
  shown := source.shown
  held := source.held
  parsed := source.parsed
  installed passed rest split := by
    rcases List.eq_nil_or_concat rest with rfl | ⟨others, final, rfl⟩
    · rw [List.append_nil] at split
      rw [← split, ← List.append_assoc]
      exact still
    · rw [List.concat_eq_append, ← List.append_assoc] at split
      exact source.installed passed others (List.append_inj_left' split rfl)
  kept untouched := by
    have earlier : start.Untouched (before ++ [.operation operation]) later := by
      intro passed change rest split
      exact untouched passed change (rest ++ [happening]) (by rw [split]; simp)
    have held := source.kept earlier
    rw [← List.append_assoc]
    cases happening with
    | disk change => exact (untouched later change [] rfl).trans held
    | operation other => exact keeps (fun change same => by cases same) text held
    | environment environment => exact keeps (fun change same => by cases same) text held

/-- An operation during which a snapshot was handed out is the source of that snapshot. -/
theorem source_of_handed_out {start : Session} {history : List Happening}
    {operation : Operation Config} {snapshot : Snapshot Config}
    (brought : ((start.course fileStore history).cache.answers fileStore operation
      (start.course fileStore history).store).filterMap StoreAnswer.snapshot? = [snapshot])
    (made : (start.course fileStore history).store.HandsOut
      ((start.course fileStore history).performed fileStore operation).store snapshot)
    (shown : ((start.course fileStore history).performed fileStore operation).cache.state =
      ⟨some snapshot, none⟩) :
    ∃ text : String, start.Source history operation [] text snapshot := by
  have reached : start.course fileStore (history ++ [.operation operation]) =
      (start.course fileStore history).performed fileStore operation := course_snoc ..
  obtain ⟨text, held, parsed⟩ := made.text
  rw [← made.environment] at parsed
  rw [← reached] at shown held parsed
  refine ⟨text, brought, shown, held, parsed, ?installed, ?kept⟩
  case installed =>
    intro passed rest nothing
    obtain ⟨rfl, rfl⟩ := List.append_eq_nil_iff.mp nothing.symm
    rw [List.append_nil, shown]
  case kept =>
    intro _
    rw [List.append_nil]
    exact held

/-- Every installed snapshot has a source. -/
theorem source_of_installed {start : Session} (fresh : start.cache.state.snapshot = none)
    (history : List Happening) (snapshot : Snapshot Config)
    (installed : (start.course fileStore history).cache.state.snapshot = some snapshot) :
    ∃ (before later : List Happening) (operation : Operation Config) (text : String),
      history = before ++ [.operation operation] ++ later ∧
      start.Source before operation later text snapshot := by
  induction history using List.reverseRecOn with
  | nil => exact absurd (fresh.symm.trans installed) (by simp)
  | append_singleton history happening ih =>
    -- Unless a snapshot is handed out now, the source is that of the history before.
    have extended :
        (start.course fileStore history).cache.state.snapshot = some snapshot →
        ((∀ change, happening ≠ .disk change) → ∀ found,
          (start.course fileStore history).store.readText = .ok found →
          (start.course fileStore (history ++ [happening])).store.readText = .ok found) →
        ∃ (before later : List Happening) (operation : Operation Config) (text : String),
          history ++ [happening] = before ++ [.operation operation] ++ later ∧
          start.Source before operation later text snapshot := by
      intro earlier keeps
      obtain ⟨before, later, operation, text, rfl, source⟩ := ih earlier
      exact ⟨before, later ++ [happening], operation, text, by simp,
        source.extended happening installed keeps⟩
    have reached := installed
    rw [course_snoc] at reached
    cases happening with
    | disk change => exact extended reached fun other => absurd rfl (other change)
    | environment environment =>
      refine extended reached fun _ found held => ?_
      rw [course_snoc]
      exact held
    | operation operation =>
      cases turn (start.course fileStore history) operation with
      | handedOut brought made shown =>
        have same : _ = snapshot := Option.some.inj
          ((congrArg CacheState.snapshot shown).symm.trans reached)
        rw [same] at brought made shown
        obtain ⟨text, source⟩ := source_of_handed_out brought made shown
        exact ⟨history, [], operation, text, by simp, source⟩
      | handedBack given shown store =>
        have same : _ = snapshot := Option.some.inj
          ((congrArg CacheState.snapshot shown).symm.trans reached)
        refine extended (same ▸ given) fun _ found held => ?_
        rw [course_snoc]
        exact (congrArg FileStore.readText store).trans held
      | loadFailed shown store =>
        refine extended ((congrArg CacheState.snapshot shown).symm.trans reached)
          fun _ found held => ?_
        rw [course_snoc]
        exact (congrArg FileStore.readText store).trans held
      | left shown text =>
        refine extended ((congrArg CacheState.snapshot shown).symm.trans reached)
          fun _ found held => ?_
        rw [course_snoc]
        exact text.text found held

/-- Snapshots installed at two moments of a course that have one checksum have one editable
form, if checksums tell the texts of the course apart. The environment may have changed. -/
theorem editable_of_checksum {start : Session} (fresh : start.cache.state.snapshot = none)
    {history before rest before' rest' : List Happening}
    (distinct : CollisionFree (start.HeldDuring history))
    (split : history = before ++ rest) (split' : history = before' ++ rest')
    {snapshot other : Snapshot Config}
    (installed : (start.course fileStore before).cache.state.snapshot = some snapshot)
    (installed' : (start.course fileStore before').cache.state.snapshot = some other)
    (sums : snapshot.checksum = other.checksum) : snapshot.editable = other.editable := by
  -- Each of the two has a text that the file held, in the part of the history before it.
  have text_of : ∀ {passed left : List Happening} {found : Snapshot Config},
      history = passed ++ left →
      (start.course fileStore passed).cache.state.snapshot = some found →
      ∃ text : String, start.HeldDuring history text ∧
        Config.ofYaml text = .ok found.editable ∧ found.checksum = checksum text := by
    intro passed left found parts shown
    obtain ⟨earlier, later, operation, text, inner, source⟩ :=
      source_of_installed fresh passed found shown
    obtain ⟨editable, _, sum⟩ := (FileStore.snapshot_of_ok_iff _ _ _).mp source.parsed
    have held : start.HeldDuring passed text := held_at inner source.held
    exact ⟨text, parts ▸ held_longer left held, editable, sum⟩
  obtain ⟨text, held, editable, sum⟩ := text_of split installed
  obtain ⟨text', held', editable', sum'⟩ := text_of split' installed'
  have same : text = text' :=
    distinct text text' held held' (sum.symm.trans (sums.trans sum'))
  rw [same] at editable
  exact Except.ok.inj (editable.symm.trans editable')

/-- A reload of a session that remembers nothing shows what reading and parsing the file
gives. -/
theorem reload_afresh (machine : Machine) (path : Path) :
    ((ofPath machine path).performed fileStore .reload).cache.state =
      (ofPath machine path).cache.state.taking
        (.loaded ((ofPath machine path).store.reading.map some)) := by
  have loaded := (FileStore.load_forgetting (ofPath machine path).store).1
  rw [← loaded]
  exact Cache.reload_state fileStore (ofPath machine path).store (ofPath machine path).cache

/-- Whatever snapshot is installed after a history, there is one text behind it. Some
operation handed it out; right after that operation the file held just that text, whose two
readings, in the environment of that time, are the two forms of the snapshot and whose
checksum is that of the snapshot; and it was installed ever since. If others have left the
text of the file alone since then, and the environment is the same again, a session that is
started anew on the same file shows after a reload the same snapshot and no error. -/
theorem installed_of_one_text (machine : Machine) (path : Path) (history : List Happening)
    (snapshot : Snapshot Config)
    (installed : ((ofPath machine path).course fileStore history).cache.state.snapshot =
      some snapshot) :
    ∃ (before later : List Happening) (operation : Operation Config) (text : String),
      history = before ++ [.operation operation] ++ later ∧
      let asked := (ofPath machine path).course fileStore before
      let produced := asked.performed fileStore operation
      let reached := (ofPath machine path).course fileStore history
      (asked.cache.answers fileStore operation asked.store).filterMap StoreAnswer.snapshot? =
          [snapshot] ∧
      produced.cache.state = ⟨some snapshot, none⟩ ∧
      produced.store.readText = .ok text ∧
      Config.ofYaml text = .ok snapshot.editable ∧
      Config.runtimeOfYaml produced.store.machine.environment text = .ok snapshot.runtime ∧
      snapshot.checksum = checksum text ∧
      (∀ passed rest : List Happening, later = passed ++ rest →
        (produced.course fileStore passed).cache.state.snapshot = some snapshot) ∧
      ((ofPath machine path).Untouched (before ++ [.operation operation]) later →
        reached.store.machine.environment = produced.store.machine.environment →
        let restarted := (ofPath reached.store.machine path).performed fileStore .reload
        restarted.cache.state = ⟨some snapshot, none⟩ ∧
        restarted.cache.state.current fileStore.fallback = snapshot.runtime ∧
        restarted.cache.state.validity = .valid) := by
  obtain ⟨before, later, operation, text, split, source⟩ :=
    source_of_installed rfl history snapshot installed
  have produced : (ofPath machine path).course fileStore (before ++ [.operation operation]) =
      ((ofPath machine path).course fileStore before).performed fileStore operation :=
    course_snoc ..
  have shown := source.shown
  have held := source.held
  have parsed := source.parsed
  rw [produced] at shown held parsed
  obtain ⟨editable, runtime, sum⟩ := (FileStore.snapshot_of_ok_iff _ _ _).mp parsed
  refine ⟨before, later, operation, text, split, source.brought, shown, held, editable, runtime,
    sum, ?since, ?restart⟩
  case since =>
    intro passed rest later_eq
    have still := source.installed passed rest later_eq
    rw [course_append, produced] at still
    exact still
  case restart =>
    intro untouched environment
    have now := source.kept untouched
    rw [← split] at now
    have place := (course_place (ofPath machine path) history).1
    have reading : (ofPath ((ofPath machine path).course fileStore history).store.machine
        path).store.reading = .ok snapshot := by
      have again : (ofPath ((ofPath machine path).course fileStore history).store.machine
          path).store.readText = .ok text := by
        refine Eq.trans ?_ now
        simp only [FileStore.readText, place]
        rfl
      rw [← environment] at parsed
      simp only [FileStore.reading, again]
      exact parsed
    have restarted := reload_afresh
      ((ofPath machine path).course fileStore history).store.machine path
    rw [reading] at restarted
    simp only [restarted]
    exact ⟨rfl, rfl, rfl⟩

/-- A save that succeeds installs what it hands out. -/
theorem save_installs {session : Session} {content : String} {migrate : Bool}
    {snapshot : Snapshot Config}
    (ended : (session.store.write content migrate).outcome = .ok snapshot) :
    (session.performed fileStore (.save content migrate)).cache.state =
      ⟨some snapshot, none⟩ := by
  have shown := session.cache.perform_state fileStore (.save content migrate) session.store
  refine shown.trans ?_
  have answered : (fileStore.write session.store content migrate).outcome = .ok snapshot := ended
  simp only [Cache.answers, answered, List.foldl_cons, List.foldl_nil]
  rfl

/-- Giving out a configuration for editing leaves what is installed. -/
theorem for_editing_installs {session : Session} {snapshot : Snapshot Config}
    (installed : session.cache.state.snapshot = some snapshot) :
    (session.performed fileStore .forEditing).cache.state.snapshot = some snapshot := by
  have shown := session.cache.perform_state fileStore .forEditing session.store
  refine (congrArg CacheState.snapshot shown).trans ?_
  simp only [Cache.answers, installed, Option.isSome_some, if_true, List.foldl_nil]

/-- A text of the first version is saved in the place of an empty file and migrated, and then the
configuration is given out for editing. -/
def migrating : List Happening :=
  [.operation (.save "schema_version: 1\n" true), .operation .forEditing]

/-- What was migrated is installed after that history. -/
theorem migrated_installed :
    ((ofPath Machine.ofEmptyFile ⟨"config.yaml"⟩).course fileStore
      migrating).cache.state.snapshot = some ⟨{}, {}, checksum ({} : Config).toYaml⟩ := by
  have saved : ((ofPath Machine.ofEmptyFile ⟨"config.yaml"⟩).performed fileStore
      (.save "schema_version: 1\n" true)).cache.state =
        ⟨some ⟨{}, {}, checksum ({} : Config).toYaml⟩, none⟩ :=
    save_installs FileStore.first_version_migrated
  simp only [course, migrating, List.foldl_cons, List.foldl_nil, after]
  exact for_editing_installs (congrArg CacheState.snapshot saved)

/-- Behind the snapshot of a text that was migrated there is a text of the defaults, and a session
started anew shows that snapshot. -/
theorem installed_of_one_text_migrated :
    ((ofPath Machine.ofEmptyFile ⟨"config.yaml"⟩).course fileStore
        migrating).cache.state.snapshot = some ⟨{}, {}, checksum ({} : Config).toYaml⟩ ∧
      (∃ text, Config.ofYaml text = .ok {} ∧ checksum ({} : Config).toYaml = checksum text) ∧
      ((ofPath ((ofPath Machine.ofEmptyFile ⟨"config.yaml"⟩).course fileStore
        migrating).store.machine ⟨"config.yaml"⟩).performed fileStore .reload).cache.state =
          ⟨some ⟨{}, {}, checksum ({} : Config).toYaml⟩, none⟩ := by
  obtain ⟨before, later, operation, text, split, _, _, _, editable, _, sum, _, restart⟩ :=
    installed_of_one_text Machine.ofEmptyFile ⟨"config.yaml"⟩ migrating _ migrated_installed
  have alone : ∀ change, Happening.disk change ∉ later := by
    intro change member
    have inside : Happening.disk change ∈ migrating := split ▸ List.mem_append_right _ member
    simp [migrating] at inside
  have steady : ∀ environment, Happening.environment environment ∉ migrating := by
    simp [migrating]
  have earlier : ∀ environment,
      Happening.environment environment ∉ before ++ [.operation operation] := by
    intro environment member
    exact steady environment (split ▸ List.mem_append_left _ member)
  have produced := course_environment (ofPath Machine.ofEmptyFile ⟨"config.yaml"⟩) _ earlier
  rw [course_snoc] at produced
  have restarted := restart (untouched_of_no_disk alone)
    ((course_environment _ migrating steady).trans produced.symm)
  exact ⟨migrated_installed, ⟨text, editable, sum⟩, restarted.1⟩

end LastGood.Session
