import LastGood.Config.File
import LastGood.Proofs.Config.ReadBack
import LastGood.Proofs.Disk.FromRoot
import LastGood.Proofs.Store.Memory
import LastGood.Proofs.Tree.Marks

/-!
# Reading a file without a store

A file that is there is read without a store as with one: the same texts are configurations, of the
same values, and what is wrong with another text is wrong in the same place. Only the origin that an
error names is another one.

A file that is not there is passed over. A directory above may have a file of that path, and then
that one is read instead; and if none has, the defaults hold. So a missing file is no error here,
while a store fails. Nothing is said of a file that is there and may not be read.
-/

namespace LastGood

/-- Where a value of a text comes from, when the text is that of a file. -/
def Origin.inFile (shown : String) : Origin → Origin
  | .yamlText => .yamlFile shown
  | other => other

/-- The same error with other origins. -/
def SettingsError.mapOrigin (f : Origin → Origin) : SettingsError → SettingsError
  | .malformed error origin => .malformed error (f origin)
  | .unreadable reason origin => .unreadable reason (f origin)
  | .mismatch fault => .mismatch (fault.mapMark f)
  | .crash text => .crash text

namespace Settings

/-- A configuration is read from settings whatever their origins are. -/
theorem config_map_marks (f : Origin → Origin) (settings : Tree Origin) :
    config (settings.mapMarks f) = (config settings).mapError (SettingsError.mapOrigin f) := by
  unfold config
  rw [(Config.record_follows f strictness).read strictness settings]
  cases (Config.record strictness).read strictness settings <;> rfl

/-- The defaults come from no text. -/
theorem defaults_in_file (shown : String) :
    defaults.mapMarks (Origin.inFile shown) = defaults := Config.map_marks_sorted ..

/-- The settings of a file are those of its text, from another origin. -/
theorem of_yaml_in_file (shown text : String) :
    ofYaml (.yamlFile shown) text =
      ((ofYaml .yamlText text).map (Tree.mapMarks (Origin.inFile shown))).mapError
        (SettingsError.mapOrigin (Origin.inFile shown)) := by
  have sources : (fun source => Origin.inFile shown (Origin.yamlText.orSource source)) =
      (Origin.yamlFile shown).orSource := by
    funext source
    rcases source with _ | _ | number <;> rfl
  unfold ofYaml
  cases Yaml.entriesOf text with
  | error error => rfl
  | ok entries =>
    simp only [Except.map, map_error_ok, Tree.map_marks_overlaid, defaults_in_file,
      Tree.map_marks_map_marks, sources]

end Settings

namespace Config

/-- The configuration that a file of these bytes holds, if it is shown with that path. -/
def ofBytes (shown : String) (content : ByteArray) : Except SettingsError Config :=
  match String.fromUTF8? content with
  | some text => (ofYaml text).mapError (SettingsError.mapOrigin (Origin.inFile shown))
  | none => .error (.unreadable DiskFault.notText.text (.yamlFile shown))

variable {machine : Machine} {path file : Path} {content : ByteArray} {config : Config}

/-- Bytes hold a configuration when they are those of a text that writes it. -/
theorem of_bytes_ok_iff {shown : String} :
    ofBytes shown content = .ok config ↔
      ∃ text : String, content = text.toUTF8 ∧ ofYaml text = .ok config := by
  unfold ofBytes
  constructor
  · intro held
    split at held
    case h_1 text found =>
      refine ⟨text, Text.from_utf8_eq_some_iff.mp found, ?_⟩
      cases written : ofYaml text with
      | ok other =>
        rw [written] at held
        exact held
      | error error =>
        rw [written] at held
        cases held
    case h_2 => cases held
  · rintro ⟨text, bytes, written⟩
    simp only [Text.from_utf8_eq_some_iff.mpr bytes, written, map_error_ok]

/-- The file that is found is read as its bytes say. -/
theorem of_file_found (found : find? machine path = some file)
    (reading : machine.disk.read machine.directory file = .ok content) :
    ofFile machine path = ofBytes (shownPath machine file) content := by
  simp only [ofFile, found, Machine.readText, Disk.readText, reading, bind, Except.bind, ofBytes]
  cases String.fromUTF8? content with
  | none => rfl
  | some text =>
    simp only [pure, Except.pure, map_error_ok, Settings.of_yaml_in_file, ofYaml, bind, Except.bind]
    cases Settings.ofYaml .yamlText text with
    | error error => rfl
    | ok settings => exact Settings.config_map_marks (Origin.inFile _) settings

/-- Where no candidate is a file, the defaults hold. -/
theorem of_file_nowhere (nowhere : find? machine path = none) : ofFile machine path = .ok {} := by
  have read := read_sorted (show ({} : Config).isText from rfl) Settings.strictness Origin.defaults
  simp only [ofFile, nowhere, Settings.config, Settings.defaults, read, map_error_ok]

/-- A path is that of a file when it can be read. -/
theorem is_file_iff (disk : Disk) (directory : Location) (path : Path) :
    disk.isFile directory path = true ↔ ∃ content, disk.read directory path = .ok content := by
  unfold Disk.isFile
  cases disk.read directory path <;> simp

/-- The first candidate that can be read is found. -/
theorem find_of_first {before after : List Path}
    (split : candidates machine path = before ++ file :: after)
    (passed : ∀ earlier ∈ before, ∀ found, machine.disk.read machine.directory earlier ≠ .ok found)
    (reading : machine.disk.read machine.directory file = .ok content) :
    find? machine path = some file := by
  unfold find?
  rw [split, List.find?_eq_some_iff_append]
  refine ⟨(is_file_iff ..).mpr ⟨content, reading⟩, before, after, rfl, ?_⟩
  intro earlier member
  rw [Bool.not_eq_true', Bool.eq_false_iff]
  intro isFile
  obtain ⟨found, reads⟩ := (is_file_iff ..).mp isFile
  exact passed earlier member found reads

/-- The first candidate of a relative path is the path in the current directory. -/
theorem candidates_of_relative (machine : Machine) (relative : path.isAbsolute = false) :
    ∃ others, candidates machine path = machine.directoryPath.join path :: others := by
  have first : ∃ others, directoriesUp machine.directory.reverse = machine.directory :: others := by
    cases reversed : machine.directory.reverse with
    | nil =>
      have root : machine.directory = [] := List.reverse_eq_nil_iff.mp reversed
      exact ⟨[], by rw [root]; rfl⟩
    | cons name rest =>
      have whole : (name :: rest).reverse = machine.directory := by
        rw [← reversed, List.reverse_reverse]
      exact ⟨directoriesUp rest, by rw [directoriesUp, whole]⟩
  obtain ⟨others, split⟩ := first
  unfold candidates
  rw [if_neg (by simp [relative]), split]
  exact ⟨_, rfl⟩

/-- A file that can be read at a path is the one that is found, or one with the same bytes. -/
theorem find_of_read (reaches : path.isAbsolute = true ∨ machine.Reaches path)
    (reading : machine.disk.read machine.directory path = .ok content) :
    ∃ file, find? machine path = some file ∧
      machine.disk.read machine.directory file = .ok content := by
  cases rooted : path.isAbsolute with
  | true =>
    refine ⟨path, @find_of_first machine path path content [] [] ?_ (by simp) reading, reading⟩
    simp [candidates, rooted]
  | false =>
    have reaches : machine.Reaches path := by simpa [rooted] using reaches
    obtain ⟨others, split⟩ := candidates_of_relative machine rooted
    have joined := Machine.read_from_root reaches rooted reading
    exact ⟨_, @find_of_first machine path _ content [] others split (by simp) joined, joined⟩

/-- A snapshot that a new store loads was made of the text of the file. -/
theorem editable_of_load {snapshot : Snapshot Config}
    (loaded : (⟨path, none, machine⟩ : FileStore).load.outcome = .ok (some snapshot)) :
    ∃ text, machine.disk.read machine.directory path = .ok text.toUTF8 ∧
      ofYaml text = .ok snapshot.editable := by
  have ended := FileStore.load_end ⟨path, none, machine⟩
  rw [loaded] at ended
  have read := FileStore.load_read_text ⟨path, none, machine⟩
  obtain ⟨text, held, parsed⟩ := ended.handed_out.text
  rw [read, FileStore.read_text_ok_iff] at held
  exact ⟨text, held, ((FileStore.snapshot_of_ok_iff _ _ _).mp parsed).1⟩

/-- What is read from a path without a store, for every disk, every current directory and every
path.

If the file at the path can be read, and the path is one from the root or the current directory
is reached from there by its own names, a configuration is read when the bytes are those of a text
that writes it, and no other one; everything else is an error. So a snapshot that a new store loads
there is edited as that configuration.

The first candidate that can be read is what is read, with its own origin in errors. If none can
be read, nothing is an error: the defaults hold, while a new store fails at a path from the root.

That a candidate cannot be read means here that no file is there: on a disk of this kind every file
may be read (`Disk.isFile`), so a file to which the permission is missing is none of these cases. -/
theorem of_file_decided (machine : Machine) (path : Path) :
    (∀ content, path.isAbsolute = true ∨ machine.Reaches path →
      machine.disk.read machine.directory path = .ok content →
      (∀ config, ofFile machine path = .ok config ↔
        ∃ text : String, content = text.toUTF8 ∧ ofYaml text = .ok config) ∧
      ∀ snapshot, (⟨path, none, machine⟩ : FileStore).load.outcome = .ok (some snapshot) →
        ofFile machine path = .ok snapshot.editable) ∧
    (∀ before file after content, candidates machine path = before ++ file :: after →
      (∀ earlier ∈ before, ∀ found,
        machine.disk.read machine.directory earlier ≠ .ok found) →
      machine.disk.read machine.directory file = .ok content →
      ofFile machine path = ofBytes (shownPath machine file) content) ∧
    ((∀ candidate ∈ candidates machine path, ∀ found,
        machine.disk.read machine.directory candidate ≠ .ok found) →
      ofFile machine path = .ok {} ∧
        (path.isAbsolute = true →
          ∃ error, (⟨path, none, machine⟩ : FileStore).load.outcome = .failed error)) := by
  refine ⟨?present, ?first, ?nowhere⟩
  case present =>
    intro content reaches reading
    obtain ⟨file, found, read⟩ := find_of_read reaches reading
    have decided : ∀ config, ofFile machine path = .ok config ↔
        ∃ text : String, content = text.toUTF8 ∧ ofYaml text = .ok config := by
      intro config
      rw [of_file_found found read]
      exact of_bytes_ok_iff
    refine ⟨decided, ?_⟩
    intro snapshot loaded
    obtain ⟨text, held, edited⟩ := editable_of_load loaded
    exact (decided _).mpr ⟨text, Except.ok.inj (reading.symm.trans held), edited⟩
  case first =>
    intro before file after content split passed reading
    exact of_file_found (find_of_first split passed reading) reading
  case nowhere =>
    intro unread
    constructor
    · refine of_file_nowhere (List.find?_eq_none.mpr ?_)
      intro candidate member isFile
      obtain ⟨found, reads⟩ := (is_file_iff ..).mp isFile
      exact unread candidate member found reads
    · intro rooted
      have missing := unread path (by simp [candidates, rooted])
      cases read : (⟨path, none, machine⟩ : FileStore).readText with
      | ok text => exact absurd ((FileStore.read_text_ok_iff _ _).mp read) (missing _)
      | error error => exact ⟨error, by simp only [FileStore.load, read]⟩

/-- A machine whose current directory has a file. -/
def servedMachine : Machine where
  disk := ⟨[(["srv"], .directory), (["srv", "config.yaml"], .file "schema_version: 7\n".toUTF8)]⟩
  directory := ["srv"]

/-- That file is read as its text says. -/
theorem of_file_served :
    servedMachine.Reaches ⟨"config.yaml"⟩ ∧
      servedMachine.disk.read servedMachine.directory ⟨"config.yaml"⟩ =
        .ok "schema_version: 7\n".toUTF8 ∧
      ofFile servedMachine ⟨"config.yaml"⟩ = .ok { schemaVersion := 7 } := by
  have reaches : servedMachine.Reaches ⟨"config.yaml"⟩ := by
    refine ⟨?_, rfl, by decide⟩
    intro name member
    rw [List.mem_singleton.mp member]
    exact ⟨by decide, by decide, by decide⟩
  have reading : servedMachine.disk.read servedMachine.directory ⟨"config.yaml"⟩ =
      .ok "schema_version: 7\n".toUTF8 := rfl
  have written : ofYaml "schema_version: 7\n" = .ok { schemaVersion := 7 } := by decide +kernel
  have decided := ((of_file_decided servedMachine ⟨"config.yaml"⟩).1 _ (.inr reaches) reading).1
  exact ⟨reaches, reading, (decided _).mpr ⟨_, rfl, written⟩⟩

/-- Where there is no file at all, a new store fails, and yet reading the path without a store gives
the defaults. -/
theorem missing_file_reads_defaults :
    (∃ error, (⟨⟨"config.yaml"⟩, none, { disk := .empty }⟩ : FileStore).load.outcome =
        .failed error) ∧
      ofFile { disk := .empty } ⟨"config.yaml"⟩ = .ok {} :=
  ⟨⟨_, rfl⟩, by decide +kernel⟩

end Config

end LastGood
