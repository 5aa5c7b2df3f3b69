import LastGood.Command
import LastGood.Config.Yaml
import LastGood.Proofs.Tree.Parts
import LastGood.Proofs.Yaml.Ordered

/-!
# Configurations that can be written

A configuration can be written down when its directory has a text. Only in memory it can be without
one: whatever is read has one, because the directory is read as a text or is the default one. So
what was read can be written again.
-/

namespace LastGood

variable {α γ : Type}

/-- What an error is that was put in other words is no value, and a value is the same. -/
theorem ok_of_map_error {ε ε' : Type} {reading : Except ε γ} {rephrase : ε → ε'} {value : γ}
    (read : reading.mapError rephrase = .ok value) : reading = .ok value := by
  cases reading with
  | error fault => cases read
  | ok other => exact congrArg Except.ok (Except.ok.inj read)

namespace Record

/-- No field of a record takes a property from the value that it changes. -/
def Keeps (record : Record α γ) (holds : γ → Prop) : Prop :=
  ∀ field ∈ record.fields, ∀ value tree next,
    holds value → field.read value tree = .ok next → holds next

variable {record : Record α γ} {holds : γ → Prop}

/-- So reading entries does not take it away. -/
theorem Keeps.read_entries (keeps : record.Keeps holds) {entries : List (String × Tree α)}
    {value result : γ} (given : holds value)
    (read : record.readEntries value entries = .ok result) : holds result := by
  induction entries generalizing value with
  | nil => exact Except.ok.inj read ▸ given
  | cons entry rest ih =>
    simp only [readEntries] at read
    split at read
    · exact ih given read
    case _ field found =>
      obtain ⟨next, changed, read⟩ := ok_of_bind read
      have kept := keeps field (List.mem_of_find?_eq_some found) value entry.2 next given
        (ok_of_map_error changed)
      exact ih kept read

/-- Neither does reading items as the fields that are left. -/
theorem Keeps.read_positions (keeps : record.Keeps holds) {tree : Tree α} {value : γ}
    {position : Nat} {fields : List (Field α γ)} {items : List (Tree α)}
    {result : γ × List (Tree α)} (inner : ∀ field ∈ fields, field ∈ record.fields)
    (given : holds value)
    (read : record.readPositions tree value position fields items = .ok result) :
    holds result.1 := by
  induction fields generalizing value position items with
  | nil => exact Except.ok.inj read ▸ given
  | cons field fields ih =>
    have later := fun {value position items} =>
      @ih value position items fun other member => inner other (List.mem_cons_of_mem _ member)
    cases items with
    | nil =>
      simp only [readPositions] at read
      split at read
      · cases read
      · exact later given read
    | cons item items =>
      obtain ⟨next, changed, read⟩ := ok_of_bind read
      exact later (keeps field (inner field List.mem_cons_self) value item next given
        (ok_of_map_error changed)) read

/-- A record whose blank value has the property is read as values that have it. -/
theorem Keeps.read (keeps : record.Keeps holds) (blank : holds record.blank)
    {strictness : Strictness} {tree : Tree α} {value : γ}
    (read : record.read strictness tree = .ok value) : holds value := by
  cases tree with
  | map mark entries =>
    obtain ⟨made, entered, read⟩ := ok_of_bind read
    have kept := keeps.read_entries blank entered
    split at read
    · exact Except.ok.inj read ▸ kept
    · cases read
  | list mark items =>
    obtain ⟨⟨made, extra⟩, entered, read⟩ := ok_of_bind read
    have kept := keeps.read_positions (fun _ member => member) blank entered
    simp only at read
    split at read
    · cases read
    · exact Except.ok.inj read ▸ kept
  | null | bool | number | text => cases read

end Record

/-- Reading a field of server settings leaves them with a directory that has a text. -/
theorem ServerConfig.keeps_text :
    (record : Record α ServerConfig).Keeps fun server => server.artifactsDir.text?.isSome := by
  intro field member value tree next given changed
  simp only [record, List.mem_cons, List.not_mem_nil, or_false] at member
  rcases member with rfl | rfl | rfl | rfl
  case inr.inr.inl =>
    obtain ⟨directory, settled, rfl⟩ := read_of_map changed
    obtain ⟨text, _, rfl⟩ := read_of_map settled
    rfl
  all_goals
    obtain ⟨part, _, rfl⟩ := read_of_map changed
    exact given

/-- What is written has a directory with a text in it. -/
theorem Directory.writing_ok_iff {directory : Directory} {written tree : γ} :
    directory.writing written = .ok tree ↔ directory.text?.isSome ∧ written = tree := by
  unfold writing
  split
  case isTrue text => simp [text]
  case isFalse foreign => simp [foreign]

namespace Config

/-- Reading a field of a configuration leaves one that can be written. -/
theorem keeps_text (strictness : Strictness) :
    (record strictness : Record α Config).Keeps fun config => config.isText := by
  intro field member value tree next given changed
  simp only [record, List.mem_cons, List.not_mem_nil, or_false] at member
  rcases member with rfl | rfl | rfl
  case inr.inl =>
    obtain ⟨server, settled, rfl⟩ := read_of_map changed
    exact ServerConfig.keeps_text.read rfl settled
  all_goals
    obtain ⟨part, _, rfl⟩ := read_of_map changed
    exact given

/-- A configuration that is read can be written. -/
theorem is_text_of_read {strictness : Strictness} {tree : Tree α} {config : Config}
    (read : (record strictness).read strictness tree = .ok config) : config.isText :=
  (keeps_text strictness).read rfl read

/-- So can one that a YAML text writes. -/
theorem is_text_of_yaml {text : String} {config : Config} (read : ofYaml text = .ok config) :
    config.isText := by
  obtain ⟨settings, _, read⟩ := ok_of_bind read
  exact is_text_of_read (ok_of_map_error read)

/-- So can one that a YAML text writes with overrides. -/
theorem is_text_of_runtime {environment : Environment} {text : String} {config : Config}
    (read : runtimeOfYaml environment text = .ok config) : config.isText := by
  obtain ⟨overrides, _, read⟩ := ok_of_bind read
  obtain ⟨settings, _, read⟩ := ok_of_bind read
  exact is_text_of_read (ok_of_map_error read)

/-- A configuration whose directory has a text is written as such. -/
theorem written_by_of_text {config : Config} (text : config.isText) (write : Config → γ) :
    config.writtenBy write = .ok (write config) := if_pos text

/-- One whose directory has none is not written at all. -/
theorem written_by_of_foreign {config : Config} (foreign : config.isText = false)
    (write : Config → γ) : config.writtenBy write = .error Directory.foreignText :=
  if_neg (by simpa [isText] using foreign)

end Config

/-- A directory whose name is no text. -/
def Directory.foreign : Directory := ⟨.bytes ⟨#[255]⟩ rfl⟩

/-- A command that chooses that directory. -/
def Command.estranging : Command Config where
  update config :=
    ({ config with server := { config.server with artifactsDir := .foreign } }, .accepted)

end LastGood
