import LastGood.Health
import LastGood.Snapshot
import LastGood.Proofs.Config.Parts
import LastGood.Proofs.Config.ReadBack
import LastGood.Proofs.Json.Extended
import LastGood.Proofs.Json.ReadBack

/-!
# JSON forms

Configurations, reports of health and the outcomes of saving and loading are exchanged as JSON. Each
form decodes what it encodes: the value is read again from its JSON, also when the keys of any map
stand in another order and keys were added that mean nothing there. So different values have
different JSON, and what was read once and written is read and written the same ever after. Only a
directory without a text keeps a value from having JSON at all.
-/

namespace LastGood

open Entries (Distinct)
open Json (Decodes Fits Proper)

variable {hidden : List String} {depth : Nat}

/-- Server settings whose directory has a text are decoded. -/
theorem ServerConfig.decodes {server : ServerConfig} (written : server.artifactsDir.text?.isSome)
    (strictness : Strictness) :
    Decodes hidden (server.toTree ()) (record.read strictness) server := by
  refine .map made strictness ?_
  simp only [slots, List.forall_mem_cons, List.not_mem_nil, false_imp_iff, implies_true, and_true]
  refine ⟨⟨_, rfl, .text rfl⟩, ⟨_, rfl, .number (Tree.read_uint16_number ..)⟩,
    ⟨_, rfl, .text (Directory.read_text written ())⟩, _, rfl, ?_⟩
  cases server.jobTimeoutSecs with
  | none => exact .null rfl
  | some seconds =>
    exact .number (by simp only [Tree.readOptional, Tree.read_uint64_number, Except.map])

/-- A pipeline is decoded. -/
theorem PipelineConfig.decodes (strictness : Strictness) (pipeline : PipelineConfig) :
    Decodes hidden (pipeline.toTree ()) (record.read strictness) pipeline := by
  refine .map made strictness ?_
  simp only [slots, List.forall_mem_cons, List.not_mem_nil, false_imp_iff, implies_true, and_true]
  exact ⟨⟨_, rfl, .text rfl⟩, ⟨_, rfl, .text rfl⟩, ⟨_, rfl, .list fun _ _ => .text rfl⟩,
    _, rfl, .bool rfl⟩

/-- A configuration that can be written is decoded. -/
theorem Config.decodes {config : Config} (written : config.isText) (strictness : Strictness) :
    Decodes hidden (config.toTree ()) ((record strictness).read strictness) config := by
  refine .map (made strictness) strictness ?_
  simp only [slots, List.forall_mem_cons, List.not_mem_nil, false_imp_iff, implies_true, and_true]
  exact ⟨⟨_, rfl, .number (Tree.read_uint32_number ..)⟩,
    ⟨_, rfl, ServerConfig.decodes written strictness⟩,
    _, rfl, .list fun pipeline _ => PipelineConfig.decodes strictness pipeline⟩

/-- A scope is decoded. -/
theorem HealthScope.decodes (scope : HealthScope) :
    Decodes hidden (scope.toTree ()) read scope := by
  cases scope
  exact .text rfl

/-- A state of saving is decoded. -/
theorem SaveState.decodes (state : SaveState) : Decodes hidden (state.toTree ()) read state := by
  cases state <;> exact .text rfl

namespace HealthStatus

/-- The parts of the texts of an error. -/
def Detail.slots {α : Type} : List (Slot α Detail) := [
  ⟨"message", String, Tree.readText "a string", message,
    fun detail part => { detail with message := part }, none⟩,
  ⟨"description", String, Tree.readText "a string", description,
    fun detail part => { detail with description := part }, none⟩]

/-- The texts of an error are made of their parts. -/
theorem Detail.made {α : Type} : (record : Record α Detail).Made slots where
  fields := rfl
  keys := by simp [slots]
  get_set := by simp [slots]
  get_set_of_ne := by simp [slots]
  blank := by simp [slots]
  ext := by
    rintro ⟨⟩ ⟨⟩
    simp [slots]

/-- A status is decoded. The name of an error stands among its texts, where it has no part. -/
theorem decodes (status : HealthStatus) : Decodes hidden (status.toTree ()) read status := by
  intro other extended
  cases status with
  | healthy =>
    obtain ⟨others, rfl, same⟩ := extended.of_map
    have tag : Entries.get? "status" others = some (.text () "healthy") := same.found_text rfl
    rw [Reads, read, tag]
    rfl
  | error message description =>
    have detail : Reads (Detail.record.read ⟨false⟩) other ⟨message, description⟩ := by
      refine Decodes.map Detail.made ⟨false⟩ ?_ other extended
      simp only [Detail.slots, List.forall_mem_cons, List.not_mem_nil, false_imp_iff, implies_true,
        and_true]
      exact ⟨⟨_, rfl, .text rfl⟩, _, rfl, .text rfl⟩
    obtain ⟨others, rfl, same⟩ := extended.of_map
    have tag : Entries.get? "status" others = some (.text () "error") := same.found_text rfl
    rw [Reads] at detail
    rw [Reads, read, tag]
    have named : (Tree.text () "error").readTag known = .ok true := rfl
    simp only [named, bind, Except.bind, if_true, detail]
    rfl

end HealthStatus

namespace HealthState

/-- The parts of a report. -/
def slots {α : Type} : List (Slot α HealthState) := [
  ⟨"scope", HealthScope, HealthScope.read, scope,
    fun state part => { state with scope := part }, none⟩,
  ⟨"status", HealthStatus, HealthStatus.read, status,
    fun state part => { state with status := part }, none⟩]

/-- Reports are made of their parts. -/
theorem made {α : Type} : (record : Record α HealthState).Made slots where
  fields := rfl
  keys := by simp [slots]
  get_set := by simp [slots]
  get_set_of_ne := by simp [slots]
  blank := by simp [slots]
  ext := by
    rintro ⟨⟩ ⟨⟩
    simp [slots]

/-- A report is decoded. -/
theorem decodes (strictness : Strictness) (state : HealthState) :
    Decodes hidden (state.toTree ()) (record.read strictness) state := by
  refine .map made strictness ?_
  simp only [slots, List.forall_mem_cons, List.not_mem_nil, false_imp_iff, implies_true, and_true]
  exact ⟨⟨_, rfl, state.scope.decodes⟩, _, rfl, state.status.decodes⟩

end HealthState

/-- A validity is decoded, unless it is given a message that it does not have. -/
theorem ConfigValidity.decodes (kept : "message" ∈ hidden) (validity : ConfigValidity) :
    Decodes hidden (validity.toTree ()) read validity := by
  intro other extended
  cases validity with
  | valid =>
    obtain ⟨others, rfl, same⟩ := extended.of_map
    have tag : Entries.get? "status" others = some (.text () "valid") := same.found_text rfl
    have missing := same.missing "message" kept rfl
    rw [Reads, read, tag]
    have named : (Tree.text () "valid").readChoice known = .ok false := rfl
    simp only [named, missing]
    rfl
  | invalid message =>
    obtain ⟨others, rfl, same⟩ := extended.of_map
    have tag : Entries.get? "status" others = some (.text () "invalid") := same.found_text rfl
    have content : Entries.get? "message" others = some (.text () message) := same.found_text rfl
    rw [Reads, read, tag]
    have named : (Tree.text () "invalid").readChoice known = .ok true := rfl
    simp only [named, content]
    rfl

/-- The JSON of server settings has no key twice. -/
theorem ServerConfig.proper (server : ServerConfig) : Proper (server.toTree ()) := by
  refine .map (by simp [Distinct]) ?_
  cases server.jobTimeoutSecs <;> simp [Proper.text, Proper.number, Proper.null]

/-- The JSON of a pipeline has no key twice. -/
theorem PipelineConfig.proper (pipeline : PipelineConfig) : Proper (pipeline.toTree ()) := by
  have materials : Proper (.list () (pipeline.materials.map (.text ()))) :=
    .list (by simp [Proper.text])
  exact .map (by simp [Distinct]) (by simp [Proper.text, Proper.bool, materials])

/-- The JSON of a configuration has no key twice. -/
theorem Config.proper (config : Config) : Proper (config.toTree ()) := by
  have pipelines : Proper (.list () (config.pipelines.map (PipelineConfig.toTree ()))) :=
    .list (by simp [PipelineConfig.proper])
  exact .map (by simp [Distinct]) (by simp [Proper.number, ServerConfig.proper, pipelines])

/-- The JSON of a status has no key twice. -/
theorem HealthStatus.proper (status : HealthStatus) : Proper (status.toTree ()) := by
  cases status <;> exact .map (by simp [Distinct]) (by simp [Proper.text])

/-- The JSON of a report has no key twice. -/
theorem HealthState.proper (state : HealthState) : Proper (state.toTree ()) :=
  .map (by simp [Distinct]) (by simp [HealthScope.toTree, Proper.text, HealthStatus.proper])

/-- The JSON of a validity has no key twice. -/
theorem ConfigValidity.proper (validity : ConfigValidity) : Proper (validity.toTree ()) := by
  cases validity <;> exact .map (by simp [Distinct]) (by simp [Proper.text])

/-- Server settings fit where there is room for one container. -/
theorem ServerConfig.fits (server : ServerConfig) :
    Fits (depth + 1) (server.toTree ()) := by
  have port : server.port.toNat < Number.wordBound :=
    Nat.lt_trans server.port.toNat_lt (by decide)
  refine .map ?_
  cases server.jobTimeoutSecs with
  | none => simp [Fits.text, Fits.number port, Fits.null]
  | some seconds =>
    have word : seconds.toNat < Number.wordBound := seconds.toNat_lt
    simp [Fits.text, Fits.number port, Fits.number word]

/-- A pipeline fits where there is room for two. -/
theorem PipelineConfig.fits (pipeline : PipelineConfig) :
    Fits (depth + 2) (pipeline.toTree ()) := by
  have materials : Fits (depth + 1) (.list () (pipeline.materials.map (.text ()))) :=
    .list (by simp [Fits.text])
  exact .map (by simp [Fits.text, Fits.bool, materials])

/-- A configuration fits where there is room for four. -/
theorem Config.fits (config : Config) : Fits (depth + 4) (config.toTree ()) := by
  have version : config.schemaVersion.toNat < Number.wordBound :=
    Nat.lt_trans config.schemaVersion.toNat_lt (by decide)
  have pipelines : Fits (depth + 3)
      (.list () (config.pipelines.map (PipelineConfig.toTree ()))) :=
    .list (by simp [PipelineConfig.fits])
  exact .map (by simp [Fits.number version, ServerConfig.fits, pipelines])

/-- A status fits where there is room for one. -/
theorem HealthStatus.fits (status : HealthStatus) : Fits (depth + 1) (status.toTree ()) := by
  cases status <;> exact .map (by simp [Fits.text])

/-- A report fits where there is room for two. -/
theorem HealthState.fits (state : HealthState) : Fits (depth + 2) (state.toTree ()) :=
  .map (by simp [HealthScope.toTree, Fits.text, HealthStatus.fits])

/-- A validity fits where there is room for one. -/
theorem ConfigValidity.fits (validity : ConfigValidity) :
    Fits (depth + 1) (validity.toTree ()) := by
  cases validity <;> exact .map (by simp [Fits.text])

namespace Json

/-- What is exchanged as JSON. -/
inductive Form where
  /-- A configuration. -/
  | config
  /-- Server settings. -/
  | server
  /-- A pipeline. -/
  | pipeline
  /-- The area of a report. -/
  | scope
  /-- What a report says. -/
  | status
  /-- A report. -/
  | report
  /-- The outcome of saving. -/
  | saved
  /-- The outcome of loading. -/
  | validity
  deriving DecidableEq, Repr

namespace Form

/-- The values of a form. -/
abbrev Value : Form → Type
  | config => Config
  | server => ServerConfig
  | pipeline => PipelineConfig
  | scope => HealthScope
  | status => HealthStatus
  | report => HealthState
  | saved => SaveState
  | validity => ConfigValidity

/-- Whether every directory in a value has a text. -/
def isText : (form : Form) → form.Value → Bool
  | config => Config.isText
  | server => fun server => server.artifactsDir.text?.isSome
  | _ => fun _ => true

/-- A value as JSON, or why it has none. -/
def encode : (form : Form) → form.Value → Except String Json
  | config => Config.writtenBy (Config.toTree ())
  | server => fun server => server.artifactsDir.writing (server.toTree ())
  | pipeline => fun pipeline => .ok (pipeline.toTree ())
  | scope => fun scope => .ok (scope.toTree ())
  | status => fun status => .ok (status.toTree ())
  | report => fun report => .ok (report.toTree ())
  | saved => fun saved => .ok (saved.toTree ())
  | validity => fun validity => .ok (validity.toTree ())

/-- How a value is read from JSON. -/
def decode : (form : Form) → Reader Unit form.Value
  | config => (Config.record strictness).read strictness
  | server => ServerConfig.record.read strictness
  | pipeline => PipelineConfig.record.read strictness
  | scope => HealthScope.read
  | status => HealthStatus.read
  | report => HealthState.record.read strictness
  | saved => SaveState.read
  | validity => ConfigValidity.read

/-- The keys that mean something to a form though not every value has them. -/
def reserved : Form → List String
  | validity => ["message"]
  | _ => []

/-- The value that a JSON text denotes. -/
def ofText? (form : Form) (text : String) : Option form.Value :=
  (Json.ofText? text).bind fun json => (form.decode json).toOption

/-- A value has JSON when every directory in it has a text. -/
theorem encode_of_text (form : Form) {value : form.Value} (written : form.isText value) :
    ∃ json, form.encode value = .ok json := by
  cases form with
  | config | server => exact ⟨_, if_pos written⟩
  | pipeline | scope | status | report | saved | validity => exact ⟨_, rfl⟩

/-- Otherwise it has none. -/
theorem encode_of_foreign (form : Form) {value : form.Value} (foreign : form.isText value = false) :
    form.encode value = .error Directory.foreignText := by
  cases form with
  | config => exact Config.written_by_of_foreign foreign _
  | server => exact if_neg (by simpa [isText] using foreign)
  | pipeline | scope | status | report | saved | validity => cases foreign

/-- What is decoded has JSON again. -/
theorem is_text_of_decode (form : Form) {json : Json} {value : form.Value}
    (decoded : form.decode json = .ok value) : form.isText value := by
  cases form with
  | config => exact Config.is_text_of_read decoded
  | server => exact ServerConfig.keeps_text.read rfl decoded
  | pipeline | scope | status | report | saved | validity => rfl

/-- What JSON has in it that encodes a value: no key stands twice in a map, a text can hold it, and
the value is decoded from it. -/
structure Encodes (form : Form) (value : form.Value) (json : Json) : Prop where
  /-- No map has a key twice. -/
  proper : json.Proper
  /-- A text can hold it. -/
  fits : Fits maxDepth json
  /-- The value is decoded. -/
  decodes : Decodes form.reserved json form.decode value

/-- Every form encodes its values so. -/
theorem encodes_of_encode (form : Form) {value : form.Value} {json : Json}
    (encoded : form.encode value = .ok json) : form.Encodes value json := by
  cases form with
  | config =>
    obtain ⟨written, rfl⟩ := Directory.writing_ok_iff.mp encoded
    exact ⟨Config.proper value, Config.fits value, Config.decodes written strictness⟩
  | server =>
    obtain ⟨written, rfl⟩ := Directory.writing_ok_iff.mp encoded
    exact ⟨ServerConfig.proper value, ServerConfig.fits value,
      ServerConfig.decodes written strictness⟩
  | pipeline =>
    cases encoded
    exact ⟨PipelineConfig.proper value, PipelineConfig.fits value,
      PipelineConfig.decodes strictness value⟩
  | scope =>
    cases encoded
    exact ⟨.text, .text, HealthScope.decodes value⟩
  | status =>
    cases encoded
    exact ⟨HealthStatus.proper value, HealthStatus.fits value, HealthStatus.decodes value⟩
  | report =>
    cases encoded
    exact ⟨HealthState.proper value, HealthState.fits value, HealthState.decodes strictness value⟩
  | saved =>
    cases encoded
    exact ⟨.text, .text, SaveState.decodes value⟩
  | validity =>
    cases encoded
    exact ⟨ConfigValidity.proper value, ConfigValidity.fits value,
      ConfigValidity.decodes (by simp [reserved]) value⟩

/-- The value is read from whatever text such JSON is read from that extends what encodes it. -/
theorem Encodes.of_text {form : Form} {value : form.Value} {encoded json : Json} {text : String}
    (encodes : form.Encodes value encoded) (read : Json.ofText? text = some json)
    (extended : Extended form.reserved encoded json) : form.ofText? text = some value := by
  have decoded : form.decode json = .ok value := encodes.decodes json extended
  rw [ofText?, read, Option.bind_some, decoded]
  rfl

/-- So it is read from the text that is written of it in any layout. -/
theorem Encodes.of_layout {form : Form} {value : form.Value} {encoded : Json}
    (encodes : form.Encodes value encoded) (layout : Layout) :
    form.ofText? (layout.text encoded) = some value :=
  encodes.of_text (layout.of_text_text encodes.fits) encodes.proper.extended_sorted

/-- Every form decodes what it encodes, also from its text, compact or spread over lines, and also
with the keys of any map in another order and with keys that mean nothing there, from whatever text
such JSON is read. Every value has JSON but for one with a directory that has no text. Different
values have different JSON and different texts. Whatever was decoded has JSON, from which the same
is decoded, and so it is encoded and decoded the same ever after. -/
theorem decodes_encoded (form : Form) :
    (∀ value, if form.isText value then ∃ json, form.encode value = .ok json
      else form.encode value = .error Directory.foreignText) ∧
      (∀ value encoded json, form.encode value = .ok encoded →
        Extended form.reserved encoded json → form.decode json = .ok value) ∧
      (∀ value encoded text json, form.encode value = .ok encoded →
        Json.ofText? text = some json → Extended form.reserved encoded json →
        form.ofText? text = some value) ∧
      (∀ value encoded, form.encode value = .ok encoded → form.decode encoded = .ok value ∧
        form.ofText? (spread encoded) = some value ∧
        form.ofText? (compact encoded) = some value) ∧
      (∀ value other first second, value ≠ other → form.encode value = .ok first →
        form.encode other = .ok second →
        first ≠ second ∧ spread first ≠ spread second ∧ compact first ≠ compact second) ∧
      (∀ json value, form.decode json = .ok value →
        ∃ normal, form.encode value = .ok normal ∧ form.decode normal = .ok value) := by
  have decoded : ∀ {value encoded}, form.encode value = .ok encoded →
      form.decode encoded = .ok value := fun encoded =>
    have encodes := form.encodes_of_encode encoded
    encodes.decodes _ encodes.proper.extended_self
  have laid : ∀ {value encoded}, form.encode value = .ok encoded → ∀ layout : Layout,
      form.ofText? (layout.text encoded) = some value := fun encoded =>
    (form.encodes_of_encode encoded).of_layout
  refine ⟨fun value => ?_, fun _ _ json encoded => (form.encodes_of_encode encoded).decodes json,
    fun _ _ _ _ encoded => (form.encodes_of_encode encoded).of_text,
    fun _ _ encoded => ⟨decoded encoded, laid encoded .lines, laid encoded .dense⟩, ?_, ?_⟩
  · split
    case isTrue written => exact form.encode_of_text written
    case isFalse foreign => exact form.encode_of_foreign (by simpa using foreign)
  · intro value other first second different own others
    have apart : ∀ layout : Layout, layout.text first ≠ layout.text second := fun layout same =>
      different (Option.some.inj ((laid own layout).symm.trans (same ▸ laid others layout)))
    refine ⟨fun same => ?_, apart .lines, apart .dense⟩
    exact different (Except.ok.inj ((decoded own).symm.trans (same ▸ decoded others)))
  · intro json value read
    obtain ⟨normal, encoded⟩ := form.encode_of_text (form.is_text_of_decode read)
    exact ⟨normal, encoded, decoded encoded⟩

/-- A message that looks like a name stands in front of the name, and a key that means nothing
between them. -/
theorem decodes_encoded_message_first :
    validity.decode (.map () [("message", .text () "valid"), ("code", .list () []),
      ("status", .text () "invalid")]) = .ok (.invalid "valid") := by
  obtain ⟨-, decoded, -⟩ := decodes_encoded .validity
  refine decoded (.invalid "valid") _ _ rfl ?_
  refine @Extended.map _ _ [("status", .text () "invalid"), ("message", .text () "valid")]
    [("code", .list () [])] _ rfl ?_ ?_ ?_ ?_
  · exact .cons .text (.cons .text .nil)
  · simp [reserved]
  · exact List.perm_append_singleton _ [_, _]
  · simp [Distinct]

end Form

end Json

end LastGood
