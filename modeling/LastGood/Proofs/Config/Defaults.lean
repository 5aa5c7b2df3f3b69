import LastGood.Proofs.Config.ReadBack
import LastGood.Proofs.Config.Spelling
import LastGood.Proofs.Yaml.Ordered

/-!
# Two sources of defaults

What a document leaves out has a default in two ways. A text is laid over the settings that hold
when nothing is set, and the whole is read; and a document by itself is read with the defaults of
the records that it is read as. Both ways of reading amount to what the document spells. They differ
in the version alone: a version that is left out is the current one over the settings, and zero
without them.
-/

namespace LastGood

variable {α γ : Type}

open Entries (Ascending Gives)

/-- A text writes a document: entries that the text is read as, wherever they come from. -/
def Yaml.Writes (text : String) (entries : List (String × Tree Unit)) : Prop :=
  (Yaml.entriesOf text).map (Tree.mapEntryMarks fun _ => ()) = .ok entries

/-- A document that a text writes is in order. -/
theorem Yaml.Writes.ordered {text : String} {entries : List (String × Tree Unit)}
    (writes : Writes text entries) : (Tree.map () entries).Ordered := by
  obtain ⟨source, read, rfl⟩ := read_of_map writes
  exact (entries_ordered read none).mapMarks fun _ => ()

/-- Two readings that give the same values give the same value, if any. -/
theorem to_option_eq {ε ε' : Type} {reading : Except ε γ} {other : Except ε' γ}
    (same : ∀ value, reading = .ok value ↔ other = .ok value) :
    reading.toOption = other.toOption := by
  cases reading with
  | ok value => rw [(same value).mp rfl]; rfl
  | error fault =>
    cases other with
    | ok value => cases (same value).mpr rfl
    | error fault => rfl

/-- Entries laid over others give for a key what they give by themselves, if the default is read
from the lower entries there, and what is laid over that is read as what it is related to. -/
theorem gives_overlaid {key : String} {lower upper : List (String × Tree α)} {base : Tree α}
    (below : Entries.get? key lower = some base) (ascending : Ascending upper)
    {reader : Reader α γ} {relation : Tree α → γ → Prop} {blank : Option γ} {default value : γ}
    (own : reader base = .ok default)
    (agree : ∀ tree, Entries.get? key upper = some tree →
      (Reads reader (base.overlaidBy tree) value ↔ relation tree value)) :
    Gives key (Reads reader) blank (Tree.entriesOverlaid lower upper) value ↔
      Gives key relation (some default) upper value := by
  unfold Gives
  rw [Tree.get?_overlaid key lower ascending, below]
  cases found : Entries.get? key upper with
  | none => simp [Tree.laid, Reads, own]
  | some tree => exact agree tree found

/-- Nothing but a map has a part in what is laid over it. -/
theorem Tree.overlaid_of_no_map {base : Tree α} (flat : ∀ mark entries, base ≠ .map mark entries)
    (tree : Tree α) : base.overlaidBy tree = tree := by
  cases base with
  | map mark entries => exact absurd rfl (flat mark entries)
  | _ => cases tree <;> rfl

/-- Entries laid over others give what is read under a key as they do by themselves, if the default
is read from the lower entries there, and not from a map. -/
theorem reads_overlaid {key : String} {lower upper : List (String × Tree α)} {base : Tree α}
    (below : Entries.get? key lower = some base) (ascending : Ascending upper)
    (flat : ∀ mark entries, base ≠ .map mark entries) {reader : Reader α γ} {blank : Option γ}
    {default value : γ} (own : reader base = .ok default) :
    Gives key (Reads reader) blank (Tree.entriesOverlaid lower upper) value ↔
      Gives key (Reads reader) (some default) upper value :=
  gives_overlaid below ascending own fun tree _ => by rw [Tree.overlaid_of_no_map flat]

/-- Server settings laid over the defaults are read as what they spell. -/
theorem ServerConfig.overlaid_read_iff {tree : Tree α} (ordered : tree.Ordered)
    (keyed : tree.Keyed) (strictness : Strictness) (mark : α) (server : ServerConfig) :
    Reads (record.read strictness) ((({} : ServerConfig).toTree mark).sorted.overlaidBy tree)
        server ↔ tree.Spells Spelled server := by
  have lower := (({} : ServerConfig).toTree mark).ordered_sorted
  rw [sorted_to_tree] at lower ⊢
  cases ordered with
  | @map top entries ascending inner =>
    have distinct := (Tree.ascending_overlaid lower.ascending entries).distinct
    rw [Tree.overlaidBy, Reads, made.read_map_iff distinct, Tree.spells_map_iff, spelled_iff]
    simp only [slots, List.forall_mem_cons, List.not_mem_nil, false_imp_iff, implies_true, and_true]
    refine and_congr ?_ (and_congr ?_ (and_congr ?_ ?_))
    · exact reads_overlaid rfl ascending (by simp) rfl
    · exact reads_overlaid rfl ascending (by simp) rfl
    · exact reads_overlaid rfl ascending (by simp) rfl
    · exact reads_overlaid rfl ascending (by simp) rfl
  | list inner => exact absurd rfl (keyed _ _)
  | null | bool | number | text =>
    simp [Tree.overlaidBy, Reads, Record.read, Tree.refused, Tree.Spells]

namespace Config

/-- A document laid over the defaults is read as what it spells, where a version that it leaves out
is the current one. -/
theorem overlaid_read_iff {mark : α} {entries : List (String × Tree α)}
    (ordered : (Tree.map mark entries).Ordered) (keyed : Keyed entries) (strictness : Strictness)
    (config : Config) :
    Reads ((record strictness).read strictness)
        ((({} : Config).toTree mark).sorted.overlaidBy (.map mark entries)) config ↔
      Spelled currentSchemaVersion entries config := by
  have ascending := ordered.ascending
  have lower := (({} : Config).toTree mark).ordered_sorted
  rw [sorted_to_tree] at lower ⊢
  have distinct := (Tree.ascending_overlaid lower.ascending entries).distinct
  rw [Tree.overlaidBy, Reads, (made strictness).read_map_iff distinct, spelled_iff]
  simp only [slots, List.forall_mem_cons, List.not_mem_nil, false_imp_iff, implies_true, and_true]
  refine and_congr ?_ (and_congr ?_ ?_)
  · exact reads_overlaid rfl ascending (by simp) rfl
  · exact gives_overlaid rfl ascending (ServerConfig.read_sorted rfl strictness _) fun tree found =>
      ServerConfig.overlaid_read_iff (ordered.found found) (keyed.server tree found) strictness mark
        config.server
  · refine gives_overlaid rfl ascending rfl fun tree found => ?_
    rw [Tree.overlaid_of_no_map (by simp)]
    exact PipelineConfig.reads_list_iff (ordered.found found)
      (fun top items same => keyed.pipelines top items (same ▸ found)) strictness config.pipelines

/-- What a text writes is what is read from its document laid over the defaults. -/
theorem of_yaml_ok_iff {text : String} {entries : List (String × Tree Unit)}
    (writes : Yaml.Writes text entries) (config : Config) :
    ofYaml text = .ok config ↔
      Reads ((record Settings.strictness).read Settings.strictness)
        ((({} : Config).toTree ()).sorted.overlaidBy (.map () entries)) config := by
  obtain ⟨source, written, rfl⟩ := read_of_map writes
  have unmarked : ((({} : Config).toTree ()).sorted.overlaidBy
      (.map () (Tree.mapEntryMarks (fun _ => ()) source))) =
      (Settings.defaults.overlaidBy
        ((Tree.map none source).mapMarks Origin.yamlText.orSource)).mapMarks fun _ => () := by
    rw [Tree.map_marks_overlaid, Tree.map_marks_map_marks, Settings.defaults, map_marks_sorted]
    rfl
  rw [Reads, unmarked, (record_follows _ Settings.strictness).read]
  simp only [ofYaml, Settings.ofYaml, written, Settings.config, bind, Except.bind]
  cases (record Settings.strictness).read Settings.strictness
    (Settings.defaults.overlaidBy ((Tree.map none source).mapMarks Origin.yamlText.orSource)) <;>
    simp [Except.mapError]

/-- A configuration with the given version if a document leaves it out. -/
def versioned (version : UInt32) (entries : List (String × Tree α)) (config : Config) : Config :=
  if (Entries.get? "schema_version" entries).isSome then config
  else { config with schemaVersion := version }

/-- What a document spells with one version it spells with another one, which it then has. -/
theorem Spelled.versioned {version : UInt32} {entries : List (String × Tree α)} {config : Config}
    (spelled : Spelled version entries config) (other : UInt32) :
    Spelled other entries (config.versioned other entries) := by
  obtain ⟨number, server, pipelines⟩ := spelled
  unfold Config.versioned
  unfold Gives at number
  cases found : Entries.get? "schema_version" entries with
  | none => exact ⟨by rw [Gives, found]; rfl, server, pipelines⟩
  | some tree =>
    rw [found] at number
    exact ⟨by rw [Gives, found]; exact number, server, pipelines⟩

/-- What a document spells without a version of its own has the version of who reads. -/
theorem Spelled.version_eq {version : UInt32} {entries : List (String × Tree α)} {config : Config}
    (spelled : Spelled version entries config)
    (missing : Entries.get? "schema_version" entries = none) : config.schemaVersion = version := by
  have number := spelled.schemaVersion
  rw [Gives, missing] at number
  exact (Option.some.inj number).symm

/-- The configuration that a document is read as by itself. -/
def ofDocument (strictness : Strictness) (entries : List (String × Tree Unit)) :
    Except (Fault Unit) Config :=
  (record strictness).read strictness (.map () entries)

/-- A document that a text writes, its records written as maps, is read over the defaults exactly
when it is read by itself, and the same is read but for the version: one that the document leaves
out is the current one there, and zero here. Both ways it is read as what it spells. What has no
part in a configuration has no consequence for either, and of what is read only a time limit may be
null. -/
theorem defaults_agree {text : String} {entries : List (String × Tree Unit)}
    (writes : Yaml.Writes text entries) (keyed : Keyed entries) (strictness : Strictness) :
    (ofYaml text).toOption =
        (ofDocument strictness entries).toOption.map (versioned currentSchemaVersion entries) ∧
      (∀ config, ofYaml text = .ok config ↔ Spelled currentSchemaVersion entries config) ∧
      (∀ config, ofDocument strictness entries = .ok config ↔ Spelled 0 entries config) ∧
      (∀ config, ofDocument strictness entries = .ok config → NullFree entries ∧
        (Entries.get? "schema_version" entries = none → config.schemaVersion = 0)) ∧
      (∀ other others, Yaml.Writes other others → Keyed others →
        essence others = essence entries →
        (ofYaml other).toOption = (ofYaml text).toOption ∧
        (ofDocument strictness others).toOption = (ofDocument strictness entries).toOption) := by
  have above : ∀ {text entries}, Yaml.Writes text entries → Keyed entries → ∀ config,
      ofYaml text = .ok config ↔ Spelled currentSchemaVersion entries config :=
    fun writes keyed config => (of_yaml_ok_iff writes config).trans
      (overlaid_read_iff writes.ordered keyed Settings.strictness config)
  have alone : ∀ {text entries}, Yaml.Writes text entries → Keyed entries → ∀ config,
      ofDocument strictness entries = .ok config ↔ Spelled 0 entries config :=
    fun writes keyed config => read_iff writes.ordered keyed strictness config
  refine ⟨?_, above writes keyed, alone writes keyed, ?_, ?_⟩
  · cases read : ofDocument strictness entries with
    | ok config =>
      have spelled := (alone writes keyed config).mp read
      rw [(above writes keyed _).mpr (spelled.versioned currentSchemaVersion)]
      rfl
    | error fault =>
      cases merged : ofYaml text with
      | ok config =>
        have spelled := (above writes keyed config).mp merged
        cases read.symm.trans ((alone writes keyed _).mpr (spelled.versioned 0))
      | error fault => rfl
  · intro config read
    have spelled := (alone writes keyed config).mp read
    exact ⟨spelled.nullFree, spelled.version_eq⟩
  · intro other others written mapped same
    have spelled : ∀ version config,
        Spelled version others config ↔ Spelled version entries config := by
      intro version config
      rw [← essence_spelled_iff written.ordered, same, essence_spelled_iff writes.ordered]
    refine ⟨to_option_eq fun config => ?_, to_option_eq fun config => ?_⟩
    · rw [above written mapped, above writes keyed, spelled]
    · rw [alone written mapped, alone writes keyed, spelled]

/-- Of server settings only the host is written, beside a time limit that is null and a key of no
part, and of a pipeline only the name: the rest is the same both ways, but for the version. -/
theorem defaults_agree_partial :
    ∃ text entries, Yaml.Writes text entries ∧ Keyed entries ∧ NullFree entries ∧
      ofDocument ⟨true⟩ entries =
        .ok { schemaVersion := 0, server := { host := "h" }, pipelines := [.named "p"] } ∧
      (ofYaml text).toOption =
        some { schemaVersion := 3, server := { host := "h" }, pipelines := [.named "p"] } := by
  let entries : List (String × Tree Unit) := [
    ("pipelines", .list () [.map () [("name", .text () "p")]]),
    ("server", .map () [("host", .text () "h"), ("job_timeout_secs", .null ()),
      ("spare", .number () (.unsigned 1))])]
  have written : (Yaml.entriesOf
      "server:\n  host: h\n  job_timeout_secs: ~\n  spare: 1\npipelines:\n- name: p\n").map
      (Tree.mapEntryMarks fun _ => ()) = .ok entries := by decide +kernel
  have keyed : Keyed entries := by
    refine ⟨fun tree found => ?_, fun mark items found => ?_⟩
    · cases found
      simp [Tree.Keyed]
    · cases found
      simp [Tree.Keyed]
  have alone : ofDocument ⟨true⟩ entries =
      .ok { schemaVersion := 0, server := { host := "h" }, pipelines := [.named "p"] } := rfl
  obtain ⟨agree, -, -, read, -⟩ := defaults_agree written keyed ⟨true⟩
  refine ⟨_, entries, written, keyed, (read _ alone).1, alone, ?_⟩
  rw [agree, alone]
  rfl

end Config

end LastGood
