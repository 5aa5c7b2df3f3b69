import LastGood.Proofs.Config.ReadBack

/-!
# The round trip of a configuration

A configuration is saved as a text, and what that text writes is the configuration again. This
does not rest on the defaults: the text holds every field, so that it writes the same whatever
values stand underneath it. A time limit that is not set is written as such and comes back as
such, also over one that is set.

Without overrides the text writes the same for the server.
-/

namespace LastGood

namespace Override

/-- A name is that of an override exactly when it starts as those do, in any case. -/
theorem after_name_start_eq_none_iff (name : List Char) :
    afterNameStart? name = none ↔ ¬ nameStart <+: name.map Char.toLower := by
  have starts : nameStart <+: name.map Char.toLower ↔
      (name.take nameStart.length).map Char.toLower = nameStart := by
    rw [List.prefix_iff_eq_take, List.map_take, eq_comm]
  simp [afterNameStart?, starts]

/-- A name that does not start as those of overrides do leads nowhere. -/
theorem path_eq_none {name : String}
    (other : ¬ nameStart <+: (Text.trimmed name.toList).map Char.toLower) : path? name = none := by
  simp only [path?, (after_name_start_eq_none_iff _).mpr other]
  rfl

end Override

/-- No variable of an environment overrides anything: none has a name that starts as those of
overrides do. Blanks around a name and the case of its letters do not matter. -/
def Environment.Plain (environment : Environment) : Prop :=
  ∀ entry ∈ environment,
    ¬ Override.nameStart <+: (Text.trimmed entry.1.toList).map Char.toLower

/-- A plain environment has no overrides, whatever the values of its variables are. -/
theorem Override.of_plain_environment {environment : Environment} (plain : environment.Plain) :
    ofEnvironment environment = .ok [] := by
  induction environment with
  | nil => rfl
  | cons entry rest ih =>
    have unnamed : path? entry.1 = none := path_eq_none (plain entry (by simp))
    have others := ih fun other member => plain other (by simp [member])
    simp only [ofEnvironment, unnamed, others]

namespace Config

/-- A configuration is what its text writes, if YAML gives back the tree that was written. No
value from underneath shows through: neither a default nor any other one. In an environment
without overrides the text writes the same for the server, whatever the variables are. -/
theorem yaml_round_trip (config : Config) (reads : config.ReadsBack) :
    ofYaml config.toYaml = .ok config ∧
      (∀ below : Config, ofYamlOver below config.toYaml = .ok config) ∧
      ∀ environment : Environment, environment.Plain →
        runtimeOfYaml environment config.toYaml = .ok config := by
  refine ⟨of_yaml_to_yaml reads, of_yaml_over_to_yaml reads, ?_⟩
  intro environment plain
  rw [runtime_of_yaml_plain (Override.of_plain_environment plain)]
  exact of_yaml_to_yaml reads

/-- A configuration all of whose values could be taken for something else: for numbers, for
nothing, or for punctuation. One pipeline is there twice. -/
def ambiguous : Config where
  schemaVersion := 0
  server := { host := "- 'b' #", port := 0, artifactsDir := ⟨"null"⟩, jobTimeoutSecs := none }
  pipelines :=
    let pipeline : PipelineConfig := { name := "7", group := "", materials := [], enabled := false }
    [pipeline, pipeline]

/-- That configuration comes back over a time limit that is set, and in an environment with a
variable whose name is close to that of an override. -/
theorem yaml_round_trip_ambiguous :
    ambiguous.ReadsBack ∧
      ofYamlOver { server := { jobTimeoutSecs := some 60 } } ambiguous.toYaml = .ok ambiguous ∧
      Environment.Plain [("CONFCACHE", "9"), ("xCONFCACHE_SERVER__PORT", "9")] ∧
      runtimeOfYaml [("CONFCACHE", "9"), ("xCONFCACHE_SERVER__PORT", "9")] ambiguous.toYaml =
        .ok ambiguous := by
  have written : ambiguous.toYaml =
      "schema_version: 0\nserver:\n  host: '- ''b'' #'\n  port: 0\n  artifacts_dir: 'null'\n" ++
        "  job_timeout_secs: null\npipelines:\n" ++
        "- name: '7'\n  group: ''\n  materials: []\n  enabled: false\n" ++
        "- name: '7'\n  group: ''\n  materials: []\n  enabled: false\n" := by
    simp only [toYaml, toTree, ServerConfig.toTree, PipelineConfig.toTree, ambiguous, Yaml.textOf,
      Yaml.mapItemChars, Yaml.entriesChars, Yaml.valueChars, Yaml.itemsChars, Yaml.itemChars,
      List.map_nil, List.map_cons]
    decide +kernel
  have reads : ambiguous.ReadsBack := reads_back_of_read rfl written (by decide +kernel)
  have plain : Environment.Plain [("CONFCACHE", "9"), ("xCONFCACHE_SERVER__PORT", "9")] := by
    unfold Environment.Plain
    decide +kernel
  obtain ⟨_, anew, runtime⟩ := yaml_round_trip ambiguous reads
  exact ⟨reads, anew _, plain, runtime _ plain⟩

end Config

end LastGood
