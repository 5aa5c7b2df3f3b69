import Mathlib.Data.List.Induction
import LastGood.Proofs.Config.Leaves
import LastGood.Proofs.Config.RoundTrip

/-!
# What an override changes

The overrides of an environment are laid over one another and then over the settings of a text. An
override holds something at its own path alone. So a leaf is what the text makes it, unless its path
is that of an override, or one of the two is the beginning of the other; and a leaf that is the
only one to be named by an override is what that override says, whatever the text is.

This is so when the text has a map, or nothing, for the settings of the server. Over a list an
override of one of these settings would take the place of all of them. What counts is what is read:
a map that stands for one of its values is that value.
-/

namespace LastGood

namespace Override

/-- A path of keys is never empty. -/
theorem path_ne_nil {name : String} {path : List String} (named : path? name = some path) :
    path ≠ [] := by
  unfold path? at named
  cases rest : afterNameStart? (Text.trimmed name.toList) with
  | none =>
    rw [rest] at named
    cases named
  | some rest' =>
    rw [rest] at named
    simp only [bind, Option.bind] at named
    split at named
    · cases named
    · rw [← Option.some.inj named]
      simp [Text.pieces_ne_nil]

/-- One override more is laid over all those before it. -/
theorem entries_snoc (overrides : List Override) {override : Override}
    (named : override.path ≠ []) :
    Tree.map () (entries (overrides ++ [override])) =
      (Tree.map () (entries overrides)).overlaidBy
        (Tree.nested () override.path override.value) := by
  obtain ⟨path, value⟩ := override
  cases path with
  | nil => exact absurd rfl named
  | cons key path =>
    simp only [entries, List.foldl_append, List.foldl_cons, List.foldl_nil, Tree.nested,
      Tree.overlaidBy]

/-- A path that every override is apart from. -/
def Spares (path : List String) (overrides : List Override) : Prop :=
  ∀ override ∈ overrides, override.path ≠ [] ∧ Tree.Apart override.path path

/-- What overrides hold at a path is no other when some are added that are apart from it. -/
theorem holds_append {path : List String} {overrides : List Override} {held : Option (Tree Unit)}
    (holds : Tree.Holds path (.map () (entries overrides)) held) {further : List Override}
    (spares : Spares path further) :
    Tree.Holds path (.map () (entries (overrides ++ further))) held := by
  induction further using List.reverseRecOn with
  | nil => rwa [List.append_nil]
  | append_singleton further override ih =>
    have earlier := ih fun other member => spares other (List.mem_append_left _ member)
    obtain ⟨named, apart⟩ := spares override (List.mem_append_right _ (by simp))
    rw [← List.append_assoc, entries_snoc _ named]
    exact earlier.overlaid (Tree.holds_nested_apart () override.value apart)

/-- Overrides that are apart from a path hold nothing there. -/
theorem holds_nothing {path : List String} (inner : path ≠ []) {overrides : List Override}
    (spares : Spares path overrides) :
    Tree.Holds path (.map () (entries overrides)) none := by
  have blank : Tree.Holds path (.map () (entries [])) none := by
    cases path with
    | nil => exact absurd rfl inner
    | cons key path => exact .absent List.Pairwise.nil rfl
  exact holds_append blank spares

/-- Overrides one of which has the path, while the others are apart from it, hold its value
there. -/
theorem holds_value {path : List String} (inner : path ≠ []) (value : Tree Unit)
    {before after : List Override} (earlier : Spares path before) (later : Spares path after) :
    Tree.Holds path (.map () (entries (before ++ ⟨path, value⟩ :: after))) (some value) := by
  have own := (holds_nothing inner earlier).overlaid (Tree.holds_nested () path value)
  rw [← entries_snoc before (show (⟨path, value⟩ : Override).path ≠ [] from inner),
    Tree.laid_none] at own
  have whole := holds_append own later
  rwa [List.append_assoc] at whole

/-- The first variable of an environment is no override, or the first one. -/
theorem of_environment_cons {name text : String} {rest : Environment} {overrides : List Override}
    (read : ofEnvironment ((name, text) :: rest) = .ok overrides) :
    (path? name = none ∧ ofEnvironment rest = .ok overrides) ∨
      ∃ path value others, path? name = some path ∧ valueTree text = .ok value ∧
        ofEnvironment rest = .ok others ∧ overrides = ⟨path, value⟩ :: others := by
  rw [ofEnvironment] at read
  cases named : path? name with
  | none =>
    rw [named] at read
    exact .inl ⟨rfl, read⟩
  | some path =>
    rw [named] at read
    cases valued : valueTree text with
    | error message =>
      rw [valued] at read
      cases read
    | ok value =>
      cases later : ofEnvironment rest with
      | error message =>
        rw [valued, later] at read
        cases read
      | ok others =>
        rw [valued, later] at read
        exact .inr ⟨path, value, others, rfl, rfl, rfl, (Except.ok.inj read).symm⟩

/-- The overrides of two stretches of an environment are those of the first and of the second. -/
theorem of_environment_append {before after : Environment} {overrides : List Override}
    (read : ofEnvironment (before ++ after) = .ok overrides) :
    ∃ first second, ofEnvironment before = .ok first ∧ ofEnvironment after = .ok second ∧
      overrides = first ++ second := by
  induction before generalizing overrides with
  | nil => exact ⟨[], overrides, rfl, read, rfl⟩
  | cons entry rest ih =>
    obtain ⟨name, text⟩ := entry
    rcases of_environment_cons read with
      ⟨unnamed, others⟩ | ⟨path, value, found, named, valued, others, rfl⟩
    · obtain ⟨first, second, own, later, rfl⟩ := ih others
      refine ⟨first, second, ?_, later, rfl⟩
      simp only [ofEnvironment, unnamed, own]
    · obtain ⟨first, second, own, later, rfl⟩ := ih others
      refine ⟨⟨path, value⟩ :: first, second, ?_, later, rfl⟩
      simp only [ofEnvironment, named, valued, own]
      rfl

/-- Every override is that of a variable. -/
theorem variable_of_mem {environment : Environment} {overrides : List Override}
    (read : ofEnvironment environment = .ok overrides) {override : Override}
    (member : override ∈ overrides) :
    ∃ entry ∈ environment, path? entry.1 = some override.path := by
  induction environment generalizing overrides with
  | nil =>
    cases read
    cases member
  | cons entry rest ih =>
    obtain ⟨name, text⟩ := entry
    rcases of_environment_cons read with
      ⟨_, others⟩ | ⟨path, value, found, named, _, others, rfl⟩
    · obtain ⟨other, inner, named⟩ := ih others member
      exact ⟨other, List.mem_cons_of_mem _ inner, named⟩
    · rcases List.mem_cons.mp member with rfl | later
      · exact ⟨(name, text), List.mem_cons_self, named⟩
      · obtain ⟨other, inner, named⟩ := ih others later
        exact ⟨other, List.mem_cons_of_mem _ inner, named⟩

/-- Variables that name no override can be left out. -/
theorem of_environment_filter {kept : String × String → Bool}
    (unnamed : ∀ entry, kept entry = false → path? entry.1 = none) (environment : Environment) :
    ofEnvironment (environment.filter kept) = ofEnvironment environment := by
  induction environment with
  | nil => rfl
  | cons entry rest ih =>
    obtain ⟨name, text⟩ := entry
    cases keeping : kept (name, text) with
    | true =>
      rw [List.filter_cons_of_pos keeping, ofEnvironment, ofEnvironment, ih]
    | false =>
      rw [List.filter_cons_of_neg (by simp [keeping]), ofEnvironment, unnamed _ keeping, ih]

end Override

/-- Every variable of an environment is apart from a path: it is no override, or its path and that
one are apart. -/
def Environment.Spares (path : List String) (environment : Environment) : Prop :=
  ∀ entry ∈ environment, ∀ other, Override.path? entry.1 = some other → Tree.Apart other path

/-- The overrides of variables that are apart from a path are apart from it. -/
theorem Environment.Spares.overrides {path : List String} {environment : Environment}
    (spares : environment.Spares path) {overrides : List Override}
    (read : Override.ofEnvironment environment = .ok overrides) :
    Override.Spares path overrides := by
  intro override member
  obtain ⟨entry, inner, named⟩ := Override.variable_of_mem read member
  exact ⟨Override.path_ne_nil named, spares entry inner _ named⟩

namespace Leaf

/-- The path of a leaf is not empty. -/
theorem path_ne_nil (leaf : Leaf) : leaf.path ≠ [] := by
  cases leaf <;> simp [path]

/-- The defaults hold every leaf. -/
theorem defaults_hold (leaf : Leaf) :
    ∃ held, Tree.Holds leaf.path Settings.defaults (some held) := by
  have server := (({} : ServerConfig).toTree Origin.defaults).ordered_sorted
  have root := (({} : Config).toTree Origin.defaults).ordered_sorted
  unfold Settings.defaults
  rw [ServerConfig.sorted_to_tree] at server
  rw [Config.sorted_to_tree, ServerConfig.sorted_to_tree] at root ⊢
  cases leaf with
  | schemaVersion | pipelines => exact ⟨_, .within root.ascending rfl (.here _)⟩
  | host | port | artifactsDir | jobTimeoutSecs =>
    exact ⟨_, .within root.ascending rfl (.within server.ascending rfl (.here _))⟩

/-- A text whose settings of the server are a map has no value in the way of a leaf. -/
theorem open_of_map (leaf : Leaf) {entries : List (String × Tree Yaml.Source)}
    (mapped : ∀ below, ("server", below) ∈ entries → ∃ mark inner, below = .map mark inner)
    (f : Yaml.Source → Origin) :
    Tree.Open leaf.path ((Tree.map none entries).mapMarks f) := by
  have server : ∀ key, Tree.Open ["server", key] ((Tree.map none entries).mapMarks f) := by
    intro key
    simp only [Tree.mapMarks, Tree.Open, Tree.map_entry_marks_eq, List.mem_map, Prod.mk.injEq]
    rintro _ ⟨⟨_, below⟩, member, rfl, rfl⟩
    obtain ⟨mark, inner, rfl⟩ := mapped below member
    simp [Tree.mapMarks, Tree.Open]
  cases leaf with
  | schemaVersion | pipelines => simp [path, Tree.mapMarks, Tree.Open]
  | host | port | artifactsDir | jobTimeoutSecs => exact server _

/-- The settings of such a text hold every leaf. -/
theorem settings_hold (leaf : Leaf) {text : String} {entries : List (String × Tree Yaml.Source)}
    (written : Yaml.entriesOf text = .ok entries)
    (mapped : ∀ below, ("server", below) ∈ entries → ∃ mark inner, below = .map mark inner)
    {settings : Tree Origin} (found : Settings.ofYaml .yamlText text = .ok settings) :
    ∃ held, Tree.Holds leaf.path settings (some held) := by
  unfold Settings.ofYaml at found
  rw [written] at found
  obtain rfl := Except.ok.inj found
  obtain ⟨held, holds⟩ := leaf.defaults_hold
  exact holds.under_open (leaf.open_of_map mapped _)

end Leaf

namespace Config

/-- What the server runs on is read from the settings of the text with the overrides over them. -/
theorem runtime_of_yaml_ok {environment : Environment} {text : String} {runtime : Config}
    (ran : runtimeOfYaml environment text = .ok runtime) :
    ∃ overrides settings, Override.ofEnvironment environment = .ok overrides ∧
      Settings.ofYaml .yamlText text = .ok settings ∧
      Settings.config (Settings.overridden overrides settings) = .ok runtime := by
  unfold runtimeOfYaml at ran
  cases found : Override.ofEnvironment environment with
  | error message =>
    rw [found] at ran
    cases ran
  | ok overrides =>
    cases written : Settings.ofYaml .yamlText text with
    | error fault =>
      rw [found, written] at ran
      cases ran
    | ok settings =>
      rw [found, written] at ran
      exact ⟨overrides, settings, rfl, rfl, ran⟩

/-- Variables that do not start as overrides do can be left out. -/
theorem runtime_of_yaml_filter (environment : Environment) (text : String) :
    runtimeOfYaml
        (environment.filter fun entry =>
          Override.nameStart.isPrefixOf ((Text.trimmed entry.1.toList).map Char.toLower)) text =
      runtimeOfYaml environment text := by
  have unnamed : ∀ entry : String × String,
      Override.nameStart.isPrefixOf ((Text.trimmed entry.1.toList).map Char.toLower) = false →
        Override.path? entry.1 = none := by
    intro entry left
    have other : ¬ Override.nameStart <+: (Text.trimmed entry.1.toList).map Char.toLower := by
      simpa [← List.isPrefixOf_iff_prefix] using left
    exact Override.path_eq_none other
  rw [runtimeOfYaml, runtimeOfYaml, Override.of_environment_filter unnamed]

section

variable {environment : Environment} {text : String} {entries : List (String × Tree Yaml.Source)}
  (written : Yaml.entriesOf text = .ok entries)
  (mapped : ∀ below, ("server", below) ∈ entries → ∃ mark inner, below = .map mark inner)
include written mapped

/-- A leaf that every variable is apart from is what the text makes it. -/
theorem leaf_spared {editable runtime : Config} (edited : ofYaml text = .ok editable)
    (ran : runtimeOfYaml environment text = .ok runtime) {leaf : Leaf}
    (spares : environment.Spares leaf.path) : leaf.value runtime = leaf.value editable := by
  obtain ⟨overrides, settings, found, laid_out, settled⟩ := runtime_of_yaml_ok ran
  obtain ⟨held, holds⟩ := leaf.settings_hold written mapped laid_out
  have nothing := Override.holds_nothing leaf.path_ne_nil (spares.overrides found)
  have whole := holds.overlaid (nothing.mapMarks fun _ => Origin.overrides)
  have own : Settings.config settings = .ok editable := by
    simpa only [ofYaml, laid_out, bind, Except.bind] using edited
  exact Except.ok.inj ((leaf.read settled whole).symm.trans (leaf.read own holds))

/-- A leaf that one variable names, while the others are apart from it, is the value of that
variable. -/
theorem leaf_named {runtime : Config} {before after : Environment} {name value : String}
    (ran : runtimeOfYaml (before ++ (name, value) :: after) text = .ok runtime) {leaf : Leaf}
    (named : Override.path? name = some leaf.path) (earlier : before.Spares leaf.path)
    (later : after.Spares leaf.path) :
    ∃ tree, Override.valueTree value = .ok tree ∧
      leaf.reader (tree.marked .overrides) = .ok (leaf.value runtime) := by
  obtain ⟨overrides, settings, found, laid_out, settled⟩ := runtime_of_yaml_ok ran
  obtain ⟨first, second, own, rest, rfl⟩ := Override.of_environment_append found
  rcases Override.of_environment_cons rest with
    ⟨unnamed, _⟩ | ⟨path, tree, others, known, valued, remaining, rfl⟩
  · cases unnamed.symm.trans named
  · obtain rfl := Option.some.inj (known.symm.trans named)
    obtain ⟨held, holds⟩ := leaf.settings_hold written mapped laid_out
    have alone := Override.holds_value leaf.path_ne_nil tree (earlier.overrides own)
      (later.overrides remaining)
    have reads := leaf.read settled (holds.overlaid (alone.mapMarks fun _ => Origin.overrides))
    refine ⟨tree, valued, ?_⟩
    cases tree with
    | null _ | bool _ _ | number _ _ | text _ _ | list _ _ => exact reads
    | map mark entries =>
      -- Over whatever is there, this leaves a map, and no leaf is read from one.
      cases held <;> exact absurd reads (leaf.not_read_of_map _ _ _)

end

/-- An override changes what it names and nothing else, when the text has a map or nothing for the
settings of the server and both configurations are there. A leaf is the same for the server as in
the text, if no variable has a path that is the beginning of its own or goes on from there. A leaf
that a single variable names is read from that variable, whatever the text is. Variables that do
not start as overrides do have no part in this, and without any other the server runs on what the
text writes. -/
theorem overrides_change_named (environment : Environment) (text : String) :
    (∀ entries editable runtime,
      Yaml.entriesOf text = .ok entries →
      (∀ below, ("server", below) ∈ entries → ∃ mark inner, below = .map mark inner) →
      ofYaml text = .ok editable →
      runtimeOfYaml environment text = .ok runtime →
        (∀ leaf : Leaf, environment.Spares leaf.path →
          leaf.value runtime = leaf.value editable) ∧
        ∀ (leaf : Leaf) (before after : Environment) (name value : String),
          environment = before ++ (name, value) :: after →
          Override.path? name = some leaf.path →
          before.Spares leaf.path → after.Spares leaf.path →
            ∃ tree, Override.valueTree value = .ok tree ∧
              leaf.reader (tree.marked .overrides) = .ok (leaf.value runtime)) ∧
      runtimeOfYaml
          (environment.filter fun entry =>
            Override.nameStart.isPrefixOf ((Text.trimmed entry.1.toList).map Char.toLower)) text =
        runtimeOfYaml environment text ∧
      (environment.Plain → runtimeOfYaml environment text = ofYaml text) := by
  refine ⟨?_, runtime_of_yaml_filter environment text, ?_⟩
  · intro entries editable runtime written mapped edited ran
    refine ⟨fun leaf spares => leaf_spared written mapped edited ran spares, ?_⟩
    rintro leaf before after name value rfl named earlier later
    exact leaf_named written mapped ran named earlier later
  · intro plain
    exact runtime_of_yaml_plain (Override.of_plain_environment plain) text

/-- In an environment with one override, for the port, the server runs on that port and for the rest
on what the text writes. The port in the text does not matter. -/
theorem override_changes_port :
    ∃ editable runtime,
      ofYaml "server:\n  host: h\n  port: 1\n" = .ok editable ∧
      runtimeOfYaml [("PATH", "/bin"), (" confcache_Server__port", "7000")]
        "server:\n  host: h\n  port: 1\n" = .ok runtime ∧
      runtime.server.host = editable.server.host ∧ runtime.server.port = 7000 ∧
      runtimeOfYaml [(" confcache_Server__port", "7000")]
        "server:\n  host: h\n  port: 1\n" = .ok runtime := by
  have written : Yaml.entriesOf "server:\n  host: h\n  port: 1\n" =
      .ok [("server", .map none [("host", .text none "h"),
        ("port", .number none (.unsigned 1))])] := by decide +kernel
  have edited : ofYaml "server:\n  host: h\n  port: 1\n" =
      .ok { server := { host := "h", port := 1 } } := by decide +kernel
  have ran : runtimeOfYaml [("PATH", "/bin"), (" confcache_Server__port", "7000")]
      "server:\n  host: h\n  port: 1\n" =
        .ok { server := { host := "h", port := 7000 } } := by decide +kernel
  have unnamed : Override.path? "PATH" = none := by decide +kernel
  have named : Override.path? " confcache_Server__port" = some Leaf.port.path := by decide +kernel
  obtain ⟨law, left, -⟩ := overrides_change_named
    [("PATH", "/bin"), (" confcache_Server__port", "7000")] "server:\n  host: h\n  port: 1\n"
  have mapped : ∀ below, ("server", below) ∈ [("server", Tree.map (none : Yaml.Source)
      [("host", .text none "h"), ("port", .number none (.unsigned 1))])] →
        ∃ mark inner, below = .map mark inner := by
    intro below member
    rw [List.mem_singleton, Prod.mk.injEq] at member
    exact ⟨_, _, member.2⟩
  obtain ⟨spared, taken⟩ := law _ _ _ written mapped edited ran
  have host := spared .host (by
    intro entry member other found
    simp only [List.mem_cons, List.not_mem_nil, or_false] at member
    rcases member with rfl | rfl
    · cases unnamed.symm.trans found
    · obtain rfl := Option.some.inj (named.symm.trans found)
      exact ⟨by decide, by decide⟩)
  obtain ⟨tree, valued, port⟩ := taken .port [("PATH", "/bin")] [] _ _ rfl named
    (by
      intro entry member other found
      obtain rfl := List.mem_singleton.mp member
      cases unnamed.symm.trans found)
    (by
      intro entry member
      cases member)
  have number : Override.valueTree "7000" = .ok (.number () (.unsigned 7000)) := by decide +kernel
  obtain rfl := Except.ok.inj (number.symm.trans valued)
  refine ⟨_, _, edited, ran, host, (Except.ok.inj port).symm, ?_⟩
  rw [← ran, ← left]
  exact congrArg (runtimeOfYaml · _) (by decide +kernel)

end Config

end LastGood
