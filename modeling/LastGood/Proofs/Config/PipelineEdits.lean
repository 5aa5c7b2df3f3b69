import Mathlib.Data.List.Induction
import Mathlib.Data.List.Nodup
import LastGood.Command

/-!
# Edits of the pipelines

Three commands are built in: one for the port, one that adds a pipeline and one that removes the
pipelines of a name. Each of them either makes its change or leaves the configuration as it was and
says why. What is asked for is all that decides this: a port that is not zero, a name that is new, a
name that is there.

As long as no name occurs twice, the pipelines are a map from names that keeps the order in which
the names came in. A roster is such a map on its own, the names in order beside what stands under
each, and whatever is edited, the pipelines are those of the roster.
-/

namespace LastGood

namespace Config

/-- An edit that a command is built in for. -/
inductive Edit where
  /-- The port is changed. -/
  | setPort (port : UInt16)
  /-- A pipeline is added. -/
  | add (pipeline : PipelineConfig)
  /-- The pipelines of a name are removed. -/
  | remove (name : String)
  deriving DecidableEq, Repr

namespace Edit

/-- The command that makes an edit. -/
def command : Edit → Command Config
  | setPort port => .setServerPort port
  | add pipeline => .addPipeline pipeline
  | remove name => .removePipeline name

/-- Why an edit is refused, if it is. -/
def complaint : Edit → String
  | setPort _ => "port must be non-zero"
  | add pipeline => "pipeline '" ++ pipeline.name ++ "' already exists"
  | remove name => "pipeline '" ++ name ++ "' does not exist"

end Edit

/-- The names of the pipelines, in order. -/
def names (config : Config) : List String := config.pipelines.map PipelineConfig.name

/-- The configuration that an edit leaves, whether it is accepted or not. -/
def edited (config : Config) (edit : Edit) : Config := (edit.command.update config).1

/-- What the command of an edit says. -/
def verdict (config : Config) (edit : Edit) : Verdict := (edit.command.update config).2

/-- The configuration that edits leave, one made after the other. -/
def editedBy (config : Config) (edits : List Edit) : Config := edits.foldl edited config

/-- Whether an edit can be made. -/
def Admits (config : Config) : Edit → Prop
  | .setPort port => port ≠ 0
  | .add pipeline => pipeline.name ∉ config.names
  | .remove name => name ∈ config.names

/-- The configuration with an edit made. -/
def applied (config : Config) : Edit → Config
  | .setPort port => { config with server := { config.server with port } }
  | .add pipeline => { config with pipelines := config.pipelines ++ [pipeline] }
  | .remove name =>
      { config with pipelines := config.pipelines.filter fun pipeline => pipeline.name != name }

variable {config : Config} {edit : Edit}

/-- Nothing is found under a name that no pipeline has. -/
theorem pipeline_eq_none_iff (config : Config) (name : String) :
    config.pipeline? name = none ↔ name ∉ config.names := by
  simp [pipeline?, names]

/-- All pipelines are kept when those of a name are removed, exactly when there are none. -/
theorem kept_length_iff (config : Config) (name : String) :
    (config.pipelines.filter fun pipeline => pipeline.name != name).length =
        config.pipelines.length ↔ name ∉ config.names := by
  simp [List.length_filter_eq_length_iff, names]

/-- Removing a name that no pipeline has leaves all of them. -/
theorem filter_of_absent {name : String} (absent : name ∉ config.names) :
    (config.pipelines.filter fun pipeline => pipeline.name != name) = config.pipelines :=
  List.filter_eq_self.mpr
    (List.length_filter_eq_length_iff.mp ((config.kept_length_iff name).mpr absent))

/-- An edit that can be made is made and accepted. -/
theorem edit_admitted (admitted : config.Admits edit) :
    config.verdict edit = .accepted ∧ config.edited edit = config.applied edit := by
  cases edit with
  | setPort port =>
    have nonzero : port ≠ 0 := admitted
    simp [verdict, edited, Edit.command, Command.setServerPort, nonzero, applied]
  | add pipeline =>
    have absent := (config.pipeline_eq_none_iff pipeline.name).mpr admitted
    simp [verdict, edited, Edit.command, Command.addPipeline, absent, applied]
  | remove name =>
    have some_go := mt (config.kept_length_iff name).mp (not_not_intro admitted)
    simp only [verdict, edited, Edit.command, Command.removePipeline, if_neg some_go, applied,
      and_self]

/-- An edit that cannot be made is refused, and the configuration is as it was. -/
theorem edit_refused (refused : ¬ config.Admits edit) :
    config.verdict edit = .refused (.rejected edit.complaint) ∧ config.edited edit = config := by
  cases edit with
  | setPort port =>
    have zero : port = 0 := not_not.mp refused
    simp [verdict, edited, Edit.command, Edit.complaint, Command.setServerPort, Command.refusal,
      zero]
  | add pipeline =>
    have present : (config.pipeline? pipeline.name).isSome := by
      rw [Option.isSome_iff_ne_none]
      exact mt (config.pipeline_eq_none_iff _).mp refused
    simp [verdict, edited, Edit.command, Edit.complaint, Command.addPipeline, Command.refusal,
      present]
  | remove name =>
    simp only [verdict, edited, Edit.command, Edit.complaint, Command.removePipeline,
      Command.refusal, filter_of_absent refused, if_true, and_self]

/-- Only what can be made is accepted. -/
theorem verdict_accepted_iff : config.verdict edit = .accepted ↔ config.Admits edit := by
  refine ⟨fun accepted => ?_, fun admitted => (edit_admitted admitted).1⟩
  by_contra refused
  rw [(edit_refused refused).1] at accepted
  cases accepted

/-- The last edit is made on what the ones before it leave. -/
theorem edited_by_snoc (config : Config) (edits : List Edit) (edit : Edit) :
    config.editedBy (edits ++ [edit]) = (config.editedBy edits).edited edit := by
  simp [editedBy]

/-- A pipeline that was added is found under its name, and the others under theirs. -/
theorem pipeline_added {pipeline : PipelineConfig} (absent : pipeline.name ∉ config.names)
    (name : String) :
    (config.applied (.add pipeline)).pipeline? name =
      if pipeline.name = name then some pipeline else config.pipeline? name := by
  by_cases same : pipeline.name = name
  · have nothing := (config.pipeline_eq_none_iff name).mpr (same ▸ absent)
    unfold pipeline? at nothing
    simp [applied, pipeline?, nothing, same]
  · simp [applied, pipeline?, same]

/-- Nothing is found under a name that was removed, and the others are found as before. -/
theorem pipeline_removed (config : Config) (removed name : String) :
    (config.applied (.remove removed)).pipeline? name =
      if removed = name then none else config.pipeline? name := by
  simp only [applied, pipeline?, List.find?_filter]
  by_cases same : removed = name
  · subst same
    simp
  · have kept : (fun pipeline : PipelineConfig =>
        decide ((pipeline.name != removed) = true ∧ (pipeline.name == name) = true)) =
          fun pipeline => pipeline.name == name := by
      funext pipeline
      by_cases named : pipeline.name = name <;> simp [named, Ne.symm same]
    simp only [kept, if_neg same]

/-- What is found under a name after one more edit: what is added under it, or else what was found
before, unless the name is removed. -/
theorem pipeline_edited_iff (config : Config) (edit : Edit) (name : String)
    (pipeline : PipelineConfig) :
    (config.edited edit).pipeline? name = some pipeline ↔
      (edit = .add pipeline ∧ pipeline.name = name ∧ config.verdict edit = .accepted) ∨
        config.pipeline? name = some pipeline ∧ edit ≠ .remove name := by
  rw [verdict_accepted_iff]
  by_cases admitted : config.Admits edit
  · rw [(edit_admitted admitted).2]
    cases edit with
    | setPort port =>
      have same : (config.applied (.setPort port)).pipeline? name = config.pipeline? name := rfl
      simp [same]
    | add added =>
      rw [pipeline_added admitted]
      by_cases same : added.name = name
      · have nothing := (config.pipeline_eq_none_iff name).mpr (same ▸ admitted)
        rw [if_pos same, nothing]
        constructor
        · intro found
          obtain rfl := Option.some.inj found
          exact .inl ⟨rfl, same, admitted⟩
        · rintro (⟨own, -, -⟩ | ⟨none, -⟩)
          · cases own
            rfl
          · cases none
      · rw [if_neg same]
        constructor
        · exact fun found => .inr ⟨found, by simp⟩
        · rintro (⟨own, named, -⟩ | ⟨found, -⟩)
          · cases own
            exact absurd named same
          · exact found
    | remove removed =>
      rw [pipeline_removed]
      by_cases same : removed = name
      · simp [same]
      · simp [same]
  · rw [(edit_refused admitted).2]
    constructor
    · intro found
      refine .inr ⟨found, ?_⟩
      rintro rfl
      have absent := (config.pipeline_eq_none_iff name).mpr admitted
      cases absent.symm.trans found
    · rintro (⟨-, -, admits⟩ | ⟨found, -⟩)
      · exact absurd admits admitted
      · exact found

/-- What is found under a name after some edits: the pipeline that was added under it last, or else
the one that was there before them, unless the name was removed since. -/
theorem pipeline_after_iff (config : Config) (edits : List Edit) (name : String)
    (pipeline : PipelineConfig) :
    (config.editedBy edits).pipeline? name = some pipeline ↔
      (∃ before after, edits = before ++ .add pipeline :: after ∧ pipeline.name = name ∧
        (config.editedBy before).verdict (.add pipeline) = .accepted ∧ .remove name ∉ after) ∨
      config.pipeline? name = some pipeline ∧ .remove name ∉ edits := by
  induction edits using List.reverseRecOn with
  | nil => simp [editedBy]
  | append_singleton edits edit ih =>
    rw [edited_by_snoc, pipeline_edited_iff, ih]
    constructor
    · rintro (⟨rfl, named, accepted⟩ | ⟨⟨before, after, rfl, named, accepted, stays⟩ | found, kept⟩)
      · exact .inl ⟨edits, [], rfl, named, accepted, List.not_mem_nil⟩
      · refine .inl ⟨before, after ++ [edit], by simp, named, accepted, ?_⟩
        simp [stays, Ne.symm kept]
      · exact .inr ⟨found.1, by simp [found.2, Ne.symm kept]⟩
    · rintro (⟨before, after, split, named, accepted, stays⟩ | ⟨found, stays⟩)
      · rcases List.eq_nil_or_concat after with rfl | ⟨later, last, rfl⟩
        · obtain ⟨rfl, own⟩ := List.append_inj' split rfl
          exact .inl ⟨List.cons.inj own |>.1, named, List.cons.inj own |>.1 ▸ accepted⟩
        · have cut : edits ++ [edit] = (before ++ .add pipeline :: later) ++ [last] := by
            simpa using split
          obtain ⟨rfl, own⟩ := List.append_inj' cut rfl
          obtain rfl := (List.cons.inj own).1
          simp only [List.concat_eq_append, List.mem_append, List.mem_singleton, not_or] at stays
          exact .inr ⟨.inl ⟨before, later, rfl, named, accepted, stays.1⟩, Ne.symm stays.2⟩
      · simp only [List.mem_append, List.mem_singleton, not_or] at stays
        exact .inr ⟨.inr ⟨found, stays.1⟩, Ne.symm stays.2⟩

/-- A name that occurs once leads to the pipeline that has it. -/
theorem pipeline_of_mem (distinct : config.names.Nodup) {pipeline : PipelineConfig}
    (member : pipeline ∈ config.pipelines) :
    config.pipeline? pipeline.name = some pipeline := by
  unfold names at distinct
  unfold pipeline?
  generalize config.pipelines = pipelines at distinct member
  induction pipelines with
  | nil => cases member
  | cons first rest ih =>
    obtain ⟨alone, distinct⟩ := List.nodup_cons.mp distinct
    rcases List.mem_cons.mp member with rfl | later
    · simp
    · have other : first.name ≠ pipeline.name := fun same =>
        alone (same ▸ List.mem_map_of_mem later)
      simp [other, ih distinct later]

/-- Adding a pipeline under a new name and removing that name changes nothing. -/
theorem add_remove {pipeline : PipelineConfig} (absent : pipeline.name ∉ config.names) :
    (config.edited (.add pipeline)).edited (.remove pipeline.name) = config := by
  have admitted : config.Admits (.add pipeline) := absent
  have added := (edit_admitted admitted).2
  have present : (config.applied (.add pipeline)).Admits (.remove pipeline.name) := by
    simp [Admits, names, applied]
  rw [added, (edit_admitted present).2]
  simp [applied, filter_of_absent absent]

/-- Edits change the port and the pipelines only, and the port is not changed to zero. -/
theorem edited_by_fields (config : Config) (edits : List Edit) :
    ∃ port pipelines, config.editedBy edits =
        { config with server := { config.server with port }, pipelines } ∧
      (port = 0 → config.server.port = 0) := by
  induction edits using List.reverseRecOn with
  | nil => exact ⟨config.server.port, config.pipelines, rfl, id⟩
  | append_singleton edits edit ih =>
    obtain ⟨port, pipelines, earlier, nonzero⟩ := ih
    rw [edited_by_snoc, earlier]
    by_cases admitted : Admits { config with server := { config.server with port }, pipelines } edit
    · rw [(edit_admitted admitted).2]
      cases edit with
      | setPort next => exact ⟨next, pipelines, rfl, fun zero => absurd zero admitted⟩
      | add pipeline => exact ⟨port, _, rfl, nonzero⟩
      | remove name => exact ⟨port, _, rfl, nonzero⟩
    · rw [(edit_refused admitted).2]
      exact ⟨port, pipelines, rfl, nonzero⟩

end Config

/-- A map from names to pipelines that keeps the order in which the names came in. -/
structure Roster where
  /-- The names, in order. -/
  names : List String
  /-- What stands under a name. -/
  entry : String → Option PipelineConfig

namespace Roster

open Config (Edit)

/-- The roster of some pipelines. -/
def ofConfig (config : Config) : Roster := ⟨config.names, config.pipeline?⟩

/-- The pipelines in the order of their names. -/
def toList (roster : Roster) : List PipelineConfig := roster.names.filterMap roster.entry

/-- The roster with a new name at its end. A name that it has already is rejected. -/
def add? (roster : Roster) (pipeline : PipelineConfig) : Option Roster :=
  if pipeline.name ∈ roster.names then none
  else some {
    names := roster.names ++ [pipeline.name]
    entry := fun name => if pipeline.name = name then some pipeline else roster.entry name }

/-- The roster without a name. One that it does not have is rejected. -/
def remove? (roster : Roster) (name : String) : Option Roster :=
  if name ∈ roster.names then some {
    names := roster.names.erase name
    entry := fun other => if name = other then none else roster.entry other }
  else none

/-- The roster after an edit, unless it is rejected. The port is no part of it. -/
def edited? (roster : Roster) : Edit → Option Roster
  | .setPort port => if port = 0 then none else some roster
  | .add pipeline => roster.add? pipeline
  | .remove name => roster.remove? name

/-- The roster after an edit, which is as before if the edit is rejected. -/
def edited (roster : Roster) (edit : Edit) : Roster := (roster.edited? edit).getD roster

/-- The roster after edits, one made after the other. -/
def editedBy (roster : Roster) (edits : List Edit) : Roster := edits.foldl edited roster

/-- The roster of a configuration whose names are distinct. -/
structure Lists (roster : Roster) (config : Config) : Prop where
  /-- No name occurs twice. -/
  distinct : config.names.Nodup
  /-- The names are in order. -/
  names : roster.names = config.names
  /-- Under each name stands what is found under it. -/
  entry : roster.entry = config.pipeline?

namespace Lists

variable {roster : Roster} {config : Config}

/-- The pipelines are those of the roster. -/
theorem toList_eq (lists : roster.Lists config) : roster.toList = config.pipelines := by
  have own : ∀ pipeline ∈ config.pipelines,
      config.pipeline? pipeline.name = some pipeline := fun _ member =>
    Config.pipeline_of_mem lists.distinct member
  rw [toList, lists.names, lists.entry, Config.names, List.filterMap_map]
  calc
    config.pipelines.filterMap (config.pipeline? ∘ PipelineConfig.name) =
        config.pipelines.filterMap some := List.filterMap_congr own
    _ = config.pipelines := List.filterMap_some

/-- An edit is rejected of the roster exactly when it cannot be made. -/
theorem edited_is_some_iff (lists : roster.Lists config) (edit : Edit) :
    (roster.edited? edit).isSome ↔ config.Admits edit := by
  cases edit with
  | setPort port => by_cases zero : port = 0 <;> simp [edited?, Config.Admits, zero]
  | add pipeline =>
    by_cases present : pipeline.name ∈ config.names <;>
      simp [edited?, add?, Config.Admits, lists.names, present]
  | remove name =>
    by_cases present : name ∈ config.names <;>
      simp [edited?, remove?, Config.Admits, lists.names, present]

/-- An edit of both leaves a roster of the configuration. -/
theorem edited (lists : roster.Lists config) (edit : Edit) :
    (roster.edited edit).Lists (config.edited edit) := by
  have decided := lists.edited_is_some_iff edit
  by_cases admitted : config.Admits edit
  · rw [(Config.edit_admitted admitted).2]
    cases edit with
    | setPort port =>
      have same : roster.edited (.setPort port) = roster := by
        simp [Roster.edited, edited?, show port ≠ 0 from admitted]
      rw [same]
      exact ⟨lists.distinct, lists.names, lists.entry⟩
    | add pipeline =>
      have absent : pipeline.name ∉ config.names := admitted
      have named : (config.applied (.add pipeline)).names = config.names ++ [pipeline.name] := by
        simp [Config.names, Config.applied]
      rw [Roster.edited, edited?, add?, lists.names, if_neg absent, Option.getD_some]
      refine ⟨?_, named.symm, ?_⟩
      · rw [named, List.nodup_append_comm]
        exact List.nodup_cons.mpr ⟨absent, lists.distinct⟩
      · funext name
        rw [Config.pipeline_added absent, lists.entry]
    | remove name =>
      have present : name ∈ config.names := admitted
      have named : (config.applied (.remove name)).names = config.names.erase name := by
        rw [lists.distinct.erase_eq_filter]
        simp only [Config.names, Config.applied, List.filter_map]
        rfl
      rw [Roster.edited, edited?, remove?, lists.names, if_pos present, Option.getD_some]
      refine ⟨named ▸ lists.distinct.erase name, named.symm, ?_⟩
      funext other
      rw [Config.pipeline_removed, lists.entry]
  · have nothing : roster.edited? edit = none := by
      simpa using mt decided.mp admitted
    rw [(Config.edit_refused admitted).2, Roster.edited, nothing]
    exact lists

/-- So do edits one after the other. -/
theorem editedBy (lists : roster.Lists config) (edits : List Edit) :
    (roster.editedBy edits).Lists (config.editedBy edits) := by
  induction edits generalizing roster config with
  | nil => exact lists
  | cons edit rest ih => exact ih (lists.edited edit)

end Lists

/-- A configuration whose names are distinct has a roster. -/
theorem lists_of_config {config : Config} (distinct : config.names.Nodup) :
    (ofConfig config).Lists config := ⟨distinct, rfl, rfl⟩

end Roster

namespace Config

/-- Whatever is edited, be it accepted or refused, the pipelines stay a map that keeps the order of
its names. Of a configuration whose names are distinct they are those of its roster after the same
edits, and an edit is refused, with its complaint, exactly when the roster rejects it. Found under a
name is the pipeline that was added under it last, or else the one that was there at first, unless
the name was removed since. A pipeline that is added under a new name and removed leaves the
configuration as it was, and so does every edit that is not accepted. Nothing but the pipelines and
the port ever changes, and the port does not become zero. Where a name occurs more than once,
removing it removes all that have it. -/
theorem edits_keep_order (config : Config) (edits : List Edit) :
    (config.names.Nodup →
      (config.editedBy edits).names.Nodup ∧
      (config.editedBy edits).pipelines = ((Roster.ofConfig config).editedBy edits).toList ∧
      (∀ name, (config.editedBy edits).pipeline? name =
        ((Roster.ofConfig config).editedBy edits).entry name) ∧
      ∀ edit, (config.editedBy edits).verdict edit =
        if (((Roster.ofConfig config).editedBy edits).edited? edit).isSome then .accepted
        else .refused (.rejected edit.complaint)) ∧
    (∀ name pipeline, (config.editedBy edits).pipeline? name = some pipeline ↔
      (∃ before after, edits = before ++ .add pipeline :: after ∧ pipeline.name = name ∧
        (config.editedBy before).verdict (.add pipeline) = .accepted ∧ .remove name ∉ after) ∨
      config.pipeline? name = some pipeline ∧ .remove name ∉ edits) ∧
    (∀ pipeline, (config.editedBy edits).pipeline? pipeline.name = none →
      config.editedBy (edits ++ [.add pipeline, .remove pipeline.name]) =
        config.editedBy edits) ∧
    (∀ edit, (config.editedBy edits).verdict edit ≠ .accepted →
      config.editedBy (edits ++ [edit]) = config.editedBy edits) ∧
    (∃ port pipelines, config.editedBy edits =
        { config with server := { config.server with port }, pipelines } ∧
      (port = 0 → config.server.port = 0)) ∧
    ∀ name, (config.edited (.remove name)).pipelines =
        config.pipelines.filter (fun pipeline => pipeline.name != name) ∧
      (config.edited (.remove name)).pipeline? name = none := by
  refine ⟨?_, pipeline_after_iff config edits, ?_, ?_, edited_by_fields config edits, ?_⟩
  · intro distinct
    have lists := (Roster.lists_of_config distinct).editedBy edits
    refine ⟨lists.distinct, lists.toList_eq.symm, fun name => by rw [lists.entry], ?_⟩
    intro edit
    by_cases admitted : (config.editedBy edits).Admits edit
    · rw [if_pos ((lists.edited_is_some_iff edit).mpr admitted), (edit_admitted admitted).1]
    · rw [if_neg (mt (lists.edited_is_some_iff edit).mp admitted), (edit_refused admitted).1]
  · intro pipeline nothing
    have absent := (pipeline_eq_none_iff _ _).mp nothing
    rw [List.append_cons, edited_by_snoc, edited_by_snoc]
    exact add_remove absent
  · intro edit refused
    rw [edited_by_snoc, (edit_refused (mt verdict_accepted_iff.mpr refused)).2]
  · intro name
    have removed : (config.edited (.remove name)) = config.applied (.remove name) := by
      by_cases admitted : config.Admits (.remove name)
      · exact (edit_admitted admitted).2
      · rw [(edit_refused admitted).2, applied, filter_of_absent admitted]
    rw [removed]
    exact ⟨rfl, by rw [pipeline_removed, if_pos rfl]⟩

/-- A configuration with two pipelines. -/
def buildAndDeploy : Config := { pipelines := [.named "build", .named "deploy"] }

/-- Edits some of which cannot be made when they are due. -/
def rebuilding : List Edit := [.add (.named "deploy"), .remove "build", .setPort 0,
  .remove "build", .add { name := "build", enabled := false }]

/-- Of the two pipelines one is removed and comes back at the end. What would have repeated a name,
removed one that is not there, or made the port zero, is refused. -/
theorem edits_keep_order_rebuilding :
    buildAndDeploy.names.Nodup ∧
      (buildAndDeploy.editedBy rebuilding).pipelines =
        [.named "deploy", { name := "build", enabled := false }] ∧
      (buildAndDeploy.editedBy rebuilding).pipeline? "build" =
        some { name := "build", enabled := false } ∧
      (buildAndDeploy.editedBy rebuilding).verdict (.add (.named "build")) =
        .refused (.rejected "pipeline 'build' already exists") := by
  have distinct : buildAndDeploy.names.Nodup := by decide
  obtain ⟨_, listed, found, decided⟩ := (edits_keep_order buildAndDeploy rebuilding).1 distinct
  exact ⟨distinct, listed.trans (by decide), (found _).trans (by decide),
    (decided _).trans (by decide)⟩

end Config

end LastGood
