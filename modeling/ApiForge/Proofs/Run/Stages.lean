import ApiForge.Proofs.Run.Plan
/-
# ApiForge.Proofs.Run.Stages -- what the stages of a run come to

A run that succeeds goes from one stage to the next: what the run as a whole says, the table
of models, the groups of operations with their contexts, the bundle (`Job.Stages`).  Its tasks
are made of these and of nothing else (`Job.stages_of_run`), so what is proved of the stages is
proved of what templates see.  Files of models and groups come first, then supporting files, each
from what its own descriptor names (`Job.Arranged`), then stamps.
-/

namespace ApiForge

set_option autoImplicit false

/-- The context of a group, under the tag of the group. -/
def MakesContext (backend : Backend) (models : List Json) (run : RunInfo)
    (group : String × List OperationProjection) (made : String × Context) : Prop :=
  made.1 = group.1 ∧ GroupContext.build backend group.1 group.2 models run = .ok made.2

/-- What stands in the second of two lists that go together has a partner in the first. -/
theorem exists_partner_of_mem {α β : Type} {goes : α → β → Prop} {first : List α}
    {second : List β} (together : List.Forall₂ goes first second) {b : β} (mem : b ∈ second) :
    ∃ a ∈ first, goes a b := by
  induction together with
  | nil => cases mem
  | cons here _ ih =>
      rcases List.mem_cons.1 mem with rfl | later
      · exact ⟨_, List.mem_cons_self, here⟩
      · obtain ⟨a, inRest, partner⟩ := ih later
        exact ⟨a, List.mem_cons_of_mem _ inRest, partner⟩

/-- Groups that are all planned have a context each, and files that are made from it. -/
theorem planGroups_eq_ok {backend : Backend} {options : Options} {models : List Json}
    {run : RunInfo} {groups : List (String × List OperationProjection)} {listed : List Json}
    (ok : (planGroups backend options models run groups).outcome = .ok listed) :
    ∃ contexts, List.Forall₂ (MakesContext backend models run) groups contexts ∧
      listed = contexts.map (fun c => .ofDict c.2) ∧
      (planGroups backend options models run groups).tasks
        = contexts.flatMap fun c => groupTasks backend options c.1 c.2 := by
  induction groups generalizing listed with
  | nil =>
      cases ok
      exact ⟨[], .nil, rfl, rfl⟩
  | cons group rest ih =>
      obtain ⟨context, first, later, split⟩ := Planned.bind_outcome_ok ok
      obtain ⟨others, second, whole, splitRest⟩ := Planned.bind_outcome_ok later
      cases whole
      obtain ⟨contexts, made, same, tasks⟩ := ih second
      rw [planGroups, split, splitRest, tasks]
      simp only [planGroup] at first ⊢
      cases built : GroupContext.build backend group.1 group.2 models run with
      | error cause =>
          rw [built] at first
          cases first
      | ok own =>
          rw [built] at first
          cases first
          refine ⟨(group.1, own) :: contexts, .cons ⟨rfl, built⟩ made, ?_, ?_⟩
          · rw [same]
            rfl
          · simp

namespace Job

/-- The switches of a run. -/
def switches (config : Config) (backend : Backend) : Options :=
  Options.resolve (toggleSources config backend)

/-- The descriptors that a run makes a supporting file for, in order. -/
def descriptors (config : Config) (backend : Backend) : List SupportingFile :=
  if (switches config backend).supportingFiles then
    backend.layout.supportingFiles.filter fun f => config.wants f.destination
  else []

/-- What the tasks of a run make their files from: those of models and groups from templates
that see the model or the group, then one for each descriptor from what the descriptor names,
which sees the bundle, and then the stamps. -/
structure Arranged (config : Config) (backend : Backend) (bundle : Context)
    (tasks front supporting : List Task) : Prop where
  whole : tasks = front ++ supporting ++
    if config.generateMetadata then stampTasks backend.layout.outputFolder else []
  renders : ∀ t ∈ front, ∃ context,
    (∃ name, t.Renders (.model name) context) ∨ ∃ tag, t.Renders (.api tag) context
  provides : List.Forall₂ (Task.Provides backend.layout.outputFolder bundle)
    (descriptors config backend) supporting

/-- Every supporting file has a descriptor of its own. -/
theorem Arranged.exists_descriptor {config : Config} {backend : Backend} {bundle : Context}
    {tasks front supporting : List Task}
    (arranged : Arranged config backend bundle tasks front supporting) {t : Task}
    (mem : t ∈ supporting) : ∃ f ∈ backend.layout.supportingFiles,
      t.Provides backend.layout.outputFolder bundle f := by
  obtain ⟨f, wanted, provides⟩ := exists_partner_of_mem arranged.provides mem
  refine ⟨f, ?_, provides⟩
  rw [descriptors] at wanted
  split at wanted
  · exact (List.mem_filter.1 wanted).1
  · cases wanted

/-- The file of every descriptor is made from what the descriptor names, and sees the bundle. -/
theorem Arranged.map_making {config : Config} {backend : Backend} {bundle : Context}
    {tasks front supporting : List Task}
    (arranged : Arranged config backend bundle tasks front supporting) :
    supporting.map Task.making
      = (descriptors config backend).map fun f => .provide f.template bundle := by
  rw [eq_comm, ← List.forall₂_eq_eq_eq, List.forall₂_map_left_iff, List.forall₂_map_right_iff]
  exact arranged.provides.imp fun _ _ provides => provides.making.symm

/-- What the stages of a run come to.  A category that is switched off leaves its stage
empty. -/
structure Stages [Readers] (now : Moment) (config : Config) (backend : Backend)
    (description : Description) (bundle : Context) where
  run : RunInfo
  table : ModelTable
  groups : OperationGroups
  /-- The contexts of the groups that are made, by tag. -/
  contexts : List (String × Context)
  informed : info now config backend description = .ok run
  modelled : if (switches config backend).models then
      ModelTable.build backend description.schemas config.modelFilter run.properties = .ok table
    else table = .empty
  grouped : if (switches config backend).apis then
      OperationGroups.ofDescription backend description = .ok groups
    else groups = .empty
  made : List.Forall₂ (MakesContext backend (table.listed backend) run)
    (groups.selected config.apiFilter) contexts
  bundled : Bundle.build backend description (table.listed backend)
    (markHasMore (contexts.map fun c => .ofDict c.2)) run = .ok bundle

namespace Stages

variable [Readers] {now : Moment} {config : Config} {backend : Backend} {description : Description}
  {bundle : Context}

/-- The tasks that the stages lead to. -/
def tasks (s : Stages now config backend description bundle) : List Task :=
  s.table.tasks backend (switches config backend)
    ++ s.contexts.flatMap (fun c => groupTasks backend (switches config backend) c.1 c.2)
    ++ (if (switches config backend).supportingFiles then supportingTasks backend config bundle
      else [])
    ++ (if config.generateMetadata then stampTasks backend.layout.outputFolder else [])

/-- The tasks that come before those for supporting files. -/
def front (s : Stages now config backend description bundle) : List Task :=
  s.table.tasks backend (switches config backend)
    ++ s.contexts.flatMap fun c => groupTasks backend (switches config backend) c.1 c.2

theorem arranged (s : Stages now config backend description bundle) :
    Arranged config backend bundle s.tasks s.front
      (if (switches config backend).supportingFiles then supportingTasks backend config bundle
      else []) where
  whole := rfl
  renders := by
    intro t mem
    rcases List.mem_append.1 mem with inModels | inGroups
    · obtain ⟨m, -, inModel⟩ := List.mem_flatMap.1 inModels
      exact ⟨_, .inl ⟨m.name, m.renders_of_mem_tasks inModel⟩⟩
    · obtain ⟨c, -, inGroup⟩ := List.mem_flatMap.1 inGroups
      exact ⟨_, .inr ⟨c.1, renders_of_mem_groupTasks inGroup⟩⟩
  provides := by
    rw [descriptors]
    split
    · exact forall₂_supportingTasks backend config bundle
    · exact .nil

/-- Every context belongs to a group. -/
theorem group_of_mem (s : Stages now config backend description bundle) {c : String × Context}
    (mem : c ∈ s.contexts) :
    ∃ operations, (c.1, operations) ∈ s.groups.selected config.apiFilter ∧
      GroupContext.build backend c.1 operations (s.table.listed backend) s.run = .ok c.2 := by
  obtain ⟨⟨tag, operations⟩, inGroups, named, built⟩ := exists_partner_of_mem s.made mem
  have same : c.1 = tag := named
  subst same
  exact ⟨operations, inGroups, built⟩

theorem build_of_on (s : Stages now config backend description bundle)
    (on : (switches config backend).models = true) :
    ModelTable.build backend description.schemas config.modelFilter s.run.properties
      = .ok s.table :=
  Eq.mp (if_pos on) s.modelled

theorem ofDescription_of_on (s : Stages now config backend description bundle)
    (on : (switches config backend).apis = true) :
    OperationGroups.ofDescription backend description = .ok s.groups :=
  Eq.mp (if_pos on) s.grouped

/-- Where models are switched off the table stays empty. -/
theorem table_of_off (s : Stages now config backend description bundle)
    (off : ¬ (switches config backend).models = true) : s.table = .empty :=
  Eq.mp (if_neg off) s.modelled

theorem groups_of_off (s : Stages now config backend description bundle)
    (off : ¬ (switches config backend).apis = true) : s.groups = .empty :=
  Eq.mp (if_neg off) s.grouped

/-- A table that holds a model was built. -/
theorem build_of_get? (s : Stages now config backend description bundle) {className : String}
    {m : TableModel} (stands : Dict.get? s.table className = some m) :
    ModelTable.build backend description.schemas config.modelFilter s.run.properties
      = .ok s.table := by
  by_cases on : (switches config backend).models = true
  · exact s.build_of_on on
  · rw [s.table_of_off on] at stands
    cases stands

/-- Groups of which one is made were collected. -/
theorem ofDescription_of_mem (s : Stages now config backend description bundle)
    {group : String × List OperationProjection}
    (mem : group ∈ s.groups.selected config.apiFilter) :
    OperationGroups.ofDescription backend description = .ok s.groups := by
  by_cases on : (switches config backend).apis = true
  · exact s.ofDescription_of_on on
  · rw [s.groups_of_off on] at mem
    cases mem

end Stages

section Planning

variable {now : Moment} {config : Config} {backend : Backend} {description : Description}

theorem planModels_eq_ok {options : Options} {run : RunInfo} {models : List Json}
    (ok : (planModels config options backend description run).outcome = .ok models) :
    ∃ table, (if options.models then
        ModelTable.build backend description.schemas config.modelFilter run.properties = .ok table
      else table = .empty) ∧ models = table.listed backend ∧
      (planModels config options backend description run).tasks
        = table.tasks backend options := by
  simp only [planModels] at ok ⊢
  cases wanted : options.models with
  | false =>
      simp only [wanted, Bool.false_eq_true, if_false] at ok ⊢
      cases ok
      exact ⟨.empty, rfl, rfl, rfl⟩
  | true =>
      simp only [wanted, if_true] at ok ⊢
      obtain ⟨table, built, listed, split⟩ := Planned.bind_outcome_ok ok
      cases listed
      refine ⟨table, built, rfl, ?_⟩
      rw [split]
      rfl

theorem planGroups_of_run_eq_ok {options : Options} {run : RunInfo} {models operations : List Json}
    (ok : (planGroups config options backend description models run).outcome
      = .ok operations) :
    ∃ groups contexts, (if options.apis then
        OperationGroups.ofDescription backend description = .ok groups else groups = .empty) ∧
      List.Forall₂ (MakesContext backend models run) (groups.selected config.apiFilter)
        contexts ∧
      operations = markHasMore (contexts.map fun c => .ofDict c.2) ∧
      (planGroups config options backend description models run).tasks
        = contexts.flatMap fun c => groupTasks backend options c.1 c.2 := by
  simp only [planGroups] at ok ⊢
  cases wanted : options.apis with
  | false =>
      simp only [wanted, Bool.false_eq_true, if_false] at ok ⊢
      cases ok
      exact ⟨.empty, [], rfl, .nil, rfl, rfl⟩
  | true =>
      simp only [wanted, if_true] at ok ⊢
      obtain ⟨groups, built, ok, split⟩ := Planned.bind_outcome_ok ok
      obtain ⟨listed, planned, marked, splitRest⟩ := Planned.bind_outcome_ok ok
      obtain ⟨contexts, made, same, tasks⟩ := planGroups_eq_ok planned
      cases marked
      refine ⟨groups, contexts, built, made, ?_, ?_⟩
      · rw [same]
      · rw [split, ← tasks]
        simp only [OperationGroups.plan]
        rw [show (markHasMore <$> ApiForge.planGroups backend options models run
          (groups.selected config.apiFilter)).tasks = _ from splitRest]
        simp

variable [Readers]

/-- **A plan that comes to its end has gone through all stages, and its tasks are made of
them.** -/
theorem stages_of_planBundle {bundle : Context}
    (ok : (planBundle now config backend description).outcome = .ok bundle) :
    ∃ s : Stages now config backend description bundle,
      (planBundle now config backend description).tasks = s.tasks := by
  obtain ⟨run, informed, ok, first⟩ := Planned.bind_outcome_ok ok
  obtain ⟨models, planned, ok, second⟩ := Planned.bind_outcome_ok ok
  obtain ⟨operations, arranged, ok, third⟩ := Planned.bind_outcome_ok ok
  obtain ⟨bundle', built, ok, fourth⟩ := Planned.bind_outcome_ok ok
  obtain ⟨_, -, ok, fifth⟩ := Planned.bind_outcome_ok ok
  obtain ⟨_, -, ok, sixth⟩ := Planned.bind_outcome_ok ok
  obtain ⟨_, -, ok, seventh⟩ := Planned.bind_outcome_ok ok
  cases ok
  obtain ⟨table, modelled, rfl, modelTasks⟩ := planModels_eq_ok planned
  obtain ⟨groups, contexts, grouped, made, rfl, groupTasks⟩ := planGroups_of_run_eq_ok arranged
  refine ⟨⟨run, table, groups, contexts, informed, modelled, grouped, made,
    mapError_eq_ok_iff.1 built⟩, ?_⟩
  rw [planBundle, first, second, third, fourth, fifth, sixth, seventh]
  simp only [Planned.ofExcept_tasks, Planned.ofTasks_tasks, Planned.pure_tasks,
    List.nil_append, List.append_nil, modelTasks, groupTasks, Stages.tasks, switches,
    List.append_assoc]
  rfl

/-- **A run that succeeds has gone through all stages.** -/
theorem stages_of_run {sink : Sink} {bundle : Context}
    (done : ((run ⟨some description, some backend, config, now⟩).run (Output.start sink)).1
      = .ok bundle) :
    ∃ s : Stages now config backend description bundle,
      tasks ⟨some description, some backend, config, now⟩ = s.tasks := by
  rw [run_eq] at done
  split at done
  · exact stages_of_planBundle done
  · cases done

end Planning

end Job

end ApiForge
