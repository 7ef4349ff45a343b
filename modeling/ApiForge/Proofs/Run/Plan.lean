import ApiForge.Backend.ManifestBackend
import ApiForge.Proofs.Except
import ApiForge.Proofs.Output.Rendered
import ApiForge.Proofs.Output.Trace
import ApiForge.Run
/-
# ApiForge.Proofs.Run.Plan -- a run goes through its plan

The tasks of a run are known before it starts (`Job.tasks`).  What is gated comes before the
stamps, and nothing but a stamp is metadata (`asks_or_stamp`).  A run on a disk leaves the
trace of the tasks that it got to (`generate_writing`).
-/

namespace ApiForge

set_option autoImplicit false

namespace Planned

variable {α β : Type}

theorem perform_run [Readers] (p : Planned α) (e : Emitter) (output : Output) :
    (p.perform e).run output =
      match (Task.performAll e p.tasks).run output with
      | (.ok (), later) => (p.outcome, later)
      | (.error failure, later) => (.error failure, later) := by
  simp only [perform, Emission.bind_run, Emission.ofExcept_run]
  rcases (Task.performAll e p.tasks).run output with ⟨result, later⟩
  cases result <;> rfl

theorem bind_of_ok {p : Planned α} {next : α → Planned β} {a : α} (ok : p.outcome = .ok a) :
    p >>= next = ⟨p.tasks ++ (next a).tasks, (next a).outcome⟩ := by
  show p.andThen next = _
  simp only [andThen, ok]

theorem bind_of_error {p : Planned α} {next : α → Planned β} {failure : Failure}
    (failed : p.outcome = .error failure) : p >>= next = ⟨p.tasks, .error failure⟩ := by
  show p.andThen next = _
  simp only [andThen, failed]

/-- A plan of two parts succeeds if both do, and it has the tasks of both. -/
theorem bind_outcome_ok {p : Planned α} {next : α → Planned β} {b : β}
    (ok : (p >>= next).outcome = .ok b) :
    ∃ a, p.outcome = .ok a ∧ (next a).outcome = .ok b ∧
      (p >>= next).tasks = p.tasks ++ (next a).tasks := by
  cases first : p.outcome with
  | error failure => rw [bind_of_error first] at ok; cases ok
  | ok a =>
      rw [bind_of_ok first] at ok ⊢
      exact ⟨a, rfl, ok, rfl⟩

/-- What holds of the tasks of both parts holds of the tasks of a plan. -/
theorem forall_tasks_bind {p : Planned α} {next : α → Planned β} {P : Task → Prop}
    (first : ∀ t ∈ p.tasks, P t) (second : ∀ a, ∀ t ∈ (next a).tasks, P t) :
    ∀ t ∈ (p >>= next).tasks, P t := by
  intro t mem
  cases outcome : p.outcome with
  | error failure =>
      rw [bind_of_error outcome] at mem
      exact first t mem
  | ok a =>
      rw [bind_of_ok outcome] at mem
      rcases List.mem_append.1 mem with h | h
      · exact first t h
      · exact second a t h

@[simp] theorem ofExcept_tasks (outcome : Except Failure α) : (ofExcept outcome).tasks = [] := rfl

@[simp] theorem pure_tasks (a : α) : (pure a : Planned α).tasks = [] := rfl

@[simp] theorem ofTasks_tasks (ts : List Task) : (ofTasks ts).tasks = ts := rfl

end Planned

/-- What is made for one model or one group asks the gate. -/
theorem Task.Renders.asks {subject : Subject} {context : Context} {t : Task}
    (renders : t.Renders subject context) : t.Asks := by
  obtain ⟨template, making⟩ := renders.making
  refine ⟨by rw [isGated, making], renders.notStamp, fun _ _ provided => ?_⟩
  cases making.symm.trans provided

theorem asks_planGroups (backend : Backend) (options : Options) (models : List Json)
    (run : RunInfo) (groups : List (String × List OperationProjection)) :
    ∀ t ∈ (planGroups backend options models run groups).tasks, t.Asks := by
  induction groups with
  | nil => exact fun _ mem => by cases mem
  | cons group rest ih =>
      refine Planned.forall_tasks_bind ?_ fun context => Planned.forall_tasks_bind ih ?_
      · simp only [planGroup]
        split
        · exact fun _ mem => by cases mem
        · exact fun t mem => (renders_of_mem_groupTasks mem).asks
      · exact fun _ _ mem => by cases mem

theorem asks_supportingTasks (backend : Backend) (config : Config) (bundle : Context) :
    ∀ t ∈ supportingTasks backend config bundle, t.Asks := by
  intro t mem
  obtain ⟨f, -, rfl⟩ := List.mem_map.1 mem
  exact ⟨rfl, (fun h => by cases h), fun _ _ _ => rfl⟩

namespace Job

section Plans

variable [Readers]

/-- The tasks of a run, in order. -/
def tasks (job : Job) : List Task :=
  match job.description, job.backend with
  | some description, some backend =>
    (planBundle job.now job.config backend description).tasks
  | _, _ => []

/-- **What is not gated is a stamp, and stamps are made where they are asked for.** -/
theorem asks_or_stamp (now : Moment) (config : Config) (backend : Backend)
    (description : Description) :
    ∀ t ∈ (planBundle now config backend description).tasks, t.Asks ∨
      (config.generateMetadata = true ∧ t ∈ stampTasks backend.layout.outputFolder) := by
  have asks {ts : List Task} (all : ∀ t ∈ ts, t.Asks) : ∀ t ∈ ts, t.Asks ∨
      (config.generateMetadata = true ∧ t ∈ stampTasks backend.layout.outputFolder) :=
    fun t mem => Or.inl (all t mem)
  have none {ts : List Task} (empty : ts = []) : ∀ t ∈ ts, t.Asks :=
    fun t mem => by rw [empty] at mem; cases mem
  refine Planned.forall_tasks_bind (asks (none rfl)) fun run => ?_
  refine Planned.forall_tasks_bind (asks ?_) fun models => ?_
  · simp only [planModels]
    split
    · refine Planned.forall_tasks_bind (none rfl) fun table t mem => ?_
      obtain ⟨m, -, inModel⟩ := List.mem_flatMap.1 mem
      exact (m.renders_of_mem_tasks inModel).asks
    · exact none rfl
  refine Planned.forall_tasks_bind (asks ?_) fun operations => ?_
  · simp only [Job.planGroups]
    split
    · refine Planned.forall_tasks_bind (none rfl) fun groups => ?_
      exact Planned.forall_tasks_bind (asks_planGroups _ _ _ _ _) fun _ => none rfl
    · exact none rfl
  refine Planned.forall_tasks_bind (asks (none rfl)) fun bundle => ?_
  refine Planned.forall_tasks_bind (asks ?_) fun _ => ?_
  · simp only [Planned.ofTasks_tasks]
    split
    · exact asks_supportingTasks _ _ _
    · exact none rfl
  refine Planned.forall_tasks_bind ?_ fun _ => ?_
  · simp only [Planned.ofTasks_tasks]
    split
    · rename_i metadata
      exact fun t mem => Or.inr ⟨metadata, mem⟩
    · exact asks (none rfl)
  · exact Planned.forall_tasks_bind (asks (none rfl)) fun _ => asks (none rfl)

theorem asks_or_mem_stampTasks (now : Moment) (config : Config) (backend : Backend)
    (description : Description) : ∀ t ∈ (planBundle now config backend description).tasks,
      t.Asks ∨ t ∈ stampTasks backend.layout.outputFolder :=
  fun t mem => (asks_or_stamp now config backend description t mem).imp id And.right

/-! ## Running -/

/-- The folders that the templates of a run come from. -/
def folders (backend : Backend) : TemplateFolders :=
  ⟨backend.layout.templateFolder, backend.layout.commonTemplateFolder⟩

/-- What a run produces, also if it fails in the end. -/
def produced (job : Job) (sink : Sink) : List ProducedFile :=
  (job.run.run (Output.start sink)).2.files

section Running

variable (now : Moment) (config : Config) (backend : Backend) (description : Description)
  (sink : Sink)

theorem run_eq : (run ⟨some description, some backend, config, now⟩).run (Output.start sink) =
    match (Task.performAll (emitter sink.disk config backend)
        (planBundle now config backend description).tasks).run (Output.start sink) with
    | (.ok (), later) => ((planBundle now config backend description).outcome, later)
    | (.error failure, later) => (.error failure, later) := by
  simp only [run, Emission.bind_run, Emission.get_run, Planned.perform_run]
  rfl

theorem produced_eq : produced ⟨some description, some backend, config, now⟩ sink =
    ((Task.performAll (emitter sink.disk config backend)
      (planBundle now config backend description).tasks).run (Output.start sink)).2.files := by
  rw [produced, run_eq]
  rcases (Task.performAll _ _).run (Output.start sink) with ⟨result, later⟩
  cases result <;> rfl

theorem generate_eq : generate ⟨some description, some backend, config, now⟩ sink =
    match (Task.performAll (emitter sink.disk config backend)
        (planBundle now config backend description).tasks).run (Output.start sink) with
    | (.ok (), output) =>
      ((planBundle now config backend description).outcome.map fun _ => output.files,
        output.sink)
    | (.error failure, output) => (.error failure, output.sink) := by
  rw [generate, run_eq]
  rcases (Task.performAll _ _).run (Output.start sink) with ⟨result, later⟩
  cases result with
  | error failure => rfl
  | ok done => cases (planBundle now config backend description).outcome <;> rfl

/-- A run that succeeds has a plan that does. -/
theorem outcome_of_generate {files : List ProducedFile}
    (done : (generate ⟨some description, some backend, config, now⟩ sink).1 = .ok files) :
    ∃ bundle, (planBundle now config backend description).outcome = .ok bundle := by
  rw [generate_eq] at done
  split at done
  · obtain ⟨bundle, planned, -⟩ := map_eq_ok_iff.1 done
    exact ⟨bundle, planned⟩
  · cases done

end Running

/-- What a run on a disk leaves behind, whether or not it succeeds: the trace of the tasks
that it got to, and where it stopped maybe some more folders. -/
structure Ran (e : Emitter) (disk : Disk) (ts : List Task)
    (result : Except Failure (List ProducedFile)) (final : Disk) where
  front : List Task
  files : List ProducedFile
  before : Disk
  reached : front <+: ts
  trace : Task.Trace e disk front files before
  grows : Disk.Grows before final
  whole : ∀ listed, result = .ok listed → listed = files ∧ front = ts ∧ before = final

/-- **A run on a disk leaves the trace of the tasks that it got to.** -/
theorem generate_writing (now : Moment) (config : Config) (backend : Backend)
    (description : Description) (disk : Disk) :
    ∃ final, (generate ⟨some description, some backend, config, now⟩ (.writing disk)).2
        = .writing final ∧
      Nonempty (Ran (emitter disk config backend) disk
        (planBundle now config backend description).tasks
        (generate ⟨some description, some backend, config, now⟩ (.writing disk)).1 final) := by
  rw [generate_eq]
  simp only [Output.start, show (Sink.writing disk).disk = disk from rfl]
  rcases performed : (Task.performAll (emitter disk config backend)
    (planBundle now config backend description).tasks).run ⟨.writing disk, []⟩ with
    ⟨result, output⟩
  cases result with
  | ok done =>
      obtain ⟨files, final, rfl, trace⟩ := Task.performAll_writing_ok performed
      refine ⟨final, rfl, ⟨{
        front := (planBundle now config backend description).tasks
        files := files
        before := final
        reached := List.prefix_refl _
        trace := trace
        grows := Disk.Grows.refl final
        whole := ?_ }⟩⟩
      intro listed succeeded
      refine ⟨?_, rfl, rfl⟩
      cases outcome : (planBundle now config backend description).outcome with
      | error failure =>
          simp only [outcome] at succeeded
          cases succeeded
      | ok bundle =>
          simp only [outcome] at succeeded
          cases succeeded
          rfl
  | error failure =>
      obtain ⟨files, final, rfl, ⟨s⟩⟩ := Task.performAll_writing_error performed
      exact ⟨final, rfl, ⟨{
        front := s.front
        files := files
        before := s.before
        reached := ⟨s.task :: s.rest, s.split.symm⟩
        trace := s.trace
        grows := s.grows
        whole := fun listed succeeded => by cases succeeded }⟩⟩

end Plans

/-! ## Runs of a manifest -/

/-- The backend of a manifest that lies where relative paths start. -/
def backendOf (manifest : Manifest) : Backend :=
  ManifestBackend.toBackend ⟨manifest, ⟨""⟩, none⟩

/-- A run of that backend. -/
def ofManifest (manifest : Manifest) (config : Config) (description : Description) : Job :=
  ⟨some description, some (backendOf manifest), config, ⟨"", ""⟩⟩

/-- A disk with files to copy.  Both folders have one of the same name, and the second has a
template that cannot be read. -/
def stockedDisk : Disk :=
  ((((Disk.emptyAt []).put ⟨"own/a.txt"⟩ (.text "A")).put ⟨"shared/a.txt"⟩ (.text "B")).put
    ⟨"shared/b.txt"⟩ (.text "C")).put ⟨"shared/broken.jinja"⟩ (.text "\x7b\x7b")

theorem wellFormed_stockedDisk : stockedDisk.WellFormed :=
  (((Disk.wellFormed_emptyAt_root.put _ _).put _ _).put _ _).put _ _

/-- A run that makes some files from the files of that disk. -/
def copying (output own : Path) (overwrite metadata : Bool) (files : List SupportingFile) : Job :=
  .ofManifest { Manifest.standard with
    outputDir := output
    templateDir := own
    commonTemplateDir := some ⟨"shared"⟩
    overwrite := overwrite
    supportingFiles := files }
    { Config.standard with generateMetadata := metadata } .empty

end Job

end ApiForge
