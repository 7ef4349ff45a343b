import ApiForge.Proofs.Run.Account
import ApiForge.Proofs.Run.Failures
/-
# ApiForge.Proofs.Run.Shown -- the bundle does not depend on what is there

A run goes through its stages, and each of them makes its files before the next one starts
(`Job.run_stagewise`).  What a stage hands on is in its plan, and making files can only stop
the run (`Planned.perform_run_or_file`).  So whatever lies on the disk, whatever the rules
ignore and wherever the files go, a run comes to the same bundle, unless a file stops it
(`Job.bundle_ignores_output`).  That bundle is what the supporting files are made from: the file of
a descriptor is written with what the template of the descriptor makes of it (`Task.WritesFrom`).

A run that only shows the bundle goes through a sink of its own.  That sink reads from the disk
and records what it would write (`Task.performAll_recording_disk`).
-/

namespace ApiForge

set_option autoImplicit false

/-! ## Sinks that record -/

/-- A sink that records does not touch the disk, whatever is wanted. -/
theorem Intent.settle_recording_disk {output : Output} {recorded : Recorded}
    (i : Intent) (records : output.sink.recorded = some recorded) (file : ProducedFile) :
    (i.settle file output).2.sink.disk = output.sink.disk ∧
      ∃ more, (i.settle file output).2.sink.recorded = some more := by
  have step : (i.enact file.path output.sink).2.disk = output.sink.disk ∧
      ∃ more, (i.enact file.path output.sink).2.recorded = some more := by
    cases i with
    | pass => exact ⟨rfl, recorded, records⟩
    | refuse error => exact ⟨rfl, recorded, records⟩
    | write contents =>
        simp only [Intent.enact, Sink.write, records]
        exact ⟨rfl, _, rfl⟩
    | copy source =>
        simp only [Intent.enact, Sink.copy, records]
        cases output.sink.disk.read source with
        | none => exact ⟨rfl, recorded, records⟩
        | some contents => exact ⟨rfl, _, rfl⟩
  simp only [Intent.settle]
  split
  · rename_i sink enacted
    rw [enacted] at step
    exact step
  · rename_i error sink enacted
    rw [enacted] at step
    exact step

namespace Task

variable [Readers] {e : Emitter}

/-- **Going through tasks leaves the disk as it is where files are recorded.** -/
theorem performAll_recording_disk {ts : List Task} {output : Output} {recorded : Recorded}
    (records : output.sink.recorded = some recorded) :
    ((performAll e ts).run output).2.sink.disk = output.sink.disk := by
  induction ts generalizing output recorded with
  | nil => rfl
  | cons t rest ih =>
      have step := (t.intent e output.sink).settle_recording_disk records t.file
      rw [performAll_cons_run]
      rcases settled : (t.intent e output.sink).settle t.file output with ⟨result, later⟩
      rw [settled] at step
      obtain ⟨same, more, recordsToo⟩ := step
      cases result with
      | error error => exact same
      | ok done => exact (ih recordsToo).trans same

/-! ## What is written -/

/-- Wherever the file of the task may be written and the template of that name is found and can be
read, the task writes what the template makes of the context, and reports it. -/
def WritesFrom (context : Context) (template : String) (t : Task) : Prop :=
  ∀ (e : Emitter) (output : Output) (source : Path) (body : String)
    (make : Context → Option String),
    TemplateFolders.isTemplate template = true → e.admits output.sink t.path t.category = true →
    e.folders.locate output.sink.disk template = some source →
    output.sink.disk.readText source = some body → Readers.template body = some make →
    (t.perform e).run output =
      match make context with
      | none => (.error (t.subject.failure (.file (.renderFailed source))), output)
      | some text =>
        match output.sink.write t.path (.text text) with
        | (.ok (), sink) => (.ok (), ⟨sink, output.files ++ [t.file]⟩)
        | (.error error, sink) =>
          (.error (t.subject.failure (.file error)), ⟨sink, output.files⟩)

/-- The supporting file of a descriptor is written from the template of the descriptor. -/
theorem Provides.writesFrom {folder : Path} {context : Context} {f : SupportingFile} {t : Task}
    (provides : t.Provides folder context f) : t.WritesFrom context f.template := by
  intro e output source body make isTemplate admitted found read parsed
  have wanted : t.intent e output.sink
      = .ofTemplate e.folders output.sink.disk f.template context := by
    simp only [intent, provides.making, found, if_pos isTemplate, Intent.ofRender, if_pos admitted]
  rw [perform_run, wanted, Intent.ofTemplate]
  cases made : make context with
  | none =>
      have refused : e.folders.render output.sink.disk f.template context
          = .error (.renderFailed source) := by
        simp only [TemplateFolders.render, TemplateFolders.renderAt, found, read, parsed, made]
      rw [refused]
      rfl
  | some text =>
      have rendered : e.folders.render output.sink.disk f.template context = .ok text := by
        simp only [TemplateFolders.render, TemplateFolders.renderAt, found, read, parsed, made]
      rw [rendered]
      simp only [Intent.ofRendered, Intent.settle, Intent.enact, file]
      rcases output.sink.write t.path (.text text) with ⟨result, sink⟩
      cases result <;> rfl

end Task

/-! ## Failures of files -/

/-- The failure of a file, as it is put down to what the file was for. -/
def Failure.IsOfFile (failure : Failure) : Prop :=
  ∃ (subject : Subject) (error : FileError), failure = subject.failure (.file error)

namespace Task

variable [Readers] {e : Emitter}

/-- Tasks that stop have stopped at a file. -/
theorem performAll_error {ts : List Task} {output later : Output} {failure : Failure}
    (failed : (performAll e ts).run output = (.error failure, later)) : failure.IsOfFile := by
  induction ts generalizing output with
  | nil => cases failed
  | cons t rest ih =>
      rw [performAll_cons_run] at failed
      split at failed
      · exact ih failed
      · cases failed
        exact ⟨t.subject, _, rfl⟩

theorem performAll_append (e : Emitter) (front back : List Task) :
    performAll e (front ++ back) = performAll e front >>= fun _ => performAll e back := by
  induction front with
  | nil => rfl
  | cons t rest ih => rw [List.cons_append, performAll, ih, performAll, bind_assoc]

end Task

/-! ## Plans -/

namespace Planned

variable [Readers] {α β : Type}

/-- **What a plan comes to when it is gone through is its outcome, unless a file stops it.** -/
theorem perform_run_or_file (p : Planned α) (e : Emitter) (output : Output) :
    ((p.perform e).run output).1 = p.outcome ∨
      ∃ failure, ((p.perform e).run output).1 = .error failure ∧ failure.IsOfFile := by
  rw [perform_run]
  rcases performed : (Task.performAll e p.tasks).run output with ⟨result, later⟩
  cases result with
  | ok done => exact .inl rfl
  | error failure => exact .inr ⟨failure, rfl, Task.performAll_error performed⟩

/-- The second part of a plan is gone through after the files of the first are made. -/
theorem perform_bind (p : Planned α) (next : α → Planned β) (e : Emitter) :
    (p >>= next).perform e = p.perform e >>= fun a => (next a).perform e := by
  cases outcome : p.outcome with
  | error failure =>
      rw [bind_of_error outcome, perform, perform, outcome, bind_assoc]
      rfl
  | ok a =>
      rw [bind_of_ok outcome, perform, perform, outcome, Task.performAll_append, bind_assoc,
        bind_assoc]
      rfl

theorem perform_ofExcept (outcome : Except Failure α) (e : Emitter) :
    (ofExcept outcome).perform e = MonadExcept.ofExcept outcome := rfl

theorem perform_ofTasks (ts : List Task) (e : Emitter) :
    (ofTasks ts).perform e = Task.performAll e ts := by
  show (Task.performAll e ts >>= fun _ => pure ()) = _
  exact bind_pure _

end Planned

namespace Job

section Showing

variable [Readers] {now : Moment} {config : Config} {backend : Backend} {description : Description}

theorem run_eq_perform (now : Moment) (config : Config) (backend : Backend)
    (description : Description) (sink : Sink) :
    (run ⟨some description, some backend, config, now⟩).run (Output.start sink) =
      ((planBundle now config backend description).perform
        (emitter sink.disk config backend)).run (Output.start sink) := by
  simp only [run, Emission.bind_run, Emission.get_run]
  rfl

/-- **A run goes from stage to stage**, and each makes its files before the next one starts. -/
theorem run_stagewise (now : Moment) (config : Config) (backend : Backend)
    (description : Description) (sink : Sink) :
    (run ⟨some description, some backend, config, now⟩).run (Output.start sink) =
      (do
        let e := emitter sink.disk config backend
        let options := switches config backend
        let run ← MonadExcept.ofExcept (info now config backend description)
        let models ← (planModels config options backend description run).perform e
        let operations ← (planGroups config options backend description models run).perform e
        let bundle ← MonadExcept.ofExcept
          ((Bundle.build backend description models operations run).mapError
            (.supportingFile "<bundle>"))
        Task.performAll e
          (if options.supportingFiles then supportingTasks backend config bundle else [])
        Task.performAll e
          (if config.generateMetadata then stampTasks backend.layout.outputFolder else [])
        MonadExcept.ofExcept
          ((backend.hooks.processDescription description).mapError (.hook "process_description"))
        return bundle : Emission Failure Context).run (Output.start sink) := by
  rw [run_eq_perform]
  simp only [planBundle, Planned.perform_bind, Planned.perform_ofExcept, Planned.perform_ofTasks]
  rfl

/-- **Showing the bundle of a run changes nothing.** -/
theorem showBundle_eq (job : Job) (sink : Sink) :
    job.showBundle sink = (job.bundle sink.disk, sink) := by
  have same : (job.run.run (Output.start (.recording sink.disk))).2.sink.disk = sink.disk := by
    obtain ⟨found, backend, config, now⟩ := job
    cases found with
    | none => rfl
    | some description =>
        cases backend with
        | none => rfl
        | some backend =>
            rw [run_eq]
            have kept := @Task.performAll_recording_disk _ (emitter sink.disk config backend)
              (planBundle now config backend description).tasks
              (Output.start (.recording sink.disk)) [] rfl
            split
            · rename_i later performed
              exact (congrArg (fun r => r.2.sink.disk) performed).symm.trans kept
            · rename_i failure later performed
              exact (congrArg (fun r => r.2.sink.disk) performed).symm.trans kept
  rw [showBundle, bundle]
  rcases ran : job.run.run (Output.start (.recording sink.disk)) with ⟨result, output⟩
  rw [ran] at same
  exact congrArg (fun disk => (result, { sink with disk := disk })) same

/-- What a run comes to is what its plan comes to, unless a file stops it. -/
theorem run_or_file (now : Moment) (config : Config) (backend : Backend)
    (description : Description) (sink : Sink) :
    ((run ⟨some description, some backend, config, now⟩).run (Output.start sink)).1
        = (planBundle now config backend description).outcome ∨
      ∃ failure,
        ((run ⟨some description, some backend, config, now⟩).run (Output.start sink)).1
          = .error failure ∧ failure.IsOfFile := by
  rw [run_eq_perform]
  exact Planned.perform_run_or_file _ _ _

/-- A bundle that can be shown is what the plan comes to. -/
theorem outcome_of_bundle {disk : Disk} {bundle : Context}
    (shown : Job.bundle ⟨some description, some backend, config, now⟩ disk = .ok bundle) :
    (planBundle now config backend description).outcome = .ok bundle := by
  rcases run_or_file now config backend description (.recording disk) with
    same | ⟨failure, stopped, -⟩
  · exact same.symm.trans shown
  · cases stopped.symm.trans shown

/-- Where a bundle that is planned cannot be shown, a file is the reason. -/
theorem isOfFile_of_bundle {disk : Disk} {bundle : Context} {failure : Failure}
    (planned : (planBundle now config backend description).outcome = .ok bundle)
    (failed : Job.bundle ⟨some description, some backend, config, now⟩ disk = .error failure) :
    failure.IsOfFile := by
  rcases run_or_file now config backend description (.recording disk) with
    same | ⟨reason, stopped, ofFile⟩
  · cases failed.symm.trans (same.trans planned)
  · exact Except.error.inj (stopped.symm.trans failed) ▸ ofFile

/-- **The bundle of a run does not depend on what is there.**  Showing it changes neither the
disk nor the sink.  Wherever it can be shown it is the same, whatever the disk and the rules on
it are, and where it cannot, a file is the reason.  Every run goes through the same tasks, and the
file of every descriptor that is wanted is written with what the template of the descriptor makes
of that bundle. -/
theorem bundle_ignores_output (now : Moment) (config : Config) (backend : Backend)
    (description : Description) :
    let job : Job := ⟨some description, some backend, config, now⟩
    (∀ sink, job.showBundle sink = (job.bundle sink.disk, sink)) ∧
    ∀ disk bundle, job.bundle disk = .ok bundle →
      (∀ other shown, job.bundle other = .ok shown → shown = bundle) ∧
      (∀ other failure, job.bundle other = .error failure → failure.IsOfFile) ∧
      ∃ front supporting, Arranged config backend bundle job.tasks front supporting ∧
        List.Forall₂ (fun f t => t.WritesFrom bundle f.template) (descriptors config backend)
          supporting ∧
        ∀ sink,
          job.run.run (Output.start sink) =
            (do
              Task.performAll (emitter sink.disk config backend) job.tasks
              return bundle : Emission Failure Context).run (Output.start sink) ∧
          ∀ files, (job.generate sink).1 = .ok files →
            Task.Account (emitter sink.disk config backend) backend.layout (Output.start sink)
              job.tasks ⟨(job.generate sink).2, files⟩ := by
  intro job
  refine ⟨showBundle_eq job, fun disk bundle shown => ?_⟩
  have planned := outcome_of_bundle shown
  obtain ⟨s, tasks⟩ := stages_of_planBundle planned
  have arranged : Arranged config backend bundle job.tasks s.front _ :=
    (show job.tasks = s.tasks from tasks) ▸ s.arranged
  refine ⟨fun other again done => ?_, fun other failure failed => isOfFile_of_bundle planned failed,
    s.front, _, arranged, arranged.provides.imp fun _ _ provides => provides.writesFrom,
    fun sink => ⟨?_, ?_⟩⟩
  · exact Except.ok.inj ((outcome_of_bundle done).symm.trans planned)
  · rw [run_eq_perform, Planned.perform, planned]
    rfl
  · intro files done
    exact account_of_generate arranged.origin done

end Showing

/-- A manifest with a template for groups and one for a file of the project as a whole. -/
def readmeManifest : Manifest :=
  { Manifest.standard with
    outputDir := ⟨"out"⟩
    templates := { TemplateSets.empty with api := .ofList [("a.txt", ".rs")] }
    supportingFiles := [⟨"readme.jinja", "README.md", none⟩] }

/-- A run of it. -/
def readmeJob : Job := ofManifest readmeManifest .standard OperationGroups.untaggedPaths

/-- A disk with the templates. -/
def templateDisk : Disk :=
  ((Disk.emptyAt []).put ⟨"templates/a.txt"⟩ (.text "a")).put ⟨"templates/readme.jinja"⟩
    (.text "at \x7b\x7b basePath \x7d\x7d")

/-- The disk with a file that the run makes and with rules that ignore it and the README. -/
def filledDisk : Disk :=
  (templateDisk.put ⟨"out/default_api.rs"⟩ (.text "old")).put (Product.ignoreFilePath ⟨"out"⟩)
    (.text "*.rs\n*.md\n")

theorem bundle_ignores_output_filled :
    (rules filledDisk .standard (backendOf readmeManifest)).allows ⟨"out/README.md"⟩ = false ∧
      ((readmeJob.generate (.writing templateDisk)).2.disk.readText ⟨"out/README.md"⟩)
        = some "at http://localhost" ∧
      ∃ bundle, readmeJob.bundle templateDisk = .ok bundle ∧
        readmeJob.bundle filledDisk = .ok bundle ∧
        (readmeJob.showBundle (.writing filledDisk)).2 = .writing filledDisk ∧
        ∃ front supporting,
          Arranged .standard (backendOf readmeManifest) bundle readmeJob.tasks front supporting ∧
          supporting.map Task.making = [.provide "readme.jinja" bundle] := by
  obtain ⟨shows, same⟩ := bundle_ignores_output ⟨"", ""⟩ .standard (backendOf readmeManifest)
    OperationGroups.untaggedPaths
  have made : (readmeJob.bundle templateDisk).toOption.isSome = true := by decide +kernel
  have madeToo : (readmeJob.bundle filledDisk).toOption.isSome = true := by decide +kernel
  obtain ⟨bundle, made⟩ := Option.isSome_iff_exists.1 made
  obtain ⟨shown, madeToo⟩ := Option.isSome_iff_exists.1 madeToo
  have first := eq_ok_of_toOption made
  have second := eq_ok_of_toOption madeToo
  obtain ⟨unique, -, front, supporting, arranged, -⟩ := same templateDisk bundle first
  have alike : shown = bundle := unique filledDisk shown second
  subst alike
  have kept := congrArg Prod.snd (shows (.writing filledDisk))
  have wanted : descriptors .standard (backendOf readmeManifest)
      = readmeManifest.supportingFiles := by decide
  refine ⟨by decide +kernel, by decide +kernel, shown, first, second, kept, front, supporting,
    arranged, ?_⟩
  rw [arranged.map_making, wanted]
  rfl

end Job

end ApiForge
