import ApiForge.Proofs.Models.Table
import ApiForge.Proofs.Properties
import ApiForge.Proofs.Run.Stages
/-
# ApiForge.Proofs.Run.Account -- what a run produces is what it planned

The files of a run can be told from its models, its groups and its configuration
(`Job.filesOfRun`).  A run that succeeds goes through its tasks in order and produces each file
that there is no reason to leave out (`Task.Account`), so what it reports is what it planned,
less the files left out.  A supporting file is left out for want of a source only where the file
that its own descriptor names is missing.
-/

namespace ApiForge

set_option autoImplicit false

/-! ## Reasons to leave a file out -/

namespace Task

/-- Why a planned file is not produced, as things stand when its turn comes. -/
inductive Skip (e : Emitter) (layout : Layout) (sink : Sink) (t : Task) : Prop where
  /-- The ignore rules reject it. -/
  | ignored : t.category ≠ .metadata → e.rules.allows t.path = false → Skip e layout sink t
  /-- It is there already, and it is a test or not to be overwritten. -/
  | kept : t.category ≠ .metadata → sink.exists? t.path = true →
      t.category = .test ∨ e.overwrite t.path = false → Skip e layout sink t
  /-- It is the supporting file of a descriptor, and the file that the descriptor names is not
  found. -/
  | sourceless {f : SupportingFile} {context : Context} : f ∈ layout.supportingFiles →
      t.Provides layout.outputFolder context f →
      e.folders.locate sink.disk f.template = none → Skip e layout sink t
  /-- It is the ignore file, and it is there already. -/
  | stamped {text : String} : t.path = Product.ignoreFilePath layout.outputFolder →
      t.making = .stampOnce text → sink.exists? t.path = true → Skip e layout sink t

/-- Tasks that all succeed, one after the other: a file is left out where there is a reason,
and otherwise it is produced and reported. -/
inductive Account [Readers] (e : Emitter) (layout : Layout) :
    Output → List Task → Output → Prop where
  | done (output : Output) : Account e layout output [] output
  | skipped {output final : Output} {t : Task} {rest : List Task} :
      Skip e layout output.sink t → (t.perform e).run output = (.ok (), output) →
      Account e layout output rest final → Account e layout output (t :: rest) final
  | produced {output next final : Output} {t : Task} {rest : List Task} :
      ¬ Skip e layout output.sink t → (t.perform e).run output = (.ok (), next) →
      next.files = output.files ++ [t.file] →
      Account e layout next rest final → Account e layout output (t :: rest) final

/-- What the file of a task is made from. -/
inductive Origin (layout : Layout) (t : Task) : Prop where
  | template {subject : Subject} {context : Context} : t.Renders subject context →
      Origin layout t
  | descriptor {f : SupportingFile} {context : Context} : f ∈ layout.supportingFiles →
      t.Provides layout.outputFolder context f → Origin layout t
  | stamp : t ∈ stampTasks layout.outputFolder → Origin layout t

variable {e : Emitter} {layout : Layout} {sink : Sink} {t : Task}

theorem admits_eq_false_iff {category : FileCategory} {path : Path}
    (notStamp : category ≠ .metadata) :
    e.admits sink path category = false ↔ e.rules.allows path = false ∨
      (sink.exists? path = true ∧ (category = .test ∨ e.overwrite path = false)) := by
  rw [← Bool.not_eq_true, admits_iff notStamp]
  cases e.rules.allows path <;> cases sink.exists? path <;> cases e.overwrite path <;>
    simp

theorem skip_of_not_admitted (notStamp : t.category ≠ .metadata)
    (refused : e.admits sink t.path t.category = false) : Skip e layout sink t := by
  rcases (admits_eq_false_iff notStamp).1 refused with ignored | ⟨there, kept⟩
  · exact .ignored notStamp ignored
  · exact .kept notStamp there kept

/-- A file that comes from a template is left out for what the gate says. -/
theorem skip_iff_of_renders {subject : Subject} {context : Context}
    (renders : t.Renders subject context) :
    Skip e layout sink t ↔ e.admits sink t.path t.category = false := by
  obtain ⟨template, making⟩ := renders.making
  refine ⟨fun skip => ?_, skip_of_not_admitted renders.notStamp⟩
  rw [admits_eq_false_iff renders.notStamp]
  rcases skip with ⟨-, ignored⟩ | ⟨-, there, kept⟩ | ⟨-, provides, -⟩ | ⟨-, stamps, -⟩
  · exact .inl ignored
  · exact .inr ⟨there, kept⟩
  · cases making.symm.trans provides.making
  · cases making.symm.trans stamps

/-- A supporting file is left out for what the gate says, or because the file that its descriptor
names is missing. -/
theorem skip_iff_of_provides {f : SupportingFile} {context : Context}
    (declared : f ∈ layout.supportingFiles)
    (provides : t.Provides layout.outputFolder context f) :
    Skip e layout sink t ↔ e.admits sink t.path t.category = false ∨
      e.folders.locate sink.disk f.template = none := by
  have notStamp : t.category ≠ .metadata := by
    rw [provides.category]
    decide
  constructor
  · rintro (⟨-, ignored⟩ | ⟨-, there, kept⟩ | ⟨-, other, missing⟩ | ⟨-, stamps, -⟩)
    · exact .inl ((admits_eq_false_iff notStamp).2 (.inl ignored))
    · exact .inl ((admits_eq_false_iff notStamp).2 (.inr ⟨there, kept⟩))
    · have same := provides.making.symm.trans other.making
      simp only [Making.provide.injEq] at same
      exact .inr (same.1 ▸ missing)
    · cases provides.making.symm.trans stamps
  · rintro (refused | missing)
    · exact skip_of_not_admitted notStamp refused
    · exact .sourceless declared provides missing

theorem pass_ofCopy_iff {source path : Path} {category : FileCategory} :
    Intent.ofCopy e sink path category source = .pass ↔
      e.admits sink path category = false := by
  simp only [Intent.ofCopy]
  cases e.admits sink path category <;> simp

section Running

variable [Readers]

theorem pass_ofRender_iff {template : String} {context : Context} {path : Path}
    {category : FileCategory} :
    Intent.ofRender e sink path category template context = .pass ↔
      e.admits sink path category = false := by
  simp only [Intent.ofRender, Intent.ofTemplate]
  cases e.admits sink path category with
  | false => simp
  | true => simp [Intent.ofRendered_ne_pass]

/-- **A file is passed over exactly where there is a reason to.** -/
theorem pass_iff_skip (origin : t.Origin layout) :
    t.intent e sink = .pass ↔ Skip e layout sink t := by
  rcases origin with renders | ⟨declared, provides⟩ | stamp
  · obtain ⟨template, making⟩ := renders.making
    rw [skip_iff_of_renders renders]
    simp only [intent, making, pass_ofRender_iff]
  · rw [skip_iff_of_provides declared provides]
    rename_i f context
    simp only [intent, provides.making]
    cases found : e.folders.locate sink.disk f.template with
    | none => simp
    | some source =>
        by_cases template : TemplateFolders.isTemplate f.template = true
        · simp [template, pass_ofRender_iff]
        · simp [template, pass_ofCopy_iff]
  · simp only [stampTasks, List.mem_cons, List.not_mem_nil, or_false] at stamp
    rcases stamp with rfl | rfl
    · simp only [intent]
      constructor
      · intro pass
        split at pass
        · rename_i there
          exact .stamped rfl rfl there
        · cases pass
      · rintro (⟨notStamp, -⟩ | ⟨notStamp, -, -⟩ | ⟨-, provides, -⟩ | ⟨-, -, there⟩)
        · exact absurd rfl notStamp
        · exact absurd rfl notStamp
        · cases provides.making
        · rw [if_pos there]
    · simp only [intent, reduceCtorEq, false_iff]
      rintro (⟨notStamp, -⟩ | ⟨notStamp, -, -⟩ | ⟨-, provides, -⟩ | ⟨-, making, -⟩)
      · exact notStamp rfl
      · exact notStamp rfl
      · cases provides.making
      · cases making

/-- Tasks that all succeed are accounted for. -/
theorem account_of_performAll {ts : List Task} {output final : Output}
    (origins : ∀ t ∈ ts, t.Origin layout)
    (done : (performAll e ts).run output = (.ok (), final)) :
    Account e layout output ts final := by
  induction ts generalizing output with
  | nil =>
      cases done
      exact .done _
  | cons t rest ih =>
      have here := origins t List.mem_cons_self
      have others : ∀ u ∈ rest, u.Origin layout :=
        fun u mem => origins u (List.mem_cons_of_mem _ mem)
      rw [performAll_cons_run] at done
      split at done
      · rename_i next settled
        have performed : (t.perform e).run output = (.ok (), next) := by
          rw [perform_run, settled]
          rfl
        rcases settle_ok settled with ⟨pass, rfl⟩ | ⟨made, listed⟩
        · exact .skipped ((pass_iff_skip here).1 pass) performed (ih others done)
        · refine .produced (fun skip => ?_) performed listed (ih others done)
          rw [(pass_iff_skip here).2 skip] at made
          cases made
      · cases done

/-- What is reported is what was planned, less some files. -/
theorem Account.sublist {ts : List Task} {output final : Output}
    (account : Account e layout output ts final) :
    ∃ more, final.files = output.files ++ more ∧ more.Sublist (ts.map file) := by
  induction account with
  | done output => exact ⟨[], by simp, List.Sublist.slnil⟩
  | skipped _ _ _ ih =>
      obtain ⟨more, files, sub⟩ := ih
      exact ⟨more, files, sub.cons _⟩
  | @produced output next final t rest _ _ listed _ ih =>
      obtain ⟨more, files, sub⟩ := ih
      exact ⟨t.file :: more, by simp [files, listed], sub.cons_cons _⟩

end Running

end Task

/-- Every task of an arranged list comes from a template, a descriptor or a stamp. -/
theorem Job.Arranged.origin {config : Config} {backend : Backend} {bundle : Context}
    {tasks front supporting : List Task}
    (arranged : Arranged config backend bundle tasks front supporting) :
    ∀ t ∈ tasks, t.Origin backend.layout := by
  intro t mem
  rw [arranged.whole, List.mem_append, List.mem_append] at mem
  rcases mem with (inFront | inSupporting) | stamp
  · obtain ⟨context, ⟨name, renders⟩ | ⟨tag, renders⟩⟩ := arranged.renders t inFront
    · exact .template renders
    · exact .template renders
  · obtain ⟨f, wanted, provides⟩ := arranged.exists_descriptor inSupporting
    exact .descriptor wanted provides
  · split at stamp
    · exact .stamp stamp
    · cases stamp

/-! ## The plan of a run -/

/-- The files that a set of templates makes under a name. -/
def filesFor (category : FileCategory) (folder : Path) (name : String)
    (templates : Dict String) : List ProducedFile :=
  templates.entries.map fun t => ⟨folder.join (name ++ t.2), category⟩

/-- The files of a model; an alias may go without sources. -/
def filesOfModel (backend : Backend) (options : Options) (m : TableModel) :
    List ProducedFile :=
  (if backend.types.checkAliasModel && m.model.isAlias then []
    else filesFor .source backend.layout.modelFolder (backend.naming.modelFilename m.name)
      backend.layout.modelTemplates)
  ++ (if options.modelTests then
      filesFor .test backend.layout.modelTestFolder (backend.naming.modelTestFilename m.name)
        backend.layout.modelTestTemplates
    else [])
  ++ (if options.modelDocs then
      filesFor .documentation backend.layout.modelDocFolder
        (backend.naming.modelDocFilename m.name) backend.layout.modelDocTemplates
    else [])

/-- The files of a group of operations. -/
def filesOfGroup (backend : Backend) (options : Options) (tag : String) : List ProducedFile :=
  filesFor .source backend.layout.apiFolder (backend.naming.apiFilename tag)
    backend.layout.apiTemplates
  ++ (if options.apiTests then
      filesFor .test backend.layout.apiTestFolder (backend.naming.apiTestFilename tag)
        backend.layout.apiTestTemplates
    else [])
  ++ (if options.apiDocs then
      filesFor .documentation backend.layout.apiDocFolder (backend.naming.apiDocFilename tag)
        backend.layout.apiDocTemplates
    else [])

namespace Job

/-- The files of a run, in order: those of the models that do not stand for a type from
elsewhere, by class name, those of the groups that are wanted, by name, the supporting files
that are wanted, as declared, and the two stamps. -/
def filesOfRun (config : Config) (backend : Backend) (table : ModelTable)
    (groups : OperationGroups) : List ProducedFile :=
  let options := Options.resolve (toggleSources config backend)
  let output := backend.layout.outputFolder
  (if options.models then
    (table.generated backend).flatMap (filesOfModel backend options) else [])
  ++ (if options.apis then
    (groups.selected config.apiFilter).flatMap fun g => filesOfGroup backend options g.1 else [])
  ++ (if options.supportingFiles then
    (backend.layout.supportingFiles.filter fun f => config.wants f.destination).map fun f =>
      ⟨(f.target output).join f.destination, .supporting⟩ else [])
  ++ (if config.generateMetadata then
    [⟨Product.ignoreFilePath output, .metadata⟩, ⟨Product.versionFilePath output, .metadata⟩]
    else [])

end Job

theorem map_file_ofTemplates (subject : Subject) (category : FileCategory) (folder : Path)
    (name : String) (templates : Dict String) (context : Context) :
    (Task.ofTemplates subject category folder name templates context).map Task.file
      = filesFor category folder name templates := by
  simp [Task.ofTemplates, filesFor, Task.file]

theorem map_file_tasks_of_isAlias {backend : Backend} {m : TableModel} (options : Options)
    (same : m.isAlias = m.model.isAlias) :
    (m.tasks backend options).map Task.file = filesOfModel backend options m := by
  simp only [TableModel.tasks, TableModel.sources, TableModel.tests, TableModel.documentation,
    TableModel.isSuppressed, filesOfModel, same, List.map_append, apply_ite (List.map Task.file),
    map_file_ofTemplates, List.map_nil]

theorem map_file_groupTasks (backend : Backend) (options : Options) (tag : String)
    (context : Context) :
    (groupTasks backend options tag context).map Task.file
      = filesOfGroup backend options tag := by
  simp only [groupTasks, filesOfGroup, List.map_append, apply_ite (List.map Task.file),
    map_file_ofTemplates, List.map_nil]

theorem map_file_modelTasks {backend : Backend} (options : Options) {table : ModelTable}
    (faithful : table.Faithful backend) :
    (table.tasks backend options).map Task.file
      = (table.generated backend).flatMap (filesOfModel backend options) := by
  rw [ModelTable.tasks, List.map_flatMap, List.flatMap_def, List.flatMap_def]
  refine congrArg List.flatten (List.map_congr_left fun m mem => ?_)
  exact map_file_tasks_of_isAlias options (faithful.isAlias mem)

theorem map_file_of_forall₂ {backend : Backend} (options : Options) {models : List Json}
    {run : RunInfo} {groups : List (String × List OperationProjection)}
    {contexts : List (String × Context)}
    (made : List.Forall₂ (MakesContext backend models run) groups contexts) :
    (contexts.flatMap fun c => groupTasks backend options c.1 c.2).map Task.file
      = groups.flatMap fun g => filesOfGroup backend options g.1 := by
  induction made with
  | nil => rfl
  | cons first _ ih =>
      rw [List.flatMap_cons, List.map_append, ih, map_file_groupTasks, first.1,
        List.flatMap_cons]

namespace Job

section Accounting

variable {now : Moment} {config : Config} {backend : Backend} {description : Description}

/-- Where neither the backend nor the configuration sets the list of models, nobody does. -/
theorem silent_of_info [Readers] {run : RunInfo} (plain : backend.hooks = .none)
    (declared : backend.settings.properties.get? Key.models = none)
    (configured : config.properties.get? Key.models = none)
    (ok : info now config backend description = .ok run) :
    run.properties.get? Key.models = none := by
  rw [get?_of_info plain ok (by decide), given, configured, declared]
  rfl

theorem map_file_supportingTasks (bundle : Context) :
    (supportingTasks backend config bundle).map Task.file =
      (backend.layout.supportingFiles.filter fun f => config.wants f.destination).map fun f =>
        ⟨(f.target backend.layout.outputFolder).join f.destination, .supporting⟩ := by
  rw [supportingTasks, List.map_map]
  rfl

variable [Readers]

/-- The files of a plan that comes to its end are those of its models, of its groups, the
supporting files and the stamps. -/
theorem map_file_planBundle {bundle : Context}
    (ok : (planBundle now config backend description).outcome = .ok bundle) :
    ∃ run table groups, info now config backend description = .ok run ∧
      ((Options.resolve (toggleSources config backend)).models = true →
        ModelTable.build backend description.schemas config.modelFilter run.properties
          = .ok table) ∧
      ((Options.resolve (toggleSources config backend)).apis = true →
        OperationGroups.ofDescription backend description = .ok groups) ∧
      (planBundle now config backend description).tasks.map Task.file =
        (if (Options.resolve (toggleSources config backend)).models then
          (table.tasks backend (Options.resolve (toggleSources config backend))).map Task.file
        else [])
        ++ (if (Options.resolve (toggleSources config backend)).apis then
          (groups.selected config.apiFilter).flatMap fun g =>
            filesOfGroup backend (Options.resolve (toggleSources config backend)) g.1
        else [])
        ++ (if (Options.resolve (toggleSources config backend)).supportingFiles then
          (backend.layout.supportingFiles.filter fun f => config.wants f.destination).map
            fun f => ⟨(f.target backend.layout.outputFolder).join f.destination, .supporting⟩
        else [])
        ++ (if config.generateMetadata then
          [⟨Product.ignoreFilePath backend.layout.outputFolder, .metadata⟩,
            ⟨Product.versionFilePath backend.layout.outputFolder, .metadata⟩]
        else []) := by
  obtain ⟨s, planned⟩ := stages_of_planBundle ok
  -- a category that is switched off has left its stage empty
  have modelFiles : (s.table.tasks backend (switches config backend)).map Task.file
      = if (switches config backend).models then
          (s.table.tasks backend (switches config backend)).map Task.file
        else [] := by
    split
    · rfl
    · rename_i off
      rw [s.table_of_off off]
      rfl
  have groupFiles : (s.contexts.flatMap fun c =>
        groupTasks backend (switches config backend) c.1 c.2).map Task.file
      = if (switches config backend).apis then
          (s.groups.selected config.apiFilter).flatMap fun g =>
            filesOfGroup backend (switches config backend) g.1
        else [] := by
    rw [map_file_of_forall₂ _ s.made]
    split
    · rfl
    · rename_i off
      rw [s.groups_of_off off]
      rfl
  refine ⟨s.run, s.table, s.groups, s.informed, s.build_of_on, s.ofDescription_of_on, ?_⟩
  rw [planned, Stages.tasks, List.map_append, List.map_append, List.map_append, modelFiles,
    groupFiles]
  simp only [apply_ite (List.map Task.file), map_file_supportingTasks, List.map_nil]
  rfl

/-- The tasks of a plan that comes to its end make the files of the run. -/
theorem map_file_of_planBundle {bundle : Context} (plain : backend.hooks = .none)
    (declared : backend.settings.properties.get? Key.models = none)
    (configured : config.properties.get? Key.models = none)
    (ok : (planBundle now config backend description).outcome = .ok bundle) :
    ∃ run table groups, info now config backend description = .ok run ∧
      ((Options.resolve (toggleSources config backend)).models = true →
        ModelTable.build backend description.schemas config.modelFilter run.properties
          = .ok table) ∧
      ((Options.resolve (toggleSources config backend)).apis = true →
        OperationGroups.ofDescription backend description = .ok groups) ∧
      (planBundle now config backend description).tasks.map Task.file
        = filesOfRun config backend table groups := by
  obtain ⟨run, table, groups, informed, built, collected, files⟩ := map_file_planBundle ok
  refine ⟨run, table, groups, informed, built, collected, files.trans ?_⟩
  have silent := silent_of_info plain declared configured informed
  simp only [filesOfRun]
  cases wanted : (Options.resolve (toggleSources config backend)).models with
  | false => rfl
  | true =>
      have faithful := ModelTable.faithful_of_build (by rw [plain]; exact fun _ => rfl) silent
        (by rw [plain]; exact fun _ => rfl) (built wanted)
      rw [if_pos rfl, if_pos rfl, map_file_modelTasks _ faithful]

/-! ## The account of a run -/

/-- The tasks of a run that succeeds are accounted for. -/
theorem account_of_generate {sink : Sink} {files : List ProducedFile}
    (origins : ∀ t ∈ tasks ⟨some description, some backend, config, now⟩,
      t.Origin backend.layout)
    (done : (generate ⟨some description, some backend, config, now⟩ sink).1 = .ok files) :
    Task.Account (emitter sink.disk config backend) backend.layout (Output.start sink)
      (tasks ⟨some description, some backend, config, now⟩)
      ⟨(generate ⟨some description, some backend, config, now⟩ sink).2, files⟩ := by
  rw [generate_eq] at done ⊢
  rcases performed : (Task.performAll (emitter sink.disk config backend)
    (planBundle now config backend description).tasks).run (Output.start sink) with
    ⟨result, output⟩
  simp only [performed] at done ⊢
  cases result with
  | error failure => cases done
  | ok performedAll =>
      obtain ⟨-, -, rfl⟩ := map_eq_ok_iff.1 done
      exact Task.account_of_performAll origins performed

/-- **A run that succeeds produces the files that it planned, in order, less those that there
is a reason to leave out.** -/
theorem generate_accounts {sink : Sink} {files : List ProducedFile}
    (plain : backend.hooks = .none)
    (declared : backend.settings.properties.get? Key.models = none)
    (configured : config.properties.get? Key.models = none)
    (done : (generate ⟨some description, some backend, config, now⟩ sink).1 = .ok files) :
    ∃ run table groups bundle front supporting,
      info now config backend description = .ok run ∧
      ((Options.resolve (toggleSources config backend)).models = true →
        ModelTable.build backend description.schemas config.modelFilter run.properties
          = .ok table) ∧
      ((Options.resolve (toggleSources config backend)).apis = true →
        OperationGroups.ofDescription backend description = .ok groups) ∧
      (planBundle now config backend description).outcome = .ok bundle ∧
      Arranged config backend bundle (tasks ⟨some description, some backend, config, now⟩)
        front supporting ∧
      (tasks ⟨some description, some backend, config, now⟩).map Task.file
        = filesOfRun config backend table groups ∧
      Task.Account (emitter sink.disk config backend) backend.layout (Output.start sink)
        (tasks ⟨some description, some backend, config, now⟩)
        ⟨(generate ⟨some description, some backend, config, now⟩ sink).2, files⟩ ∧
      files.Sublist (filesOfRun config backend table groups) := by
  obtain ⟨bundle, outcome⟩ := outcome_of_generate _ _ _ _ _ done
  obtain ⟨run, table, groups, informed, built, collected, planned⟩ :=
    map_file_of_planBundle plain declared configured outcome
  obtain ⟨s, made⟩ := stages_of_planBundle outcome
  have arranged : Arranged config backend bundle
      (tasks ⟨some description, some backend, config, now⟩) s.front _ := made ▸ s.arranged
  have account := account_of_generate arranged.origin done
  obtain ⟨more, listed, sub⟩ := account.sublist
  refine ⟨run, table, groups, bundle, _, _, informed, built, collected, outcome, arranged,
    planned, account, ?_⟩
  have same : files = more := listed
  rw [← planned, same]
  exact sub

end Accounting

/-- A manifest that makes a file for every model but the aliases, and three supporting files: one
from a template, one that is copied, and one without a source. -/
def thriftyManifest : Manifest :=
  { Manifest.standard with
    outputDir := ⟨"out"⟩
    checkAliasModel := true
    templates := { TemplateSets.empty with model := .ofList [("m.txt", ".txt")] }
    supportingFiles := [⟨"basePath.jinja", "README.md", none⟩,
      ⟨"plain.txt", "plain.txt", some "doc"⟩, ⟨"absent.txt", "y.txt", none⟩] }

/-- A description of a pet and of another name for text. -/
def petDescription : Description :=
  { Description.empty with
    components := some ⟨.ofList [("Name", .object [("type", .str "string")]),
      ("Pet", .object [("type", .str "object")])], .empty, .empty⟩ }

def petDisk : Disk :=
  (((Disk.emptyAt ["work"]).put ⟨"templates/m.txt"⟩ (.text "m")).put
    ⟨"templates/basePath.jinja"⟩ (.text "at \x7b\x7b basePath \x7d\x7d")).put
    ⟨"templates/plain.txt"⟩ (.text "plain")

/-- The files that a run of the manifest reports for the description. -/
def petFiles : List ProducedFile :=
  [⟨⟨"out/pet.txt"⟩, .source⟩, ⟨⟨"out/README.md"⟩, .supporting⟩,
    ⟨⟨"out/doc/plain.txt"⟩, .supporting⟩, ⟨⟨"out/.brrtrouter-codegen-ignore"⟩, .metadata⟩,
    ⟨⟨"out/.brrtrouter-codegen/VERSION"⟩, .metadata⟩]

theorem generate_accounts_for_pets :
    ((ofManifest thriftyManifest .standard petDescription).generate
        (.writing petDisk)).1.toOption = some petFiles ∧
      ∃ run table groups bundle front supporting,
        ModelTable.build (backendOf thriftyManifest) petDescription.schemas none
            (RunInfo.properties run) = .ok table ∧
          Arranged .standard (backendOf thriftyManifest) bundle
            (ofManifest thriftyManifest .standard petDescription).tasks front supporting ∧
          supporting.map Task.making = [.provide "basePath.jinja" bundle,
            .provide "plain.txt" bundle, .provide "absent.txt" bundle] ∧
          petFiles.Sublist (filesOfRun .standard (backendOf thriftyManifest) table groups) := by
  have done : ((ofManifest thriftyManifest .standard petDescription).generate
      (.writing petDisk)).1.toOption = some petFiles := by decide +kernel
  obtain ⟨run, table, groups, bundle, front, supporting, -, built, -, -, arranged, -, -, sub⟩ :=
    generate_accounts rfl (by decide) (by decide) (eq_ok_of_toOption done)
  have wanted : descriptors .standard (backendOf thriftyManifest)
      = thriftyManifest.supportingFiles := by decide
  refine ⟨done, run, table, groups, bundle, front, supporting, built (by decide), arranged, ?_,
    sub⟩
  rw [arranged.map_making, wanted]
  rfl

end Job

end ApiForge
