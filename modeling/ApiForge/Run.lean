import ApiForge.Bundle
import ApiForge.Models.Files
import ApiForge.Operations.Files
import ApiForge.Operations.Groups
/-
# ApiForge.Run -- a whole run

A run is planned from the description, the backend and the configuration alone: models
come first, then groups of operations, the bundle, supporting files and stamps.  The plan
is then gone through with the ignore rules as they stand at the start.  A run that only
shows the bundle goes through the same plan and records its files in memory.
-/

namespace ApiForge

set_option autoImplicit false

/-- What a run starts from. -/
structure Job where
  description : Option Description
  backend : Option Backend
  config : Config
  now : Moment

namespace Job

variable [Readers]

/-- The layers of toggles. -/
def toggleSources (config : Config) (backend : Backend) : ToggleSources :=
  ⟨config.overrides, config.propertyToggles, backend.settings.toggles⟩

/-- The properties of a run: what the backend declares, replaced by what the configuration
says, then the switches; the backend may change all that, and the info block comes last. -/
def properties (now : Moment) (config : Config) (backend : Backend)
    (description : Description) : Except Failure Properties :=
  let sources := toggleSources config backend
  let start := Properties.forRun now backend.settings.name config.inputSpec
  let declared := { start with
    extra := (start.extra.extend backend.settings.properties).extend config.properties }
  let stamped := declared.stamp sources (Options.resolve sources)
  ((backend.hooks.processOptions stamped).mapError (.hook "process_opts")).map fun p =>
    { p with app := description.info.map (AppInfo.ofInfo backend.naming.escapeText) }

/-- What the run as a whole says. -/
def info (now : Moment) (config : Config) (backend : Backend) (description : Description) :
    Except Failure RunInfo := do
  let properties ← properties now config backend description
  (backend.hooks.preprocessDescription description).mapError (.hook "preprocess_description")
  return RunInfo.ofDescription backend description properties

/-- The models of a run, with their files. -/
def planModels (config : Config) (options : Options) (backend : Backend)
    (description : Description) (run : RunInfo) : Planned (List Json) :=
  if options.models then do
    let table ← Planned.ofExcept
      (ModelTable.build backend description.schemas config.modelFilter run.properties)
    table.plan backend options
  else pure []

/-- The groups of operations of a run, with their files. -/
def planGroups (config : Config) (options : Options) (backend : Backend)
    (description : Description) (models : List Json) (run : RunInfo) : Planned (List Json) :=
  if options.apis then do
    let groups ← Planned.ofExcept (OperationGroups.ofDescription backend description)
    groups.plan backend options config.apiFilter models run
  else pure []

/-- The bundle of a run, with the files that stand before it and those that are made from
it. -/
def planBundle (now : Moment) (config : Config) (backend : Backend)
    (description : Description) : Planned Context := do
  let run ← Planned.ofExcept (info now config backend description)
  let options := Options.resolve (toggleSources config backend)
  let models ← planModels config options backend description run
  let operations ← planGroups config options backend description models run
  let bundle ← Planned.ofExcept
    ((Bundle.build backend description models operations run).mapError
      (.supportingFile "<bundle>"))
  Planned.ofTasks (if options.supportingFiles then supportingTasks backend config bundle else [])
  Planned.ofTasks (if config.generateMetadata then stampTasks backend.layout.outputFolder else [])
  Planned.ofExcept
    ((backend.hooks.processDescription description).mapError (.hook "process_description"))
  return bundle

/-- The ignore rules that hold for a run. -/
def rules (disk : Disk) (config : Config) (backend : Backend) : IgnoreRules :=
  IgnoreRules.load disk backend.layout.outputFolder
    (config.ignoreFile.or backend.layout.ignoreFile)

/-- What decides about the files of a run. -/
def emitter (disk : Disk) (config : Config) (backend : Backend) : Emitter :=
  { rules := rules disk config backend
    folders := ⟨backend.layout.templateFolder, backend.layout.commonTemplateFolder⟩
    overwrite := backend.layout.shouldOverwrite }

/-- Do a run; it comes out with the bundle. -/
def run (job : Job) : Emission Failure Context :=
  match job.description, job.backend with
  | none, _ => throw .missingDescription
  | some _, none => throw .missingConfiguration
  | some description, some backend => do
    let output ← get
    (planBundle job.now job.config backend description).perform
      (emitter output.sink.disk job.config backend)

/-- Do a run into a sink: the report of its files or the failure, and the sink. -/
def generate (job : Job) (sink : Sink) : Except Failure (List ProducedFile) × Sink :=
  match job.run.run (Output.start sink) with
  | (.ok _, output) => (.ok output.files, output.sink)
  | (.error failure, output) => (.error failure, output.sink)

/-- The bundle of a run that leaves the disk as it is. -/
def bundle (job : Job) (disk : Disk) : Except Failure Context :=
  (job.run.run (Output.start (.recording disk))).1

/-- Show the bundle of a run.  The run records its files in a sink of its own over the disk;
the sink that there is keeps what it has recorded. -/
def showBundle (job : Job) (sink : Sink) : Except Failure Context × Sink :=
  match job.run.run (Output.start (.recording sink.disk)) with
  | (result, output) => (result, { sink with disk := output.sink.disk })

end Job

end ApiForge
