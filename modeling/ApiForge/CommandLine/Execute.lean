import ApiForge.Backend.ManifestBackend
import ApiForge.CommandLine.Usage
import ApiForge.Description.Load
import ApiForge.Json.Printer
import ApiForge.Readers.Standard
import ApiForge.Run
/-
# ApiForge.CommandLine.Execute -- what a command does

A command loads the description and the manifest, lays its arguments over what the
variables say, and runs.  It leaves a disk and a text behind.
-/

namespace ApiForge

set_option autoImplicit false

/-- Why a command fails. -/
inductive CommandError where
  | description (error : LoadError)
  /-- The given manifest is not there. -/
  | manifestNotFound (path : Path)
  /-- No manifest lies beside the description. -/
  | noManifest (spec : Path)
  | manifest (error : ManifestError)
  | definition (error : DefinitionError)
  | run (failure : Failure)

def CommandError.message : CommandError → String
  | .description error => error.message
  | .manifestNotFound path => "Manifest not found: " ++ path.text
  | .noManifest spec =>
    "No " ++ Product.manifestFileName ++ " found next to " ++ spec.text ++ "; pass --manifest"
  | .manifest error => error.message
  | .definition error => error.message
  | .run failure => failure.message

namespace Arguments

/-- The manifest that the arguments lead to. -/
def manifestPath (a : Arguments) (disk : Disk) : Except CommandError Path :=
  match Manifest.locate disk a.manifest a.spec with
  | some path => .ok path
  | none =>
    match a.manifest with
    | some path => .error (.manifestNotFound path)
    | none => .error (.noManifest a.spec)

/-- The job that the arguments ask for. -/
def job (a : Arguments) (disk : Disk) (lookup : String → Option String) (now : Moment) :
    Except CommandError Job := do
  let description ← (Description.load disk a.spec).mapError .description
  let path ← a.manifestPath disk
  let backend ← (ManifestBackend.load disk path).mapError .manifest
  let config ← (a.apply (Config.ofVariables lookup)).mapError .definition
  return {
    description := some description
    backend := some { backend with outputFolder := a.output }.toBackend
    config := config
    now := now }

end Arguments

namespace Command

/-- What a dry run says about a file. -/
def announcement (file : ProducedFile) : String :=
  "would write " ++ file.path.text ++ " (" ++ file.category.name ++ ")\n"

/-- Produce files; only a dry run says something, and it leaves the disk as it is. -/
def generate (job : Job) (dryRun : Bool) (disk : Disk) : Except CommandError String × Disk :=
  if dryRun then
    (((job.generate (.recording disk)).1.mapError .run).map fun files =>
      String.join (files.map announcement), disk)
  else
    match job.generate (.writing disk) with
    | (.ok _, sink) => (.ok "", sink.disk)
    | (.error failure, sink) => (.error (.run failure), sink.disk)

/-- Show the bundle. -/
def bundle (job : Job) (disk : Disk) : Except CommandError String :=
  ((job.bundle disk).mapError .run).map fun b => (Json.ofDict b).pretty ++ "\n"

/-- Do what a command asks for. -/
def execute (c : Command) (disk : Disk) (lookup : String → Option String) (now : Moment) :
    Except CommandError String × Disk :=
  match c.arguments.job disk lookup now with
  | .error e => (.error e, disk)
  | .ok job =>
    match c.action with
    | .generate => generate job c.arguments.dryRun disk
    | .bundle => (bundle job disk, disk)

end Command

end ApiForge
