import ApiForge.CommandLine.Definition
import ApiForge.Config
/-
# ApiForge.CommandLine.Arguments -- what a command line asks for

The arguments of a command lie over what the variables say: a category that is asked for
is produced whatever they say, and narrowed down to its own list or not at all.
-/

namespace ApiForge

set_option autoImplicit false

structure Arguments where
  spec : Path
  manifest : Option Path
  output : Option Path
  /-- A category that is asked for, with or without a list of names. -/
  apis : Option (Option String)
  models : Option (Option String)
  supportingFiles : Option (Option String)
  noModelTests : Bool
  noModelDocs : Bool
  noApiTests : Bool
  noApiDocs : Bool
  noMetadata : Bool
  ignoreFile : Option Path
  dryRun : Bool
  definitions : List String
deriving DecidableEq

namespace Arguments

/-- The names of a list; a list without names is none. -/
def selection (raw : Option String) : Option NameSet :=
  Config.narrowing (raw.map Config.splitList)

def override (t : Toggle) (on : Bool) (c : Config) : Config :=
  { c with overrides := c.overrides.set t (some on) }

def applyApis (a : Arguments) (c : Config) : Config :=
  match a.apis with
  | some raw => { override .apis true c with apis := selection raw }
  | none => c

def applyModels (a : Arguments) (c : Config) : Config :=
  match a.models with
  | some raw => { override .models true c with models := selection raw }
  | none => c

def applySupportingFiles (a : Arguments) (c : Config) : Config :=
  match a.supportingFiles with
  | some raw =>
    let c := override .supportingFiles true c
    match selection raw with
    | some names => { c with supportingFiles := some names, supportingFilesAll := false }
    | none => { c with supportingFilesAll := true }
  | none => c

/-- Switch a toggle off, where that is asked for. -/
def switchOff (asked : Bool) (t : Toggle) (c : Config) : Config :=
  if asked then override t false c else c

/-- Put definitions into the properties, one after the other. -/
def addDefinitions : List String → Dict Json → Except DefinitionError (Dict Json)
  | [], properties => .ok properties
  | raw :: rest, properties =>
    match Definition.parse raw with
    | .error e => .error e
    | .ok (key, value) => addDefinitions rest (properties.insert key value)

/-- Lay the arguments over a configuration. -/
def apply (a : Arguments) (c : Config) : Except DefinitionError Config :=
  let c := a.applySupportingFiles (a.applyModels (a.applyApis c))
  let c := switchOff a.noModelTests .modelTests c
  let c := switchOff a.noModelDocs .modelDocs c
  let c := switchOff a.noApiTests .apiTests c
  let c := switchOff a.noApiDocs .apiDocs c
  let c := { c with
    generateMetadata := c.generateMetadata && !a.noMetadata
    ignoreFile := a.ignoreFile.or c.ignoreFile
    inputSpec := some a.spec.text }
  (addDefinitions a.definitions c.properties).map fun properties =>
    { c with properties := properties }

end Arguments

end ApiForge
