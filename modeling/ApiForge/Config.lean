import ApiForge.Path
import ApiForge.Toggles
/-
# ApiForge.Config -- what a run is asked to do

A run gets everything that can influence it from a `Config`.  One is read from variables,
where a switch is `true`, `false`, or a list of names that turns it on and narrows it down.
-/

namespace ApiForge

set_option autoImplicit false

open ApiForge.Text

/-- Which intermediate values a run shows; what it produces does not depend on them. -/
structure DebugSwitches where
  description : Bool
  models : Bool
  operations : Bool
  supportingFiles : Bool
deriving DecidableEq

structure Config where
  /-- What the run itself asks for. -/
  overrides : ToggleLayer
  /-- What properties from outside ask for. -/
  propertyToggles : ToggleLayer
  /-- The schemas wanted; no names, or none given, stand for all. -/
  models : Option NameSet
  /-- The tags wanted. -/
  apis : Option NameSet
  /-- The destinations of supporting files wanted. -/
  supportingFiles : Option NameSet
  /-- Every supporting file is wanted, whatever the list says. -/
  supportingFilesAll : Bool
  /-- Write the rule file and the version stamp. -/
  generateMetadata : Bool
  ignoreFile : Option Path
  /-- What the description is called. -/
  inputSpec : Option String
  properties : Dict Json
  debug : DebugSwitches

namespace DebugSwitches

def off : DebugSwitches := ⟨false, false, false, false⟩

open Json.Decode in
def decode (j : Json) : Option DebugSwitches := do
  let r ← record ["description", "models", "operations", "supporting_files"] j
  return ⟨← r.withDefault "description" bool false, ← r.withDefault "models" bool false,
    ← r.withDefault "operations" bool false, ← r.withDefault "supporting_files" bool false⟩

def toJson (d : DebugSwitches) : Json :=
  .object [("description", .bool d.description), ("models", .bool d.models),
    ("operations", .bool d.operations), ("supporting_files", .bool d.supportingFiles)]

end DebugSwitches

namespace Config

def standard : Config :=
  { overrides := .empty
    propertyToggles := .empty
    models := none
    apis := none
    supportingFiles := none
    supportingFilesAll := false
    generateMetadata := true
    ignoreFile := none
    inputSpec := none
    properties := .empty
    debug := .off }

open Json.Decode in
def decode (j : Json) : Option Config := do
  let r ← record ["overrides", "properties_toggles", "models", "apis", "supporting_files",
    "supporting_files_all", "generate_metadata", "ignore_file_override", "input_spec",
    "properties", "debug"] j
  return {
    overrides := ← r.withDefault "overrides" ToggleLayer.decode .empty
    propertyToggles := ← r.withDefault "properties_toggles" ToggleLayer.decode .empty
    models := ← r.optional "models" nameSet
    apis := ← r.optional "apis" nameSet
    supportingFiles := ← r.optional "supporting_files" nameSet
    supportingFilesAll := ← r.withDefault "supporting_files_all" bool false
    generateMetadata := ← r.withDefault "generate_metadata" bool true
    ignoreFile := (← r.optional "ignore_file_override" string).map Path.mk
    inputSpec := ← r.optional "input_spec" string
    properties := ← r.withDefault "properties" (dict any) .empty
    debug := ← r.withDefault "debug" DebugSwitches.decode .off }

def encodeNames (names : Option NameSet) : Json :=
  .ofOption (names.map fun s => .ofStrings s.names)

def toJson (c : Config) : Json :=
  .object [
    ("overrides", c.overrides.toJson),
    ("properties_toggles", c.propertyToggles.toJson),
    ("models", encodeNames c.models),
    ("apis", encodeNames c.apis),
    ("supporting_files", encodeNames c.supportingFiles),
    ("supporting_files_all", .bool c.supportingFilesAll),
    ("generate_metadata", .bool c.generateMetadata),
    ("ignore_file_override", .ofOption (c.ignoreFile.map fun p => .str p.text)),
    ("input_spec", .ofOption (c.inputSpec.map .str)),
    ("properties", .ofDict c.properties),
    ("debug", c.debug.toJson)]

/-! ## Reading from variables -/

/-- The names of a list with commas between them; blank ones do not count. -/
def splitList (raw : String) : NameSet :=
  .ofList (((splitString (· = ',') raw).map trimString).filter fun s => !s.isEmpty)

/-- `true` or `false` in any case, with blanks around it. -/
def readFlag (raw : String) : Option Bool :=
  let word := asciiLowerText (trimString raw)
  if word = "true" then some true else if word = "false" then some false else none

/-- A switch is a flag or a list of names. -/
inductive Switch where
  | flag (on : Bool)
  | list (names : NameSet)

def readSwitch (raw : String) : Switch :=
  match readFlag raw with
  | some on => .flag on
  | none => .list (splitList raw)

def setToggle (c : Config) (t : Toggle) (on : Bool) : Config :=
  { c with propertyToggles := c.propertyToggles.set t (some on) }

/-- A category with the list that narrows it down. -/
def applyApis (c : Config) : Switch → Config
  | .flag on => c.setToggle .apis on
  | .list names => { c.setToggle .apis true with apis := some names }

def applyModels (c : Config) : Switch → Config
  | .flag on => c.setToggle .models on
  | .list names => { c.setToggle .models true with models := some names }

def applySupportingFiles (c : Config) : Switch → Config
  | .flag true => { c.setToggle .supportingFiles true with supportingFilesAll := true }
  | .flag false => c.setToggle .supportingFiles false
  | .list names => { c.setToggle .supportingFiles true with supportingFiles := some names }

/-- The variables that hold nothing but a flag. -/
def flagVariables : List (String × Toggle) :=
  [("BRRTR_GEN_MODEL_TESTS", .modelTests), ("BRRTR_GEN_MODEL_DOCS", .modelDocs),
    ("BRRTR_GEN_API_TESTS", .apiTests), ("BRRTR_GEN_API_DOCS", .apiDocs),
    ("BRRTR_GEN_USE_OAS2", .useOas2)]

/-- The variables that are asked for. -/
def variableNames : List String :=
  ["BRRTR_GEN_APIS", "BRRTR_GEN_MODELS", "BRRTR_GEN_SUPPORTING_FILES", "BRRTR_GEN_IGNORE_FILE",
    "BRRTR_GEN_METADATA", "BRRTR_GEN_DEBUG"] ++ flagVariables.map Prod.fst

def applyFlag (lookup : String → Option String) (c : Config) (v : String × Toggle) : Config :=
  match (lookup v.1).bind readFlag with
  | some on => c.setToggle v.2 on
  | none => c

def readDebug (raw : String) : DebugSwitches :=
  let names := splitList raw
  ⟨names.contains "description", names.contains "models", names.contains "operations",
    names.contains "supporting"⟩

/-- What the variables ask for. -/
def ofVariables (lookup : String → Option String) : Config :=
  let c := standard
  let c := ((lookup "BRRTR_GEN_APIS").map fun raw => c.applyApis (readSwitch raw)).getD c
  let c := ((lookup "BRRTR_GEN_MODELS").map fun raw => c.applyModels (readSwitch raw)).getD c
  let c := ((lookup "BRRTR_GEN_SUPPORTING_FILES").map fun raw =>
    c.applySupportingFiles (readSwitch raw)).getD c
  let c := flagVariables.foldl (applyFlag lookup) c
  let c := match lookup "BRRTR_GEN_IGNORE_FILE" with
    | some raw =>
      if isBlankString raw then c else { c with ignoreFile := some ⟨trimString raw⟩ }
    | none => c
  let c := match (lookup "BRRTR_GEN_METADATA").bind readFlag with
    | some on => { c with generateMetadata := on }
    | none => c
  match lookup "BRRTR_GEN_DEBUG" with
  | some raw => { c with debug := readDebug raw }
  | none => c

/-! ## What is wanted -/

/-- A list that narrows something down; an empty one does not. -/
def narrowing (names : Option NameSet) : Option NameSet := names.filter fun s => !s.isEmpty

def modelFilter (c : Config) : Option NameSet := narrowing c.models

def apiFilter (c : Config) : Option NameSet := narrowing c.apis

/-- Is a supporting file with this destination wanted? -/
def wants (c : Config) (destination : String) : Bool :=
  c.supportingFilesAll ||
    match narrowing c.supportingFiles with
    | some names => names.contains destination
    | none => true

end Config

end ApiForge
