import ApiForge.Backend
import ApiForge.Disk
import ApiForge.Toml.Document
/-
# ApiForge.Backend.Manifest -- a backend written down in a file

A manifest says what differs from the usual: folders, packages, templates, types.  Its
relative paths are relative to the folder that the manifest lies in.
-/

namespace ApiForge

set_option autoImplicit false

/-- Templates by the kind of file that they make. -/
structure TemplateSets where
  model : TemplateSet
  modelTest : TemplateSet
  modelDoc : TemplateSet
  api : TemplateSet
  apiTest : TemplateSet
  apiDoc : TemplateSet

structure Manifest where
  name : Option String
  outputDir : Path
  templateDir : Path
  commonTemplateDir : Option Path
  apiPackage : String
  modelPackage : String
  templates : TemplateSets
  supportingFiles : List SupportingFile
  importMappings : Dict String
  ignoreImportMapping : Bool
  instantiationTypes : Dict String
  defaultIncludes : NameSet
  checkAliasModel : Bool
  overwrite : Bool
  ignoreFile : Option Path
  properties : Dict Json
  toggles : ToggleLayer

open Json.Decode

namespace TemplateSets

def empty : TemplateSets := ⟨.empty, .empty, .empty, .empty, .empty, .empty⟩

def decode (j : Json) : Option TemplateSets := do
  let r ← record ["model", "model_test", "model_doc", "api", "api_test", "api_doc"] j
  let templates (name : String) := r.withDefault name (dict string) Dict.empty
  return {
    model := ← templates "model"
    modelTest := ← templates "model_test"
    modelDoc := ← templates "model_doc"
    api := ← templates "api"
    apiTest := ← templates "api_test"
    apiDoc := ← templates "api_doc" }

def toJson (t : TemplateSets) : Json :=
  .object [("model", .ofStringDict t.model), ("model_test", .ofStringDict t.modelTest),
    ("model_doc", .ofStringDict t.modelDoc), ("api", .ofStringDict t.api),
    ("api_test", .ofStringDict t.apiTest), ("api_doc", .ofStringDict t.apiDoc)]

end TemplateSets

mutual

/-- A value with `null` in the place of what is no finite number. -/
def finiteOrNull : Json → Json
  | .float x => if x.isFinite then .float x else .null
  | .arr items => .arr (finiteItems items)
  | .obj fields => .obj (finiteFields fields)
  | j => j

def finiteItems : List Json → List Json
  | [] => []
  | j :: rest => finiteOrNull j :: finiteItems rest

def finiteFields : List (String × Json) → List (String × Json)
  | [] => []
  | (name, j) :: rest => (name, finiteOrNull j) :: finiteFields rest

end

/-- Why there is no manifest. -/
inductive ManifestError where
  | unreadable (path : Path)
  | malformed (path : Path)
deriving DecidableEq

def ManifestError.message : ManifestError → String
  | .unreadable path => "Failed to read manifest: " ++ path.text
  | .malformed path => "Failed to parse manifest: " ++ path.text

namespace Manifest

/-- A manifest that says nothing. -/
def standard : Manifest :=
  { name := none
    outputDir := ⟨"generated"⟩
    templateDir := ⟨"templates"⟩
    commonTemplateDir := none
    apiPackage := ""
    modelPackage := ""
    templates := .empty
    supportingFiles := []
    importMappings := .empty
    ignoreImportMapping := false
    instantiationTypes := .empty
    defaultIncludes := .empty
    checkAliasModel := false
    overwrite := true
    ignoreFile := none
    properties := .empty
    toggles := .empty }

def decodePath (j : Json) : Option Path := (string j).map Path.mk

def decode (j : Json) : Option Manifest := do
  let r ← record ["name", "output_dir", "template_dir", "common_template_dir", "api_package",
    "model_package", "templates", "supporting_files", "import_mappings",
    "ignore_import_mapping", "instantiation_types", "default_includes", "check_alias_model",
    "overwrite", "ignore_file", "properties", "defaults"] j
  return {
    name := ← r.optional "name" string
    outputDir := ← r.withDefault "output_dir" decodePath standard.outputDir
    templateDir := ← r.withDefault "template_dir" decodePath standard.templateDir
    commonTemplateDir := ← r.optional "common_template_dir" decodePath
    apiPackage := ← r.withDefault "api_package" string ""
    modelPackage := ← r.withDefault "model_package" string ""
    templates := ← r.withDefault "templates" TemplateSets.decode .empty
    supportingFiles := ← r.withDefault "supporting_files" (list SupportingFile.decode) []
    importMappings := ← r.withDefault "import_mappings" (dict string) .empty
    ignoreImportMapping := ← r.withDefault "ignore_import_mapping" bool false
    instantiationTypes := ← r.withDefault "instantiation_types" (dict string) .empty
    defaultIncludes := ← r.withDefault "default_includes" nameSet .empty
    checkAliasModel := ← r.withDefault "check_alias_model" bool false
    overwrite := ← r.withDefault "overwrite" bool true
    ignoreFile := ← r.optional "ignore_file" decodePath
    properties := (← r.withDefault "properties" (dict any) .empty).mapValues fun _ v =>
      finiteOrNull v
    toggles := ← r.withDefault "defaults" ToggleLayer.decode .empty }

def toJson (m : Manifest) : Json :=
  .object [
    ("name", .ofOption (m.name.map .str)),
    ("output_dir", .str m.outputDir.text),
    ("template_dir", .str m.templateDir.text),
    ("common_template_dir", .ofOption (m.commonTemplateDir.map fun p => .str p.text)),
    ("api_package", .str m.apiPackage),
    ("model_package", .str m.modelPackage),
    ("templates", m.templates.toJson),
    ("supporting_files", .arr (m.supportingFiles.map SupportingFile.toJson)),
    ("import_mappings", .ofStringDict m.importMappings),
    ("ignore_import_mapping", .bool m.ignoreImportMapping),
    ("instantiation_types", .ofStringDict m.instantiationTypes),
    ("default_includes", .ofStrings m.defaultIncludes.names),
    ("check_alias_model", .bool m.checkAliasModel),
    ("overwrite", .bool m.overwrite),
    ("ignore_file", .ofOption (m.ignoreFile.map fun p => .str p.text)),
    ("properties", .ofDict m.properties),
    ("defaults", m.toggles.toJson)]

/-- The manifest that a file holds. -/
def load (disk : Disk) (path : Path) : Except ManifestError Manifest :=
  match disk.readText path with
  | none => .error (.unreadable path)
  | some text =>
    match (Toml.parse text).bind decode with
    | none => .error (.malformed path)
    | some manifest => .ok manifest

/-- The manifest to use for a description: the given one where it is there, else the one
beside the description. -/
def locate (disk : Disk) (given : Option Path) (spec : Path) : Option Path :=
  match given with
  | some path => if disk.exists? path then some path else none
  | none =>
    match spec.parent? with
    | none => none
    | some folder =>
      let path := folder.join Product.manifestFileName
      if disk.exists? path then some path else none

end Manifest

end ApiForge
