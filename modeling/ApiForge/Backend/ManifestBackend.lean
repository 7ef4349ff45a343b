import ApiForge.Backend.Manifest
import ApiForge.Backend.References
/-
# ApiForge.Backend.ManifestBackend -- the backend of a manifest

It knows no language in particular.  Models and operations come to the templates with
what the description says about them; files have names in snake case.
-/

namespace ApiForge

set_option autoImplicit false

open ApiForge.Text

/-- A manifest, the folder that its paths are relative to, and another output folder where
one is asked for. -/
structure ManifestBackend where
  manifest : Manifest
  baseFolder : Path
  outputFolder : Option Path

namespace ManifestBackend

/-- The backend of a manifest file. -/
def load (disk : Disk) (path : Path) : Except ManifestError ManifestBackend :=
  (Manifest.load disk path).map fun manifest => ⟨manifest, path.parent?.getD ⟨""⟩, none⟩

/-- A path of the manifest, relative to its folder. -/
def anchored (b : ManifestBackend) (path : Path) : Path :=
  if path.isAbsolute then path else b.baseFolder.join path.text

/-! ## Names and places -/

/-- A name in its package. -/
def qualified (package name : String) : String :=
  if package.isEmpty then name else package ++ "." ++ name

def naming (b : ManifestBackend) : Naming :=
  let modelFile (s : String) := snakeCase (Naming.typeName s)
  let apiFile (tag : String) := snakeCase (Naming.apiTypeName tag)
  { Naming.standard with
    modelFilename := modelFile
    modelTestFilename := fun s => modelFile s ++ "_test"
    apiFilename := apiFile
    apiTestFilename := fun tag => apiFile tag ++ "_test"
    modelImport := fun s => qualified b.manifest.modelPackage (Naming.typeName s)
    apiImport := fun tag => qualified b.manifest.apiPackage (Naming.apiTypeName tag) }

def types (b : ManifestBackend) : TypeMapping :=
  { importMapping := b.manifest.importMappings
    ignoreImportMapping := b.manifest.ignoreImportMapping
    instantiationTypes := b.manifest.instantiationTypes
    defaultIncludes := b.manifest.defaultIncludes
    checkAliasModel := b.manifest.checkAliasModel }

def layout (b : ManifestBackend) : Layout :=
  let m := b.manifest
  let output := b.outputFolder.getD (b.anchored m.outputDir)
  { Layout.standard output (b.anchored m.templateDir) m.apiPackage m.modelPackage with
    commonTemplateFolder := m.commonTemplateDir.map b.anchored
    modelTemplates := m.templates.model
    modelTestTemplates := m.templates.modelTest
    modelDocTemplates := m.templates.modelDoc
    apiTemplates := m.templates.api
    apiTestTemplates := m.templates.apiTest
    apiDocTemplates := m.templates.apiDoc
    supportingFiles := m.supportingFiles
    shouldOverwrite := fun _ => m.overwrite
    ignoreFile := m.ignoreFile.map b.anchored }

/-! ## Models -/

def compositionKeywords : List String := ["oneOf", "anyOf", "allOf"]

def primitiveTypes : List String := ["string", "integer", "number", "boolean"]

def isComposedSchema (schema : Json) : Bool := compositionKeywords.any schema.hasField

/-- A lone reference, or a primitive type without properties and without an enumeration. -/
def isAliasSchema : Json → Bool
  | .obj fields =>
    if (Entries.get? fields "$ref").isSome then
      fields.all fun f => f.1 = "$ref" || f.1 = "description"
    else
      let primitive := match Entries.get? fields "type" with
        | some (.str t) => primitiveTypes.contains t
        | _ => false
      primitive && (Entries.get? fields "properties").isNone
        && (Entries.get? fields "enum").isNone
  | _ => false

/-- The names that a schema lists as required. -/
def requiredNames (schema : Json) : List String :=
  match schema.field? "required" with
  | some (.arr items) => items.filterMap Json.asString?
  | _ => []

/-- The properties of a schema as templates see them. -/
def schemaProperties (schema : Json) : List Json :=
  match schema.field? "properties" with
  | some (.obj properties) =>
    properties.map fun p =>
      .object [("name", .str p.1), ("fieldName", .str (toIdentifier (snakeCase p.1))),
        ("required", .bool ((requiredNames schema).contains p.1)), ("schema", p.2)]
  | _ => []

/-- The entries of a map whose names mark vendor extensions. -/
def vendorEntries (entries : List (String × Json)) : List (String × Json) :=
  entries.filter fun e => startsWith e.1 "x-"

/-- The schemas that a schema refers to, apart from itself. -/
def modelReferences (name : String) (schema : Json) : List String :=
  ((collectReferences schema).erase name).names

def projectSchema (name : String) (schema : Json) : Option ModelProjection :=
  match schema with
  | .obj fields =>
    let aliased : Dict Json :=
      if isAliasSchema schema then Dict.empty.insert Key.aliasExtension (.bool true) else .empty
    some {
      name := name
      className := Naming.typeName name
      imports := modelReferences name schema
      extensions := (vendorEntries fields).foldl (fun d e => d.insert e.1 e.2) aliased
      data := .object [("description", .ofOption (schema.field? "description")),
        ("type", .ofOption (schema.field? "type")),
        ("properties", .arr (schemaProperties schema))] }
  | _ => none

/-- The model that a composition makes. -/
def projectComposition (name : String) (schema : Json) : ModelProjection :=
  { name := name
    className := Naming.typeName name
    imports := modelReferences name schema
    extensions := Dict.empty.insert Key.composedExtension (.bool true)
    data := .null }

def composedModels (schemas : Dict Json) : List ModelProjection :=
  (schemas.entries.filter fun e => isComposedSchema e.2).map fun e =>
    projectComposition e.1 e.2

/-! ## Operations -/

/-- The id of an operation: its own, unless it is blank. -/
def operationId (path : String) (method : Method) (operation : Operation) : String :=
  match operation.operationId with
  | some id => if isBlankString id then generatedOperationId path method else id
  | none => generatedOperationId path method

/-- The schemas that an operation refers to. -/
def operationReferences (operation : Operation) : NameSet :=
  .ofList (((operation.parameters.getD []).flatMap fun p =>
      (p.schema.map referencesIn).getD [])
    ++ (operation.requestBody.map referencesIn).getD []
    ++ ((operation.responses.map Dict.values).getD []).flatMap referencesIn)

def projectOperation (path : String) (method : Method) (operation : Operation) :
    OperationProjection :=
  let id := operationId path method operation
  { OperationProjection.named method path (toIdentifier id) with
    operationId := some id
    parameters := operation.parameters.getD []
    imports := operationReferences operation
    extensions := .ofList (vendorEntries operation.extensions.entries)
    data := .object [
      ("summary", .ofOption (operation.summary.map .str)),
      ("description", .ofOption (operation.description.map .str)),
      ("deprecated", .bool operation.deprecated),
      ("requestBody", .ofOption operation.requestBody),
      ("responses", .ofOption (operation.responses.map .ofDict))] }

def projector : Projector :=
  { ofSchema := fun name schema _ => .ok (projectSchema name schema)
    composedModels := fun schemas _ => .ok (composedModels schemas)
    ofOperation := fun path method operation _ => .ok (projectOperation path method operation)
    ofSecurity := id
    addToGroup := fun tag op groups => groups.add tag op }

/-! ## The whole -/

def settings (b : ManifestBackend) : Settings :=
  { name := b.manifest.name.getD Product.manifestBackendName
    toggles := b.manifest.toggles
    properties := b.manifest.properties }

def toBackend (b : ManifestBackend) : Backend :=
  { naming := b.naming
    types := b.types
    projector := projector
    hooks := .none
    layout := b.layout
    settings := b.settings }

end ManifestBackend

end ApiForge
