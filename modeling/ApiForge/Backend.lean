import ApiForge.Failure
import ApiForge.Models.Table
import ApiForge.Properties
import ApiForge.Text.Literal
/-
# ApiForge.Backend -- what a target language has to say

A backend decides names, types, projections, places and templates.  It is a record of
functions in seven parts, and each part comes with the usual answers, so that a backend
says only where it differs.
-/

namespace ApiForge

set_option autoImplicit false

open ApiForge.Text

/-! ## Names -/

/-- How symbols and files are named, and how text is made safe. -/
structure Naming where
  modelName : String → String
  modelFilename : String → String
  modelTestFilename : String → String
  modelDocFilename : String → String
  /-- What an import of a model names. -/
  modelImport : String → String
  apiName : String → String
  apiVarName : String → String
  apiFilename : String → String
  apiTestFilename : String → String
  apiDocFilename : String → String
  /-- What an import of an API names. -/
  apiImport : String → String
  sanitizeTag : String → String
  /-- Make free text safe inside a quoted literal. -/
  escapeText : String → String
  escapeQuotationMark : String → String

namespace Naming

/-- Letters and digits in words that start with a capital. -/
def typeName (s : String) : String := camelCase (toIdentifier s)

def apiTypeName (tag : String) : String :=
  if tag.isEmpty then "DefaultApi" else camelCase tag ++ "Api"

/-- The usual names: files are called as what they hold. -/
def standard : Naming :=
  { modelName := typeName
    modelFilename := typeName
    modelTestFilename := fun s => typeName s ++ "Test"
    modelDocFilename := typeName
    modelImport := typeName
    apiName := apiTypeName
    apiVarName := fun tag => lowerCamelCase (apiTypeName tag)
    apiFilename := apiTypeName
    apiTestFilename := fun tag => apiTypeName tag ++ "Test"
    apiDocFilename := apiTypeName
    apiImport := apiTypeName
    sanitizeTag := typeName
    escapeText := Text.escapeText
    escapeQuotationMark := Text.dropQuotes }

end Naming

/-! ## Types -/

/-- What is known about types. -/
structure TypeMapping where
  /-- Schemas that stand for a type from elsewhere. -/
  importMapping : Dict String
  /-- Generate such schemas all the same. -/
  ignoreImportMapping : Bool
  instantiationTypes : Dict String
  /-- What needs no import. -/
  defaultIncludes : NameSet
  /-- Write no source file for an alias. -/
  checkAliasModel : Bool

namespace TypeMapping

def standard : TypeMapping := ⟨.empty, false, .empty, .empty, false⟩

/-- Does the schema stand for a type from elsewhere? -/
def isMapped (t : TypeMapping) (schema : String) : Bool :=
  !t.ignoreImportMapping && t.importMapping.contains schema

end TypeMapping

/-! ## Projections -/

/-- Operations by the tag that they are grouped under. -/
abbrev OperationGroups := Dict (List OperationProjection)

/-- Put an operation at the end of the group of a tag. -/
def OperationGroups.add (groups : OperationGroups) (tag : String) (op : OperationProjection) :
    OperationGroups :=
  Dict.insert groups tag ((Dict.get? groups tag).getD [] ++ [op])

/-- How schemas and operations are projected. -/
structure Projector where
  /-- The model of a schema, where it makes one. -/
  ofSchema : String → Json → Dict Json → Except Cause (Option ModelProjection)
  /-- The models that compositions make. -/
  composedModels : Dict Json → ModelTable → Except Cause (List ModelProjection)
  /-- The projection of an operation, which holds its inherited parameters already. -/
  ofOperation : String → Method → Operation → Description → Except Cause OperationProjection
  ofSecurity : List AuthMethod → List AuthMethod
  addToGroup : String → OperationProjection → OperationGroups → OperationGroups

/-! ## Hooks -/

/-- What a backend may change or refuse along the way. -/
structure Hooks where
  processOptions : Properties → Except Cause Properties
  preprocessDescription : Description → Except Cause Unit
  /-- The context of one model. -/
  postProcessModel : Context → Except Cause Context
  /-- The whole table. -/
  postProcessTable : ModelTable → Except Cause ModelTable
  /-- The context of one group. -/
  postProcessGroup : Context → Except Cause Context
  postProcessGroupWithModels : Context → List Json → Except Cause Context
  postProcessBundle : Context → Except Cause Context
  /-- Asked for last, after every file. -/
  processDescription : Description → Except Cause Unit

/-- Hooks that do nothing. -/
def Hooks.none : Hooks :=
  { processOptions := .ok
    preprocessDescription := fun _ => .ok ()
    postProcessModel := .ok
    postProcessTable := .ok
    postProcessGroup := .ok
    postProcessGroupWithModels := fun c _ => .ok c
    postProcessBundle := .ok
    processDescription := fun _ => .ok () }

/-! ## Places -/

/-- A file of the project as a whole. -/
structure SupportingFile where
  /-- A template or a plain file in the template folder. -/
  template : String
  destination : String
  /-- A folder below the output folder. -/
  folder : Option String
deriving DecidableEq, Inhabited

namespace SupportingFile

open Json.Decode in
def decode (j : Json) : Option SupportingFile := do
  let r ← record ["template", "destination", "folder"] j
  return ⟨← r.required "template" string, ← r.required "destination" string,
    ← r.optional "folder" string⟩

def toJson (f : SupportingFile) : Json :=
  .object ([("template", .str f.template), ("destination", .str f.destination)]
    ++ optionalText "folder" f.folder)

/-- What a file is called in messages. -/
def text (f : SupportingFile) : String :=
  match f.folder with
  | some folder => f.template ++ " -> " ++ folder ++ "/" ++ f.destination
  | none => f.template ++ " -> " ++ f.destination

end SupportingFile

/-- Templates with the suffix of the files that they make. -/
abbrev TemplateSet := Dict String

/-- Where files come from and go to. -/
structure Layout where
  outputFolder : Path
  templateFolder : Path
  commonTemplateFolder : Option Path
  apiPackage : String
  modelPackage : String
  modelFolder : Path
  modelTestFolder : Path
  modelDocFolder : Path
  apiFolder : Path
  apiTestFolder : Path
  apiDocFolder : Path
  modelTemplates : TemplateSet
  modelTestTemplates : TemplateSet
  modelDocTemplates : TemplateSet
  apiTemplates : TemplateSet
  apiTestTemplates : TemplateSet
  apiDocTemplates : TemplateSet
  supportingFiles : List SupportingFile
  /-- May a file that is there be replaced? -/
  shouldOverwrite : Path → Bool
  ignoreFile : Option Path

/-- The usual places: sources and tests in the folder of their package, documentation at
the root. -/
def Layout.standard (output templates : Path) (apiPackage modelPackage : String) : Layout :=
  let models := output.join (packagePath modelPackage).text
  let apis := output.join (packagePath apiPackage).text
  { outputFolder := output
    templateFolder := templates
    commonTemplateFolder := none
    apiPackage := apiPackage
    modelPackage := modelPackage
    modelFolder := models
    modelTestFolder := models
    modelDocFolder := output
    apiFolder := apis
    apiTestFolder := apis
    apiDocFolder := output
    modelTemplates := .empty
    modelTestTemplates := .empty
    modelDocTemplates := .empty
    apiTemplates := .empty
    apiTestTemplates := .empty
    apiDocTemplates := .empty
    supportingFiles := []
    shouldOverwrite := fun _ => true
    ignoreFile := none }

/-! ## The whole -/

/-- What a backend says about itself. -/
structure Settings where
  name : String
  toggles : ToggleLayer
  properties : Dict Json

/-- A target language. -/
structure Backend where
  naming : Naming
  types : TypeMapping
  projector : Projector
  hooks : Hooks
  layout : Layout
  settings : Settings

end ApiForge
