import ApiForge.Json.Basic
import ApiForge.Text.Pieces
/-
# ApiForge.Context -- what a template sees

A context is a map from names to values.  The names are what templates rely on, so every
name that the library writes stands here, together with the lists of those that a
context of each kind always holds.
-/

namespace ApiForge

set_option autoImplicit false

open ApiForge.Text

/-! ## Names -/
namespace Key

def apiPackage : String := "apiPackage"
def modelPackage : String := "modelPackage"
def apiFolder : String := "apiFolder"
def basePath : String := "basePath"
def basePathWithoutHost : String := "basePathWithoutHost"
def contextPath : String := "contextPath"
def scheme : String := "scheme"
def host : String := "host"
def apiInfo : String := "apiInfo"
def apis : String := "apis"
def models : String := "models"
def hasModel : String := "hasModel"
def authMethods : String := "authMethods"
def hasAuthMethods : String := "hasAuthMethods"
def externalDocs : String := "externalDocs"
def openApi : String := "openAPI"
def model : String := "model"
def schema : String := "schema"
def importPath : String := "importPath"
def imports : String := "imports"
def importName : String := "import"
def hasImport : String := "hasImport"
def package : String := "package"
def classname : String := "classname"
def classVarName : String := "classVarName"
def classFilename : String := "classFilename"
def baseName : String := "baseName"
def pathPrefix : String := "pathPrefix"
def operations : String := "operations"
def operation : String := "operation"
def vendorExtensions : String := "vendorExtensions"
def sortParamsByRequiredFlag : String := "sortParamsByRequiredFlag"
def hasMore : String := "hasMore"
def composedExtension : String := "x-is-composed-model"
def aliasExtension : String := "x-is-alias"
def moreModelsExtension : String := "x-has-more-models"
def moreExtension : String := "x-has-more"
def authMethodsExtension : String := "x-has-auth-methods"

/-- What every bundle holds. -/
def ofBundle : List String :=
  [apiPackage, modelPackage, apiFolder, basePath, basePathWithoutHost, contextPath, scheme,
    "apiInfo.apis", models, hasModel]

/-- What every entry for a model holds. -/
def ofModelEntry : List String := [model, schema, importPath]

/-- What the context of every group of operations holds. -/
def ofGroup : List String :=
  [classname, "operations.classname", "operations.pathPrefix", "operations.operation", imports,
    hasImport, basePath, basePathWithoutHost, contextPath, modelPackage, hasModel]

end Key

/-- A map from names to values. -/
abbrev Context := Dict Json

namespace Context

/-- The value at the end of a chain of fields. -/
def follow : List String → Json → Option Json
  | [], j => some j
  | name :: rest, j => (j.field? name).bind (follow rest)

/-- The value that a dotted name leads to. -/
def lookup (c : Context) (name : String) : Option Json :=
  match splitString (· = '.') name with
  | [] => none
  | first :: rest => (c.get? first).bind (follow rest)

/-- The names that lead nowhere. -/
def missing (c : Context) (names : List String) : List String :=
  names.filter fun name => (c.lookup name).isNone

def text? (c : Context) (name : String) : Option String := (c.get? name).bind Json.asString?

def flag? (c : Context) (name : String) : Option Bool := (c.get? name).bind Json.asBool?

end Context

/-- Is the value a set flag, as a boolean or as text in any case? -/
def isSetFlag : Option Json → Bool
  | some (.bool b) => b
  | some (.str s) => eqIgnoringAsciiCase s "true"
  | _ => false

/-- The vendor extensions of a model or an operation with one more entry. -/
def withExtension (extensions : Option Json) (name : String) (value : Json) : Json :=
  match extensions with
  | some (.obj fields) => .obj (Entries.insert fields name value)
  | _ => .obj [(name, value)]

/-- Put a vendor extension into a model or an operation. -/
def setVendorExtension (target : Json) (name : String) (value : Json) : Json :=
  target.setField Key.vendorExtensions
    (withExtension (target.field? Key.vendorExtensions) name value)

/-- Is the vendor extension of that name a set flag? -/
def vendorFlag (target : Json) (name : String) : Bool :=
  isSetFlag ((target.field? Key.vendorExtensions).bind (·.field? name))

end ApiForge
