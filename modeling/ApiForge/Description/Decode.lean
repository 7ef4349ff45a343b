import ApiForge.Description.Basic
/-
# ApiForge.Description.Decode -- descriptions from untyped values

Each record is decoded field by field.  Records that keep surplus fields come as
objects only, for a list has no names to keep them under.
-/

namespace ApiForge

set_option autoImplicit false

open Json.Decode

/-- The fields of an object other than the named ones. -/
def surplusFields (names : List String) : Json → Dict Json
  | .obj fields => Dict.ofList (fields.filter fun f => !names.contains f.1)
  | _ => .empty

def Contact.decode (j : Json) : Option Contact := do
  let r ← record ["name", "url", "email"] j
  return ⟨← r.optional "name" string, ← r.optional "url" string, ← r.optional "email" string⟩

/-- The name of a licence may be absent, but a licence written as a list holds it. -/
def License.decode (j : Json) : Option License := do
  let r ← record ["name", "url"] j
  return ⟨← r.nullable "name" string, ← r.optional "url" string⟩

def Info.decode (j : Json) : Option Info := do
  let r ← record ["title", "version", "description", "termsOfService", "contact", "license"] j
  return {
    title := ← r.optional "title" string
    version := ← r.optional "version" string
    description := ← r.optional "description" string
    termsOfService := ← r.optional "termsOfService" string
    contact := ← r.optional "contact" Contact.decode
    license := ← r.optional "license" License.decode }

def ServerVariable.decode (j : Json) : Option ServerVariable := do
  let r ← record ["default", "enum", "description"] j
  return ⟨← r.required "default" string, ← r.withDefault "enum" (list string) [],
    ← r.optional "description" string⟩

def Server.decode (j : Json) : Option Server := do
  let r ← record ["url", "description", "variables"] j
  return ⟨← r.required "url" string, ← r.optional "description" string,
    ← r.withDefault "variables" (dict ServerVariable.decode) .empty⟩

def ExternalDocs.decode (j : Json) : Option ExternalDocs := do
  let r ← record ["url", "description"] j
  return ⟨← r.required "url" string, ← r.optional "description" string⟩

def Tag.decode (j : Json) : Option Tag := do
  let r ← record ["name", "description", "externalDocs"] j
  return ⟨← r.required "name" string, ← r.optional "description" string,
    ← r.optional "externalDocs" ExternalDocs.decode⟩

/-- A location by its name, alone or as the one name of an object that holds nothing. -/
def ParameterLocation.decode : Json → Option ParameterLocation
  | .str s => all.find? fun l => l.name = s
  | .obj [(s, .null)] => all.find? fun l => l.name = s
  | _ => none

def Parameter.decode (j : Json) : Option Parameter := do
  let r ← openRecord j
  return {
    name := ← r.required "name" string
    location := ← r.required "in" ParameterLocation.decode
    required := ← r.withDefault "required" bool false
    description := ← r.optional "description" string
    schema := ← r.optional "schema" any
    extensions := surplusFields ["name", "in", "required", "description", "schema"] j }

def decodeRequirement : Json → Option SecurityRequirement := dict (list string)

def Operation.fieldNames : List String :=
  ["operationId", "summary", "description", "tags", "parameters", "requestBody", "responses",
    "security", "deprecated"]

def Operation.decode (j : Json) : Option Operation := do
  let r ← openRecord j
  return {
    operationId := ← r.optional "operationId" string
    summary := ← r.optional "summary" string
    description := ← r.optional "description" string
    tags := ← r.optional "tags" (list string)
    parameters := ← r.optional "parameters" (list Parameter.decode)
    requestBody := ← r.optional "requestBody" any
    responses := ← r.optional "responses" (dict any)
    security := ← r.optional "security" (list decodeRequirement)
    deprecated := ← r.withDefault "deprecated" bool false
    extensions := surplusFields fieldNames j }

def PathItem.decode (j : Json) : Option PathItem := do
  let r ← record ["summary", "description", "get", "head", "put", "post", "delete", "patch",
    "options", "parameters"] j
  return {
    summary := ← r.optional "summary" string
    description := ← r.optional "description" string
    get := ← r.optional "get" Operation.decode
    head := ← r.optional "head" Operation.decode
    put := ← r.optional "put" Operation.decode
    post := ← r.optional "post" Operation.decode
    delete := ← r.optional "delete" Operation.decode
    patch := ← r.optional "patch" Operation.decode
    options := ← r.optional "options" Operation.decode
    parameters := ← r.withDefault "parameters" (list Parameter.decode) [] }

def Components.decode (j : Json) : Option Components := do
  let r ← record ["schemas", "securitySchemes", "parameters"] j
  return ⟨← r.withDefault "schemas" (dict any) .empty,
    ← r.withDefault "securitySchemes" (dict SecurityScheme.decode) .empty,
    ← r.withDefault "parameters" (dict Parameter.decode) .empty⟩

def Description.fieldNames : List String :=
  ["openapi", "info", "servers", "paths", "components", "security", "tags", "externalDocs"]

def Description.decode (j : Json) : Option Description := do
  let r ← openRecord j
  return {
    openapi := ← r.optional "openapi" string
    info := ← r.optional "info" Info.decode
    servers := ← r.withDefault "servers" (list Server.decode) []
    paths := ← r.optional "paths" (dict PathItem.decode)
    components := ← r.optional "components" Components.decode
    security := ← r.optional "security" (list decodeRequirement)
    tags := ← r.optional "tags" (list Tag.decode)
    externalDocs := ← r.optional "externalDocs" ExternalDocs.decode
    extensions := surplusFields fieldNames j }

end ApiForge
