import ApiForge.Description.Basic
/-
# ApiForge.Description.Encode -- descriptions as untyped values

Templates see a description in its own vocabulary.  A field without a value is left
out, and so is an empty list or a flag that is not set.  Surplus fields come back
under their own names; a named field of the same name wins over them.
-/

namespace ApiForge

set_option autoImplicit false

/-- A field that is left out when the list is empty. -/
def nonEmptyField (name : String) (items : List Json) : List (String × Json) :=
  if items.isEmpty then [] else [(name, .arr items)]

/-- A field that is left out when the map is empty. -/
def nonEmptyMap (name : String) (entries : Dict Json) : List (String × Json) :=
  if entries.isEmpty then [] else [(name, .ofDict entries)]

/-- A field that is left out when the flag is not set. -/
def flagField (name : String) (value : Bool) : List (String × Json) :=
  if value then [(name, .bool true)] else []

def Contact.toJson (c : Contact) : Json :=
  .object (optionalText "name" c.name ++ optionalText "url" c.url ++ optionalText "email" c.email)

def License.toJson (l : License) : Json :=
  .object ([("name", .ofOption (l.name.map .str))] ++ optionalText "url" l.url)

def Info.toJson (i : Info) : Json :=
  .object (optionalText "title" i.title ++ optionalText "version" i.version
    ++ optionalText "description" i.description
    ++ optionalText "termsOfService" i.termsOfService
    ++ optionalField "contact" (i.contact.map Contact.toJson)
    ++ optionalField "license" (i.license.map License.toJson))

def ServerVariable.toJson (v : ServerVariable) : Json :=
  .object ([("default", .str v.default)] ++ nonEmptyField "enum" (v.allowed.map .str)
    ++ optionalText "description" v.description)

def Server.toJson (s : Server) : Json :=
  .object ([("url", .str s.url)] ++ optionalText "description" s.description
    ++ nonEmptyMap "variables" (s.placeholders.mapValues fun _ v => v.toJson))

def ExternalDocs.toJson (d : ExternalDocs) : Json :=
  .object ([("url", .str d.url)] ++ optionalText "description" d.description)

def Tag.toJson (t : Tag) : Json :=
  .object ([("name", .str t.name)] ++ optionalText "description" t.description
    ++ optionalField "externalDocs" (t.externalDocs.map ExternalDocs.toJson))

def Parameter.toJson (p : Parameter) : Json :=
  .object (p.extensions.entries ++ [("name", .str p.name), ("in", .str p.location.name)]
    ++ flagField "required" p.required ++ optionalText "description" p.description
    ++ optionalField "schema" p.schema)

def encodeRequirement (r : SecurityRequirement) : Json :=
  .ofDict (r.mapValues fun _ scopes => .ofStrings scopes)

def encodeRequirements (rs : List SecurityRequirement) : Json := .arr (rs.map encodeRequirement)

def Operation.toJson (o : Operation) : Json :=
  .object (o.extensions.entries ++ optionalText "operationId" o.operationId
    ++ optionalText "summary" o.summary ++ optionalText "description" o.description
    ++ optionalField "tags" (o.tags.map .ofStrings)
    ++ optionalField "parameters" (o.parameters.map fun ps => .arr (ps.map Parameter.toJson))
    ++ optionalField "requestBody" o.requestBody
    ++ optionalField "responses" (o.responses.map .ofDict)
    ++ optionalField "security" (o.security.map encodeRequirements)
    ++ flagField "deprecated" o.deprecated)

def PathItem.toJson (p : PathItem) : Json :=
  .object (optionalText "summary" p.summary ++ optionalText "description" p.description
    ++ (p.operations.map fun op => (op.1.name, op.2.toJson))
    ++ nonEmptyField "parameters" (p.parameters.map Parameter.toJson))

def Components.toJson (c : Components) : Json :=
  .object ([("schemas", .ofDict c.schemas),
    ("securitySchemes", .ofDict (c.securitySchemes.mapValues fun _ s => s.toJson))]
    ++ nonEmptyMap "parameters" (c.parameters.mapValues fun _ p => p.toJson))

def Description.toJson (d : Description) : Json :=
  .object (d.extensions.entries ++ optionalText "openapi" d.openapi
    ++ optionalField "info" (d.info.map Info.toJson)
    ++ nonEmptyField "servers" (d.servers.map Server.toJson)
    ++ optionalField "paths" (d.paths.map fun ps => .ofDict (ps.mapValues fun _ p => p.toJson))
    ++ optionalField "components" (d.components.map Components.toJson)
    ++ optionalField "security" (d.security.map encodeRequirements)
    ++ optionalField "tags" (d.tags.map fun ts => .arr (ts.map Tag.toJson))
    ++ optionalField "externalDocs" (d.externalDocs.map ExternalDocs.toJson))

end ApiForge
