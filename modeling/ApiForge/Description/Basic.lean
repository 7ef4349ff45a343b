import ApiForge.Description.Security
/-
# ApiForge.Description.Basic -- what an API description holds

The typed form of a description.  A field is optional where its absence says
something else than an empty value does: an operation without `security` takes the
requirements of the whole API, one with an empty list takes none.  Whatever the
description holds beside the named fields is kept under `extensions`.
-/

namespace ApiForge

set_option autoImplicit false

/-- A requirement: names of security schemes with the scopes asked for. -/
abbrev SecurityRequirement := Dict (List String)

structure Contact where
  name : Option String
  url : Option String
  email : Option String
deriving DecidableEq, Inhabited

structure License where
  name : Option String
  url : Option String
deriving DecidableEq, Inhabited

structure Info where
  title : Option String
  version : Option String
  description : Option String
  termsOfService : Option String
  contact : Option Contact
  license : Option License
deriving DecidableEq, Inhabited

structure ServerVariable where
  default : String
  allowed : List String
  description : Option String
deriving DecidableEq, Inhabited

structure Server where
  url : String
  description : Option String
  placeholders : Dict ServerVariable
deriving DecidableEq, Inhabited

structure ExternalDocs where
  url : String
  description : Option String
deriving DecidableEq, Inhabited

structure Tag where
  name : String
  description : Option String
  externalDocs : Option ExternalDocs
deriving DecidableEq, Inhabited

/-- A tag that is known by its name alone. -/
def Tag.named (name : String) : Tag := ⟨name, none, none⟩

/-- Where a parameter travels. -/
inductive ParameterLocation where
  | path
  | query
  | header
  | cookie
deriving DecidableEq, Inhabited

def ParameterLocation.name : ParameterLocation → String
  | .path => "path"
  | .query => "query"
  | .header => "header"
  | .cookie => "cookie"

def ParameterLocation.all : List ParameterLocation := [.path, .query, .header, .cookie]

structure Parameter where
  name : String
  location : ParameterLocation
  required : Bool
  description : Option String
  schema : Option Json
  extensions : Dict Json
deriving Inhabited

/-- A parameter with a name and a location; one in the path is required. -/
def Parameter.named (name : String) (location : ParameterLocation) : Parameter :=
  ⟨name, location, decide (location = .path), none, none, .empty⟩

/-- The verbs that an operation can be declared under. -/
inductive Verb where
  | get
  | head
  | put
  | post
  | delete
  | patch
  | options
deriving DecidableEq, Inhabited

namespace Verb

/-- Every verb, in the order in which a path is processed. -/
def all : List Verb := [.get, .head, .put, .post, .delete, .patch, .options]

def name : Verb → String
  | .get => "get"
  | .head => "head"
  | .put => "put"
  | .post => "post"
  | .delete => "delete"
  | .patch => "patch"
  | .options => "options"

theorem mem_all (v : Verb) : v ∈ all := by cases v <;> decide

/-- Is this the name of a verb? -/
def isName (s : String) : Bool := all.any fun v => v.name = s

end Verb

structure Operation where
  operationId : Option String
  summary : Option String
  description : Option String
  tags : Option (List String)
  parameters : Option (List Parameter)
  requestBody : Option Json
  responses : Option (Dict Json)
  /-- An empty list asks for no authentication; no list leaves it to the whole API. -/
  security : Option (List SecurityRequirement)
  deprecated : Bool
  extensions : Dict Json
deriving Inhabited

/-- What is declared for one path. -/
structure PathItem where
  summary : Option String
  description : Option String
  get : Option Operation
  head : Option Operation
  put : Option Operation
  post : Option Operation
  delete : Option Operation
  patch : Option Operation
  options : Option Operation
  parameters : List Parameter
deriving Inhabited

namespace PathItem

def operation? (p : PathItem) : Verb → Option Operation
  | .get => p.get
  | .head => p.head
  | .put => p.put
  | .post => p.post
  | .delete => p.delete
  | .patch => p.patch
  | .options => p.options

/-- The declared operations, in processing order. -/
def operations (p : PathItem) : List (Verb × Operation) :=
  Verb.all.filterMap fun v => (p.operation? v).map fun op => (v, op)

end PathItem

structure Components where
  schemas : Dict Json
  securitySchemes : Dict SecurityScheme
  parameters : Dict Parameter
deriving Inhabited

/-- An API description. -/
structure Description where
  openapi : Option String
  info : Option Info
  servers : List Server
  paths : Option (Dict PathItem)
  components : Option Components
  security : Option (List SecurityRequirement)
  tags : Option (List Tag)
  externalDocs : Option ExternalDocs
  extensions : Dict Json
deriving Inhabited

namespace Description

/-- A description that declares nothing. -/
def empty : Description := ⟨none, none, [], none, none, none, none, none, .empty⟩

/-- The declared schemas; none when there are no components. -/
def schemas (d : Description) : Dict Json :=
  match d.components with
  | some c => c.schemas
  | none => .empty

/-- The declared security schemes; none when there are no components. -/
def securitySchemes (d : Description) : Dict SecurityScheme :=
  match d.components with
  | some c => c.securitySchemes
  | none => .empty

/-- The declared tag of that name. -/
def declaredTag? (d : Description) (name : String) : Option Tag :=
  (d.tags.getD []).find? fun t => t.name = name

/-- The extensions whose names start with `x-`. -/
def vendorExtensions (d : Description) : Dict Json :=
  d.extensions.filter fun name _ => Text.startsWith name "x-"

end Description

end ApiForge
