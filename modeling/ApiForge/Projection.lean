import ApiForge.Context
import ApiForge.Description.Encode
import ApiForge.Security
import ApiForge.Text.Identifier
/-
# ApiForge.Projection -- models and operations as a backend sees them

A backend projects a schema to a model and an operation of the description to one of its
own.  What is in their data is its own affair; names, imports and vendor extensions are
what the library works with.
-/

namespace ApiForge

set_option autoImplicit false

open ApiForge.Text

/-- The method of a request, which need not be one of the seven verbs. -/
structure Method where
  token : String
deriving DecidableEq, Inhabited

namespace Method

/-- May the character stand in a method? -/
def isTokenChar (c : Char) : Bool :=
  isAsciiLetter c || isAsciiDigit c || ['!', '#', '$', '%', '&', '\x27', '*', '+', '-', '.', '^',
    '_', '\x60', '|', '~'].contains c

def ofToken? (s : String) : Option Method :=
  if !s.isEmpty && s.toList.all isTokenChar then some ⟨s⟩ else none

end Method

def Verb.method (v : Verb) : Method := ⟨asciiUpperText v.name⟩

/-- A schema, projected. -/
structure ModelProjection where
  /-- The name of the schema. -/
  name : String
  className : String
  /-- The types that the model refers to. -/
  imports : List String
  extensions : Dict Json
  data : Json
deriving Inhabited

namespace ModelProjection

def named (name className : String) : ModelProjection := ⟨name, className, [], .empty, .null⟩

def isAlias (m : ModelProjection) : Bool := isSetFlag (m.extensions.get? Key.aliasExtension)

def isComposed (m : ModelProjection) : Bool :=
  isSetFlag (m.extensions.get? Key.composedExtension)

def setExtension (m : ModelProjection) (name : String) (value : Json) : ModelProjection :=
  { m with extensions := m.extensions.insert name value }

def toJson (m : ModelProjection) : Json :=
  .object [("name", .str m.name), ("className", .str m.className),
    (Key.imports, .ofStrings m.imports), (Key.vendorExtensions, .ofDict m.extensions),
    ("data", m.data)]

end ModelProjection

/-- An operation, projected. -/
structure OperationProjection where
  method : Method
  path : String
  operationId : Option String
  /-- The name that generated symbols go by. -/
  nickname : String
  tags : List Tag
  parameters : List Parameter
  /-- The types that the operation refers to. -/
  imports : NameSet
  authMethods : List AuthMethod
  hasAuthMethods : Bool
  extensions : Dict Json
  data : Json
deriving Inhabited

namespace OperationProjection

def named (method : Method) (path nickname : String) : OperationProjection :=
  ⟨method, path, none, nickname, [], [], .empty, [], false, .empty, .null⟩

def setExtension (o : OperationProjection) (name : String) (value : Json) :
    OperationProjection :=
  { o with extensions := o.extensions.insert name value }

def toJson (o : OperationProjection) : Json :=
  .object ([("method", .str o.method.token), ("path", .str o.path)]
    ++ optionalText "operationId" o.operationId
    ++ [("nickname", .str o.nickname),
      ("tags", .arr (o.tags.map Tag.toJson)),
      ("parameters", .arr (o.parameters.map Parameter.toJson)),
      (Key.imports, .ofStrings o.imports.names),
      (Key.authMethods, .arr (o.authMethods.map AuthMethod.toJson)),
      (Key.hasAuthMethods, .bool o.hasAuthMethods),
      (Key.vendorExtensions, .ofDict o.extensions),
      ("data", o.data)])

end OperationProjection

/-- The name of an operation that the description does not name: the words of its path
and its method.  `/pets/{id}` and `GET` make `petsIdGet`. -/
def generatedOperationId (path : String) (method : Method) : String :=
  let bare := path.toList.filter fun c => c ≠ '{' ∧ c ≠ '}'
  let start := if bare = ['/'] then "root" else ""
  let words := (splitAt (· = '/') (bare ++ '/' :: (asciiLowerText method.token).toList)).filter
    fun w => !w.isEmpty
  let step (name : String) (word : List Char) : String :=
    if name.isEmpty then lowerCamelCase (String.ofList word)
    else name ++ camelCase (String.ofList word)
  toIdentifier (words.foldl step start)

end ApiForge
