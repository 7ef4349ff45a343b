import ApiForge.Description.Basic
/-
# ApiForge.Security -- the authentication that an operation asks for

A requirement names schemes.  Resolving requirements gives each named and declared scheme
once, in the order in which it is first met.  An operation that asks for nothing at all
takes what the whole API asks for; one that asks for an empty list takes nothing.
-/

namespace ApiForge

set_option autoImplicit false

/-- A scheme that applies to an operation or to the whole API. -/
structure AuthMethod where
  name : String
  scheme : SecurityScheme
deriving Inhabited

def AuthMethod.toJson (m : AuthMethod) : Json :=
  .object [("name", .str m.name), ("scheme", m.scheme.toJson)]

/-- The names that requirements mention, in order, with repetitions. -/
def mentionedSchemes (requirements : List SecurityRequirement) : List String :=
  requirements.flatMap Dict.keys

/-- The first occurrence of every name that is not in `seen`. -/
def firstMentions (seen : List String) : List String → List String
  | [] => []
  | name :: rest =>
    if seen.contains name then firstMentions seen rest
    else name :: firstMentions (name :: seen) rest

/-- The declared scheme of that name. -/
def authMethod? (schemes : Dict SecurityScheme) (name : String) : Option AuthMethod :=
  (schemes.get? name).map fun scheme => ⟨name, scheme⟩

/-- The schemes that requirements name, each once, in the order of first mention. -/
def authMethodsFor (requirements : List SecurityRequirement) (schemes : Dict SecurityScheme) :
    List AuthMethod :=
  (firstMentions [] (mentionedSchemes requirements)).filterMap (authMethod? schemes)

/-- What an operation asks for.  Requirements of its own that name no declared scheme
leave it with those of the whole API. -/
def resolveAuth (own whole : Option (List SecurityRequirement))
    (schemes : Dict SecurityScheme) : List AuthMethod :=
  match own with
  | some [] => []
  | _ =>
    match authMethodsFor (own.getD []) schemes with
    | [] => authMethodsFor (whole.getD []) schemes
    | methods => methods

/-- Every declared scheme, in name order. -/
def allAuthMethods (schemes : Dict SecurityScheme) : List AuthMethod :=
  schemes.entries.map fun e => ⟨e.1, e.2⟩

end ApiForge
