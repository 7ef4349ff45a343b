import ApiForge.Description.Basic
/-
# ApiForge.Description.Normalize -- path items brought into their usual form

Before a description is decoded, two things are straightened in its path items: verbs
come in lower case, with everything unknown dropped, and references to shared
parameters are replaced by the parameters themselves.
-/

namespace ApiForge.Normalize

set_option autoImplicit false

open ApiForge.Text

/-! ## Verbs -/

/-- The names that a path item keeps beside its verbs, in any case. -/
def plainNames : List String := ["summary", "description", "servers", "parameters", "$ref"]

/-- Does a path item keep the field of this name? -/
def isKept (name : String) : Bool :=
  plainNames.contains (asciiLowerText name) || Verb.isName (asciiLowerText name)
    || startsWith name "x-"

/-- Treat one field of a path item: drop it, move it to the verb in lower case, or leave it. -/
def normalizeField (fields : List (String × Json)) (name : String) : List (String × Json) :=
  if isKept name then
    if asciiLowerText name ≠ name ∧ Verb.isName (asciiLowerText name) then
      match Entries.get? fields name with
      | some value => Entries.insert (Entries.erase fields name) (asciiLowerText name) value
      | none => fields
    else fields
  else Entries.erase fields name

/-- Fields are treated in name order, so of two spellings of one verb the one whose
name comes last stays. -/
def normalizeItem : Json → Json
  | .obj fields => .obj ((fields.map Prod.fst).foldl normalizeField fields)
  | other => other

/-- Apply `f` to every path item of a description. -/
def mapPathItems (f : Json → Json) (document : Json) : Json :=
  match document.field? "paths" with
  | some (.obj items) =>
    document.setField "paths" (.obj (Entries.mapValues (fun _ item => f item) items))
  | _ => document

def normalizeVerbs (document : Json) : Json := mapPathItems normalizeItem document

/-! ## Shared parameters -/

/-- What a reference to a shared parameter starts with. -/
def parameterReference : String := "#/components/parameters/"

/-- The shared parameters of a description. -/
def sharedParameters (document : Json) : List (String × Json) :=
  match (document.field? "components").bind (·.field? "parameters") with
  | some (.obj shared) => shared
  | _ => []

/-- The shared parameter that this one refers to. -/
def referredParameter? (shared : List (String × Json)) (parameter : Json) : Option Json :=
  match parameter.field? "$ref" with
  | some (.str r) => (stripHead? r parameterReference).bind (Entries.get? shared)
  | _ => none

def inlineParameters (shared : List (String × Json)) : Json → Json
  | .arr items => .arr (items.map fun p => (referredParameter? shared p).getD p)
  | other => other

def inlineInField (shared : List (String × Json)) (name : String) (value : Json) : Json :=
  if name = "parameters" then inlineParameters shared value
  else if Verb.isName name then value.modifyField "parameters" (inlineParameters shared)
  else value

def inlineInItem (shared : List (String × Json)) : Json → Json
  | .obj fields => .obj (Entries.mapValues (inlineInField shared) fields)
  | other => other

def inlineSharedParameters (document : Json) : Json :=
  match sharedParameters document with
  | [] => document
  | shared => mapPathItems (inlineInItem shared) document

/-- Both steps, in order. -/
def document (j : Json) : Json := inlineSharedParameters (normalizeVerbs j)

end ApiForge.Normalize
