import ApiForge.Json.Basic
import ApiForge.Text.Pieces
/-
# ApiForge.Backend.References -- schemas that a value refers to

A reference is a field `$ref` that names a component schema, anywhere in a value.  What
stands under such a field is not looked into any further.
-/

namespace ApiForge

set_option autoImplicit false

/-- What a reference to a component schema starts with. -/
def schemaReference : String := "#/components/schemas/"

/-- The schema that the value of a reference names. -/
def referredSchema? : Json → Option String
  | .str s => Text.stripHead? s schemaReference
  | _ => none

mutual

/-- The schemas that a value refers to, in the order of the value. -/
def referencesIn : Json → List String
  | .arr items => referencesInItems items
  | .obj fields => referencesInFields fields
  | _ => []

def referencesInItems : List Json → List String
  | [] => []
  | j :: rest => referencesIn j ++ referencesInItems rest

def referencesInFields : List (String × Json) → List String
  | [] => []
  | (name, j) :: rest =>
    (if name = "$ref" then (referredSchema? j).toList else referencesIn j)
      ++ referencesInFields rest

end

/-- The schemas that a value refers to. -/
def collectReferences (j : Json) : NameSet := .ofList (referencesIn j)

end ApiForge
