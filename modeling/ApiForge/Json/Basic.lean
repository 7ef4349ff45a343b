import ApiForge.Dict
import ApiForge.NameSet
import ApiForge.Number.Binary64
/-
# ApiForge.Json.Basic -- the untyped values of descriptions and templates

A JSON value keeps integers apart from doubles.  An object that is made from a map or with
`object` has its fields in name order.
-/

namespace ApiForge

set_option autoImplicit false

/-- An untyped value. -/
inductive Json where
  | null
  | bool (value : Bool)
  | int (value : Int)
  | float (value : Binary64)
  | str (value : String)
  | arr (items : List Json)
  | obj (fields : List (String × Json))

namespace Json

instance : Inhabited Json := ⟨null⟩

/-! ## Equality -/

mutual

/-- Equal values: the same shape with the same leaves. -/
def beq : Json → Json → Bool
  | .null, .null => true
  | .bool a, .bool b => a == b
  | .int a, .int b => a == b
  | .float a, .float b => a == b
  | .str a, .str b => a == b
  | .arr a, .arr b => beqItems a b
  | .obj a, .obj b => beqFields a b
  | _, _ => false

def beqItems : List Json → List Json → Bool
  | [], [] => true
  | a :: as, b :: bs => beq a b && beqItems as bs
  | _, _ => false

def beqFields : List (String × Json) → List (String × Json) → Bool
  | [], [] => true
  | (k, a) :: as, (l, b) :: bs => k == l && beq a b && beqFields as bs
  | _, _ => false

end

instance : BEq Json := ⟨beq⟩

/-! ## Looking into values -/

/-- The value of a field, if this is an object that has it. -/
def field? : Json → String → Option Json
  | .obj fields, name => Entries.get? fields name
  | _, _ => none

def hasField (j : Json) (name : String) : Bool := (j.field? name).isSome

def asString? : Json → Option String
  | .str s => some s
  | _ => none

def asBool? : Json → Option Bool
  | .bool b => some b
  | _ => none

def asItems? : Json → Option (List Json)
  | .arr items => some items
  | _ => none

def asFields? : Json → Option (List (String × Json))
  | .obj fields => some fields
  | _ => none

/-! ## Building values -/

/-- An object from a map. -/
def ofDict (d : Dict Json) : Json := .obj d.entries

/-- An object from fields in any order; of two with one name the later stays. -/
def object (fields : List (String × Json)) : Json := .obj (Entries.ofList fields)

/-- Put a field into an object; any other value stays as it is. -/
def setField (j : Json) (name : String) (value : Json) : Json :=
  match j with
  | .obj fields => .obj (Entries.insert fields name value)
  | other => other

/-- Replace the value of a field by its image, where there is one. -/
def modifyField (j : Json) (name : String) (f : Json → Json) : Json :=
  match j.field? name with
  | some v => j.setField name (f v)
  | none => j

def ofStrings (items : List String) : Json := .arr (items.map .str)

def ofOption (value : Option Json) : Json := value.getD .null

/-- An object of strings. -/
def ofStringDict (d : Dict String) : Json := .ofDict (d.mapValues fun _ v => .str v)

end Json

end ApiForge
