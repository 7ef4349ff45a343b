import ApiForge.Json.Basic
/-
# ApiForge.Json.Decode -- from untyped to typed values

A decoder gives the typed value, or nothing if the untyped one has another shape.
A record comes as an object with its fields by name, or as a list with its fields
in declaration order; unknown names are passed over, surplus items are not.
-/

namespace ApiForge.Json.Decode

set_option autoImplicit false

universe u

def string : Json → Option String
  | .str s => some s
  | _ => none

def bool : Json → Option Bool
  | .bool b => some b
  | _ => none

def any (j : Json) : Option Json := some j

variable {α : Type u}

/-- `null` is the absent value. -/
def nullable (item : Json → Option α) : Json → Option (Option α)
  | .null => some none
  | j => (item j).map some

/-- Decode every item, or nothing if one of them does not decode. -/
def items (item : Json → Option α) : List Json → Option (List α)
  | [] => some []
  | j :: rest =>
    match item j, items item rest with
    | some x, some xs => some (x :: xs)
    | _, _ => none

def list (item : Json → Option α) : Json → Option (List α)
  | .arr js => items item js
  | _ => none

def dict (item : Json → Option α) : Json → Option (Dict α)
  | .obj fields => (Entries.mapValues? item fields).map Dict.ofList
  | _ => none

def nameSet : Json → Option NameSet := fun j => (list string j).map NameSet.ofList

/-- The fields of a record as they came. -/
structure Record where
  /-- The value given for a field. -/
  field? : String → Option Json
  /-- The fields came as a list. -/
  listed : Bool

/-- The value of `name` in a list whose items belong to `names`. -/
def listedField? : List String → List Json → String → Option Json
  | n :: names, j :: items, name => if n = name then some j else listedField? names items name
  | _, _, _ => none

/-- A record with these fields, as an object or as a list. -/
def record (names : List String) : Json → Option Record
  | .obj fields => some ⟨Entries.get? fields, false⟩
  | .arr items =>
    if items.length ≤ names.length then some ⟨listedField? names items, true⟩ else none
  | _ => none

/-- A record as an object only. -/
def openRecord : Json → Option Record
  | .obj fields => some ⟨Entries.get? fields, false⟩
  | _ => none

/-- A field that has to be there. -/
def Record.required (r : Record) (name : String) (item : Json → Option α) : Option α :=
  match r.field? name with
  | some j => item j
  | none => none

/-- A field with a value to take when it is absent. -/
def Record.withDefault (r : Record) (name : String) (item : Json → Option α) (default : α) :
    Option α :=
  match r.field? name with
  | some j => item j
  | none => some default

/-- A field that may be absent or `null`. -/
def Record.optional (r : Record) (name : String) (item : Json → Option α) :
    Option (Option α) :=
  r.withDefault name (nullable item) none

/-- A field that may be absent from an object and `null` anywhere, but that a list has
to hold. -/
def Record.nullable (r : Record) (name : String) (item : Json → Option α) :
    Option (Option α) :=
  match r.field? name with
  | some j => Decode.nullable item j
  | none => if r.listed then none else some none

end ApiForge.Json.Decode
