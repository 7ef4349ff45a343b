import ApiForge.Json.Basic
/-
# ApiForge.Toml.Table -- tables while a text is read

A table may be defined once.  What counts as defining it depends on how it came to be:
by a header of its own, as part of another header, or by a dotted key.  A closed value,
such as an inline table, takes nothing more.
-/

namespace ApiForge.Toml

set_option autoImplicit false

/-- How a table came to be. -/
inductive Origin where
  /-- By a header of its own. -/
  | header
  /-- On the way to another header. -/
  | implied
  /-- By a dotted key. -/
  | dotted
deriving DecidableEq

/-- What a name in a table stands for. -/
inductive Item where
  | closed (value : Json)
  | table (origin : Origin) (entries : List (String × Item))
  /-- A list of tables, the last one first. -/
  | tables (items : List Item)

abbrev Entries := List (String × Item)

namespace Item

mutual

def toJson : Item → Json
  | .closed value => value
  | .table _ entries => .object (fieldsOf entries)
  | .tables items => .arr (itemsOf items).reverse

def fieldsOf : List (String × Item) → List (String × Json)
  | [] => []
  | (name, item) :: rest => (name, toJson item) :: fieldsOf rest

def itemsOf : List Item → List Json
  | [] => []
  | item :: rest => toJson item :: itemsOf rest

end

end Item

namespace Entries

def put (entries : Entries) (name : String) (item : Item) : Entries :=
  if (entries.lookup name).isSome then
    entries.map fun e => if e.1 = name then (name, item) else e
  else entries ++ [(name, item)]

/-- Change the table that a path leads to, making the tables on the way that are
missing.  A dotted key does not lead through a table with a header of its own. -/
def change (dotted : Bool) (f : Origin → Entries → Option (Origin × Entries)) :
    List String → Origin → Entries → Option (Origin × Entries)
  | [], origin, entries => f origin entries
  | name :: path, origin, entries =>
    match entries.lookup name with
    | none =>
      (change dotted f path (if dotted then .dotted else .implied) []).map fun r =>
        (origin, entries.put name (.table r.1 r.2))
    | some (.table origin' entries') =>
      if dotted && decide (origin' = .header) then none
      else
        (change dotted f path origin' entries').map fun r =>
          (origin, entries.put name (.table r.1 r.2))
    | some (.tables (.table origin' entries' :: before)) =>
      (change dotted f path origin' entries').map fun r =>
        (origin, entries.put name (.tables (.table r.1 r.2 :: before)))
    | some _ => none

/-- Put a value under a dotted key of a table. -/
def assign (path : List String) (name : String) (value : Json) (origin : Origin)
    (entries : Entries) : Option (Origin × Entries) :=
  change true (fun origin entries =>
    if decide (origin = .dotted) = path.isEmpty then none
    else if (entries.lookup name).isSome then none
    else some (origin, entries ++ [(name, .closed value)])) path origin entries

/-- Open the table of a header below the table that the path leads to. -/
def openTable (path : List String) (name : String) (root : Entries) : Option Entries :=
  (change false (fun origin entries =>
    match entries.lookup name with
    | none => some (origin, entries ++ [(name, .table .header [])])
    | some (.table .implied entries') =>
      some (origin, entries.put name (.table .header entries'))
    | some _ => none) path .header root).map Prod.snd

/-- Open one more table of a list of tables. -/
def openListed (path : List String) (name : String) (root : Entries) : Option Entries :=
  (change false (fun origin entries =>
    match entries.lookup name with
    | none => some (origin, entries ++ [(name, .tables [.table .header []])])
    | some (.tables items) =>
      some (origin, entries.put name (.tables (.table .header [] :: items)))
    | some _ => none) path .header root).map Prod.snd

/-- Put a value under a dotted key of the table that a header opened. -/
def assignBelow (header path : List String) (name : String) (value : Json) (root : Entries) :
    Option Entries :=
  (change false (assign path name value) header .header root).map Prod.snd

end Entries

end ApiForge.Toml
