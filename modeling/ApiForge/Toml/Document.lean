import ApiForge.Toml.Scalar
import ApiForge.Toml.Table
/-
# ApiForge.Toml.Document -- texts as untyped values

A document is a series of lines: a header, an assignment, or nothing but a comment.
Arrays and inline tables may run over several lines and end in a comma.
-/

namespace ApiForge.Toml

set_option autoImplicit false

/-- How deep arrays and inline tables may be nested. -/
def nestingLimit : Nat := 80

/-- The names before the last one, and the last one. -/
def splitLast? (path : List String) : Option (List String × String) :=
  path.getLast?.map fun name => (path.dropLast, name)

mutual

def value : Nat → Nat → List Char → Option (Json × List Char)
  | 0, _, _ => none
  | fuel + 1, depth, s =>
    match s with
    | [] => none
    | c :: rest =>
      if c = '\x22' ∨ c = '\x27' then (string s).map fun r => (.str r.1, r.2)
      else if c = '[' then
        match depth with
        | 0 => none
        | depth + 1 => array fuel depth [] rest
      else if c = '{' then
        match depth with
        | 0 => none
        | depth + 1 => inlineTable fuel depth [] rest
      else
        let run := scalarRun s
        (scalarValue run).map fun j => (j, s.drop run.length)

/-- The rest of an array, its items so far in reverse. -/
def array : Nat → Nat → List Json → List Char → Option (Json × List Char)
  | 0, _, _, _ => none
  | fuel + 1, depth, done, s =>
    match skipLines (s.length + 1) s with
    | ']' :: rest => some (.arr done.reverse, rest)
    | s =>
      match value fuel depth s with
      | none => none
      | some (j, rest) =>
        match skipLines (rest.length + 1) rest with
        | ',' :: rest => array fuel depth (j :: done) rest
        | ']' :: rest => some (.arr (j :: done).reverse, rest)
        | _ => none

/-- The rest of an inline table. -/
def inlineTable : Nat → Nat → Entries → List Char → Option (Json × List Char)
  | 0, _, _, _ => none
  | fuel + 1, depth, entries, s =>
    match skipLines (s.length + 1) s with
    | '}' :: rest => some ((Item.table .header entries).toJson, rest)
    | s =>
      match assignment fuel depth s with
      | none => none
      | some (path, name, j, rest) =>
        match Entries.assign path name j .header entries with
        | none => none
        | some (_, entries) =>
          match skipLines (rest.length + 1) rest with
          | ',' :: rest => inlineTable fuel depth entries rest
          | '}' :: rest => some ((Item.table .header entries).toJson, rest)
          | _ => none

/-- A key, an equals sign and a value. -/
def assignment : Nat → Nat → List Char →
    Option (List String × String × Json × List Char)
  | 0, _, _ => none
  | fuel + 1, depth, s =>
    match dottedKey (s.length + 1) s with
    | some (path, '=' :: rest) =>
      match splitLast? path, value fuel depth (skipBlanks rest) with
      | some (path, name), some (j, rest) => some (path, name, j, rest)
      | _, _ => none
    | _ => none

end

/-- Lines up to the end, below the table of the last header. -/
def lines : Nat → List String → Entries → List Char → Option Entries
  | 0, _, _, _ => none
  | fuel + 1, header, root, s =>
    match skipLines (s.length + 1) s with
    | [] => some root
    | '[' :: '[' :: rest =>
      match dottedKey (rest.length + 1) rest with
      | some (path, ']' :: ']' :: rest) =>
        match splitLast? path, endLine rest with
        | some (outer, name), some rest =>
          match Entries.openListed outer name root with
          | some root => lines fuel path root rest
          | none => none
        | _, _ => none
      | _ => none
    | '[' :: rest =>
      match dottedKey (rest.length + 1) rest with
      | some (path, ']' :: rest) =>
        match splitLast? path, endLine rest with
        | some (outer, name), some rest =>
          match Entries.openTable outer name root with
          | some root => lines fuel path root rest
          | none => none
        | _, _ => none
      | _ => none
    | s =>
      match assignment (2 * s.length + 4) nestingLimit s with
      | none => none
      | some (path, name, j, rest) =>
        match Entries.assignBelow header path name j root, endLine rest with
        | some root, some rest => lines fuel header root rest
        | _, _ => none

/-- Read a whole text. -/
def parse (text : String) : Option Json :=
  let s := text.toList
  let s := match s with
    | c :: rest => if c.toNat = 0xFEFF then rest else s
    | [] => s
  (lines (s.length + 1) [] [] s).map fun entries => (Item.table .header entries).toJson

end ApiForge.Toml
