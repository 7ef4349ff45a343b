import ApiForge.Json.Basic
/-
# ApiForge.Json.Printer -- writing JSON text

Two layouts: `compact` without blanks, and `pretty` with a field or an item per
line and two spaces per level.  Control characters are escaped, everything beyond
ASCII stands as it is.
-/

namespace ApiForge.Json

set_option autoImplicit false

def hexDigit (n : Nat) : Char := Char.ofNat (if n < 10 then 48 + n else 87 + n)

/-- One character as it stands inside a string. -/
def escape (c : Char) : List Char :=
  if c = '\x22' then ['\\', '\x22']
  else if c = '\\' then ['\\', '\\']
  else if c = '\n' then ['\\', 'n']
  else if c = '\r' then ['\\', 'r']
  else if c = '\t' then ['\\', 't']
  else if c = '\x08' then ['\\', 'b']
  else if c = '\x0c' then ['\\', 'f']
  else if c.toNat < 32 then ['\\', 'u', '0', '0', hexDigit (c.toNat / 16), hexDigit (c.toNat % 16)]
  else [c]

/-- A string between quotation marks. -/
def quote (s : String) : String :=
  (s.toList.foldl (fun acc c => (escape c).foldl String.push acc) "\x22").push '\x22'

/-- A double that is no number has no JSON form and becomes `null`. -/
def floatText (x : Binary64) : String := if x.isFinite then x.toJsonText else "null"

mutual

/-- Append a value without blanks. -/
def writeCompact (acc : String) : Json → String
  | .null => acc ++ "null"
  | .bool b => acc ++ (if b then "true" else "false")
  | .int n => acc ++ toString n
  | .float x => acc ++ floatText x
  | .str s => acc ++ quote s
  | .arr items => (compactItems (acc.push '[') true items).push ']'
  | .obj fields => (compactFields (acc.push '{') true fields).push '}'

def compactItems (acc : String) (first : Bool) : List Json → String
  | [] => acc
  | j :: rest => compactItems (writeCompact (if first then acc else acc.push ',') j) false rest

def compactFields (acc : String) (first : Bool) : List (String × Json) → String
  | [] => acc
  | (name, j) :: rest =>
    compactFields
      (writeCompact (((if first then acc else acc.push ',') ++ quote name).push ':') j) false rest

end

def compact (j : Json) : String := writeCompact "" j

/-- A new line at this level. -/
def newline (acc : String) (level : Nat) : String :=
  (List.replicate (2 * level) ' ').foldl String.push (acc.push '\n')

mutual

/-- Append a value with a line per field and item. -/
def writePretty (level : Nat) (acc : String) : Json → String
  | .null => acc ++ "null"
  | .bool b => acc ++ (if b then "true" else "false")
  | .int n => acc ++ toString n
  | .float x => acc ++ floatText x
  | .str s => acc ++ quote s
  | .arr [] => acc ++ "[]"
  | .arr items => (newline (prettyItems (level + 1) (acc.push '[') true items) level).push ']'
  | .obj [] => (acc.push '{').push '}'
  | .obj fields => (newline (prettyFields (level + 1) (acc.push '{') true fields) level).push '}'

def prettyItems (level : Nat) (acc : String) (first : Bool) : List Json → String
  | [] => acc
  | j :: rest =>
    prettyItems level (writePretty level (newline (if first then acc else acc.push ',') level) j)
      false rest

def prettyFields (level : Nat) (acc : String) (first : Bool) : List (String × Json) → String
  | [] => acc
  | (name, j) :: rest =>
    prettyFields level
      (writePretty level
        (newline (if first then acc else acc.push ',') level ++ quote name ++ ": ") j)
      false rest

end

def pretty (j : Json) : String := writePretty 0 "" j

end ApiForge.Json
