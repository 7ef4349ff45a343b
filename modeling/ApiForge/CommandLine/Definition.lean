import ApiForge.Json.Basic
import ApiForge.Number.Bounds
import ApiForge.Text.Pieces
/-
# ApiForge.CommandLine.Definition -- properties given on the command line

A definition is `key=value`.  The value is `true`, `false`, a whole number of 64 bits, or
else text, which is kept as it is written.
-/

namespace ApiForge

set_option autoImplicit false

open ApiForge.Text

/-- Why a definition is none. -/
inductive DefinitionError where
  | noValue (raw : String)
  | noKey (raw : String)
deriving DecidableEq

def DefinitionError.message : DefinitionError → String
  | .noValue raw => "Invalid property '" ++ raw ++ "': expected key=value"
  | .noKey raw => "Invalid property '" ++ raw ++ "': empty key"

namespace Definition

/-- The number that decimal digits denote; there has to be one digit at least. -/
def digitsValue? (digits : List Char) : Option Nat :=
  if !digits.isEmpty && digits.all isAsciiDigit then
    some (digits.foldl (fun n d => n * 10 + (d.toNat - 48)) 0)
  else none

/-- A number with or without a sign. -/
def signedValue? : List Char → Option Int
  | '-' :: digits => (digitsValue? digits).map fun n => -(n : Int)
  | '+' :: digits => (digitsValue? digits).map fun n => (n : Int)
  | digits => (digitsValue? digits).map fun n => (n : Int)

/-- Does the number have a place in 64 bits? -/
def fits (n : Int) : Bool := minInt64 ≤ n && n ≤ maxInt64

/-- The value that a text stands for. -/
def valueOf (s : String) : Json :=
  if s = "true" then .bool true
  else if s = "false" then .bool false
  else
    match (signedValue? s.toList).filter fits with
    | some n => .int n
    | none => .str s

/-- The key and the value of a definition. -/
def parse (raw : String) : Except DefinitionError (String × Json) :=
  match cutAt (· = '=') raw.toList with
  | none => .error (.noValue raw)
  | some (key, value) =>
    let key := trim key
    if key.isEmpty then .error (.noKey raw)
    else .ok (String.ofList key, valueOf (String.ofList value))

end Definition

end ApiForge
