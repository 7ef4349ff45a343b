import ApiForge.Json.Basic
import ApiForge.Text.Pieces
/-
# ApiForge.Template.Value -- values while a template is rendered

A value may be undefined.  An undefined value is printed as nothing, has no items and is
false, but it has no fields to look into.
-/

namespace ApiForge.Template

set_option autoImplicit false

open ApiForge.Text

/-- A value, or nothing for what is undefined. -/
abbrev Value := Option Json

/-! ## Printing -/

def hexDigits (n : Nat) : String := String.ofList (Nat.toDigits 16 n)

/-- Is the character shown by its number inside a quoted text? -/
def isHidden (c : Char) : Bool :=
  let n := c.toNat
  n < 32 || (127 ≤ n && n < 160) || n = 0xAD || (0x200B ≤ n && n ≤ 0x200F)
    || (0x2028 ≤ n && n ≤ 0x202E) || (0x2060 ≤ n && n ≤ 0x206F) || n = 0xFEFF
    || (0xE000 ≤ n && n ≤ 0xF8FF)

def quoteChar (c : Char) : String :=
  if c = '\x22' then "\\\x22"
  else if c = '\\' then "\\\\"
  else if c = '\n' then "\\n"
  else if c = '\r' then "\\r"
  else if c = '\t' then "\\t"
  else if c.toNat = 0 then "\\0"
  else if isHidden c then "\\u\x7b" ++ hexDigits c.toNat ++ "\x7d"
  else String.singleton c

def quoted (s : String) : String :=
  "\x22" ++ s.toList.foldl (fun acc c => acc ++ quoteChar c) "" ++ "\x22"

mutual

/-- A value inside another one. -/
def inner : Json → String
  | .null => "None"
  | .bool b => if b then "True" else "False"
  | .int n => toString n
  | .float x => x.toPositional
  | .str s => quoted s
  | .arr items => "[" ++ innerItems items ++ "]"
  | .obj fields => "\x7b" ++ innerFields fields ++ "\x7d"

def innerItems : List Json → String
  | [] => ""
  | [j] => inner j
  | j :: rest => inner j ++ ", " ++ innerItems rest

def innerFields : List (String × Json) → String
  | [] => ""
  | [(name, j)] => quoted name ++ ": " ++ inner j
  | (name, j) :: rest => quoted name ++ ": " ++ inner j ++ ", " ++ innerFields rest

end

/-- A value as output: text as it is, everything else as inside another value. -/
def display : Value → String
  | none => ""
  | some (.str s) => s
  | some j => inner j

/-! ## Looking into values -/

/-- Does the value count as true? -/
def isTrue : Value → Bool
  | none => false
  | some .null => false
  | some (.bool b) => b
  | some (.int n) => n ≠ 0
  | some (.float x) => x.mantissa ≠ 0
  | some (.str s) => !s.isEmpty
  | some (.arr items) => !items.isEmpty
  | some (.obj fields) => !fields.isEmpty

/-- A field of a value; an undefined value has none to ask for. -/
def field (v : Value) (name : String) : Option Value := v.map fun j => j.field? name

/-- The item at a place; a negative place counts from the end. -/
def itemAt (items : List Json) (place : Int) : Value :=
  let place := if place < 0 then place + items.length else place
  if place < 0 then none else items[place.toNat]?

/-- The characters of a text, each as a text. -/
def characters (s : String) : List Json := s.toList.map fun c => .str (String.singleton c)

/-- What stands under a key or at a place. -/
def index (v key : Value) : Option Value :=
  match v, key with
  | none, _ => none
  | some (.obj fields), some (.str name) => some (Entries.get? fields name)
  | some (.arr items), some (.int place) => some (itemAt items place)
  | some (.str s), some (.int place) => some (itemAt (characters s) place)
  | some _, _ => some none

/-- The items that a loop goes through. -/
def iterate : Value → Option (List Json)
  | none => some []
  | some .null => some []
  | some (.str s) => some (characters s)
  | some (.arr items) => some items
  | some (.obj fields) => some (fields.map fun f => .str f.1)
  | some _ => none

def length : Value → Option Nat
  | some (.str s) => some s.length
  | some (.arr items) => some items.length
  | some (.obj fields) => some fields.length
  | _ => none

/-! ## Operators -/

/-- An integer, or a truth value as one. -/
def asInt : Json → Option Int
  | .int n => some n
  | .bool b => some (if b then 1 else 0)
  | _ => none

/-- A number as a float. -/
def asFloat : Json → Option Float
  | .float x => some x.toFloat
  | j => (asInt j).map Float.ofInt

/-- Apply an operator to two numbers; the result is a float where one of them is. -/
def arithmetic (onInts : Int → Int → Option Int) (onFloats : Float → Float → Float)
    (a b : Json) : Option Json :=
  match asInt a, asInt b with
  | some m, some n => (onInts m n).map .int
  | _, _ =>
    match asFloat a, asFloat b with
    | some x, some y => some (.float (Binary64.ofFloat (onFloats x y)))
    | _, _ => none

def add : Value → Value → Option Json
  | some (.str s), some (.str t) => some (.str (s ++ t))
  | some (.arr xs), some (.arr ys) => some (.arr (xs ++ ys))
  | some a, some b => arithmetic (fun m n => some (m + n)) (· + ·) a b
  | _, _ => none

def subtract : Value → Value → Option Json
  | some a, some b => arithmetic (fun m n => some (m - n)) (· - ·) a b
  | _, _ => none

def multiply : Value → Value → Option Json
  | some a, some b => arithmetic (fun m n => some (m * n)) (· * ·) a b
  | _, _ => none

def divide : Value → Value → Option Json
  | some a, some b =>
    match asFloat a, asFloat b with
    | some x, some y => some (.float (Binary64.ofFloat (x / y)))
    | _, _ => none
  | _, _ => none

def divideWhole : Value → Value → Option Json
  | some a, some b =>
    arithmetic (fun m n => if n = 0 then none else some (m / n)) (fun x y => (x / y).floor) a b
  | _, _ => none

def remainder : Value → Value → Option Json
  | some a, some b =>
    arithmetic (fun m n => if n = 0 then none else some (m % n))
      (fun x y => x - y * (x / y).floor) a b
  | _, _ => none

def negate : Value → Option Json
  | some (.int n) => some (.int (-n))
  | some (.float x) => some (.float (Binary64.withSign (!x.negative) x))
  | _ => none

/-- Are two numbers the same?  What is no number is the same as no number. -/
def sameNumber (a b : Json) : Bool :=
  match asInt a, asInt b with
  | some m, some n => m = n
  | _, _ =>
    match asFloat a, asFloat b with
    | some x, some y => x == y
    | _, _ => false

mutual

def sameInner : Json → Json → Bool
  | .null, .null => true
  | .str s, .str t => s = t
  | .arr xs, .arr ys => sameItems xs ys
  | .obj xs, .obj ys => sameFields xs ys
  | a, b => sameNumber a b

def sameItems : List Json → List Json → Bool
  | [], [] => true
  | x :: xs, y :: ys => sameInner x y && sameItems xs ys
  | _, _ => false

def sameFields : List (String × Json) → List (String × Json) → Bool
  | [], [] => true
  | (m, x) :: xs, (n, y) :: ys => m = n && sameInner x y && sameFields xs ys
  | _, _ => false

end

/-- Are two values the same?  Numbers are compared as numbers, and inside lists and
maps too. -/
def same : Value → Value → Bool
  | none, none => true
  | some a, some b => sameInner a b
  | _, _ => false

/-- Does one value come before another?  Only numbers and texts have an order. -/
def before : Value → Value → Bool
  | some (.str s), some (.str t) => s < t
  | some (.int m), some (.int n) => m < n
  | some a, some b =>
    match asFloat a, asFloat b with
    | some x, some y => x < y
    | _, _ => false
  | _, _ => false

/-- Does a container hold a value? -/
def holds (container value : Value) : Option Bool :=
  match container, value with
  | some (.arr items), v => some (items.any fun j => same (some j) v)
  | some (.obj fields), some (.str name) => some (Entries.get? fields name).isSome
  | some (.obj _), _ => some false
  | some (.str s), v => some (contains s (display v))
  | none, _ => some false
  | _, _ => none

end ApiForge.Template
