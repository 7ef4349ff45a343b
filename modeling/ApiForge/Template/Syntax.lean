import ApiForge.Json.Basic
/-
# ApiForge.Template.Syntax -- templates as trees

A template is text with expressions to print and statements that choose, repeat and
name things.
-/

namespace ApiForge.Template

set_option autoImplicit false

inductive Operator where
  | add
  | subtract
  | multiply
  | divide
  | divideWhole
  | remainder
  | join
  | equal
  | unequal
  | less
  | lessOrEqual
  | greater
  | greaterOrEqual
  | member
  | notMember
  | and
  | or
deriving DecidableEq

inductive Expr where
  | const (value : Json)
  | var (name : String)
  | list (items : List Expr)
  | dict (entries : List (Expr × Expr))
  | field (e : Expr) (name : String)
  | index (e key : Expr)
  | filter (e : Expr) (name : String) (args : List Expr)
  | test (e : Expr) (name : String) (args : List Expr)
  | call (e : Expr) (args : List Expr)
  | not (e : Expr)
  | negate (e : Expr)
  | binary (op : Operator) (a b : Expr)
  | choose (condition yes no : Expr)
  /-- The value of an expression that is left out. -/
  | absent

inductive Node where
  | text (s : String)
  | print (e : Expr)
  | choose (condition : Expr) (yes no : List Node)
  | loop (names : List String) (source : Expr) (condition : Expr) (body otherwise : List Node)
  | assign (names : List String) (e : Expr)
  | capture (name : String) (filters : List (String × List Expr)) (body : List Node)
  /-- Names that hold inside a body only. -/
  | scope (names : List (String × Expr)) (body : List Node)
  | filtered (filters : List (String × List Expr)) (body : List Node)
  | insertFile (e : Expr) (optional : Bool)

end ApiForge.Template
