import ApiForge.Toml.Text
import ApiForge.Text.Pieces
import ApiForge.Json.Basic
/-
# ApiForge.Toml.Scalar -- numbers, booleans, dates and times

A scalar that is no string is a run of characters up to a separator.  Dates and times
become an object that holds their normal text; a float may be infinite or no number.
-/

namespace ApiForge.Toml

set_option autoImplicit false

open ApiForge.Text

/-! ## Numbers -/

/-- Digits with single underscores between them, without the underscores. -/
def digitRun (isDigit : Char → Bool) : List Char → Option (List Char)
  | [] => none
  | [c] => if isDigit c then some [c] else none
  | c :: '_' :: rest =>
    if isDigit c then (digitRun isDigit rest).map (c :: ·) else none
  | c :: rest => if isDigit c then (digitRun isDigit rest).map (c :: ·) else none

def valueIn (base : Nat) (ds : List Char) : Nat := ds.foldl (fun n d => n * base + hexValue d) 0

/-- The sign of a number, and the text after it. -/
def splitSign : List Char → Bool × List Char
  | '+' :: rest => (false, rest)
  | '-' :: rest => (true, rest)
  | s => (false, s)

/-- Decimal digits without a needless zero in front. -/
def decimalRun (s : List Char) : Option (List Char) :=
  match digitRun isAsciiDigit s with
  | some ('0' :: _ :: _) => none
  | other => other

def integer (s : List Char) : Option Int :=
  match s with
  | '0' :: 'x' :: rest => (digitRun isHexDigit rest).map fun ds => Int.ofNat (valueIn 16 ds)
  | '0' :: 'o' :: rest =>
    (digitRun (fun c => isAsciiDigit c && c < '8') rest).map fun ds => Int.ofNat (valueIn 8 ds)
  | '0' :: 'b' :: rest =>
    (digitRun (fun c => c = '0' || c = '1') rest).map fun ds => Int.ofNat (valueIn 2 ds)
  | _ =>
    let (negative, body) := splitSign s
    (decimalRun body).map fun ds =>
      let n := Int.ofNat (valueIn 10 ds)
      if negative then -n else n

/-- An integer that some 64-bit type holds. -/
def integerValue (s : List Char) : Option Json :=
  match integer s with
  | some n => if minInt64 ≤ n ∧ n ≤ maxUInt64 then some (.int n) else none
  | none => none

def infinity : Binary64 := ⟨0x7FF0000000000000⟩

def notANumber : Binary64 := ⟨0x7FF8000000000000⟩

def float (s : List Char) : Option Binary64 :=
  let (negative, body) := splitSign s
  if body = "inf".toList then some (Binary64.withSign negative infinity)
  else if body = "nan".toList then some (Binary64.withSign negative notANumber)
  else
    let (significand, exponent?) : List Char × Option Int :=
      match cutAt (fun c => c = 'e' || c = 'E') body with
      | none => (body, some 0)
      | some (front, back) =>
        let (down, ds) := splitSign back
        (front, (digitRun isAsciiDigit ds).map fun ds =>
          let n := Int.ofNat (valueIn 10 ds)
          if down then -n else n)
    let digits? : Option (List Char × Nat) :=
      match cutAt (· = '.') significand with
      | none => (decimalRun significand).map fun ds => (ds, 0)
      | some (whole, places) =>
        match decimalRun whole, digitRun isAsciiDigit places with
        | some ws, some ps => some (ws ++ ps, ps.length)
        | _, _ => none
    match digits?, exponent? with
    | some (ds, places), some e =>
      let n := valueIn 10 ds
      let scale := e - Int.ofNat places
      if n = 0 ∨ scale < -100000 then some (Binary64.withSign negative ⟨0⟩)
      else if 100000 < scale then none
      else Binary64.ofDecimal negative n scale
    | _, _ => none

/-! ## Dates and times -/

/-- Exactly so many digits. -/
def fixedDigits (width : Nat) (s : List Char) : Option (Nat × List Char) :=
  let ds := s.take width
  if ds.length = width ∧ ds.all isAsciiDigit then some (valueIn 10 ds, s.drop width) else none

def mark (c : Char) : List Char → Option (List Char)
  | d :: rest => if c = d then some rest else none
  | [] => none

def daysIn (year month : Nat) : Nat :=
  if month = 2 then
    if year % 4 = 0 ∧ (year % 100 ≠ 0 ∨ year % 400 = 0) then 29 else 28
  else if [4, 6, 9, 11].contains month then 30
  else 31

/-- A date as it is written. -/
def date (s : List Char) : Option (List Char × List Char) := do
  let (year, rest) ← fixedDigits 4 s
  let (month, rest) ← fixedDigits 2 (← mark '-' rest)
  let (day, rest) ← fixedDigits 2 (← mark '-' rest)
  if 1 ≤ month ∧ month ≤ 12 ∧ 1 ≤ day ∧ day ≤ daysIn year month then
    some (s.take 10, rest)
  else none

/-- The digits of a fraction of a second in their normal form. -/
def fractionText (ds : List Char) : List Char :=
  let kept := trimEnd (· = '0') (ds.take 9)
  if kept.isEmpty then ['0'] else kept

/-- A time in its normal form. -/
def time (s : List Char) : Option (List Char × List Char) := do
  let (hour, rest) ← fixedDigits 2 s
  let (minute, rest) ← fixedDigits 2 (← mark ':' rest)
  if 23 < hour ∨ 59 < minute then none
  match rest with
  | ':' :: rest' =>
    let (second, rest) ← fixedDigits 2 rest'
    if 60 < second then none
    match rest with
    | '.' :: rest' =>
      let ds := rest'.takeWhile isAsciiDigit
      if ds.isEmpty then none
      some (s.take 8 ++ '.' :: fractionText ds, rest'.drop ds.length)
    | _ => some (s.take 8, rest)
  | _ => some (s.take 5, rest)

/-- An offset from universal time in its normal form. -/
def offset : List Char → Option (List Char)
  | [] => some []
  | ['Z'] => some ['Z']
  | ['z'] => some ['Z']
  | c :: rest =>
    if c = '+' ∨ c = '-' then do
      let (hours, after) ← fixedDigits 2 rest
      let (minutes, after) ← fixedDigits 2 (← mark ':' after)
      if 23 < hours ∨ 59 < minutes ∨ !after.isEmpty then none
      some (c :: rest)
    else none

/-- A date, a time, or both, in its normal form. -/
def dateTime (s : List Char) : Option (List Char) :=
  match date s with
  | some (d, []) => some d
  | some (d, c :: rest) =>
    if c = 'T' ∨ c = 't' ∨ c = ' ' then
      match time rest with
      | some (t, rest) => (offset rest).map fun o => d ++ 'T' :: t ++ o
      | none => none
    else none
  | none =>
    match time s with
    | some (t, []) => some t
    | _ => none

/-- The name under which an untyped value holds a date or time. -/
def dateTimeField : String := "$__toml_private_datetime"

/-! ## Scalars -/

def endsScalar (c : Char) : Bool :=
  [' ', '\t', '\r', '\n', '#', ',', ']', '}', '=', '[', '{'].contains c

/-- The run of a scalar; a date takes the time after one blank with it. -/
def scalarRun (s : List Char) : List Char :=
  let run := s.takeWhile fun c => !endsScalar c
  match date run, s.drop run.length with
  | some (_, []), ' ' :: rest =>
    if (rest.take 2).length = 2 ∧ (rest.take 2).all isAsciiDigit ∧ rest[2]? = some ':' then
      run ++ ' ' :: rest.takeWhile fun c => !endsScalar c
    else run
  | _, _ => run

/-- What the run of a scalar stands for. -/
def scalarValue (run : List Char) : Option Json :=
  if run = "true".toList then some (.bool true)
  else if run = "false".toList then some (.bool false)
  else
    match integer run with
    | some _ => integerValue run
    | none =>
      match float run with
      | some x => some (.float x)
      | none =>
        (dateTime run).map fun t => .obj [(dateTimeField, .str (String.ofList t))]

end ApiForge.Toml
