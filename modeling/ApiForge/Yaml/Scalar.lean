import ApiForge.Yaml.Token
import ApiForge.Json.Basic
/-
# ApiForge.Yaml.Scalar -- what a scalar stands for

Plain scalars are resolved by the core schema: null, booleans, integers, floats, and
text for everything else.  A number with a leading zero is text.  An integer has to fit
64 bits; one that only fits 128 bits is refused, and a wider one is a float.
-/

namespace ApiForge.Yaml

set_option autoImplicit false

open ApiForge.Text

def isNullText (s : String) : Bool := ["null", "Null", "NULL", "~"].contains s

def boolOf? (s : String) : Option Bool :=
  if ["true", "True", "TRUE"].contains s then some true
  else if ["false", "False", "FALSE"].contains s then some false
  else none

def dropSign : List Char → List Char
  | '+' :: rest => rest
  | '-' :: rest => rest
  | s => s

def hasSign (s : List Char) : Bool := s.head? = some '+' || s.head? = some '-'

/-- A zero followed by digits, after at most one sign. -/
def isPaddedNumber (s : List Char) : Bool :=
  let body := dropSign s
  1 < body.length && body.head? = some '0' && body.all isAsciiDigit

/-- A digit run in some base. -/
def natIn? (base : Nat) (s : List Char) : Option Nat :=
  if s.isEmpty || s.any fun c => !isHexDigit c || base ≤ hexValue c then none
  else some (s.foldl (fun n c => n * base + hexValue c) 0)

def basedNat? : List Char → Option Nat
  | '0' :: 'x' :: rest => natIn? 16 rest
  | '0' :: 'o' :: rest => natIn? 8 rest
  | '0' :: 'b' :: rest => natIn? 2 rest
  | _ => none

/-- The integer that the text spells. -/
def intOf? (s : List Char) : Option Int :=
  match s with
  | '-' :: rest =>
    match basedNat? rest with
    | some n => some (-(Int.ofNat n))
    | none => if isPaddedNumber s then none else (natIn? 10 rest).map fun n => -(Int.ofNat n)
  | _ =>
    let body := match s with
      | '+' :: rest => rest
      | _ => s
    match basedNat? body with
    | some n => some (Int.ofNat n)
    | none => if isPaddedNumber s then none else (natIn? 10 body).map Int.ofNat

/-- What becomes of an integer. -/
inductive IntRange where
  | fits
  | tooWide
  | beyond

def intRange (n : Int) : IntRange :=
  if minInt64 ≤ n ∧ n ≤ maxUInt64 then .fits
  else if minInt128 ≤ n ∧ n ≤ maxUInt128 then .tooWide
  else .beyond

/-- Digits, a point and an exponent: the digits as a number and the power of ten. -/
def decimalOf? (s : List Char) : Option (Nat × Int) :=
  let whole := s.takeWhile isAsciiDigit
  let rest := s.dropWhile isAsciiDigit
  let (places, rest) := match rest with
    | '.' :: rest => (rest.takeWhile isAsciiDigit, rest.dropWhile isAsciiDigit)
    | _ => ([], rest)
  let exponent? : Option Int := match rest with
    | [] => some 0
    | c :: rest =>
      if c = 'e' ∨ c = 'E' then
        let digits := dropSign rest
        (natIn? 10 digits).map fun n =>
          if rest.head? = some '-' then -(Int.ofNat n) else Int.ofNat n
      else none
  if whole.isEmpty && places.isEmpty then none
  else
    exponent?.map fun e =>
      ((whole ++ places).foldl (fun n c => n * 10 + hexValue c) 0, e - Int.ofNat places.length)

/-- The finite float that the text spells. -/
def finiteFloat? (s : List Char) : Option Binary64 :=
  match decimalOf? (dropSign s) with
  | none => none
  | some (digits, exponent) =>
    if exponent < -100000 ∨ digits = 0 then some (Binary64.withSign (s.head? = some '-') ⟨0⟩)
    else if 100000 < exponent then none
    else Binary64.ofDecimal (s.head? = some '-') digits exponent

/-- A float: a number, or `null` in the place of what is no number. -/
def floatOf? (s : String) : Option Json :=
  let cs := s.toList
  let body := if cs.head? = some '+' then cs.drop 1 else cs
  if cs.head? = some '+' && hasSign body then none
  else if [".inf", ".Inf", ".INF"].contains (String.ofList body) then some .null
  else if ["-.inf", "-.Inf", "-.INF", ".nan", ".NaN", ".NAN"].contains s then some .null
  else (finiteFloat? body).map .float

/-- An integer where it fits. -/
def integerValue? (s : String) : Option (Option Json) :=
  match intOf? s.toList with
  | none => none
  | some n =>
    match intRange n with
    | .fits => some (some (.int n))
    | .tooWide => some none
    | .beyond => none

/-- What a plain scalar stands for; nothing for an integer that does not fit. -/
def resolvePlain (s : String) : Option Json :=
  if s.isEmpty || isNullText s then some .null
  else
    match boolOf? s with
    | some b => some (.bool b)
    | none =>
      match integerValue? s with
      | some value => value
      | none =>
        if isPaddedNumber s.toList then some (.str s)
        else some ((floatOf? s).getD (.str s))

/-- Is the tag one of the text's own making? -/
def isLocalTag (tag : String) : Bool := startsWith tag "!"
where
  startsWith (s head : String) : Bool := head.toList.isPrefixOf s.toList

/-- What a scalar with a tag stands for. -/
def resolveTagged (tag text : String) : Option Json :=
  if isLocalTag tag then none
  else if tag = "tag:yaml.org,2002:bool" then (boolOf? text).map .bool
  else if tag = "tag:yaml.org,2002:int" then (integerValue? text).bind id
  else if tag = "tag:yaml.org,2002:float" then floatOf? text
  else if tag = "tag:yaml.org,2002:null" then
    if isNullText text then some .null else none
  else some (.str text)

/-- What a scalar stands for. -/
def resolveScalar (tag : Option String) (text : String) (style : ScalarStyle) : Option Json :=
  match tag with
  | some t => resolveTagged t text
  | none => if style = .plain then resolvePlain text else some (.str text)

end ApiForge.Yaml
