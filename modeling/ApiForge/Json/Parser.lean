import ApiForge.Json.Basic
import ApiForge.Text.Letter
/-
# ApiForge.Json.Parser -- reading JSON text

A reader takes what is left of the text and gives a value with what is left then.
Values may be nested 127 deep.  Of two fields with one name the later counts.
Integers that fit 64 bits, signed or unsigned, stay integers; any other number
becomes a double.  The fuel of the readers is computed from the length of the
text, which bounds the number of calls.
-/

namespace ApiForge.Json

set_option autoImplicit false

open ApiForge.Text

def isSpace (c : Char) : Bool := c = ' ' || c = '\n' || c = '\t' || c = '\r'

def skipSpace (s : List Char) : List Char := s.dropWhile isSpace

/-! ## Strings -/

/-- Four hexadecimal digits. -/
def hex4 : List Char → Option (Nat × List Char)
  | a :: b :: c :: d :: rest =>
    if isHexDigit a && isHexDigit b && isHexDigit c && isHexDigit d then
      some (((hexValue a * 16 + hexValue b) * 16 + hexValue c) * 16 + hexValue d, rest)
    else none
  | _ => none

/-- The character of a `\u` escape; a high surrogate takes the low one after it. -/
def unicodeEscape (s : List Char) : Option (Char × List Char) :=
  match hex4 s with
  | none => none
  | some (n, rest) =>
    if 0xDC00 ≤ n ∧ n ≤ 0xDFFF then none
    else if 0xD800 ≤ n ∧ n ≤ 0xDBFF then
      match rest with
      | '\\' :: 'u' :: rest' =>
        match hex4 rest' with
        | some (m, rest'') =>
          if 0xDC00 ≤ m ∧ m ≤ 0xDFFF then
            some (Char.ofNat (0x10000 + (n - 0xD800) * 1024 + (m - 0xDC00)), rest'')
          else none
        | none => none
      | _ => none
    else some (Char.ofNat n, rest)

/-- The character of a short escape. -/
def shortEscape? (c : Char) : Option Char :=
  if c = '\x22' then some '\x22'
  else if c = '\\' then some '\\'
  else if c = '/' then some '/'
  else if c = 'b' then some '\x08'
  else if c = 'f' then some '\x0c'
  else if c = 'n' then some '\n'
  else if c = 'r' then some '\r'
  else if c = 't' then some '\t'
  else none

/-- The rest of a string after its opening quotation mark. -/
def stringBody : Nat → List Char → List Char → Option (String × List Char)
  | 0, _, _ => none
  | _, _, [] => none
  | fuel + 1, done, c :: rest =>
    if c = '\x22' then some (String.ofList done.reverse, rest)
    else if c = '\\' then
      match rest with
      | 'u' :: rest' =>
        match unicodeEscape rest' with
        | some (d, rest'') => stringBody fuel (d :: done) rest''
        | none => none
      | e :: rest' =>
        match shortEscape? e with
        | some d => stringBody fuel (d :: done) rest'
        | none => none
      | [] => none
    else if c.toNat < 32 then none
    else stringBody fuel (c :: done) rest

/-! ## Numbers -/

/-- A digit run as a number. -/
def digitsValue (ds : List Char) : Nat := ds.foldl (fun n d => n * 10 + (d.toNat - 48)) 0

/-- The leading digits of a significand that fit 64 bits, and how many were left over. -/
def significand (ds : List Char) : Nat × Nat :=
  let rec go : Nat → List Char → Nat × Nat
    | n, [] => (n, 0)
    | n, d :: rest =>
      let m := n * 10 + (d.toNat - 48)
      if m ≤ 18446744073709551615 then go m rest else (n, rest.length + 1)
  go 0 ds

/-- A double from a 64-bit significand and a power of ten.  The power is applied in
double precision, so the last bit may differ from the nearest double. -/
def floatOfParts (negative : Bool) (n : Nat) (exponent : Int) : Option Binary64 :=
  let rec shrink : Nat → Binary64 → Int → Option (Binary64 × Int)
    | 0, f, e => some (f, e)
    | fuel + 1, f, e =>
      if e.natAbs ≤ 308 then some (f, e)
      else if f.mantissa = 0 then some (f, 0)
      else if e ≥ 0 then none
      else
        match Binary64.ofDecimal false 1 308 with
        | some big =>
          match f.divAbs big with
          | some g => shrink fuel g (e + 308)
          | none => none
        | none => none
  match Binary64.ofFraction false n 1 with
  | none => none
  | some f =>
    match shrink 8 f exponent with
    | none => none
    | some (f, e) =>
      match Binary64.ofFraction false (tenTo e.natAbs) 1 with
      | none => none
      | some power =>
        (if e ≥ 0 then f.mulAbs power else f.divAbs power).map (Binary64.withSign negative)

/-- An exponent part after `e` or `E`, clamped to what a double can show. -/
def exponentPart (s : List Char) : Option (Int × List Char) :=
  let (negative, s) :=
    match s with
    | '+' :: rest => (false, rest)
    | '-' :: rest => (true, rest)
    | _ => (false, s)
  let ds := s.takeWhile isAsciiDigit
  if ds.isEmpty then none
  else
    let n : Int := Int.ofNat (min (digitsValue ds) 100000)
    some (if negative then -n else n, s.dropWhile isAsciiDigit)

def isExponentMark (c : Char) : Bool := c = 'e' || c = 'E'

/-- The value of a number once its integer digits are known. -/
def numberTail (negative : Bool) (whole : List Char) (s : List Char) :
    Option (Json × List Char) :=
  let (point, places, s) :=
    match s with
    | '.' :: rest => (true, rest.takeWhile isAsciiDigit, rest.dropWhile isAsciiDigit)
    | _ => (false, [], s)
  if point && places.isEmpty then none
  else
    let mark := (s.head?.map isExponentMark).getD false
    match (if mark then exponentPart (s.drop 1) else some (0, s)) with
    | none => none
    | some (e, rest) =>
      if !point && !mark then
        let n := digitsValue whole
        if !negative && n ≤ 18446744073709551615 then some (.int (Int.ofNat n), rest)
        else if negative && 0 < n && n ≤ 9223372036854775808 then
          some (.int (-(Int.ofNat n)), rest)
        else
          let (sig, left) := significand whole
          (floatOfParts negative sig (Int.ofNat left)).map fun x => (.float x, rest)
      else
        let (sig, left) := significand (whole ++ places)
        let scale : Int := e - Int.ofNat places.length + Int.ofNat left
        (floatOfParts negative sig scale).map fun x => (.float x, rest)

def number (s : List Char) : Option (Json × List Char) :=
  let (negative, s) :=
    match s with
    | '-' :: rest => (true, rest)
    | _ => (false, s)
  match s with
  | '0' :: rest =>
    if (rest.head?.map isAsciiDigit).getD false then none else numberTail negative ['0'] rest
  | _ =>
    let whole := s.takeWhile isAsciiDigit
    if whole.isEmpty then none else numberTail negative whole (s.dropWhile isAsciiDigit)

/-! ## Values -/

/-- What follows `word` in the text, if the text starts with it. -/
def keyword (word : List Char) (value : Json) (s : List Char) : Option (Json × List Char) :=
  if word.isPrefixOf s then some (value, s.drop word.length) else none

mutual

/-- A value, with containers nested at most `depth` deep. -/
def value : Nat → Nat → List Char → Option (Json × List Char)
  | 0, _, _ => none
  | fuel + 1, depth, s =>
    match skipSpace s with
    | [] => none
    | c :: rest =>
      if c = '\x22' then (stringBody (rest.length + 1) [] rest).map fun r => (.str r.1, r.2)
      else if c = '[' then
        match depth with
        | 0 => none
        | depth + 1 =>
          match skipSpace rest with
          | ']' :: rest' => some (.arr [], rest')
          | _ => (items fuel depth [] rest).map fun r => (.arr r.1, r.2)
      else if c = '{' then
        match depth with
        | 0 => none
        | depth + 1 =>
          match skipSpace rest with
          | '}' :: rest' => some (.obj [], rest')
          | _ => (fields fuel depth [] rest).map fun r => (object r.1, r.2)
      else if c = 't' then keyword "true".toList (.bool true) (c :: rest)
      else if c = 'f' then keyword "false".toList (.bool false) (c :: rest)
      else if c = 'n' then keyword "null".toList .null (c :: rest)
      else number (c :: rest)

/-- The items of an array up to its closing bracket. -/
def items : Nat → Nat → List Json → List Char → Option (List Json × List Char)
  | 0, _, _, _ => none
  | fuel + 1, depth, done, s =>
    match value fuel depth s with
    | none => none
    | some (j, rest) =>
      match skipSpace rest with
      | ',' :: rest' => items fuel depth (j :: done) rest'
      | ']' :: rest' => some ((j :: done).reverse, rest')
      | _ => none

/-- The fields of an object up to its closing brace, in the order of the text. -/
def fields : Nat → Nat → List (String × Json) → List Char →
    Option (List (String × Json) × List Char)
  | 0, _, _, _ => none
  | fuel + 1, depth, done, s =>
    match skipSpace s with
    | '\x22' :: rest =>
      match stringBody (rest.length + 1) [] rest with
      | none => none
      | some (name, rest) =>
        match skipSpace rest with
        | ':' :: rest =>
          match value fuel depth rest with
          | none => none
          | some (j, rest) =>
            match skipSpace rest with
            | ',' :: rest' => fields fuel depth ((name, j) :: done) rest'
            | '}' :: rest' => some (((name, j) :: done).reverse, rest')
            | _ => none
        | _ => none
    | _ => none

end

/-- Read a whole text with containers nested at most `depth` deep. -/
def parseWithin (depth : Nat) (text : String) : Option Json :=
  let s := text.toList
  match value (2 * s.length + 2) depth s with
  | some (j, rest) => if (skipSpace rest).isEmpty then some j else none
  | none => none

/-- How deep the containers of a text may be nested. -/
def nestingLimit : Nat := 127

/-- Read a whole text. -/
def parse (text : String) : Option Json := parseWithin nestingLimit text

end ApiForge.Json
