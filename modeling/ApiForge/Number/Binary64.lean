import ApiForge.Number.Bounds
/-
# ApiForge.Number.Binary64 -- double precision numbers, read and written exactly

A finite double stands for `± m · 2 ^ q`.  Reading a decimal picks the nearest
double, and of two equally near the one with an even `m`; writing picks the fewest
digits that read back, and of those the nearest.  Both are exact arithmetic on
natural numbers.
-/

namespace ApiForge

set_option autoImplicit false

/-- A double precision number by its bit pattern. -/
structure Binary64 where
  bits : UInt64
deriving DecidableEq

namespace Binary64

def negative (x : Binary64) : Bool := x.bits >>> 63 == 1

def exponentField (x : Binary64) : Nat := ((x.bits >>> 52) &&& 0x7FF).toNat

def fractionField (x : Binary64) : Nat := (x.bits &&& 0xFFFFFFFFFFFFF).toNat

/-- Neither an infinity nor "not a number". -/
def isFinite (x : Binary64) : Bool := x.exponentField != 0x7FF

/-- The `m` of `± m · 2 ^ q`. -/
def mantissa (x : Binary64) : Nat :=
  if x.exponentField = 0 then x.fractionField else x.fractionField + twoTo 52

/-- The `q` of `± m · 2 ^ q`. -/
def scale (x : Binary64) : Int :=
  if x.exponentField = 0 then -1074 else Int.ofNat x.exponentField - 1075

def toFloat (x : Binary64) : Float := Float.ofBits x.bits

def ofFloat (x : Float) : Binary64 := ⟨x.toBits⟩

/-- The double with this sign, mantissa and scale, if the fields can hold them. -/
def pack (negative : Bool) (m : Nat) (q : Int) : Option Binary64 :=
  let sign : Nat := if negative then twoTo 63 else 0
  if m < twoTo 52 then some ⟨UInt64.ofNat (sign + m)⟩
  else
    let field := q + 1075
    if field ≥ 2047 then none
    else some ⟨UInt64.ofNat (sign + field.toNat * twoTo 52 + (m - twoTo 52))⟩

/-- The integer nearest to `num / den`; of two equally near, the even one. -/
def roundDiv (num den : Nat) : Nat :=
  let q := num / den
  let r := num % den
  if 2 * r < den then q
  else if 2 * r > den then q + 1
  else if q % 2 = 0 then q else q + 1

/-- A fraction as `num / den` scaled down by `2 ^ q`. -/
def scaled (num den : Nat) (q : Int) : Nat × Nat :=
  if q ≥ 0 then (num, den * twoTo q.toNat) else (num * twoTo (-q).toNat, den)

/-- The double nearest to `± num / den`, or nothing if it is beyond the largest. -/
def ofFraction (negative : Bool) (num den : Nat) : Option Binary64 :=
  if num = 0 then pack negative 0 (-1074)
  else
    let spread : Int := Int.ofNat num.log2 - Int.ofNat den.log2
    let low := max (spread - 53) (-1074)
    let q :=
      let (n, d) := scaled num den low
      if n / d < twoTo 53 then low else low + 1
    let (n, d) := scaled num den q
    let m := roundDiv n d
    if m = twoTo 53 then pack negative (twoTo 52) (q + 1) else pack negative m q

/-- The double nearest to `± digits · 10 ^ exponent`, or nothing if it is beyond the
largest. -/
def ofDecimal (negative : Bool) (digits : Nat) (exponent : Int) : Option Binary64 :=
  if digits = 0 then pack negative 0 (-1074)
  else
    let magnitude : Int := Int.ofNat (digits.log2 / 3) + exponent
    if exponent > 400 then none
    else if magnitude < -400 then pack negative 0 (-1074)
    else if exponent ≥ 0 then ofFraction negative (digits * tenTo exponent.toNat) 1
    else ofFraction negative digits (tenTo (-exponent).toNat)

/-- The absolute value as a fraction. -/
def fraction (x : Binary64) : Nat × Nat :=
  if x.scale ≥ 0 then (x.mantissa * twoTo x.scale.toNat, 1)
  else (x.mantissa, twoTo (-x.scale).toNat)

/-- The double nearest to the product of two absolute values. -/
def mulAbs (x y : Binary64) : Option Binary64 :=
  ofFraction false (x.fraction.1 * y.fraction.1) (x.fraction.2 * y.fraction.2)

/-- The double nearest to the quotient of two absolute values. -/
def divAbs (x y : Binary64) : Option Binary64 :=
  ofFraction false (x.fraction.1 * y.fraction.2) (x.fraction.2 * y.fraction.1)

/-- The same absolute value with this sign. -/
def withSign (negative : Bool) (x : Binary64) : Binary64 :=
  ⟨(x.bits &&& 0x7FFFFFFFFFFFFFFF) ||| (if negative then 0x8000000000000000 else 0)⟩

/-! ## The fewest digits that read back -/

/-- Four times the value as a fraction, with four times the ends of the interval of
reals that read as this double over the same denominator. -/
def interval (x : Binary64) : Nat × Nat × Nat × Nat :=
  let m := x.mantissa
  let q := x.scale
  let below := if x.fractionField = 0 ∧ x.exponentField > 1 then 1 else 2
  let grow (n : Nat) : Nat := if q ≥ 0 then n * twoTo q.toNat else n
  let den := if q ≥ 0 then 4 else 4 * twoTo (-q).toNat
  (grow (4 * m), grow (4 * m - below), grow (4 * m + 2), den)

/-- Is `d · 10 ^ e` in the interval of reals that read as the double? -/
def inside (low high den : Nat) (closed : Bool) (d : Nat) (e : Int) : Bool :=
  let (n, k) := if e ≥ 0 then (d * tenTo e.toNat * den, 1) else (d * den, tenTo (-e).toNat)
  if closed then low * k ≤ n && n ≤ high * k else low * k < n && n < high * k

/-- The distance of `d · 10 ^ e` from the value, as a numerator over a denominator that
depends on `e` alone. -/
def distance (num den d : Nat) (e : Int) : Nat :=
  let (n, k) := if e ≥ 0 then (d * tenTo e.toNat * den, 1) else (d * den, tenTo (-e).toNat)
  if n ≥ num * k then n - num * k else num * k - n

/-- The floor of `num / den` in units of `10 ^ e`. -/
def unitsBelow (num den : Nat) (e : Int) : Nat :=
  if e ≥ 0 then num / (den * tenTo e.toNat) else num * tenTo (-e).toNat / den

/-- The decimal position of the leading digit of `num / den`. -/
def leadingPosition (num den : Nat) : Int :=
  let guess : Int := ((Int.ofNat num.log2 - Int.ofNat den.log2) * 30103) / 100000
  let top := guess + 2
  let rec go : Nat → Int → Int
    | 0, e => e
    | fuel + 1, e => if unitsBelow num den e > 0 then e else go fuel (e - 1)
  go 6 top

/-- The digits `d` and exponent `e` of the shortest `d · 10 ^ e` that reads back. -/
def shortest (x : Binary64) : Nat × Int :=
  if x.mantissa = 0 then (0, 0)
  else
    let (num, low, high, den) := x.interval
    let closed := x.mantissa % 2 = 0
    let lead := leadingPosition num den
    let rec go : Nat → Int → Nat × Int
      | 0, e => (unitsBelow num den e, e)
      | fuel + 1, e =>
        let d := unitsBelow num den e
        let here := inside low high den closed d e
        let next := inside low high den closed (d + 1) e
        if here && next then
          if distance num den d e ≤ distance num den (d + 1) e then (d, e) else (d + 1, e)
        else if here then (d, e)
        else if next then (d + 1, e)
        else go fuel (e - 1)
    go 18 lead

/-- Digits without trailing zeros. -/
def normalize (d : Nat) (e : Int) : Nat × Int :=
  let rec go : Nat → Nat → Int → Nat × Int
    | 0, d, e => (d, e)
    | fuel + 1, d, e => if d ≠ 0 ∧ d % 10 = 0 then go fuel (d / 10) (e + 1) else (d, e)
  go 32 d e

/-- Digits written with all their places, and `.0` after an integer. -/
def positional (d : Nat) (e : Int) : String :=
  let digits := (toString d).toList
  if e ≥ 0 then String.ofList (digits ++ List.replicate e.toNat '0') ++ ".0"
  else
    let places := (-e).toNat
    if digits.length > places then
      String.ofList (digits.take (digits.length - places)) ++ "."
        ++ String.ofList (digits.drop (digits.length - places))
    else "0." ++ String.ofList (List.replicate (places - digits.length) '0' ++ digits)

/-- The number with all its places and at least one after the point. -/
def toPositional (x : Binary64) : String :=
  let (d, e) := x.shortest
  let (d, e) := normalize d e
  (if x.negative then "-" else "") ++ positional d e

/-- The number as JSON writes it: positional up to sixteen places before the point and
five after it, with an exponent beyond. -/
def toJsonText (x : Binary64) : String :=
  let (d, e) := x.shortest
  let (d, e) := normalize d e
  let digits := (toString d).toList
  let lead : Int := Int.ofNat digits.length + e
  let sign := if x.negative then "-" else ""
  if d = 0 then sign ++ "0.0"
  else if -5 < lead ∧ lead ≤ 16 then sign ++ positional d e
  else
    let tail := digits.drop 1
    let point := if tail.isEmpty then "" else "." ++ String.ofList tail
    sign ++ String.ofList (digits.take 1) ++ point ++ "e" ++ toString (lead - 1)

end Binary64

end ApiForge
