/-
# ApiForge.Url.Punycode -- host labels beyond ASCII

A label with other characters than ASCII is written as its ASCII characters, a
hyphen, and the positions of the others as generalized variable-length integers.
-/

namespace ApiForge.Url.Punycode

set_option autoImplicit false

def base : Nat := 36
def tMin : Nat := 1
def tMax : Nat := 26

/-- How the thresholds move after each integer. -/
def adapt (delta count : Nat) (first : Bool) : Nat :=
  let delta := if first then delta / 700 else delta / 2
  let delta := delta + delta / count
  let rec go : Nat → Nat → Nat → Nat × Nat
    | 0, delta, k => (delta, k)
    | fuel + 1, delta, k =>
      if delta > ((base - tMin) * tMax) / 2 then go fuel (delta / (base - tMin)) (k + base)
      else (delta, k)
  let (delta, k) := go 64 delta 0
  k + ((base - tMin + 1) * delta) / (delta + 38)

def threshold (k bias : Nat) : Nat :=
  if k ≤ bias + tMin then tMin else if k ≥ bias + tMax then tMax else k - bias

def digitChar (d : Nat) : Char := Char.ofNat (if d < 26 then 97 + d else 22 + d)

def digitOf? (c : Char) : Option Nat :=
  if 'a' ≤ c ∧ c ≤ 'z' then some (c.toNat - 97)
  else if 'A' ≤ c ∧ c ≤ 'Z' then some (c.toNat - 65)
  else if '0' ≤ c ∧ c ≤ '9' then some (c.toNat - 22)
  else none

/-- A variable-length integer. -/
def writeInteger (bias : Nat) : Nat → Nat → Nat → List Char
  | 0, _, _ => []
  | fuel + 1, q, k =>
    let t := threshold k bias
    if q < t then [digitChar q]
    else digitChar (t + (q - t) % (base - t)) :: writeInteger bias fuel ((q - t) / (base - t)) (k + base)

/-- State of the encoder between code points. -/
structure Encoder where
  delta : Nat
  bias : Nat
  handled : Nat
  out : List Char

/-- Encode the occurrences of code point `n` in the label. -/
def encodeAt (n basic : Nat) (s : List Char) (st : Encoder) : Encoder :=
  s.foldl
    (fun st c =>
      if c.toNat < n then { st with delta := st.delta + 1 }
      else if c.toNat = n then
        { delta := 0
          bias := adapt st.delta (st.handled + 1) (st.handled == basic)
          handled := st.handled + 1
          out := st.out ++ writeInteger st.bias 64 st.delta base }
      else st)
    st

/-- The ASCII form of a label, without its `xn--`. -/
def encode (s : List Char) : List Char :=
  let plain := s.filter fun c => c.toNat < 128
  let start := if plain.isEmpty then [] else plain ++ ['-']
  let rec go : Nat → Nat → Encoder → List Char
    | 0, _, st => st.out
    | fuel + 1, n, st =>
      match (s.map Char.toNat).filter (fun m => n ≤ m) with
      | [] => st.out
      | m :: ms =>
        let next := ms.foldl min m
        let st := { st with delta := st.delta + (next - n) * (st.handled + 1) }
        let st := encodeAt next plain.length s st
        go fuel (next + 1) { st with delta := st.delta + 1 }
  go (s.length + 1) 128 ⟨0, 72, plain.length, start⟩

/-- Read a variable-length integer: its weight added to `i`, and what is left. -/
def readInteger (bias : Nat) : Nat → Nat → Nat → List Char → Option (Nat × List Char)
  | _, _, _, [] => none
  | i, w, k, c :: rest =>
    match digitOf? c with
    | none => none
    | some d =>
      let t := threshold k bias
      let i := i + d * w
      if d < t then some (i, rest) else readInteger bias i (w * (base - t)) (k + base) rest

/-- The label that an ASCII form (without its `xn--`) stands for. -/
def decode (s : List Char) : Option (List Char) :=
  let (plain, tail) :=
    if s.contains '-' then
      let back := s.reverse
      (((back.dropWhile (· ≠ '-')).drop 1).reverse, (back.takeWhile (· ≠ '-')).reverse)
    else ([], s)
  let rec go : Nat → Nat → Nat → Nat → List Char → List Char → Option (List Char)
    | 0, _, _, _, _, _ => none
    | _, _, _, _, out, [] => some out
    | fuel + 1, n, i, bias, out, rest =>
      match readInteger bias i 1 base rest with
      | none => none
      | some (j, rest) =>
        let count := out.length + 1
        let m := n + j / count
        let at_ := j % count
        if m > 0x10FFFF ∨ (0xD800 ≤ m ∧ m ≤ 0xDFFF) then none
        else
          go fuel m (at_ + 1) (adapt (j - i) count (i == 0 && n == 128))
            (out.take at_ ++ Char.ofNat m :: out.drop at_) rest
  if plain.any fun c => c.toNat ≥ 128 then none else go (tail.length + 1) 128 0 72 plain tail

end ApiForge.Url.Punycode
