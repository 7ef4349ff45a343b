/-
# ApiForge.Text.Utf8 -- text and its bytes

Encoding of a character in one to four bytes, strict decoding, and a lossy reading
that puts the replacement character for every maximal ill-formed run.
-/

namespace ApiForge.Text

set_option autoImplicit false

/-- The bytes of one character. -/
def encodeChar (c : Char) : List UInt8 :=
  let n := c.toNat
  if n < 0x80 then [UInt8.ofNat n]
  else if n < 0x800 then [UInt8.ofNat (0xC0 + n / 64), UInt8.ofNat (0x80 + n % 64)]
  else if n < 0x10000 then
    [UInt8.ofNat (0xE0 + n / 4096), UInt8.ofNat (0x80 + n / 64 % 64), UInt8.ofNat (0x80 + n % 64)]
  else
    [UInt8.ofNat (0xF0 + n / 262144), UInt8.ofNat (0x80 + n / 4096 % 64),
      UInt8.ofNat (0x80 + n / 64 % 64), UInt8.ofNat (0x80 + n % 64)]

/-- The bytes of a text. -/
def encodeChars (s : List Char) : List UInt8 := s.flatMap encodeChar

def encode (s : String) : List UInt8 := encodeChars s.toList

/-- How many bytes follow a leading byte, the bounds of the first of them, and the bits
that the leading byte gives. -/
def leadByte (b : Nat) : Option (Nat × Nat × Nat × Nat) :=
  if b < 0x80 then some (0, 0, 0, b)
  else if 0xC2 ≤ b ∧ b ≤ 0xDF then some (1, 0x80, 0xBF, b - 0xC0)
  else if b = 0xE0 then some (2, 0xA0, 0xBF, 0)
  else if b = 0xED then some (2, 0x80, 0x9F, 13)
  else if 0xE1 ≤ b ∧ b ≤ 0xEF then some (2, 0x80, 0xBF, b - 0xE0)
  else if b = 0xF0 then some (3, 0x90, 0xBF, 0)
  else if b = 0xF4 then some (3, 0x80, 0x8F, 4)
  else if 0xF1 ≤ b ∧ b ≤ 0xF3 then some (3, 0x80, 0xBF, b - 0xF0)
  else none

/-- Take up to `need` following bytes, the first between `low` and `high`: the code point
so far, whether all came, and what is left. -/
def followBytes : Nat → Nat → Nat → Nat → List UInt8 → Nat × Bool × List UInt8
  | 0, _, _, n, rest => (n, true, rest)
  | _ + 1, _, _, n, [] => (n, false, [])
  | need + 1, low, high, n, b :: rest =>
    if low ≤ b.toNat ∧ b.toNat ≤ high then
      followBytes need 0x80 0xBF (n * 64 + (b.toNat - 0x80)) rest
    else (n, false, b :: rest)

/-- The first character of the bytes, nothing where they are ill-formed, with the rest. -/
def nextChar : List UInt8 → Option (Option Char × List UInt8)
  | [] => none
  | b :: rest =>
    match leadByte b.toNat with
    | none => some (none, rest)
    | some (need, low, high, n) =>
      let (n, whole, rest') := followBytes need low high n rest
      some (if whole then some (Char.ofNat n) else none, rest')

/-- Characters with nothing in the place of each ill-formed run. -/
def decodeSteps : Nat → List UInt8 → List (Option Char)
  | 0, _ => []
  | fuel + 1, bytes =>
    match nextChar bytes with
    | none => []
    | some (c, rest) => c :: decodeSteps fuel rest

/-- The characters of well-formed bytes. -/
def decodeChars? (bytes : List UInt8) : Option (List Char) :=
  (decodeSteps bytes.length bytes).mapM id

/-- The text of well-formed bytes. -/
def decode? (bytes : List UInt8) : Option String := (decodeChars? bytes).map String.ofList

/-- The text of any bytes, with the replacement character in the place of each ill-formed
run. -/
def decodeLossy (bytes : List UInt8) : String :=
  String.ofList ((decodeSteps bytes.length bytes).map fun c => c.getD (Char.ofNat 0xFFFD))

end ApiForge.Text
