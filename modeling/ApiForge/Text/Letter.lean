import ApiForge.Text.LetterTable
/-
# ApiForge.Text.Letter -- case and blanks of single characters

The classes and case maps of Unicode, where the core library knows ASCII only.
Every function answers for ASCII by comparison and looks into the tables for the
rest, so a statement about ASCII text never opens a table.
-/

namespace ApiForge.Text

set_option autoImplicit false

/-- A capital letter, the ones with the property Uppercase. -/
def isUpper (c : Char) : Bool :=
  if c.toNat < 128 then 'A' ≤ c && c ≤ 'Z'
  else LetterTable.uppercase.any fun r => r.has c.toNat

/-- A small letter, the ones with the property Lowercase. -/
def isLower (c : Char) : Bool :=
  if c.toNat < 128 then 'a' ≤ c && c ≤ 'z'
  else LetterTable.lowercase.any fun r => r.has c.toNat

/-- The image of a code point under a case mapping. -/
def mapCase (shifts : List LetterTable.Shift) (special : List (Nat × List Nat)) (c : Char) :
    List Char :=
  match special.find? fun e => e.1 == c.toNat with
  | some e => e.2.map Char.ofNat
  | none =>
    match shifts.find? fun s => s.range.has c.toNat with
    | some s => [Char.ofNat (Int.ofNat c.toNat + s.distance).toNat]
    | none => [c]

/-- The capital of a letter, which may be more than one character (`ß`). -/
def upper (c : Char) : List Char :=
  if c.toNat < 128 then
    if 'a' ≤ c ∧ c ≤ 'z' then [Char.ofNat (c.toNat - 32)] else [c]
  else mapCase LetterTable.toUpper LetterTable.toUpperSpecial c

/-- The small form of a letter, which may be more than one character (`İ`). -/
def lower (c : Char) : List Char :=
  if c.toNat < 128 then
    if 'A' ≤ c ∧ c ≤ 'Z' then [Char.ofNat (c.toNat + 32)] else [c]
  else mapCase LetterTable.toLower LetterTable.toLowerSpecial c

/-- A blank: the characters with the property White_Space. -/
def isBlank (c : Char) : Bool :=
  let n := c.toNat
  if n < 128 then n == 32 || (9 ≤ n && n ≤ 13)
  else n == 0x85 || n == 0xA0 || n == 0x1680 || (0x2000 ≤ n && n ≤ 0x200A) || n == 0x2028
    || n == 0x2029 || n == 0x202F || n == 0x205F || n == 0x3000

/-- The small form of an ASCII capital; any other character stays. -/
def asciiLower (c : Char) : Char :=
  if 'A' ≤ c ∧ c ≤ 'Z' then Char.ofNat (c.toNat + 32) else c

/-- The capital of an ASCII small letter; any other character stays. -/
def asciiUpper (c : Char) : Char :=
  if 'a' ≤ c ∧ c ≤ 'z' then Char.ofNat (c.toNat - 32) else c

def isAsciiDigit (c : Char) : Bool := '0' ≤ c && c ≤ '9'

def isAsciiLetter (c : Char) : Bool := ('a' ≤ c && c ≤ 'z') || ('A' ≤ c && c ≤ 'Z')

def isHexDigit (c : Char) : Bool :=
  isAsciiDigit c || ('a' ≤ c && c ≤ 'f') || ('A' ≤ c && c ≤ 'F')

/-- The value of a hexadecimal digit. -/
def hexValue (c : Char) : Nat :=
  if isAsciiDigit c then c.toNat - 48
  else if 'a' ≤ c ∧ c ≤ 'f' then c.toNat - 87
  else c.toNat - 55

/-- Every letter in its small form.  A capital sigma that ends a word becomes the
final sigma. -/
def lowerText (s : String) : String :=
  let cased (c : Char) : Bool := isUpper c || isLower c
  let rec go (before : Bool) : List Char → List Char
    | [] => []
    | c :: rest =>
      let image :=
        if c.toNat = 0x3A3 then
          if before && !(rest.head?.map cased).getD false then [Char.ofNat 0x3C2]
          else [Char.ofNat 0x3C3]
        else lower c
      image ++ go (cased c) rest
  String.ofList (go false s.toList)

/-- Every letter in its capital form. -/
def upperText (s : String) : String := String.ofList (s.toList.flatMap upper)

/-- Text with its ASCII capitals made small. -/
def asciiLowerText (s : String) : String := String.ofList (s.toList.map asciiLower)

/-- Text with its ASCII small letters made capital. -/
def asciiUpperText (s : String) : String := String.ofList (s.toList.map asciiUpper)

/-- The same text up to the case of ASCII letters. -/
def eqIgnoringAsciiCase (a b : String) : Bool := asciiLowerText a == asciiLowerText b

end ApiForge.Text
