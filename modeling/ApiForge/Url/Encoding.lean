import ApiForge.Text.Utf8
import ApiForge.Text.Letter
/-
# ApiForge.Url.Encoding -- percent encoding in the parts of a URL

Each part of a URL has its own set of characters that are written as `%XX`.
Controls and everything beyond ASCII are in every set.
-/

namespace ApiForge.Url

set_option autoImplicit false

open ApiForge.Text

/-- Controls and characters beyond ASCII. -/
def inControlSet (c : Char) : Bool := c.toNat < 32 || c.toNat ≥ 127

def inFragmentSet (c : Char) : Bool :=
  inControlSet c || c = ' ' || c = '\x22' || c = '<' || c = '>' || c = '\x60'

def inPathSet (c : Char) : Bool :=
  inFragmentSet c || c = '#' || c = '?' || c = '{' || c = '}'

def inUserinfoSet (c : Char) : Bool :=
  inPathSet c || c = '/' || c = ':' || c = ';' || c = '=' || c = '@' || c = '[' || c = '\\'
    || c = ']' || c = '^' || c = '|'

def inQuerySet (c : Char) : Bool :=
  inControlSet c || c = ' ' || c = '\x22' || c = '#' || c = '<' || c = '>'

def inSpecialQuerySet (c : Char) : Bool := inQuerySet c || c = '\x27'

def upperHexDigit (n : Nat) : Char := Char.ofNat (if n < 10 then 48 + n else 55 + n)

def encodeByte (b : UInt8) : List Char :=
  ['%', upperHexDigit (b.toNat / 16), upperHexDigit (b.toNat % 16)]

/-- Write the characters of the set as the bytes they are. -/
def percentEncode (inSet : Char → Bool) (s : List Char) : List Char :=
  s.flatMap fun c => if inSet c then (encodeChar c).flatMap encodeByte else [c]

/-- The bytes of a text in which `%XX` stands for a byte. -/
def percentDecode : List Char → List UInt8
  | [] => []
  | '%' :: a :: b :: rest =>
    if isHexDigit a && isHexDigit b then
      UInt8.ofNat (hexValue a * 16 + hexValue b) :: percentDecode rest
    else 37 :: percentDecode (a :: b :: rest)
  | c :: rest => encodeChar c ++ percentDecode rest

end ApiForge.Url
