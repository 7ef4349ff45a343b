import ApiForge.Url.Encoding
import ApiForge.Url.Punycode
import ApiForge.Text.Pieces
/-
# ApiForge.Url.Host -- the host of a URL

Hosts of special schemes are domains, which are lowered and put into ASCII, or IP
addresses, which are written in their shortest usual form.  Hosts of other schemes
are taken as they are.
-/

namespace ApiForge.Url

set_option autoImplicit false

open ApiForge.Text

/-! ## Version 4 addresses -/

def digitsIn (radix : Nat) (c : Char) : Bool := isHexDigit c && hexValue c < radix

def numberIn (radix : Nat) (s : List Char) : Nat :=
  s.foldl (fun n c => n * radix + hexValue c) 0

/-- A part of a version 4 address: decimal, octal after `0`, hexadecimal after `0x`. -/
def ipv4Number (s : List Char) : Option Nat :=
  let (radix, ds) :=
    match s with
    | '0' :: 'x' :: rest => (16, rest)
    | '0' :: 'X' :: rest => (16, rest)
    | '0' :: c :: rest => (8, c :: rest)
    | _ => (10, s)
  if s.isEmpty then none
  else if ds.all (digitsIn radix) then some (numberIn radix ds) else none

/-- Does the last label of the host make it an address? -/
def endsInNumber (s : List Char) : Bool :=
  let labels := (splitAt (· = '.') s).reverse
  let last :=
    match labels with
    | [] :: l :: _ => l
    | l :: _ => l
    | [] => []
  !last.isEmpty && (last.all isAsciiDigit || (ipv4Number last).isSome)

def ipv4Parts : List (List Char) → Option (List Nat)
  | [] => some []
  | s :: rest =>
    match ipv4Number s, ipv4Parts rest with
    | some n, some ns => some (n :: ns)
    | _, _ => none

/-- The 32 bits of a version 4 address. -/
def ipv4Address (s : List Char) : Option Nat :=
  let labels := splitAt (· = '.') s
  let labels := if labels.getLast? = some [] then labels.dropLast else labels
  if labels.length > 4 then none
  else
    match ipv4Parts labels with
    | none => none
    | some ns =>
      match ns.reverse with
      | [] => none
      | last :: front =>
        if last ≥ Nat.pow 256 (4 - front.length) then none
        else if front.any fun n => n > 255 then none
        else some (last + (front.reverse.zipIdx.map fun p => p.1 * Nat.pow 256 (3 - p.2)).foldl (· + ·) 0)

def ipv4Text (n : Nat) : String :=
  toString (n / 16777216) ++ "." ++ toString (n / 65536 % 256) ++ "."
    ++ toString (n / 256 % 256) ++ "." ++ toString (n % 256)

/-! ## Version 6 addresses -/

/-- A 16-bit piece of a version 6 address. -/
def ipv6Piece (s : List Char) : Option Nat :=
  if s.isEmpty || s.length > 4 || !s.all isHexDigit then none else some (numberIn 16 s)

/-- A version 4 tail of a version 6 address as two pieces. -/
def ipv6Tail (s : List Char) : Option (List Nat) :=
  let parts := splitAt (· = '.') s
  let plain (p : List Char) : Bool :=
    !p.isEmpty && p.all isAsciiDigit && (p.length == 1 || p.head? != some '0') && numberIn 10 p ≤ 255
  if parts.length = 4 ∧ parts.all plain then
    match parts.map (numberIn 10) with
    | [a, b, c, d] => some [a * 256 + b, c * 256 + d]
    | _ => none
  else none

/-- The pieces between colons; the last may be a version 4 address. -/
def ipv6Pieces : List (List Char) → Option (List Nat)
  | [] => some []
  | [s] => if s.contains '.' then ipv6Tail s else (ipv6Piece s).map ([·])
  | s :: rest =>
    match ipv6Piece s, ipv6Pieces rest with
    | some n, some ns => some (n :: ns)
    | _, _ => none

/-- The text before and after the first `::`. -/
def cutDoubleColon : List Char → Option (List Char × List Char)
  | ':' :: ':' :: rest => some ([], rest)
  | [] => none
  | c :: rest => (cutDoubleColon rest).map fun r => (c :: r.1, r.2)

/-- The eight pieces of a version 6 address. -/
def ipv6Address (s : List Char) : Option (List Nat) :=
  let pieces (t : List Char) : Option (List Nat) :=
    if t.isEmpty then some [] else ipv6Pieces (splitAt (· = ':') t)
  match cutDoubleColon s with
  | some (front, back) =>
    if front.contains '.' then none
    else
      match pieces front, pieces back with
      | some a, some b =>
        if a.length + b.length < 8 then
          some (a ++ List.replicate (8 - a.length - b.length) 0 ++ b)
        else none
      | _, _ => none
  | none =>
    match pieces s with
    | some ns => if ns.length = 8 then some ns else none
    | none => none

/-- The length of the zero run that starts a list. -/
def zeroRun (ns : List Nat) : Nat := (ns.takeWhile (· == 0)).length

/-- The start and length of the first longest run of at least two zeros. -/
def longestZeros (ns : List Nat) : Option (Nat × Nat) :=
  (List.range ns.length).foldl
    (fun best i =>
      let n := zeroRun (ns.drop i)
      if n ≥ 2 ∧ n > (best.map Prod.snd).getD 1 then some (i, n) else best)
    none

def hexText (n : Nat) : String := String.ofList (Nat.toDigits 16 n)

/-- The shortest text of a version 6 address, in brackets. -/
def ipv6Text (ns : List Nat) : String :=
  let plain (ms : List Nat) : String := joinStrings ":" (ms.map hexText)
  let body :=
    match longestZeros ns with
    | some (start, n) => plain (ns.take start) ++ "::" ++ plain (ns.drop (start + n))
    | none => plain ns
  "[" ++ body ++ "]"

/-! ## Domains -/

/-- The characters that no domain may hold. -/
def forbiddenInDomain (c : Char) : Bool :=
  c.toNat ≤ 32 || c.toNat == 127 || "%#/:<>?@[\\]^|".toList.contains c

/-- The characters that no host of a scheme without domains may hold. -/
def forbiddenInOpaque (c : Char) : Bool :=
  c = Char.ofNat 0 || "\t\n\r #/:<>?@[\\]^|".toList.contains c

/-- Letters in their small form, full-width forms as ASCII, and the other full stops as
`.`; invisible joints go. -/
def foldDomainChar (c : Char) : List Char :=
  let n := c.toNat
  if n = 0x3002 ∨ n = 0xFF0E ∨ n = 0xFF61 then ['.']
  else if n = 0xAD ∨ n = 0x200B ∨ n = 0x2060 ∨ n = 0xFEFF then []
  else if 0xFF01 ≤ n ∧ n ≤ 0xFF5E then lower (Char.ofNat (n - 0xFEE0))
  else lower c

/-- Characters beyond ASCII that no label may hold: blanks, controls, marks of writing
direction, and what is for private use. -/
def forbiddenInLabel (c : Char) : Bool :=
  let n := c.toNat
  (127 < n && isBlank c) || (0x80 ≤ n && n ≤ 0x9F) || n = 0x200E || n = 0x200F
    || (0x2028 ≤ n && n ≤ 0x202E) || (0x2066 ≤ n && n ≤ 0x2069) || (0xE000 ≤ n && n ≤ 0xF8FF)
    || (0xFFF0 ≤ n && n ≤ 0xFFFF) || 0xE0000 ≤ n

/-- May the characters stand for themselves in a label? -/
def isFolded (label : List Char) : Bool :=
  label.flatMap foldDomainChar == label && !label.any forbiddenInLabel

/-- The ASCII form of one label. -/
def asciiLabel (label : List Char) : Option (List Char) :=
  let marked := afterHead? "xn--".toList label
  if label.all fun c => c.toNat < 128 then
    match marked with
    | some code =>
      match Punycode.decode code with
      | some decoded =>
        if decoded.isEmpty || decoded.all fun c => c.toNat < 128 then none
        else if isFolded decoded && Punycode.encode decoded == code then some label
        else none
      | none => none
    | none => some label
  else if marked.isSome || label.any forbiddenInLabel then none
  else some ("xn--".toList ++ Punycode.encode label)

def asciiLabels : List (List Char) → Option (List (List Char))
  | [] => some []
  | l :: rest =>
    match asciiLabel l, asciiLabels rest with
    | some a, some as => some (a :: as)
    | _, _ => none

/-- The ASCII form of a domain. -/
def asciiDomain (s : List Char) : Option (List Char) :=
  let folded := s.flatMap foldDomainChar
  match asciiLabels (splitAt (· = '.') folded) with
  | none => none
  | some labels =>
    let domain := joinWith ['.'] labels
    if domain.any forbiddenInDomain then none else some domain

/-! ## Hosts -/

/-- A bracketed version 6 address. -/
def bracketHost (s : List Char) : Option String :=
  if s.getLast? = some ']' then (ipv6Address ((s.drop 1).dropLast)).map ipv6Text else none

/-- The host of a special scheme. -/
def domainHost (s : List Char) : Option String :=
  if s.head? = some '[' then bracketHost s
  else
    match decodeChars? (percentDecode s) with
    | none => none
    | some decoded =>
      match asciiDomain decoded with
      | none => none
      | some domain =>
        if domain.isEmpty then none
        else if endsInNumber domain then (ipv4Address domain).map ipv4Text
        else some (String.ofList domain)

/-- The host of any other scheme. -/
def opaqueHost (s : List Char) : Option String :=
  if s.head? = some '[' then bracketHost s
  else if s.any forbiddenInOpaque then none
  else some (String.ofList (percentEncode inControlSet s))

end ApiForge.Url
