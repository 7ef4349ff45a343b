import ApiForge.Number.Binary64
import ApiForge.Text.Pieces
/-
# ApiForge.Template.Lexeme -- the pieces of a template

Text stands outside of `{{ }}`, `{% %}` and `{# #}`; inside the first two stand words,
numbers, texts and signs.  A dash at a delimiter takes the blanks beside it away.
-/

namespace ApiForge.Template

set_option autoImplicit false

open ApiForge.Text

inductive Lexeme where
  | text (s : String)
  | printStart
  | printEnd
  | blockStart
  | blockEnd
  | word (s : String)
  | literal (s : String)
  | int (n : Nat)
  | float (x : Binary64)
  | sign (s : String)
deriving DecidableEq

namespace Lexeme

def isWordStart (c : Char) : Bool := isAsciiLetter c || c = '_' || isLetterBeyondAscii c
where
  isLetterBeyondAscii (c : Char) : Bool := isUpper c && 127 < c.toNat || isLower c && 127 < c.toNat

def isWordChar (c : Char) : Bool := isWordStart c || isAsciiDigit c

/-! ## Inside a delimiter -/

/-- The character that so many hexadecimal digits name. -/
def hexChar (width : Nat) (s : List Char) : Option (Char × List Char) :=
  let ds := s.take width
  if ds.length = width ∧ ds.all isHexDigit then
    let n := ds.foldl (fun n d => n * 16 + hexValue d) 0
    if (0xD800 ≤ n ∧ n ≤ 0xDFFF) ∨ 0x10FFFF < n then none
    else some (Char.ofNat n, s.drop width)
  else none

def escape : List Char → Option (Char × List Char)
  | '\x22' :: rest => some ('\x22', rest)
  | '\x27' :: rest => some ('\x27', rest)
  | '\\' :: rest => some ('\\', rest)
  | '/' :: rest => some ('/', rest)
  | 'b' :: rest => some (Char.ofNat 8, rest)
  | 'f' :: rest => some (Char.ofNat 12, rest)
  | 'n' :: rest => some ('\n', rest)
  | 'r' :: rest => some ('\r', rest)
  | 't' :: rest => some ('\t', rest)
  | 'u' :: rest => hexChar 4 rest
  | _ => none

/-- The rest of a text after its opening mark, what there is so far in reverse. -/
def literalBody (mark : Char) : Nat → List Char → List Char → Option (String × List Char)
  | 0, _, _ => none
  | _, _, [] => none
  | fuel + 1, done, c :: rest =>
    if c = mark then some (String.ofList done.reverse, rest)
    else if c = '\\' then
      match escape rest with
      | some (d, rest) => literalBody mark fuel (d :: done) rest
      | none => none
    else literalBody mark fuel (c :: done) rest

def digitsOf (s : List Char) : List Char := s.takeWhile fun c => isAsciiDigit c || c = '_'

def natOf (ds : List Char) : Nat :=
  (ds.filter isAsciiDigit).foldl (fun n d => n * 10 + hexValue d) 0

/-- A number: an integer, or a float where a point or an exponent follows. -/
def number (s : List Char) : Option (Lexeme × List Char) :=
  let whole := digitsOf s
  let rest := s.drop whole.length
  let places := match rest with
    | '.' :: after => if (after.head?.map isAsciiDigit).getD false then digitsOf after else []
    | _ => []
  let rest' := if places.isEmpty then rest else rest.drop (places.length + 1)
  let (exponent?, rest') : Option Int × List Char := match rest' with
    | c :: after =>
      if c = 'e' ∨ c = 'E' then
        let (down, ds) := match after with
          | '-' :: ds => (true, ds)
          | '+' :: ds => (false, ds)
          | ds => (false, ds)
        let run := ds.takeWhile isAsciiDigit
        if run.isEmpty then (none, rest')
        else
          let n := Int.ofNat (natOf run)
          (some (if down then -n else n), ds.drop run.length)
      else (none, rest')
    | [] => (none, [])
  if places.isEmpty && exponent?.isNone then some (.int (natOf whole), rest)
  else
    let digits := (whole ++ places).filter isAsciiDigit
    let scale := exponent?.getD 0 - Int.ofNat (places.filter isAsciiDigit).length
    if natOf digits = 0 ∨ scale < -100000 then some (.float ⟨0⟩, rest')
    else if 100000 < scale then none
    else (Binary64.ofDecimal false (natOf digits) scale).map fun x => (.float x, rest')

/-- Signs of two characters before those of one. -/
def signs : List String :=
  ["//", "**", "==", "!=", ">=", "<=", "+", "-", "*", "/", "%", "!", "=", ">", "<", "~", "|", ".",
    ",", ":", "(", ")", "[", "]", "\x7b", "\x7d"]

def sign? (s : List Char) : Option (String × List Char) :=
  signs.findSome? fun t => (afterHead? t.toList s).map fun rest => (t, rest)

/-- Which end of a delimiter is looked for. -/
inductive Closing where
  | print
  | block

def Closing.text : Closing → List Char
  | .print => ['}', '}']
  | .block => ['%', '}']

/-- The end of a delimiter: whether it takes the blanks after it away, and what follows. -/
def closing? (closing : Closing) (s : List Char) : Option (Bool × List Char) :=
  match s with
  | '-' :: rest =>
    match afterHead? closing.text rest with
    | some rest => some (true, rest)
    | none => none
  | '+' :: rest => (afterHead? closing.text rest).map fun rest => (false, rest)
  | _ => (afterHead? closing.text s).map fun rest => (false, rest)

/-- The pieces up to the end of a delimiter, in reverse; `depth` counts open brackets. -/
def inside (closing : Closing) : Nat → Nat → List Lexeme → List Char →
    Option (List Lexeme × Bool × List Char)
  | 0, _, _, _ => none
  | fuel + 1, depth, done, s =>
    match s.dropWhile isBlank with
    | [] => none
    | c :: rest =>
      match (if depth = 0 then closing? closing (c :: rest) else none) with
      | some (trim, rest) => some (done, trim, rest)
      | none =>
        if isWordStart c then
          let word := (c :: rest).takeWhile isWordChar
          inside closing fuel depth (.word (String.ofList word) :: done)
            ((c :: rest).drop word.length)
        else if isAsciiDigit c then
          match number (c :: rest) with
          | some (t, rest) => inside closing fuel depth (t :: done) rest
          | none => none
        else if c = '\x22' ∨ c = '\x27' then
          match literalBody c (rest.length + 1) [] rest with
          | some (s, rest) => inside closing fuel depth (.literal s :: done) rest
          | none => none
        else
          match sign? (c :: rest) with
          | some (t, rest) =>
            let depth :=
              if ["(", "[", "\x7b"].contains t then depth + 1
              else if [")", "]", "\x7d"].contains t then depth - 1
              else depth
            inside closing fuel depth (.sign t :: done) rest
          | none => none

/-! ## Outside of delimiters -/

/-- The text before the next delimiter, and the rest from there on. -/
def outside : List Char → List Char × List Char
  | '{' :: c :: rest =>
    if c = '{' ∨ c = '%' ∨ c = '#' then ([], '{' :: c :: rest)
    else
      let (front, rest') := outside (c :: rest)
      ('{' :: front, rest')
  | c :: rest =>
    let (front, rest') := outside rest
    (c :: front, rest')
  | [] => ([], [])

/-- A dash or plus after an opening delimiter. -/
def openingMark : List Char → Bool × List Char
  | '-' :: rest => (true, rest)
  | '+' :: rest => (false, rest)
  | s => (false, s)

/-- The rest after a comment, and whether it takes the blanks after it away. -/
def skipComment : List Char → Option (Bool × List Char)
  | '-' :: '#' :: '}' :: rest => some (true, rest)
  | '#' :: '}' :: rest => some (false, rest)
  | _ :: rest => skipComment rest
  | [] => none

/-- A statement of one word, such as those around raw text: whether it takes the blanks on
its two sides away, and what follows. -/
def wordBlock? (word : String) (s : List Char) : Option (Bool × Bool × List Char) :=
  match s with
  | '{' :: '%' :: rest =>
    let (before, rest) := openingMark rest
    match afterHead? word.toList (rest.dropWhile isBlank) with
    | none => none
    | some rest =>
      match closing? .block (rest.dropWhile isBlank) with
      | some (after, rest) => some (before, after, rest)
      | none => none
  | _ => none

/-- Raw text up to its end: the text in reverse, whether blanks go away on the two sides of
the end, and what follows. -/
def rawBody : Nat → List Char → List Char → Option (List Char × Bool × Bool × List Char)
  | 0, _, _ => none
  | _, _, [] => none
  | fuel + 1, done, c :: rest =>
    match wordBlock? "endraw" (c :: rest) with
    | some (before, after, rest) => some (done, before, after, rest)
    | none => rawBody fuel (c :: done) rest

def addText (s : List Char) (done : List Lexeme) : List Lexeme :=
  if s.isEmpty then done else .text (String.ofList s) :: done

/-- The pieces of a template, in reverse; `trimmed` where a delimiter takes the blanks
after it away. -/
def run : Nat → Bool → List Lexeme → List Char → Option (List Lexeme)
  | 0, _, _, _ => none
  | fuel + 1, trimmed, done, s =>
    let (front, rest) := outside s
    let front := if trimmed then trimStart isBlank front else front
    match rest with
    | '{' :: '{' :: rest =>
      let (dash, rest) := openingMark rest
      let done := addText (if dash then trimEnd isBlank front else front) done
      match inside .print (rest.length + 1) 0 (.printStart :: done) rest with
      | some (done, trim, rest) => run fuel trim (.printEnd :: done) rest
      | none => none
    | '{' :: '%' :: body =>
      match wordBlock? "raw" rest with
      | some (dash, trim, rest) =>
        let done := addText (if dash then trimEnd isBlank front else front) done
        match rawBody (rest.length + 1) [] rest with
        | some (raw, before, after, rest) =>
          let raw := raw.reverse
          let raw := if trim then trimStart isBlank raw else raw
          let raw := if before then trimEnd isBlank raw else raw
          run fuel after (addText raw done) rest
        | none => none
      | none =>
        let (dash, body) := openingMark body
        let done := addText (if dash then trimEnd isBlank front else front) done
        match inside .block (body.length + 1) 0 (.blockStart :: done) body with
        | some (done, trim, rest) => run fuel trim (.blockEnd :: done) rest
        | none => none
    | '{' :: '#' :: rest =>
      let (dash, rest) := openingMark rest
      let done := addText (if dash then trimEnd isBlank front else front) done
      match skipComment rest with
      | some (trim, rest) => run fuel trim done rest
      | none => none
    | _ => some (addText front done)

/-- The pieces of a template. -/
def list (source : String) : Option (List Lexeme) :=
  (run (source.toList.length + 1) false [] source.toList).map List.reverse

end Lexeme

end ApiForge.Template
