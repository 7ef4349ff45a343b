import ApiForge.Text.Letter
/-
# ApiForge.Toml.Text -- strings, keys and blanks of TOML

Readers over the rest of the text: each gives what it read with what comes after it, or
nothing where the text is malformed.
-/

namespace ApiForge.Toml

set_option autoImplicit false

open ApiForge.Text

def isBlank (c : Char) : Bool := c = ' ' || c = '\t'

def skipBlanks (s : List Char) : List Char := s.dropWhile isBlank

/-- May the character stand in a comment or in a string of one line? -/
def isPrintable (c : Char) : Bool :=
  c = '\t' || (32 ≤ c.toNat && c.toNat ≠ 127)

/-- The text after a line break, if there is one here. -/
def lineBreak? : List Char → Option (List Char)
  | '\n' :: rest => some rest
  | '\r' :: '\n' :: rest => some rest
  | _ => none

/-- Past a comment, if there is one here. -/
def skipComment : List Char → List Char
  | '#' :: rest => rest.dropWhile isPrintable
  | s => s

/-- The end of a line, after blanks and a comment. -/
def endLine (s : List Char) : Option (List Char) :=
  match skipComment (skipBlanks s) with
  | [] => some []
  | s => lineBreak? s

/-- Past blanks, comments and line breaks. -/
def skipLines : Nat → List Char → List Char
  | 0, s => s
  | fuel + 1, s =>
    let s := skipComment (skipBlanks s)
    match lineBreak? s with
    | some rest => skipLines fuel rest
    | none => s

/-! ## Strings -/

/-- The character that so many hexadecimal digits name. -/
def codePoint (width : Nat) (s : List Char) : Option (Char × List Char) :=
  let ds := s.take width
  if ds.length = width ∧ ds.all isHexDigit then
    let n := ds.foldl (fun n d => n * 16 + hexValue d) 0
    if (0xD800 ≤ n ∧ n ≤ 0xDFFF) ∨ 0x10FFFF < n then none
    else some (Char.ofNat n, s.drop width)
  else none

/-- The character of an escape after its backslash. -/
def escape : List Char → Option (Char × List Char)
  | 'b' :: rest => some (Char.ofNat 8, rest)
  | 't' :: rest => some ('\t', rest)
  | 'n' :: rest => some ('\n', rest)
  | 'f' :: rest => some (Char.ofNat 12, rest)
  | 'r' :: rest => some ('\r', rest)
  | 'e' :: rest => some (Char.ofNat 27, rest)
  | '\x22' :: rest => some ('\x22', rest)
  | '\\' :: rest => some ('\\', rest)
  | 'x' :: rest => codePoint 2 rest
  | 'u' :: rest => codePoint 4 rest
  | 'U' :: rest => codePoint 8 rest
  | _ => none

/-- The rest of a string of one line, the text so far in reverse. -/
def lineString (literal : Bool) : Nat → List Char → List Char → Option (String × List Char)
  | 0, _, _ => none
  | _, _, [] => none
  | fuel + 1, done, c :: rest =>
    if c = (if literal then '\x27' else '\x22') then some (String.ofList done.reverse, rest)
    else if !literal && c = '\\' then
      match escape rest with
      | some (d, rest) => lineString literal fuel (d :: done) rest
      | none => none
    else if isPrintable c then lineString literal fuel (c :: done) rest
    else none

/-- Past the blanks and line breaks after a backslash that ends a line. -/
def skipFold (s : List Char) : Option (List Char) :=
  match lineBreak? (skipBlanks s) with
  | some rest => some (go (rest.length + 1) rest)
  | none => none
where
  go : Nat → List Char → List Char
    | 0, s => s
    | fuel + 1, s =>
      let s := skipBlanks s
      match lineBreak? s with
      | some rest => go fuel rest
      | none => s

/-- The rest of a string of several lines, the text so far in reverse.  Up to two
quotation marks may stand right before the closing three. -/
def blockString (literal : Bool) : Nat → List Char → List Char → Option (String × List Char)
  | 0, _, _ => none
  | _, _, [] => none
  | fuel + 1, done, c :: rest =>
    let mark := if literal then '\x27' else '\x22'
    if c = mark then
      let run := (c :: rest).takeWhile (· = mark)
      let after := (c :: rest).drop run.length
      if run.length < 3 then blockString literal fuel (run ++ done) after
      else if run.length ≤ 5 then
        some (String.ofList (run.drop 3 ++ done).reverse, after)
      else none
    else if !literal && c = '\\' then
      match escape rest with
      | some (d, rest) => blockString literal fuel (d :: done) rest
      | none =>
        match skipFold rest with
        | some rest => blockString literal fuel done rest
        | none => none
    else
      match lineBreak? (c :: rest) with
      | some rest => blockString literal fuel ('\n' :: done) rest
      | none => if isPrintable c then blockString literal fuel (c :: done) rest else none

/-- A string of any kind, from its opening mark on. -/
def string (s : List Char) : Option (String × List Char) :=
  let block (literal : Bool) (rest : List Char) :=
    blockString literal (rest.length + 1) [] ((lineBreak? rest).getD rest)
  match s with
  | '\x22' :: '\x22' :: '\x22' :: rest => block false rest
  | '\x27' :: '\x27' :: '\x27' :: rest => block true rest
  | '\x22' :: rest => lineString false (rest.length + 1) [] rest
  | '\x27' :: rest => lineString true (rest.length + 1) [] rest
  | _ => none

/-! ## Keys -/

def isBareKeyChar (c : Char) : Bool :=
  isAsciiLetter c || isAsciiDigit c || c = '_' || c = '-'

def simpleKey (s : List Char) : Option (String × List Char) :=
  match s with
  | '\x22' :: rest => lineString false (rest.length + 1) [] rest
  | '\x27' :: rest => lineString true (rest.length + 1) [] rest
  | _ =>
    let bare := s.takeWhile isBareKeyChar
    if bare.isEmpty then none else some (String.ofList bare, s.drop bare.length)

/-- Keys with dots between them, and the blanks around them. -/
def dottedKey : Nat → List Char → Option (List String × List Char)
  | 0, _ => none
  | fuel + 1, s =>
    match simpleKey (skipBlanks s) with
    | none => none
    | some (k, rest) =>
      match skipBlanks rest with
      | '.' :: rest => (dottedKey fuel rest).map fun r => (k :: r.1, r.2)
      | rest => some ([k], rest)

end ApiForge.Toml
