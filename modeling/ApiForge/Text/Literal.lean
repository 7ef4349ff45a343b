import ApiForge.Text.Pieces
/-
# ApiForge.Text.Literal -- free text inside generated string literals

Text goes into generated sources on one line: each run of line breaks and tabs
between other text becomes one space, and backslash and quotation mark get a
backslash in front.  `readLiteral` is the reader of such a literal.
-/

namespace ApiForge.Text

set_option autoImplicit false

/-- A character that ends a line or a column: newline, carriage return or tab. -/
def isLineControl (c : Char) : Bool := c = '\n' || c = '\r' || c = '\t'

/-- The pieces between line controls, without the empty ones, a space apart. -/
def flatten (s : List Char) : List Char :=
  joinWith [' '] ((splitAt isLineControl s).filter fun piece => !piece.isEmpty)

/-- One character as it stands inside a literal. -/
def escapeChar (c : Char) : List Char :=
  if c = '\\' then ['\\', '\\'] else if c = '\x22' then ['\\', '\x22'] else [c]

def escapeChars (s : List Char) : List Char := (flatten s).flatMap escapeChar

/-- Free text as it stands between the quotation marks of a literal. -/
def escapeText (s : String) : String := String.ofList (escapeChars s.toList)

/-- Text without its quotation marks. -/
def dropQuotes (s : String) : String :=
  String.ofList (s.toList.filter fun c => c ≠ '\x22')

/-- Read the inside of a literal: the text it stands for and what follows its closing
quotation mark, or nothing if the literal does not close. -/
def readLiteralBody : List Char → Option (List Char × List Char)
  | [] => none
  | '\x22' :: rest => some ([], rest)
  | '\\' :: c :: rest => (readLiteralBody rest).map fun r => (c :: r.1, r.2)
  | c :: rest =>
    if c = '\\' then none else (readLiteralBody rest).map fun r => (c :: r.1, r.2)

/-- Read a literal with backslash escapes from its opening quotation mark on. -/
def readLiteral : List Char → Option (List Char × List Char)
  | '\x22' :: rest => readLiteralBody rest
  | _ => none

end ApiForge.Text
