import ApiForge.Text.Letter
/-
# ApiForge.Yaml.Cursor -- a place in a YAML text

Indentation decides what a YAML text means, so the reader keeps its line and column.
The end of the text looks like a NUL character; `readable` says that no text holds one.
-/

namespace ApiForge.Yaml

set_option autoImplicit false

/-- May the character stand in a text? -/
def readable (c : Char) : Bool :=
  let n := c.toNat
  n = 9 || n = 10 || n = 13 || (32 ≤ n && n ≤ 126) || n = 0x85 || (0xA0 ≤ n && n ≤ 0xD7FF)
    || (0xE000 ≤ n && n ≤ 0xFFFD) || 0x10000 ≤ n

def isEnd (c : Char) : Bool := c.toNat = 0

def isGap (c : Char) : Bool := c = ' ' || c = '\t'

def isBreak (c : Char) : Bool :=
  c = '\n' || c = '\r' || c.toNat = 0x85 || c.toNat = 0x2028 || c.toNat = 0x2029

def isBreakOrEnd (c : Char) : Bool := isBreak c || isEnd c

def isGapOrEnd (c : Char) : Bool := isGap c || isBreakOrEnd c

/-- May the character stand in an anchor or in the handle of a tag? -/
def isWordChar (c : Char) : Bool :=
  Text.isAsciiLetter c || Text.isAsciiDigit c || c = '_' || c = '-'

/-- What is left of the text, and where it starts. -/
structure Cursor where
  rest : List Char
  index : Nat
  line : Nat
  column : Nat

namespace Cursor

def start (text : List Char) : Cursor := ⟨text, 0, 0, 0⟩

/-- The character `k` places on. -/
def ahead (c : Cursor) (k : Nat) : Char := (c.rest[k]?).getD '\x00'

def peek (c : Cursor) : Char := c.ahead 0

/-- One character further on the same line. -/
def skip (c : Cursor) : Cursor := ⟨c.rest.drop 1, c.index + 1, c.line, c.column + 1⟩

def skipMany (c : Cursor) (n : Nat) : Cursor :=
  ⟨c.rest.drop n, c.index + n, c.line, c.column + n⟩

/-- Past a line break, if there is one here. -/
def skipBreak (c : Cursor) : Cursor :=
  if c.peek = '\r' ∧ c.ahead 1 = '\n' then ⟨c.rest.drop 2, c.index + 2, c.line + 1, 0⟩
  else if isBreak c.peek then ⟨c.rest.drop 1, c.index + 1, c.line + 1, 0⟩
  else c

/-- What a line break stands for: a line feed, save for the two separators. -/
def breakText (c : Cursor) : List Char :=
  if c.peek.toNat = 0x2028 ∨ c.peek.toNat = 0x2029 then [c.peek]
  else if isBreak c.peek then ['\n']
  else []

/-- Past the characters that satisfy `p`. -/
def skipWhile (c : Cursor) (p : Char → Bool) : Cursor :=
  c.skipMany (c.rest.takeWhile p).length

/-- The characters here that satisfy `p`. -/
def spanWhile (c : Cursor) (p : Char → Bool) : List Char := c.rest.takeWhile p

/-- Does a document marker of this character start here? -/
def atMarker (c : Cursor) (mark : Char) : Bool :=
  c.column = 0 && c.peek = mark && c.ahead 1 = mark && c.ahead 2 = mark && isGapOrEnd (c.ahead 3)

def atDocumentMarker (c : Cursor) : Bool := c.atMarker '-' || c.atMarker '.'

end Cursor

end ApiForge.Yaml
