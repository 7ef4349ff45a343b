import ApiForge.Yaml.Cursor
import ApiForge.Text.Utf8
/-
# ApiForge.Yaml.Token -- scalars, tags and directives

The lexical pieces of YAML that are read without regard to what stands around them,
apart from the indentation and whether a flow collection is open.  A reader gives the
piece with the cursor behind it, or nothing for a malformed piece.
-/

namespace ApiForge.Yaml

set_option autoImplicit false

open ApiForge.Text

/-- How a scalar is written. -/
inductive ScalarStyle where
  | plain
  | quoted
  | block
deriving DecidableEq

/-- A lexical piece. -/
inductive Token where
  | versionDirective (major minor : Nat)
  | tagDirective (handle head : String)
  | documentStart
  | documentEnd
  | blockSequenceStart
  | blockMappingStart
  | blockEnd
  | flowSequenceStart
  | flowSequenceEnd
  | flowMappingStart
  | flowMappingEnd
  | blockEntry
  | flowEntry
  | key
  | value
  | alias (name : String)
  | anchor (name : String)
  | tag (handle suffix : String)
  | scalar (text : String) (style : ScalarStyle)
  | streamEnd
deriving DecidableEq

/-! ## Anchors and tags -/

/-- What may follow the name of an anchor. -/
def endsAnchor (c : Char) : Bool :=
  isGapOrEnd c || ['?', ':', ',', ']', '}', '%', '@', '\x60'].contains c

/-- The name of an anchor or alias after its indicator. -/
def readAnchor (c : Cursor) : Option (String × Cursor) :=
  let name := c.spanWhile isWordChar
  let c := c.skipMany name.length
  if name.isEmpty || !endsAnchor c.peek then none else some (String.ofList name, c)

/-- The handle of a tag: a mark, a name, and a closing mark where there is one. -/
def readTagHandle (directive : Bool) (c : Cursor) : Option (List Char × Cursor) :=
  if c.peek ≠ '!' then none
  else
    let c := c.skip
    let name := c.spanWhile isWordChar
    let c := c.skipMany name.length
    if c.peek = '!' then some ('!' :: name ++ ['!'], c.skip)
    else if directive && !name.isEmpty then none
    else some ('!' :: name, c)

def isTagChar (verbatim : Bool) (c : Char) : Bool :=
  isWordChar c || [';', '/', '?', ':', '@', '&', '=', '+', '$', '.', '!', '~', '*', '\x27', '(',
    ')', '%'].contains c || (verbatim && [',', '[', ']'].contains c)

/-- The bytes of a tag with its escapes resolved. -/
def tagBytes : List Char → Option (List UInt8)
  | [] => some []
  | '%' :: a :: b :: rest =>
    if isHexDigit a && isHexDigit b then
      (tagBytes rest).map (UInt8.ofNat (hexValue a * 16 + hexValue b) :: ·)
    else none
  | '%' :: _ => none
  | c :: rest => (tagBytes rest).map (encodeChar c ++ ·)

/-- The characters of a tag, behind `head`, which counts towards its not being empty. -/
def readTagUri (verbatim : Bool) (head : List Char) (c : Cursor) :
    Option (List Char × Cursor) :=
  let body := c.spanWhile (isTagChar verbatim)
  if head.isEmpty && body.isEmpty then none
  else
    match (tagBytes body).bind decodeChars? with
    | some text => some (head.drop 1 ++ text, c.skipMany body.length)
    | none => none

/-- A tag, from its mark on. -/
def readTag (inFlow : Bool) (c : Cursor) : Option (Token × Cursor) :=
  let read : Option (List Char × List Char × Cursor) :=
    if c.ahead 1 = '<' then
      match readTagUri true [] (c.skipMany 2) with
      | some (uri, c) => if c.peek = '>' then some ([], uri, c.skip) else none
      | none => none
    else
      match readTagHandle false c with
      | none => none
      | some (handle, c) =>
        if 1 < handle.length ∧ handle.getLast? = some '!' then
          (readTagUri false [] c).map fun r => (handle, r.1, r.2)
        else
          match readTagUri false handle c with
          | some ([], c) => some ([], ['!'], c)
          | some (uri, c) => some (['!'], uri, c)
          | none => none
  match read with
  | some (handle, suffix, c) =>
    if isGapOrEnd c.peek || (inFlow && c.peek = ',') then
      some (.tag (String.ofList handle) (String.ofList suffix), c)
    else none
  | none => none

/-! ## Directives -/

/-- A version number of at most nine digits. -/
def readVersionNumber (c : Cursor) : Option (Nat × Cursor) :=
  let ds := c.spanWhile isAsciiDigit
  if ds.isEmpty || 9 < ds.length then none
  else some (ds.foldl (fun n d => n * 10 + hexValue d) 0, c.skipMany ds.length)

/-- A directive, from its mark to the end of its line. -/
def readDirective (c : Cursor) : Option (Token × Cursor) := do
  let c := c.skip
  let name := c.spanWhile isWordChar
  let c := c.skipMany name.length
  if name.isEmpty || !isGapOrEnd c.peek then none
  let c := c.skipWhile isGap
  let (token, c) ←
    if name = "YAML".toList then do
      let (major, c) ← readVersionNumber c
      if c.peek ≠ '.' then none
      let (minor, c) ← readVersionNumber c.skip
      some (Token.versionDirective major minor, c)
    else if name = "TAG".toList then do
      let (handle, c) ← readTagHandle true c
      if !isGap c.peek then none
      let (head, c) ← readTagUri true [] (c.skipWhile isGap)
      if !isGapOrEnd c.peek then none
      some (Token.tagDirective (String.ofList handle) (String.ofList head), c)
    else none
  let c := c.skipWhile isGap
  let c := if c.peek = '#' then c.skipWhile fun d => !isBreakOrEnd d else c
  if isBreakOrEnd c.peek then some (token, c.skipBreak) else none

/-! ## Line folding -/

/-- Line breaks met inside a scalar: the first one, and those after it. -/
structure Folds where
  blanks : List Char
  leading : List Char
  trailing : List Char
  /-- A line break has been passed since the last character. -/
  broken : Bool

namespace Folds

def none : Folds := ⟨[], [], [], false⟩

/-- What the gap since the last character stands for. -/
def text (f : Folds) : List Char :=
  if f.broken then
    if f.leading.head? = some '\n' then
      if f.trailing.isEmpty then [' '] else f.trailing
    else f.leading ++ f.trailing
  else f.blanks

/-- Take in a blank. -/
def blank (f : Folds) (c : Char) : Folds :=
  if f.broken then f else { f with blanks := f.blanks ++ [c] }

/-- Take in a line break. -/
def lineBreak (f : Folds) (text : List Char) : Folds :=
  if f.broken then { f with trailing := f.trailing ++ text }
  else { f with blanks := [], leading := text, broken := true }

end Folds

/-! ## Quoted scalars -/

def shortEscape? (c : Char) : Option Nat :=
  match c with
  | '0' => some 0
  | 'a' => some 7
  | 'b' => some 8
  | 't' => some 9
  | '\t' => some 9
  | 'n' => some 10
  | 'v' => some 11
  | 'f' => some 12
  | 'r' => some 13
  | 'e' => some 27
  | ' ' => some 32
  | '\x22' => some 34
  | '/' => some 47
  | '\\' => some 92
  | 'N' => some 0x85
  | '_' => some 0xA0
  | 'L' => some 0x2028
  | 'P' => some 0x2029
  | _ => none

def escapeWidth? (c : Char) : Option Nat :=
  match c with
  | 'x' => some 2
  | 'u' => some 4
  | 'U' => some 8
  | _ => none

/-- The character of an escape after its backslash. -/
def readEscape (c : Cursor) : Option (Char × Cursor) :=
  match shortEscape? c.peek with
  | some n => some (Char.ofNat n, c.skip)
  | none =>
    match escapeWidth? c.peek with
    | none => none
    | some width =>
      let c := c.skip
      let ds := c.rest.take width
      if ds.length = width ∧ ds.all isHexDigit then
        let n := ds.foldl (fun n d => n * 16 + hexValue d) 0
        if (0xD800 ≤ n ∧ n ≤ 0xDFFF) ∨ 0x10FFFF < n then none
        else some (Char.ofNat n, c.skipMany width)
      else none

/-- The rest of a quoted scalar after its opening mark, with the text so far in reverse. -/
def readQuotedBody (single : Bool) : Nat → Folds → List Char → Cursor →
    Option (String × Cursor)
  | 0, _, _, _ => none
  | fuel + 1, gap, done, c =>
    let ch := c.peek
    if c.atDocumentMarker || isEnd ch then none
    else if isGap ch then readQuotedBody single fuel (gap.blank ch) done c.skip
    else if isBreak ch then readQuotedBody single fuel (gap.lineBreak c.breakText) done c.skipBreak
    else
      let done := gap.text.reverse ++ done
      if single && ch = '\x27' && c.ahead 1 = '\x27' then
        readQuotedBody single fuel .none ('\x27' :: done) (c.skipMany 2)
      else if ch = (if single then '\x27' else '\x22') then
        some (String.ofList done.reverse, c.skip)
      else if !single && ch = '\\' && isBreak (c.ahead 1) then
        readQuotedBody single fuel ⟨[], [], [], true⟩ done c.skip.skipBreak
      else if !single && ch = '\\' then
        match readEscape c.skip with
        | some (d, c) => readQuotedBody single fuel .none (d :: done) c
        | none => none
      else readQuotedBody single fuel .none (ch :: done) c.skip

def readQuoted (c : Cursor) : Option (Token × Cursor) :=
  (readQuotedBody (c.peek = '\x27') (c.rest.length + 1) .none [] c.skip).map fun r =>
    (.scalar r.1 .quoted, r.2)

/-! ## Plain scalars -/

def isFlowMark (c : Char) : Bool := [',', '[', ']', '{', '}'].contains c

/-- A plain scalar: its text so far in reverse, and the gap after it.  The answer tells
whether the scalar ended on a later line than its last character. -/
def readPlainBody (inFlow : Bool) (indent : Int) : Nat → Folds → List Char → Cursor →
    Option (List Char × Bool × Cursor)
  | 0, _, _, _ => none
  | fuel + 1, gap, done, c =>
    let ch := c.peek
    let afterGap := !gap.blanks.isEmpty || gap.broken || done.isEmpty
    let leftOfBlock := !inFlow && gap.broken && decide ((c.column : Int) < indent)
    if isGap ch then
      if gap.broken && ch = '\t' && decide ((c.column : Int) < indent) then none
      else readPlainBody inFlow indent fuel (gap.blank ch) done c.skip
    else if isBreak ch then
      readPlainBody inFlow indent fuel (gap.lineBreak c.breakText) done c.skipBreak
    else if isEnd ch || leftOfBlock || (afterGap && (c.atDocumentMarker || ch = '#')) then
      some (done, gap.broken, c)
    else if inFlow && ch = ':' && (isFlowMark (c.ahead 1) || c.ahead 1 = '?') then none
    else if (ch = ':' && isGapOrEnd (c.ahead 1)) || (inFlow && isFlowMark ch) then
      some (done, gap.broken, c)
    else readPlainBody inFlow indent fuel .none (ch :: (gap.text.reverse ++ done)) c.skip

def readPlain (inFlow : Bool) (indent : Int) (c : Cursor) : Option (Token × Bool × Cursor) :=
  (readPlainBody inFlow (indent + 1) (c.rest.length + 1) .none [] c).map fun r =>
    (.scalar (String.ofList r.1.reverse) .plain, r.2.1, r.2.2)

/-! ## Block scalars -/

/-- The blank lines before a line of a block scalar, up to the indentation `indent`, or
as far as the blanks go when it is zero.  Also gives the widest indentation passed. -/
def readBlockBreaks (indent : Nat) : Nat → Nat → List Char → Cursor →
    Option (List Char × Nat × Cursor)
  | 0, _, _, _ => none
  | fuel + 1, widest, breaks, c =>
    let c := c.skipMany ((c.rest.takeWhile (· = ' ')).take
      (if indent = 0 then c.rest.length else indent - c.column)).length
    let widest := max widest c.column
    if (indent = 0 || c.column < indent) && c.peek = '\t' then none
    else if isBreak c.peek then
      readBlockBreaks indent fuel widest (breaks ++ c.breakText) c.skipBreak
    else some (breaks, widest, c)

/-- What happens to the line breaks at the end of a block scalar. -/
inductive Chomp where
  | strip
  | clip
  | keep
deriving DecidableEq

def chomp? (c : Char) : Option Chomp :=
  if c = '+' then some .keep else if c = '-' then some .strip else none

/-- The lines of a block scalar, the text so far in reverse, with the break that ended
the last line and the breaks after it. -/
def readBlockLines (literal : Bool) (indent : Nat) : Nat → Bool → List Char → List Char →
    List Char → Cursor → Option (List Char × List Char × List Char × Cursor)
  | 0, _, _, _, _, _ => none
  | fuel + 1, wasBlank, leading, trailing, done, c =>
    if c.column = indent && !isEnd c.peek then
      let blank := isGap c.peek
      let gap :=
        if !literal && leading.head? = some '\n' && !wasBlank && !blank then
          if trailing.isEmpty then [' '] else trailing
        else leading ++ trailing
      let line := c.spanWhile fun d => !isBreakOrEnd d
      let c := c.skipMany line.length
      let leading := c.breakText
      let c := c.skipBreak
      match readBlockBreaks indent (c.rest.length + 1) 0 [] c with
      | none => none
      | some (breaks, _, c) =>
        readBlockLines literal indent fuel blank leading breaks
          (line.reverse ++ (gap.reverse ++ done)) c
    else some (done, leading, trailing, c)

/-- A block scalar, from its indicator on. -/
def readBlock (parentIndent : Int) (c : Cursor) : Option (Token × Cursor) := do
  let literal := c.peek = '|'
  let c := c.skip
  let digitOf (c : Cursor) : Option (Nat × Cursor) :=
    if isAsciiDigit c.peek then
      if c.peek = '0' then none else some (hexValue c.peek, c.skip)
    else some (0, c)
  let (mode, step, c) ←
    match chomp? c.peek with
    | some mode => (digitOf c.skip).map fun r => (mode, r.1, r.2)
    | none =>
      match digitOf c with
      | none => none
      | some (0, c) => some (Chomp.clip, 0, c)
      | some (n, c) =>
        match chomp? c.peek with
        | some mode => some (mode, n, c.skip)
        | none => some (Chomp.clip, n, c)
  let c := c.skipWhile isGap
  let c := if c.peek = '#' then c.skipWhile fun d => !isBreakOrEnd d else c
  if !isBreakOrEnd c.peek then none
  let c := c.skipBreak
  let given : Nat := if step = 0 then 0 else parentIndent.toNat + step
  let (trailing, widest, c) ← readBlockBreaks given (c.rest.length + 1) 0 [] c
  let indent := if given = 0 then max (max widest (parentIndent + 1).toNat) 1 else given
  let (done, leading, trailing, c) ←
    readBlockLines literal indent (c.rest.length + 1) false [] trailing [] c
  let done := if mode = .strip then done else leading.reverse ++ done
  let done := if mode = .keep then trailing.reverse ++ done else done
  some (.scalar (String.ofList done.reverse) .block, c)

end ApiForge.Yaml
