import ApiForge.Yaml.Token
/-
# ApiForge.Yaml.Layout -- tokens with the structure that indentation implies

Block collections are not marked in the text: a step to the right opens one, a step
back closes it, and a mapping shows itself only at the colon after its first key.  So
every token that may turn out to be such a key is remembered until it is too late: a
key ends on its line, within 1024 characters, and one that the indentation calls for
has to be followed by its colon.
-/

namespace ApiForge.Yaml

set_option autoImplicit false

/-- A token that may be a key. -/
structure PendingKey where
  /-- The indentation asks for a key here. -/
  required : Bool
  /-- How many tokens stood before it. -/
  number : Nat
  index : Nat
  line : Nat
  column : Nat

/-- A text read up to some place. -/
structure Layout where
  cursor : Cursor
  /-- The tokens so far, the last one first. -/
  tokens : List Token
  count : Nat
  /-- The column of the innermost block collection; -1 outside of all. -/
  indent : Int
  outer : List Int
  /-- May a key start here? -/
  keyAllowed : Bool
  /-- The pending key of every open flow collection, and of the block around them. -/
  pending : List (Option PendingKey)

namespace Layout

def start (text : List Char) : Layout := ⟨.start text, [], 0, -1, [], true, [none]⟩

def inFlow (s : Layout) : Bool := 1 < s.pending.length

def push (s : Layout) (t : Token) : Layout :=
  { s with tokens := t :: s.tokens, count := s.count + 1 }

/-- Put a token in after the first `number` ones. -/
def insertAfter (s : Layout) (number : Nat) (t : Token) : Layout :=
  let back := s.count - number
  { s with tokens := s.tokens.take back ++ t :: s.tokens.drop back, count := s.count + 1 }

def setPending (s : Layout) (key : Option PendingKey) : Layout :=
  { s with pending := key :: s.pending.drop 1 }

/-- Give up the pending key, unless it was required. -/
def dropKey (s : Layout) : Option Layout :=
  match s.pending.head? with
  | some (some key) => if key.required then none else some (s.setPending none)
  | _ => some s

/-- Remember that a key may start here. -/
def saveKey (s : Layout) : Option Layout :=
  if s.keyAllowed then
    (s.dropKey).map fun s =>
      let c := s.cursor
      let required := !s.inFlow && decide (s.indent = c.column)
      s.setPending (some ⟨required, s.count, c.index, c.line, c.column⟩)
  else some s

/-- Give up the keys that the text has left behind; a required one is an error. -/
def dropStale (s : Layout) : Option Layout :=
  let c := s.cursor
  let check (key : Option PendingKey) : Option (Option PendingKey) :=
    match key with
    | some k =>
      if k.line < c.line ∨ k.index + 1024 < c.index then
        if k.required then none else some none
      else some (some k)
    | none => some none
  (s.pending.mapM check).map fun keys => { s with pending := keys }

/-- Open a block collection at a column right of the current one; its token goes in
after the first `number` ones. -/
def openBlock (s : Layout) (column number : Nat) (t : Token) : Layout :=
  if !s.inFlow && decide (s.indent < column) then
    { (s.insertAfter number t) with indent := column, outer := s.indent :: s.outer }
  else s

/-- Close the block collections right of a column. -/
def closeBlocks (s : Layout) (column : Int) : Layout :=
  if s.inFlow then s
  else
    let open_ := (s.indent :: s.outer).takeWhile fun i => decide (column < i)
    let left := (s.indent :: s.outer).drop open_.length
    { s with
      tokens := List.replicate open_.length .blockEnd ++ s.tokens
      count := s.count + open_.length
      indent := left.head?.getD (-1)
      outer := left.drop 1 }

/-- Past blanks, comments and line breaks. -/
def skipGaps : Nat → Layout → Layout
  | 0, s => s
  | fuel + 1, s =>
    let c := s.cursor
    let c := if c.index = 0 ∧ c.peek.toNat = 0xFEFF then c.skip else c
    let c := c.skipWhile fun d => d = ' ' || ((s.inFlow || !s.keyAllowed) && d = '\t')
    let c := if c.peek = '#' then c.skipWhile fun d => !isBreakOrEnd d else c
    if isBreak c.peek then
      skipGaps fuel
        { s with cursor := c.skipBreak, keyAllowed := s.keyAllowed || !s.inFlow }
    else { s with cursor := c }

/-! ## One token -/

/-- A token of fixed length. -/
def take (s : Layout) (length : Nat) (t : Token) : Layout :=
  { (s.push t) with cursor := s.cursor.skipMany length }

/-- A token that was read up to a cursor. -/
def accept (s : Layout) (keyAllowed : Bool) (read : Option (Token × Cursor)) : Option Layout :=
  read.map fun r => { (s.push r.1) with cursor := r.2, keyAllowed := keyAllowed }

def endStream (s : Layout) : Option Layout := do
  let s := s.closeBlocks (-1)
  let s ← s.dropKey
  some ({ s with keyAllowed := false }.push .streamEnd)

/-- A directive or a marker, which stands outside of all collections. -/
def topLevel (s : Layout) : Option Layout := do
  let s ← (s.closeBlocks (-1)).dropKey
  some { s with keyAllowed := false }

def openFlow (s : Layout) (t : Token) : Option Layout := do
  let s ← s.saveKey
  some ({ s with pending := none :: s.pending, keyAllowed := true }.take 1 t)

def closeFlow (s : Layout) (t : Token) : Option Layout := do
  let s ← s.dropKey
  let s := if s.inFlow then { s with pending := s.pending.drop 1 } else s
  some ({ s with keyAllowed := false }.take 1 t)

def flowEntry (s : Layout) : Option Layout := do
  let s ← s.dropKey
  some ({ s with keyAllowed := true }.take 1 .flowEntry)

/-- An indicator that opens a block collection where there is none. -/
def blockIndicator (s : Layout) (collection : Token) : Option Layout :=
  if s.inFlow then some s
  else if s.keyAllowed then some (s.openBlock s.cursor.column s.count collection)
  else none

def blockEntry (s : Layout) : Option Layout := do
  let s ← (← s.blockIndicator .blockSequenceStart).dropKey
  some ({ s with keyAllowed := true }.take 1 .blockEntry)

def key (s : Layout) : Option Layout := do
  let s ← (← s.blockIndicator .blockMappingStart).dropKey
  some ({ s with keyAllowed := !s.inFlow }.take 1 .key)

/-- A colon: what was pending turns out to be a key. -/
def value (s : Layout) : Option Layout :=
  match s.pending.head? with
  | some (some k) =>
    let s := s.insertAfter k.number .key
    let s := s.openBlock k.column k.number .blockMappingStart
    some ({ s.setPending none with keyAllowed := false }.take 1 .value)
  | _ => do
    let s ← s.blockIndicator .blockMappingStart
    some ({ s with keyAllowed := !s.inFlow }.take 1 .value)

def startsPlain (s : Layout) : Bool :=
  let c := s.cursor.peek
  let next := s.cursor.ahead 1
  !(isGapOrEnd c || ['-', '?', ':', ',', '[', ']', '{', '}', '#', '&', '*', '!', '|', '>', '\x27',
      '\x22', '%', '@', '\x60'].contains c)
    || (c = '-' && !isGap next)
    || (!s.inFlow && (c = '?' || c = ':') && !isGapOrEnd next)

def plain (s : Layout) : Option Layout := do
  let s ← s.saveKey
  let (t, broken, c) ← readPlain s.inFlow s.indent s.cursor
  some { (s.push t) with cursor := c, keyAllowed := broken }

/-- The next token, after whatever stands in front of it. -/
def next (s : Layout) : Option Layout := do
  let s := skipGaps (s.cursor.rest.length + 1) s
  let s ← s.dropStale
  let c := s.cursor
  let s := s.closeBlocks c.column
  let ch := c.peek
  let blankNext := isGapOrEnd (c.ahead 1)
  if isEnd ch then s.endStream
  else if c.column = 0 && ch = '%' then (← s.topLevel).accept false (readDirective c)
  else if c.atMarker '-' then some ((← s.topLevel).take 3 .documentStart)
  else if c.atMarker '.' then some ((← s.topLevel).take 3 .documentEnd)
  else if ch = '[' then s.openFlow .flowSequenceStart
  else if ch = '{' then s.openFlow .flowMappingStart
  else if ch = ']' then s.closeFlow .flowSequenceEnd
  else if ch = '}' then s.closeFlow .flowMappingEnd
  else if ch = ',' then s.flowEntry
  else if ch = '-' && blankNext then s.blockEntry
  else if ch = '?' && (s.inFlow || blankNext) then s.key
  else if ch = ':' && (s.inFlow || blankNext) then s.value
  else if ch = '*' then
    (← s.saveKey).accept false ((readAnchor c.skip).map fun r => (.alias r.1, r.2))
  else if ch = '&' then
    (← s.saveKey).accept false ((readAnchor c.skip).map fun r => (.anchor r.1, r.2))
  else if ch = '!' then (← s.saveKey).accept false (readTag s.inFlow c)
  else if (ch = '|' || ch = '>') && !s.inFlow then
    (← s.dropKey).accept true (readBlock s.indent c)
  else if ch = '\x27' || ch = '\x22' then (← s.saveKey).accept false (readQuoted c)
  else if s.startsPlain then s.plain
  else none

def run : Nat → Layout → Option (List Token)
  | 0, _ => none
  | fuel + 1, s =>
    match s.next with
    | none => none
    | some s => if s.tokens.head? = some .streamEnd then some s.tokens.reverse else run fuel s

end Layout

/-- The tokens of a text, up to the end of the stream. -/
def Token.list (text : String) : Option (List Token) :=
  let s := text.toList
  if s.all readable then Layout.run (s.length + 2) (Layout.start s) else none

end ApiForge.Yaml
