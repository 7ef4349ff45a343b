import ApiForge.Text.Utf8
/-
# ApiForge.Ignore.Glob -- patterns for paths

A glob is a list of pieces that a path has to be made of, byte by byte.  A wildcard
stays inside one segment of the path; a double star between slashes spans any number
of segments; braces hold alternatives.  A class that is never closed is plain text.
-/

namespace ApiForge.Ignore

set_option autoImplicit false

open ApiForge.Text

/-- One piece of a glob. -/
inductive Piece where
  | literal (c : Char)
  /-- One byte that is no slash. -/
  | any
  /-- Any bytes that are no slash. -/
  | star
  /-- A double star at the front. -/
  | starsFront
  /-- A double star at the end. -/
  | starsBack
  /-- A double star between slashes. -/
  | starsBetween
  | oneOf (negated : Bool) (ranges : List (Char × Char))
  | alternatives (globs : List (List Piece))

abbrev Glob := List Piece

namespace Glob

/-! ## Reading -/

/-- Where a class stands: its ranges in reverse, and whether a dash opened a range. -/
structure ClassState where
  ranges : List (Char × Char)
  inRange : Bool

/-- What a class turned out to be. -/
inductive ClassResult where
  | closed (negated : Bool) (ranges : List (Char × Char)) (rest : List Char)
  | unclosed
  | badRange

/-- Take one more character into a class; nothing for a range that runs backwards. -/
def ClassState.take (st : ClassState) (c : Char) : Option ClassState :=
  match st.inRange, st.ranges with
  | true, (low, _) :: ranges => if c < low then none else some ⟨(low, c) :: ranges, false⟩
  | _, ranges =>
    if c = '-' ∧ !ranges.isEmpty then some ⟨ranges, true⟩ else some ⟨(c, c) :: ranges, false⟩

def readClassBody (negated : Bool) : Bool → ClassState → List Char → ClassResult
  | _, _, [] => .unclosed
  | first, st, c :: rest =>
    if c = ']' ∧ !first then
      .closed negated (if st.inRange then ('-', '-') :: st.ranges else st.ranges).reverse rest
    else
      match st.take c with
      | some st => readClassBody negated false st rest
      | none => .badRange

/-- A class after its opening bracket. -/
def readClass (s : List Char) : ClassResult :=
  match s with
  | '!' :: rest => readClassBody true true ⟨[], false⟩ rest
  | '^' :: rest => readClassBody true true ⟨[], false⟩ rest
  | _ => readClassBody false true ⟨[], false⟩ s

/-- A glob read up to some place. -/
structure Reading where
  /-- The branches that are open, the innermost first, each with its pieces in reverse. -/
  branches : List (List Piece)
  /-- How many branches were open at each open brace, the innermost first. -/
  braces : List Nat
  previous : Option Char
  /-- An opening bracket turned out to be plain text, and so are those after it. -/
  brackets : Bool

namespace Reading

def start : Reading := ⟨[[]], [], none, true⟩

def push (r : Reading) (p : Piece) : Reading :=
  match r.branches with
  | [] => r
  | branch :: outer => { r with branches := (p :: branch) :: outer }

def hasPieces (r : Reading) : Bool :=
  match r.branches with
  | (_ :: _) :: _ => true
  | _ => false

def after (r : Reading) (c : Char) : Reading := { r with previous := some c }

def openBrace (r : Reading) : Reading :=
  { r with branches := [] :: r.branches, braces := r.branches.length :: r.braces }

/-- Close a brace; nothing where none is open. -/
def closeBrace (r : Reading) : Option Reading :=
  match r.braces with
  | [] => none
  | outer :: braces =>
    let count := r.branches.length - outer
    let alternatives := ((r.branches.take count).map List.reverse).reverse
    some ({ r with branches := r.branches.drop count, braces := braces }.push
      (.alternatives alternatives))

def comma (r : Reading) : Reading :=
  if r.braces.isEmpty then r.push (.literal ',') else { r with branches := [] :: r.branches }

/-- Put in the place of the last piece what a double star makes of it. -/
def replaceLast (r : Reading) (p : Piece) : Reading :=
  match r.branches with
  | (last :: branch) :: outer =>
    let p := match last with
      | .starsFront => .starsFront
      | .starsBack => .starsBack
      | _ => p
    { r with branches := (p :: branch) :: outer }
  | _ => r

def isSlash (c : Option Char) : Bool := c = some '/'

/-- A double star, with the text after it.  It spans segments only where slashes or the
ends of the glob or of a branch stand on both sides. -/
def doubleStar (r : Reading) (rest : List Char) : Reading × List Char :=
  let plain : Reading × List Char := ((r.push .star).push .star |>.after '*', rest)
  let next := rest.head?
  if !r.hasPieces then
    if next.isNone then (r.push .starsFront |>.after '*', rest)
    else if isSlash next then (r.push .starsFront |>.after '/', rest.drop 1)
    else plain
  else if !isSlash r.previous && (r.branches.length ≤ 1
      || (r.previous ≠ some ',' && r.previous ≠ some '{')) then plain
  else if next.isNone then (r.replaceLast .starsBack |>.after '*', rest)
  else if (next = some ',' || next = some '}') && 2 ≤ r.branches.length then
    (r.replaceLast .starsBack |>.after '*', rest)
  else if isSlash next then (r.replaceLast .starsBetween |>.after '/', rest.drop 1)
  else plain

def read : Nat → Reading → List Char → Option Reading
  | 0, _, _ => none
  | _, r, [] => some r
  | fuel + 1, r, c :: rest =>
    match c with
    | '?' => read fuel (r.push .any |>.after c) rest
    | '*' =>
      match rest with
      | '*' :: rest =>
        let (r, rest) := r.doubleStar rest
        read fuel r rest
      | _ => read fuel (r.push .star |>.after c) rest
    | '[' =>
      if r.brackets then
        match readClass rest with
        | .closed negated ranges rest => read fuel (r.push (.oneOf negated ranges) |>.after ']') rest
        | .unclosed => read fuel ({ r with brackets := false }.push (.literal c) |>.after c) rest
        | .badRange => none
      else read fuel (r.push (.literal c) |>.after c) rest
    | '{' => read fuel (r.openBrace.after c) rest
    | '}' =>
      match r.closeBrace with
      | some r => read fuel (r.after c) rest
      | none => none
    | ',' => read fuel (r.comma.after c) rest
    | '\\' =>
      match rest with
      | [] => none
      | d :: rest => read fuel (r.push (.literal d) |>.after d) rest
    | _ => read fuel (r.push (.literal c) |>.after c) rest

end Reading

/-- The glob that a text spells. -/
def parse (s : List Char) : Option Glob :=
  match Reading.start.read (s.length + 1) s with
  | some r =>
    match r.branches with
    | [pieces] => some pieces.reverse
    | _ => none
  | none => none

/-! ## Matching -/

def slash : UInt8 := 47

/-- Does some place after a run of bytes that satisfy `p` lead on? -/
def somewhere (p : UInt8 → Bool) (next : List UInt8 → Bool) : List UInt8 → Bool
  | [] => next []
  | b :: rest => next (b :: rest) || (p b && somewhere p next rest)

/-- Does some place after a slash lead on? -/
def afterSomeSlash (next : List UInt8 → Bool) : List UInt8 → Bool
  | [] => false
  | b :: rest => (b = slash && next rest) || afterSomeSlash next rest

def afterSlash (next : List UInt8 → Bool) : List UInt8 → Bool
  | b :: rest => b = slash && next rest
  | [] => false

def afterBytes (next : List UInt8 → Bool) : List UInt8 → List UInt8 → Bool
  | [], s => next s
  | b :: bs, c :: s => b = c && afterBytes next bs s
  | _ :: _, [] => false

/-- The bytes that a range of characters stands for: the last byte of the one and the
first byte of the other bound it, and the bytes around them stand for themselves. -/
def byteRanges (range : Char × Char) : List (UInt8 × UInt8) :=
  let low := encodeChar range.1
  let high := encodeChar range.2
  if range.1 = range.2 then low.map fun b => (b, b)
  else
    match low.getLast?, high.head? with
    | some l, some h =>
      (low.dropLast ++ high.drop 1).map (fun b => (b, b)) ++ [(l, h)]
    | _, _ => []

def classHas (ranges : List (Char × Char)) (b : UInt8) : Bool :=
  (ranges.flatMap byteRanges).any fun r => r.1 ≤ b && b ≤ r.2

mutual

/-- Does the piece stand for nothing at all? -/
def isVoid : Piece → Bool
  | .alternatives globs => allVoid globs
  | _ => false

def allVoid : List (List Piece) → Bool
  | [] => true
  | glob :: rest => areVoid glob && allVoid rest

def areVoid : List Piece → Bool
  | [] => true
  | p :: rest => isVoid p && areVoid rest

end

mutual

/-- Can the piece stand for the front of the bytes so that `next` takes the rest? -/
def pieceMatches (p : Piece) (next : List UInt8 → Bool) (s : List UInt8) : Bool :=
  match p with
  | .literal c => afterBytes next (encodeChar c) s
  | .any =>
    match s with
    | b :: rest => b ≠ slash && next rest
    | [] => false
  | .star => somewhere (· ≠ slash) next s
  | .starsFront => next s || afterSlash next s || afterSomeSlash next s
  | .starsBack => afterSlash (somewhere (fun _ => true) next) s
  | .starsBetween => afterSlash (fun rest => next rest || afterSomeSlash next rest) s
  | .oneOf negated ranges =>
    match s with
    | b :: rest => (classHas ranges b != negated) && next rest
    | [] => false
  | .alternatives globs => if allVoid globs then next s else someMatches globs next s

def piecesMatch (pieces : List Piece) (next : List UInt8 → Bool) (s : List UInt8) : Bool :=
  match pieces with
  | [] => next s
  | p :: rest => pieceMatches p (fun s => piecesMatch rest next s) s

/-- Does one of the alternatives match?  One that stands for nothing does not count. -/
def someMatches (globs : List (List Piece)) (next : List UInt8 → Bool) (s : List UInt8) :
    Bool :=
  match globs with
  | [] => false
  | glob :: rest =>
    (!areVoid glob && piecesMatch glob next s) || someMatches rest next s

end

/-- Does the glob match all of the bytes? -/
def accepts (g : Glob) (s : List UInt8) : Bool :=
  match g with
  | [.starsFront] => true
  | _ => piecesMatch g List.isEmpty s

end Glob

end ApiForge.Ignore
