import ApiForge.Text.Pieces
/-
# ApiForge.Path -- paths as they are written

A path is text with `/` between its segments, kept exactly as it was joined.  What
it names depends on its components alone: empty segments do not count, and a `.`
counts only at the front of a relative path.  Two paths with the same components
are the same place (`Path.same`), however they are spelled.
-/

namespace ApiForge

set_option autoImplicit false

open ApiForge.Text

/-- A path as it is written. -/
structure Path where
  text : String
deriving DecidableEq

namespace Path

instance : Inhabited Path := ⟨⟨""⟩⟩

/-- The path that starts at the root. -/
def isAbsolute (p : Path) : Bool := p.text.toList.head? = some '/'

/-- `child` below `p`; an absolute `child` stands for itself. -/
def join (p : Path) (child : String) : Path :=
  if child.toList.head? = some '/' then ⟨child⟩
  else if p.text.isEmpty || p.text.toList.getLast? = some '/' then ⟨p.text ++ child⟩
  else ⟨p.text ++ "/" ++ child⟩

/-- The segments between slashes, empty ones included. -/
def segments (p : Path) : List (List Char) := splitAt (· = '/') p.text.toList

/-- Does the `i`-th segment count as a component? -/
def counts (absolute : Bool) (i : Nat) (seg : List Char) : Bool :=
  !seg.isEmpty && (seg ≠ ['.'] || (i = 0 && !absolute))

/-- The segments that count, with their places. -/
def componentPlaces (p : Path) : List (Nat × List Char) :=
  (p.segments.zipIdx.filter fun s => counts p.isAbsolute s.2 s.1).map fun s => (s.2, s.1)

/-- A root marker and the segments that count. -/
def components (p : Path) : Bool × List String :=
  (p.isAbsolute, p.componentPlaces.map fun c => String.ofList c.2)

/-- Do two paths have the same components? -/
def same (p q : Path) : Bool := p.components == q.components

/-- The segments up to place `i`, joined again. -/
def upTo (p : Path) (i : Nat) : Path :=
  ⟨String.ofList (joinWith ['/'] (p.segments.take (i + 1)))⟩

/-- The path without its last component; nothing for a root and for no component. -/
def parent? (p : Path) : Option Path :=
  match p.componentPlaces.reverse with
  | [] => none
  | [_] => some (if p.isAbsolute then ⟨"/"⟩ else ⟨""⟩)
  | _ :: (i, _) :: _ => some (p.upTo i)

/-- The last component, unless it is `..` or a lone `.`. -/
def fileName? (p : Path) : Option String :=
  match p.componentPlaces.getLast? with
  | some (_, seg) => if seg = ['.', '.'] ∨ seg = ['.'] then none else some (String.ofList seg)
  | none => none

/-- What follows the last dot of the file name, unless the dot comes first. -/
def extension? (p : Path) : Option String :=
  match p.fileName? with
  | none => none
  | some name =>
    let back := name.toList.reverse
    let tail := back.takeWhile (· ≠ '.')
    if tail.length + 1 < back.length then some (String.ofList tail.reverse) else none

/-- The components of `p` that follow those of `root`, as `p` spells them; nothing if
`p` does not lie below `root`. -/
def relativeTo? (p root : Path) : Option Path :=
  if p.isAbsolute = root.isAbsolute then
    let mine := p.componentPlaces
    let theirs := root.componentPlaces.map Prod.snd
    if theirs.isPrefixOf (mine.map Prod.snd) then
      let rest := mine.drop theirs.length
      match rest.head?, rest.getLast? with
      | some (first, _), some (last, _) =>
        let front := if theirs.isEmpty ∧ ¬ p.isAbsolute then 0 else first
        some ⟨String.ofList (joinWith ['/'] ((p.segments.take (last + 1)).drop front))⟩
      | _, _ => some ⟨""⟩
    else none
  else none

end Path

/-- `com.example.api` becomes `com/example/api`. -/
def packagePath (package : String) : Path :=
  ((splitString (· = '.') package).filter fun seg => !seg.isEmpty).foldl Path.join ⟨""⟩

end ApiForge
