import ApiForge.Ignore.Glob
import ApiForge.Disk
/-
# ApiForge.Ignore.Rules -- which paths a rule file keeps untouched

A rule file holds one pattern a line.  The last pattern that matches a path decides, and
where none does, the patterns are asked for the folders around it, from the inside out.
One pattern that cannot be read makes the whole file unusable.
-/

namespace ApiForge.Ignore

set_option autoImplicit false

open ApiForge.Text

/-- One line of a rule file. -/
structure Rule where
  glob : Glob
  /-- The rule takes paths back in. -/
  negated : Bool
  /-- The rule is about folders only. -/
  folderOnly : Bool

/-- What a line says: nothing, a rule, or something that cannot be read. -/
inductive Line where
  | blank
  | rule (r : Rule)
  | malformed

namespace Rule

/-- A pattern without a slash matches at any depth. -/
def anchor (absolute : Bool) (pattern : List Char) : List Char :=
  let pattern :=
    if absolute || pattern.contains '/' || pattern = ['*', '*'] then pattern
    else ['*', '*', '/'] ++ pattern
  if ['*', '*', '/'].isPrefixOf pattern.reverse then pattern ++ ['/', '*'] else pattern

/-- A trailing slash, with the backslash in front of it if there is one. -/
def dropFolderMark (pattern : List Char) : Bool × List Char :=
  match pattern.reverse with
  | '/' :: '\\' :: rest => (true, rest.reverse)
  | '/' :: rest => (true, rest.reverse)
  | _ => (false, pattern)

def ofLine (line : List Char) : Line :=
  let line :=
    if [' ', '\\'].isPrefixOf line.reverse then line else trimEnd isBlank line
  match line with
  | [] => .blank
  | '#' :: _ => .blank
  | _ =>
    let (negated, absolute, pattern) : Bool × Bool × List Char :=
      match line with
      | '\\' :: '!' :: rest => (false, false, '!' :: rest)
      | '\\' :: '#' :: rest => (false, false, '#' :: rest)
      | '!' :: '/' :: rest => (true, true, rest)
      | '!' :: rest => (true, false, rest)
      | '/' :: rest => (false, true, rest)
      | _ => (false, false, line)
    let (folderOnly, pattern) := dropFolderMark pattern
    match Glob.parse (anchor absolute pattern) with
    | some glob => .rule ⟨glob, negated, folderOnly⟩
    | none => .malformed

end Rule

/-- The rules of some lines. -/
def rulesOf : List Line → Option (List Rule)
  | [] => some []
  | .blank :: rest => rulesOf rest
  | .rule r :: rest => (rulesOf rest).map (r :: ·)
  | .malformed :: _ => none

/-- A line without the carriage return in front of its line feed. -/
def dropReturn (line : List Char) : List Char :=
  if line.getLast? = some '\r' then line.dropLast else line

/-- The lines of a text; the last one has no line feed behind it. -/
def linesOf (s : List Char) : List (List Char) :=
  let pieces := splitAt (· = '\n') s
  pieces.dropLast.map dropReturn ++ pieces.getLast?.toList

/-- The rules of a text, which may start with a byte order mark. -/
def parseRules (text : String) : Option (List Rule) :=
  rulesOf ((linesOf (text.toList.dropWhile fun c => c.toNat = 0xFEFF)).map Rule.ofLine)

/-- What the rules say of one path: the last rule that matches decides. -/
def verdict (rules : List Rule) (folder : Bool) (path : Path) : Option Bool :=
  let bytes := encode path.text
  (rules.reverse.find? fun r => (!r.folderOnly || folder) && r.glob.accepts bytes).map
    fun r => !r.negated

/-- What the rules say of the folders around a path, from the inside out. -/
def verdictAround (rules : List Rule) : Nat → Path → Option Bool
  | 0, _ => none
  | fuel + 1, path =>
    match path.parent? with
    | none => none
    | some parent =>
      match verdict rules true parent with
      | some v => some v
      | none => verdictAround rules fuel parent

/-- Do the rules keep a file at the path untouched, as they see the path? -/
def judge (rules : List Rule) (path : Path) : Bool :=
  match verdict rules false path with
  | some v => v
  | none => (verdictAround rules (path.segments.length + 1) path).getD false

/-! ## Rules that hold below a folder -/

def dropDot (s : String) : String := (stripHead? s "./").getD s

/-- A path as rules below a root see it: without a leading `./`, and without the text of the
root where it starts with that. -/
def localPath (root path : Path) : Path :=
  let folder := dropDot root.text
  let text := dropDot path.text
  if folder = "." ∨ ¬ text.toList.contains '/' then ⟨text⟩
  else
    match stripHead? text folder with
    | some rest => ⟨(stripHead? rest "/").getD rest⟩
    | none => ⟨text⟩

/-- Which paths the rules of a text keep untouched below a root. -/
def ofText (root : Path) (text : String) : Option (Path → Bool) :=
  (parseRules text).map fun rules path => judge rules (localPath root path)

end ApiForge.Ignore
