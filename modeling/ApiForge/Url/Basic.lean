import ApiForge.Url.Host
/-
# ApiForge.Url.Basic -- URLs, read and written in their normal form

Reading lowers the scheme and the domain, drops a default port, resolves `.` and
`..` segments and percent-encodes what a part may not hold.  `text` writes the
normal form, so reading is a normalisation.
-/

namespace ApiForge

set_option autoImplicit false

/-- A URL in normal form. -/
structure Url where
  scheme : String
  /-- User name and password as they stand before the `@`. -/
  userinfo : String
  /-- The host as it stands after `//`, nothing for a URL without `//`. -/
  authority : Option String
  port : Option Nat
  path : String
  query : Option String
  fragment : Option String
deriving DecidableEq

namespace Url

open ApiForge.Text

/-- Schemes whose URLs have domains and default ports. -/
def defaultPort? (scheme : String) : Option Nat :=
  if scheme = "http" ∨ scheme = "ws" then some 80
  else if scheme = "https" ∨ scheme = "wss" then some 443
  else if scheme = "ftp" then some 21
  else none

def isSpecial (scheme : String) : Bool := scheme = "file" || (defaultPort? scheme).isSome

/-- The host, if there is one. -/
def host? (u : Url) : Option String :=
  match u.authority with
  | some h => if h.isEmpty then none else some h
  | none => none

/-- The normal form as text. -/
def text (u : Url) : String :=
  let front :=
    match u.authority with
    | some h =>
      "//" ++ (if u.userinfo.isEmpty then "" else u.userinfo ++ "@") ++ h
        ++ (match u.port with | some p => ":" ++ toString p | none => "")
    | none => if startsWith u.path "//" then "/." else ""
  u.scheme ++ ":" ++ front ++ u.path
    ++ (match u.query with | some q => "?" ++ q | none => "")
    ++ (match u.fragment with | some f => "#" ++ f | none => "")

/-! ## Reading -/

def isSlash (special : Bool) (c : Char) : Bool := c = '/' || (special && c = '\\')

/-- A character that ends the authority. -/
def endsAuthority (special : Bool) (c : Char) : Bool := isSlash special c || c = '?' || c = '#'

def isSchemeChar (c : Char) : Bool :=
  isAsciiLetter c || isAsciiDigit c || c = '+' || c = '-' || c = '.'

/-- The scheme in small letters and what follows its colon. -/
def splitScheme (s : List Char) : Option (String × List Char) :=
  match s with
  | [] => none
  | c :: _ =>
    if isAsciiLetter c then
      let name := s.takeWhile isSchemeChar
      match s.dropWhile isSchemeChar with
      | ':' :: rest => some (String.ofList (name.map asciiLower), rest)
      | _ => none
    else none

/-- Query and fragment. -/
def queryAndFragment (special : Bool) (s : List Char) : Option String × Option String :=
  let fragmentOf (t : List Char) : Option String :=
    match t with
    | '#' :: f => some (String.ofList (percentEncode inFragmentSet f))
    | _ => none
  match s with
  | '?' :: rest =>
    let q := rest.takeWhile (· ≠ '#')
    (some (String.ofList (percentEncode (if special then inSpecialQuerySet else inQuerySet) q)),
      fragmentOf (rest.dropWhile (· ≠ '#')))
  | _ => (none, fragmentOf s)

def isSingleDot (seg : List Char) : Bool :=
  seg = ['.'] || String.ofList (seg.map asciiLower) = "%2e"

def isDoubleDot (seg : List Char) : Bool :=
  let t := String.ofList (seg.map asciiLower)
  t = ".." || t = "%2e." || t = ".%2e" || t = "%2e%2e"

def isDriveLetter (seg : List Char) : Bool :=
  match seg with
  | [c, d] => isAsciiLetter c && (d = ':' || d = '|')
  | _ => false

/-- Put one segment after those read so far (`done`, last first). -/
def pushSegment (file last : Bool) (done : List (List Char)) (seg : List Char) :
    List (List Char) :=
  if isDoubleDot seg then
    let kept :=
      match done with
      | [d] => if file && isDriveLetter d then [d] else []
      | d => d.drop 1
    if last then [] :: kept else kept
  else if isSingleDot seg then if last then [] :: done else done
  else if file && done.isEmpty && isDriveLetter seg then (seg.take 1 ++ [':']) :: done
  else percentEncode inPathSet seg :: done

/-- All segments of a path, the `.` and `..` ones resolved. -/
def resolveSegments (file : Bool) : List (List Char) → List (List Char) → List (List Char)
  | done, [] => done.reverse
  | done, [seg] => (pushSegment file true done seg).reverse
  | done, seg :: rest => resolveSegments file (pushSegment file false done seg) rest

/-- The path of a URL from the text that follows the authority. -/
def readPath (scheme : String) (s : List Char) : String :=
  let special := isSpecial scheme
  let file := scheme = "file"
  if s.isEmpty && !special then ""
  else
    let body :=
      match s with
      | c :: rest => if isSlash special c then rest else s
      | [] => []
    let segments := resolveSegments file [] (splitAt (isSlash special) body)
    let segments :=
      if file then
        let kept := segments.dropWhile fun seg => seg.isEmpty
        if kept.isEmpty then [[]] else kept
      else segments
    String.ofList ('/' :: joinWith ['/'] segments)

/-- Path, query and fragment. -/
def readTail (scheme : String) (s : List Char) : String × Option String × Option String :=
  let ends (c : Char) : Bool := c = '?' || c = '#'
  let (q, f) := queryAndFragment (isSpecial scheme) (s.dropWhile fun c => !ends c)
  (readPath scheme (s.takeWhile fun c => !ends c), q, f)

/-- The text before and after the last `@`. -/
def splitUserinfo (s : List Char) : Option (List Char × List Char) :=
  if s.contains '@' then
    let back := s.reverse
    some (((back.dropWhile (· ≠ '@')).drop 1).reverse, (back.takeWhile (· ≠ '@')).reverse)
  else none

/-- User name and password in normal form; an empty password goes with its colon. -/
def readUserinfo (s : List Char) : String :=
  let user := s.takeWhile (· ≠ ':')
  let password := (s.dropWhile (· ≠ ':')).drop 1
  let user := percentEncode inUserinfoSet user
  let password := percentEncode inUserinfoSet password
  String.ofList (if password.isEmpty then user else user ++ ':' :: password)

/-- The text up to the colon of the port; colons in brackets do not count. -/
def splitPort : Bool → List Char → List Char × List Char
  | _, [] => ([], [])
  | inside, c :: rest =>
    if c = ':' ∧ ¬ inside then ([], c :: rest)
    else
      let r := splitPort (if c = '[' then true else if c = ']' then false else inside) rest
      (c :: r.1, r.2)

/-- The port after its colon; nothing inside for none or the default one. -/
def readPort (scheme : String) (s : List Char) : Option (Option Nat) :=
  match s with
  | [] => some none
  | _ :: ds =>
    if !ds.all isAsciiDigit then none
    else if ds.isEmpty then some none
    else
      let n := numberIn 10 ds
      if n > 65535 then none
      else some (if defaultPort? scheme = some n then none else some n)

/-- A URL from the text that follows `scheme://`. -/
def readAuthority (scheme : String) (s : List Char) : Option Url :=
  let special := isSpecial scheme
  let authority := s.takeWhile fun c => !endsAuthority special c
  let rest := s.dropWhile fun c => !endsAuthority special c
  let (userinfo, hostPort) :=
    match splitUserinfo authority with
    | some (u, h) => (readUserinfo u, h)
    | none => ("", authority)
  let (hostText, portText) := splitPort false hostPort
  match (if special then domainHost hostText else opaqueHost hostText) with
  | none => none
  | some host =>
    if host.isEmpty ∧ (authority.contains '@' ∨ ¬ portText.isEmpty) then none
    else
      match readPort scheme portText with
      | none => none
      | some port =>
        let (path, query, fragment) := readTail scheme rest
        some ⟨scheme, userinfo, some host, port, path, query, fragment⟩

/-- A URL from the text that follows `file:`. -/
def readFile (s : List Char) : Option Url :=
  let build (host : String) (rest : List Char) : Url :=
    let (path, query, fragment) := readTail "file" rest
    ⟨"file", "", some host, none, path, query, fragment⟩
  match s with
  | a :: b :: rest =>
    if isSlash true a && isSlash true b then
      let hostText := rest.takeWhile fun c => !endsAuthority true c
      let after := rest.dropWhile fun c => !endsAuthority true c
      if isDriveLetter hostText then some (build "" rest)
      else if hostText.isEmpty then some (build "" after)
      else
        match domainHost hostText with
        | none => none
        | some host => some (build (if host = "localhost" then "" else host) after)
    else some (build "" s)
  | _ => some (build "" s)

/-- A URL from the text that follows the colon of a scheme without special rules. -/
def readOther (scheme : String) (s : List Char) : Option Url :=
  match s with
  | '/' :: '/' :: rest => readAuthority scheme rest
  | '/' :: _ =>
    let (path, query, fragment) := readTail scheme s
    some ⟨scheme, "", none, none, path, query, fragment⟩
  | _ =>
    let ends (c : Char) : Bool := c = '?' || c = '#'
    let (query, fragment) := queryAndFragment false (s.dropWhile fun c => !ends c)
    let path := String.ofList (percentEncode inControlSet (s.takeWhile fun c => !ends c))
    some ⟨scheme, "", none, none, path, query, fragment⟩

/-- Read an absolute URL. -/
def parse (input : String) : Option Url :=
  let outer (c : Char) : Bool := c.toNat ≤ 32
  let s := (trimEnd outer (trimStart outer input.toList)).filter fun c =>
    !(c = '\t' || c = '\n' || c = '\r')
  match splitScheme s with
  | none => none
  | some (scheme, rest) =>
    if scheme = "file" then readFile rest
    else if isSpecial scheme then readAuthority scheme (rest.dropWhile (isSlash true))
    else readOther scheme rest

end Url

end ApiForge
