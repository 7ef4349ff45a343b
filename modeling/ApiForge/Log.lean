import ApiForge.Text.Pieces
/-
# ApiForge.Log -- how much is logged

The level, the form and further directives come from variables.  A directive says from
which level on records count that come from a target, a span, or a span with fields; of
two directives about the same thing the later one holds.
-/

namespace ApiForge

set_option autoImplicit false

open ApiForge.Text

/-- From which level on records count. -/
inductive LogLevel where
  | off
  | error
  | warn
  | info
  | debug
  | trace
deriving DecidableEq

namespace LogLevel

def name : LogLevel → String
  | .off => "off"
  | .error => "error"
  | .warn => "warn"
  | .info => "info"
  | .debug => "debug"
  | .trace => "trace"

/-- The levels in the order of their numbers. -/
def all : List LogLevel := [.off, .error, .warn, .info, .debug, .trace]

/-- The level that the configuration names, in any case; `info` if there is none. -/
def ofSetting (raw : String) : LogLevel :=
  let word := lowerText raw
  ((all.filter (· ≠ .off)).find? fun l => l.name = word).getD .info

/-- A number that may have a plus sign. -/
def number? (s : List Char) : Option Nat :=
  let digits := match s with
    | '+' :: rest => rest
    | other => other
  if !digits.isEmpty && digits.all isAsciiDigit then
    some (digits.foldl (fun n d => n * 10 + (d.toNat - 48)) 0)
  else none

/-- The level that a directive names, by name in any case or by number. -/
def ofDirective? (s : List Char) : Option LogLevel :=
  match number? s with
  | some n => all[n]?
  | none => all.find? fun l => eqIgnoringAsciiCase l.name (String.ofList s)

end LogLevel

/-- The form of log records. -/
inductive LogFormat where
  | json
  | pretty
deriving DecidableEq

namespace LogFormat

def name : LogFormat → String
  | .json => "Json"
  | .pretty => "Pretty"

def ofSetting (raw : String) : LogFormat := if lowerText raw = "json" then .json else .pretty

end LogFormat

structure LogConfig where
  level : String
  format : LogFormat
  /-- Directives with commas between them. -/
  directives : Option String
  /-- Tell where a record comes from. -/
  includeLocation : Bool
deriving DecidableEq

namespace LogConfig

def ofVariables (lookup : String → Option String) : LogConfig :=
  { level := (lookup "BRRTR_LOG_LEVEL").getD "info"
    format := ((lookup "BRRTR_LOG_FORMAT").map LogFormat.ofSetting).getD .pretty
    directives := (lookup "BRRTR_LOG_TARGET_FILTER").filter fun s => !isBlankString s
    includeLocation := lookup "BRRTR_LOG_INCLUDE_LOCATION" = some "true" }

def verbose (c : LogConfig) : LogConfig := { c with level := "debug" }

end LogConfig

/-- From which level on records count that come from somewhere. -/
structure LogDirective where
  target : Option String
  span : Option String
  field : Option String
  level : LogLevel
deriving DecidableEq

namespace LogDirective

/-- A directive about everything. -/
def overall (level : LogLevel) : LogDirective := ⟨none, none, none, level⟩

/-- The level behind an equals sign; nothing behind it, or no sign, stands for all. -/
def tail? : List Char → Option LogLevel
  | [] => some .trace
  | ['='] => some .trace
  | '=' :: level => LogLevel.ofDirective? level
  | _ => none

/-- May a target start with the character? -/
def startsTarget (c : Char) : Bool :=
  c = '-' || c = ':' || c = '_' || isAsciiLetter c || isAsciiDigit c
    || (127 < c.toNat && !isBlank c)

/-- What stands in brackets, and what follows them: a span, a field in braces, or a span
with a field. -/
def bracket? (s : List Char) : Option (Option String × Option String × List Char) :=
  let span := s.takeWhile fun c => c ≠ ']' && c ≠ '{'
  match s.drop span.length with
  | ']' :: rest => some (some (String.ofList span), none, rest)
  | '{' :: more =>
    match cutAt (· = '}') more with
    | some (field, ']' :: rest) =>
      if field.isEmpty then none
      else some (if span.isEmpty then none else some (String.ofList span),
        some (String.ofList field), rest)
    | _ => none
  | _ => none

def parseChars (s : List Char) : Option LogDirective :=
  let target := s.takeWhile fun c => c ≠ '=' && c ≠ '['
  let rest := s.drop target.length
  if !target.isEmpty && !(target.head?.any startsTarget) then none
  else
    let named : Option String := if target.isEmpty then none else some (String.ofList target)
    match rest with
    | [] =>
      match LogLevel.ofDirective? target with
      | some level => some (overall level)
      | none => named.map fun t => ⟨some t, none, none, .trace⟩
    | '[' :: rest => do
      let (span, field, rest) ← bracket? rest
      return ⟨named, span, field, ← tail? rest⟩
    | _ => if target.isEmpty then none else (tail? rest).map fun level => ⟨named, none, none, level⟩

def parse (s : String) : Option LogDirective := parseChars s.toList

def text (d : LogDirective) : String :=
  let field := (d.field.map fun f => "\x7b" ++ f ++ "\x7d").getD ""
  let place := if d.span.isSome || d.field.isSome then "[" ++ d.span.getD "" ++ field ++ "]" else ""
  let subject := d.target.getD "" ++ place
  if subject.isEmpty then d.level.name else subject ++ "=" ++ d.level.name

/-- Are two directives about the same thing? -/
def sameSubject (a b : LogDirective) : Bool :=
  a.target = b.target && a.span = b.span && a.field = b.field

end LogDirective

namespace LogConfig

/-- Put a directive in place of one about the same thing. -/
def addDirective (directives : List LogDirective) (d : LogDirective) : List LogDirective :=
  directives.filter (fun other => !other.sameSubject d) ++ [d]

/-- Everything that the configuration says about which records count.  What is no directive
is passed over. -/
def filter (c : LogConfig) : List LogDirective :=
  let given := ((splitString (· = ',') (c.directives.getD "")).map trimString).filterMap
    LogDirective.parse
  given.foldl addDirective [LogDirective.overall (LogLevel.ofSetting c.level)]

end LogConfig

end ApiForge
