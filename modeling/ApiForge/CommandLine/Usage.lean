import ApiForge.CommandLine.Arguments
import ApiForge.Product
/-
# ApiForge.CommandLine.Usage -- how a command line is read

The words of a command line are flags, options with values, and the name of a command.
An option takes its value from the same word, or from the next word if that does not look
like an option itself.  Reading goes from left to right, and the first thing wrong is the
one that is reported; an option is settled, and may turn out wrong, only when the next one
comes up or the words are at their end.
-/

namespace ApiForge

set_option autoImplicit false

open ApiForge.Text

/-- Why no command comes out of a command line. -/
inductive UsageStop where
  | displayHelp
  | displayVersion
  | displayHelpOnMissing
  | missingSubcommand
  | missingRequiredArgument
  | unknownArgument
  | invalidSubcommand
  | invalidValue
  | argumentConflict
  | tooManyValues
deriving DecidableEq

/-- What stopped the reading, in words. -/
def UsageStop.message : UsageStop → String
  | .displayHelp => "display help"
  | .displayVersion => "display version"
  | .displayHelpOnMissing => "display help on missing argument or subcommand"
  | .missingSubcommand => "missing subcommand"
  | .missingRequiredArgument => "missing required argument"
  | .unknownArgument => "unknown argument"
  | .invalidSubcommand => "invalid subcommand"
  | .invalidValue => "invalid value"
  | .argumentConflict => "argument conflict"
  | .tooManyValues => "too many values"

/-- Showing help or the version is what was asked for; all else is a mistake. -/
def UsageStop.exitCode : UsageStop → Nat
  | .displayHelp => 0
  | .displayVersion => 0
  | _ => 2

/-- Options without a value. -/
inductive FlagOption where
  | help
  | version
  | verbose
  | noModelTests
  | noModelDocs
  | noApiTests
  | noApiDocs
  | noMetadata
  | dryRun
deriving DecidableEq

/-- Options with a value. -/
inductive ValueOption where
  | spec
  | manifest
  | output
  | ignoreFile
  | define
  | apis
  | models
  | supportingFiles
deriving DecidableEq

namespace ValueOption

/-- May the value be left out? -/
def isOptional (o : ValueOption) : Bool := o = .apis || o = .models || o = .supportingFiles

/-- May the option be given more than once? -/
def isRepeatable (o : ValueOption) : Bool := o = .define

/-- Is the value a path?  Paths are not empty. -/
def isPath (o : ValueOption) : Bool :=
  o = .spec || o = .manifest || o = .output || o = .ignoreFile

end ValueOption

/-- An option of either kind. -/
inductive CommandOption where
  | flag (option : FlagOption)
  | value (option : ValueOption)
deriving DecidableEq

/-- The options that a command, or the program itself, understands. -/
structure Vocabulary where
  long : String → Option CommandOption
  short : Char → Option CommandOption

namespace Vocabulary

/-- What the program itself understands. -/
def ofProgram : Vocabulary :=
  { long := fun
      | "help" => some (.flag .help)
      | "version" => some (.flag .version)
      | "verbose" => some (.flag .verbose)
      | _ => none
    short := fun
      | 'h' => some (.flag .help)
      | 'V' => some (.flag .version)
      | 'v' => some (.flag .verbose)
      | _ => none }

/-- What both commands understand. -/
def ofCommand : Vocabulary :=
  { long := fun
      | "help" => some (.flag .help)
      | "verbose" => some (.flag .verbose)
      | "no-model-tests" => some (.flag .noModelTests)
      | "no-model-docs" => some (.flag .noModelDocs)
      | "no-api-tests" => some (.flag .noApiTests)
      | "no-api-docs" => some (.flag .noApiDocs)
      | "no-metadata" => some (.flag .noMetadata)
      | "dry-run" => some (.flag .dryRun)
      | "spec" => some (.value .spec)
      | "manifest" => some (.value .manifest)
      | "output" => some (.value .output)
      | "ignore-file" => some (.value .ignoreFile)
      | "define" => some (.value .define)
      | "apis" => some (.value .apis)
      | "models" => some (.value .models)
      | "supporting-files" => some (.value .supportingFiles)
      | _ => none
    short := fun
      | 'h' => some (.flag .help)
      | 'v' => some (.flag .verbose)
      | 's' => some (.value .spec)
      | 'm' => some (.value .manifest)
      | 'o' => some (.value .output)
      | 'D' => some (.value .define)
      | _ => none }

end Vocabulary

/-! ## What is given -/

/-- The options read so far, and one whose value may still come. -/
structure Given where
  flags : List FlagOption
  values : List (ValueOption × Option String)
  pending : Option (ValueOption × Option String)

namespace Given

def none : Given := ⟨[], [], Option.none⟩

def has (g : Given) (flag : FlagOption) : Bool := g.flags.contains flag

/-- The value that an option was first given. -/
def value? (g : Given) (option : ValueOption) : Option (Option String) :=
  (g.values.find? fun v => v.1 = option).map Prod.snd

def path? (g : Given) (option : ValueOption) : Option Path :=
  (g.value? option).join.map Path.mk

/-- Take an option with its value. -/
def take (g : Given) (option : ValueOption) (value : Option String) : Except UsageStop Given :=
  if value.isNone && !option.isOptional then .error .invalidValue
  else if !option.isRepeatable && (g.value? option).isSome then .error .argumentConflict
  else if option.isPath && value = some "" then .error .invalidValue
  else .ok { g with values := g.values ++ [(option, value)] }

/-- Take the option that is pending. -/
def settle (g : Given) : Except UsageStop Given :=
  match g.pending with
  | Option.none => .ok g
  | some (option, value) => Given.take { g with pending := Option.none } option value

/-- Take a flag. -/
def takeFlag (g : Given) (flag : FlagOption) : Except UsageStop Given := do
  let g ← g.settle
  match flag with
  | .help => throw .displayHelp
  | .version => throw .displayVersion
  | flag => if g.has flag then throw .argumentConflict else return { g with flags := flag :: g.flags }

/-- Begin an option, with the value that stands in the same word. -/
def begin (g : Given) (option : ValueOption) (attached : Option String) :
    Except UsageStop Given := do
  let g ← g.settle
  match attached with
  | some value => g.take option (some value)
  | Option.none => return { g with pending := some (option, Option.none) }

/-- Read a word that starts with two dashes, without them. -/
def readLong (g : Given) (words : Vocabulary) (word : List Char) : Except UsageStop Given :=
  let (name, attached) := match cutAt (· = '=') word with
    | some (name, value) => (name, some (String.ofList value))
    | Option.none => (word, Option.none)
  match words.long (String.ofList name) with
  | Option.none => .error .unknownArgument
  | some (.flag flag) => if attached.isSome then .error .tooManyValues else g.takeFlag flag
  | some (.value option) => g.begin option attached

/-- Read the letters of a word that starts with one dash. -/
def readShort (g : Given) (words : Vocabulary) : List Char → Except UsageStop Given
  | [] => .ok g
  | c :: rest =>
    match words.short c with
    | Option.none => .error .unknownArgument
    | some (.flag flag) => do readShort (← g.takeFlag flag) words rest
    | some (.value option) =>
      match rest with
      | [] => g.begin option Option.none
      | '=' :: value => g.begin option (some (String.ofList value))
      | value => g.begin option (some (String.ofList value))

/-- Read a word that belongs to no option. -/
def readPlain (g : Given) (word : String) : Except UsageStop Given :=
  match g.pending with
  | some (option, Option.none) => .ok { g with pending := some (option, some word) }
  | _ => .error .unknownArgument

/-- Read the words of a command.  After two dashes only plain words follow, and a command
has none. -/
def readAll (g : Given) : List String → Except UsageStop Given
  | [] => g.settle
  | word :: rest =>
    match word.toList with
    | ['-', '-'] => if rest.isEmpty then g.settle else .error .unknownArgument
    | '-' :: '-' :: long => do readAll (← g.readLong .ofCommand long) rest
    | '-' :: c :: short => do readAll (← g.readShort .ofCommand (c :: short)) rest
    | _ => do readAll (← g.readPlain word) rest

/-- The arguments that the options make. -/
def arguments (g : Given) : Except UsageStop Arguments :=
  match g.path? .spec with
  | Option.none => .error .missingRequiredArgument
  | some spec => .ok {
      spec := spec
      manifest := g.path? .manifest
      output := g.path? .output
      apis := g.value? .apis
      models := g.value? .models
      supportingFiles := g.value? .supportingFiles
      noModelTests := g.has .noModelTests
      noModelDocs := g.has .noModelDocs
      noApiTests := g.has .noApiTests
      noApiDocs := g.has .noApiDocs
      noMetadata := g.has .noMetadata
      ignoreFile := g.path? .ignoreFile
      dryRun := g.has .dryRun
      definitions := g.values.filterMap fun v => if v.1 = .define then v.2 else Option.none }

end Given

/-! ## Commands -/

/-- What is to be done. -/
inductive Action where
  | generate
  | bundle
deriving DecidableEq

def Action.name : Action → String
  | .generate => "generate"
  | .bundle => "bundle"

def Action.ofName? (s : String) : Option Action :=
  [Action.generate, .bundle].find? fun a => a.name = s

structure Command where
  verbose : Bool
  action : Action
  arguments : Arguments
deriving DecidableEq

namespace Command

/-- The names that stand for commands. -/
def isName (s : String) : Bool := (Action.ofName? s).isSome || s = "help"

/-- What asking for help with the words that follow leads to. -/
def help : List String → UsageStop
  | [] => .displayHelp
  | [word] => if isName word then .displayHelp else .invalidSubcommand
  | _ => .invalidSubcommand

/-- Read a command after the options of the program. -/
def ofAction (g : Given) (action : Action) (words : List String) : Except UsageStop Command := do
  let own ← Given.none.readAll words
  return ⟨g.has .verbose || own.has .verbose, action, ← own.arguments⟩

/-- Read the words before a command. -/
def readFrom (g : Given) : List String → Except UsageStop Command
  | [] => .error (if g.flags.isEmpty then .displayHelpOnMissing else .missingSubcommand)
  | word :: rest =>
    match Action.ofName? word with
    | some action => ofAction g action rest
    | none =>
      if word = "help" then .error (help rest)
      else
        match word.toList with
        | ['-', '-'] =>
          match rest with
          | [] => readFrom g []
          | next :: _ => .error (if isName next then .unknownArgument else .invalidSubcommand)
        | '-' :: '-' :: long => do readFrom (← g.readLong .ofProgram long) rest
        | '-' :: c :: short => do readFrom (← g.readShort .ofProgram (c :: short)) rest
        | _ => .error .invalidSubcommand

/-- How the program is used. -/
def helpText : String :=
  Text.joinStrings "\n" [
    "Generate source files from an OpenAPI description",
    "",
    "Usage: " ++ Product.name ++ " [OPTIONS] <COMMAND>",
    "",
    "Commands:",
    "  generate  Generate model, API and supporting files",
    "  bundle    Print the supporting-file bundle as JSON; nothing is written",
    "  help      Print this message",
    "",
    "Options:",
    "  -v, --verbose  Log at debug level",
    "  -h, --help     Print help",
    "  -V, --version  Print version",
    "",
    "Options of commands:",
    "  -s, --spec <SPEC>                 The OpenAPI description (YAML or JSON)",
    "  -m, --manifest <MANIFEST>         Backend manifest",
    "  -o, --output <OUTPUT>             Override the output directory of the manifest",
    "      --apis [<TAGS>]               Generate API files, for these tags or all",
    "      --models [<SCHEMAS>]          Generate models, for these schemas or all",
    "      --supporting-files [<FILES>]  Generate supporting files, these or all",
    "      --no-model-tests, --no-model-docs, --no-api-tests, --no-api-docs",
    "      --no-metadata                 Skip the ignore-rule file and version stamp",
    "      --ignore-file <FILE>          Use this ignore-rule file",
    "      --dry-run                     Show what would be written",
    "  -D, --define <KEY=VALUE>          Extra template property (repeatable)",
    ""]

/-- The command that the words of a command line make. -/
def parse (words : List String) : Except UsageStop Command := readFrom Given.none words

end Command

end ApiForge
