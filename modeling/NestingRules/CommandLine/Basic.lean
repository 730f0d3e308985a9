import NestingRules.Command.Generate

/-!
# The language of the command line

A command line is the program's own options, the name of a command and the options of the command.
Some options are global: they may stand on either side of the name.  What one side gives is a
`Settings`, in which every option has at most one value.
-/

namespace NestingRules

/-- Why a command line is not carried out. -/
inductive UsageError where
  /-- A value is missing or is none of those allowed. -/
  | invalidValue
  | unknownArgument
  | invalidSubcommand
  /-- An option that takes no value has one. -/
  | tooManyValues
  /-- A value cannot be read. -/
  | valueValidation
  /-- Options exclude each other, or one that has a value is given another. -/
  | argumentConflict
  | missingRequiredArgument
  | missingSubcommand
  /-- There is nothing on the command line. -/
  | displayHelpOnMissingArgumentOrSubcommand
  /-- Help is asked for. -/
  | displayHelp
  /-- The version is asked for. -/
  | displayVersion
  deriving DecidableEq, Repr

/-- When to colour what goes to a terminal. -/
inductive ColorChoice where
  | auto
  | always
  | never
  deriving DecidableEq, Repr

namespace ColorChoice

/-- Every choice. -/
def all : List ColorChoice := [auto, always, never]

/-- The name of the choice. -/
def name : ColorChoice → String
  | auto => "auto"
  | always => "always"
  | never => "never"

end ColorChoice

namespace CommandLine

/-- The part of a command line that options belong to. -/
inductive Scope where
  /-- Before the name of the command. -/
  | root
  | generate
  | roles
  deriving DecidableEq, Repr

/-- An argument: an option, or the input of the command that has one. -/
inductive Argument where
  | verbose
  | quiet
  | color
  | logLevel
  | logFormat
  | logFile
  | help
  | version
  | out
  | pdfVersion
  | name
  | description
  | creator
  | delimiter
  | input
  deriving DecidableEq, Repr

namespace Argument

/-- The long name of an option. -/
def long? : Argument → Option String
  | verbose => some "verbose"
  | quiet => some "quiet"
  | color => some "color"
  | logLevel => some "log-level"
  | logFormat => some "log-format"
  | logFile => some "log-file"
  | help => some "help"
  | version => some "version"
  | out => some "out"
  | pdfVersion => some "pdf-version"
  | name => some "name"
  | description => some "description"
  | creator => some "creator"
  | delimiter => some "delimiter"
  | input => none

/-- The letter of an option. -/
def short? : Argument → Option Char
  | verbose => some 'v'
  | quiet => some 'q'
  | help => some 'h'
  | version => some 'V'
  | out => some 'o'
  | pdfVersion => some 'p'
  | color | logLevel | logFormat | logFile | name | description | creator | delimiter | input =>
    none

/-- The argument takes a value. -/
def takesValue : Argument → Bool
  | verbose | quiet | help | version => false
  | color | logLevel | logFormat | logFile | out | pdfVersion | name | description | creator
  | delimiter | input => true

end Argument

namespace Scope

/-- The commands. -/
def commands : List Scope := [generate, roles]

/-- The name of a command. -/
def name : Scope → String
  | root => "tagrel"
  | generate => "generate"
  | roles => "roles"

/-- The command with this name. -/
def ofName? (s : String) : Option Scope := commands.find? (·.name == s)

/-- The word has the place of a command: it names one, or asks for help. -/
def isCommandWord (s : String) : Bool := s == "help" || (ofName? s).isSome

/-- The options that may stand in every part. -/
def globalOptions : List Argument :=
  [.verbose, .quiet, .color, .logLevel, .logFormat, .logFile, .help]

/-- The options that may stand in a part. -/
def options : Scope → List Argument
  | root => globalOptions ++ [.version]
  | generate =>
    globalOptions ++ [.out, .pdfVersion, .name, .description, .creator, .delimiter]
  | roles => globalOptions ++ [.pdfVersion]

/-- The option of a part with this long name. -/
def long? (s : Scope) (name : String) : Option Argument :=
  s.options.find? fun a => a.long? == some name

/-- The option of a part with this letter. -/
def short? (s : Scope) (letter : Char) : Option Argument :=
  s.options.find? fun a => a.short? == some letter

/-- The number of arguments of a part that are no options. -/
def positionals : Scope → Nat
  | root | roles => 0
  | generate => 1

end Scope

/-! ### Settings -/

/-- What one part of a command line gives. -/
structure Settings where
  /-- How often more was asked for. -/
  verbose : Nat := 0
  /-- How often less was asked for. -/
  quiet : Nat := 0
  color : Option ColorChoice := none
  logLevel : Option Level := none
  logFormat : Option LogFormat := none
  logFile : Option String := none
  out : Option String := none
  pdfVersion : Option Revision := none
  name : Option String := none
  description : Option String := none
  creator : Option String := none
  delimiter : Option Char := none
  input : Option String := none
  deriving DecidableEq, Repr

/-- Read a path, which is not empty. -/
def path (v : String) : Except UsageError String :=
  if v.isEmpty then .error .invalidValue else .ok v

/-- Read one of the names that are allowed. -/
def choice {α : Type} (all : List α) (name : α → String) (v : String) : Except UsageError α :=
  match all.find? (name · == v) with
  | some a => .ok a
  | none => .error .invalidValue

/-- Read a revision. -/
def revision (v : String) : Except UsageError Revision :=
  match Revision.parse v with
  | .ok r => .ok r
  | .error _ => .error .valueValidation

/-- Read a text of one character. -/
def character (v : String) : Except UsageError Char :=
  match v.toList with
  | [c] => .ok c
  | _ => .error .valueValidation

/-- The value of an argument that has none so far. -/
def first {α : Type} (old : Option α) (read : String → Except UsageError α) (v : String) :
    Except UsageError (Option α) :=
  if old.isSome then .error .argumentConflict else (read v).map some

namespace Settings

/-- Count an option once more, up to the largest byte. -/
def count (s : Settings) : Argument → Except UsageError Settings
  | .verbose => .ok { s with verbose := min 255 (s.verbose + 1) }
  | .quiet => .ok { s with quiet := min 255 (s.quiet + 1) }
  | .help => .error .displayHelp
  | .version => .error .displayVersion
  | _ => .ok s

/-- Give a value to an argument that takes one. -/
def give (s : Settings) (a : Argument) (v : String) : Except UsageError Settings :=
  match a with
  | .color => (first s.color (choice ColorChoice.all (·.name)) v).map ({ s with color := · })
  | .logLevel => (first s.logLevel (choice Level.all (·.name)) v).map ({ s with logLevel := · })
  | .logFormat =>
    (first s.logFormat (choice LogFormat.all (·.name)) v).map ({ s with logFormat := · })
  | .logFile => (first s.logFile path v).map ({ s with logFile := · })
  | .out => (first s.out path v).map ({ s with out := · })
  | .pdfVersion => (first s.pdfVersion revision v).map ({ s with pdfVersion := · })
  | .name => (first s.name .ok v).map ({ s with name := · })
  | .description => (first s.description .ok v).map ({ s with description := · })
  | .creator => (first s.creator .ok v).map ({ s with creator := · })
  | .delimiter => (first s.delimiter character v).map ({ s with delimiter := · })
  | .input => (first s.input path v).map ({ s with input := · })
  | .verbose | .quiet | .help | .version => .ok s

/-- The global options of both parts together; on the side of the command they weigh more. -/
def merge (root command : Settings) : Settings :=
  { command with
    verbose := if command.verbose = 0 then root.verbose else command.verbose
    quiet := if command.quiet = 0 then root.quiet else command.quiet
    color := command.color <|> root.color
    logLevel := command.logLevel <|> root.logLevel
    logFormat := command.logFormat <|> root.logFormat
    logFile := command.logFile <|> root.logFile }

end Settings

end CommandLine

end NestingRules
