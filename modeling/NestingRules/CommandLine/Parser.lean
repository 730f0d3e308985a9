import NestingRules.CommandLine.Basic

/-!
# Reading command lines

The arguments are read from left to right.  An option that takes a value takes the rest of its own
argument, or else the argument after it, unless that looks like an option.  A value is only read when
the next argument has been recognised, so that a fault in a name is found before one in a value in
front of it.  Two hyphens alone end the options.
-/

namespace NestingRules.CommandLine

/-- An argument whose value has not been read yet. -/
structure Pending where
  argument : Argument
  /-- The value, if it has been given. -/
  value : Option String
  deriving DecidableEq, Repr

/-- What has been read of a part of a command line. -/
structure Progress where
  settings : Settings := {}
  pending : Option Pending := none
  /-- Two hyphens have ended the options. -/
  trailing : Bool := false
  /-- How many arguments were no options. -/
  positionals : Nat := 0
  deriving DecidableEq, Repr

namespace Progress

/-- The argument to come is a value. -/
def awaitsValue (p : Progress) : Bool := p.pending.any (·.value.isNone)

/-- Read the value that has not been read yet. -/
def resolve (p : Progress) : Except UsageError Progress :=
  match p.pending with
  | none => .ok p
  | some ⟨_, none⟩ => .error .invalidValue
  | some ⟨a, some v⟩ => (p.settings.give a v).map ({ p with settings := ·, pending := none })

/-- An option without a value. -/
def flag (p : Progress) (a : Argument) : Except UsageError Progress := do
  let p ← p.resolve
  return { p with settings := ← p.settings.count a }

/-- An option with the value in its own argument. -/
def attached (p : Progress) (a : Argument) (v : String) : Except UsageError Progress := do
  let p ← p.resolve
  return { p with settings := ← p.settings.give a v }

/-- An option with the value still to come. -/
def opened (p : Progress) (a : Argument) : Except UsageError Progress := do
  let p ← p.resolve
  return { p with pending := some ⟨a, none⟩ }

/-- An argument after two hyphens: a long name, perhaps with an equals sign and a value. -/
def long (scope : Scope) (p : Progress) (cs : List Char) : Except UsageError Progress :=
  let name := cs.takeWhile (· != '=')
  match scope.long? (String.ofList name), cs.drop name.length with
  | none, _ => .error .unknownArgument
  | some a, [] => if a.takesValue then p.opened a else p.flag a
  | some a, _ :: v =>
    if a.takesValue then p.attached a (String.ofList v) else .error .tooManyValues

/-- An argument after one hyphen: letters, of which the last one may have its value behind it. -/
def short (scope : Scope) : Progress → List Char → Except UsageError Progress
  | p, [] => .ok p
  | p, c :: cs =>
    match scope.short? c with
    | none => .error .unknownArgument
    | some a =>
      if a.takesValue then
        match cs with
        | [] => p.opened a
        | '=' :: v => p.attached a (String.ofList v)
        | v => p.attached a (String.ofList v)
      else do
        let p ← p.flag a
        short scope p cs

/-- An argument that is no option and no value of one. -/
def positional (scope : Scope) (p : Progress) (arg : String) : Except UsageError Progress :=
  if p.positionals < scope.positionals then do
    let p ← p.resolve
    return { p with pending := some ⟨.input, some arg⟩, positionals := p.positionals + 1 }
  else if scope = .root && !(p.trailing && Scope.isCommandWord arg) then
    .error .invalidSubcommand
  else .error .unknownArgument

/-- An argument of any kind. -/
def argument (scope : Scope) (p : Progress) (arg : String) : Except UsageError Progress :=
  if p.trailing then p.positional scope arg
  else
    match arg.toList, p.pending with
    | ['-', '-'], _ => .ok { p with trailing := true }
    | '-' :: '-' :: cs, _ => p.long scope cs
    | '-' :: c :: cs, _ => p.short scope (c :: cs)
    | _, some ⟨a, none⟩ => .ok { p with pending := some ⟨a, some arg⟩ }
    | _, _ => p.positional scope arg

/-- The settings, if no two of them exclude each other. -/
def finish (p : Progress) : Except UsageError Settings := do
  let p ← p.resolve
  if 0 < p.settings.verbose && 0 < p.settings.quiet then .error .argumentConflict
  else return p.settings

end Progress

/-- The settings behind the name of a command. -/
def commandSettings (scope : Scope) (args : List String) : Except UsageError Settings := do
  let p ← args.foldlM (Progress.argument scope) {}
  let s ← p.finish
  if scope = .generate && s.input.isNone then .error .missingRequiredArgument else return s

/-- What is asked for when the first word is a request for help. -/
def helpRequest : List String → UsageError
  | [] => .displayHelp
  | [name] => if Scope.isCommandWord name then .displayHelp else .invalidSubcommand
  | _ => .invalidSubcommand

/-- The command of a command line and its settings, where some of the line has been read. -/
def parseFrom (p : Progress) : List String → Except UsageError (Scope × Settings)
  | [] => do
    let p ← p.resolve
    if p.settings = {} then .error .displayHelpOnMissingArgumentOrSubcommand
    else .error .missingSubcommand
  | arg :: args =>
    if p.trailing || p.awaitsValue then do
      let p ← p.argument .root arg
      parseFrom p args
    else if arg = "help" then .error (helpRequest args)
    else
      match Scope.ofName? arg with
      | some scope => do
        let command ← commandSettings scope args
        let root ← p.finish
        return (scope, root.merge command)
      | none => do
        let p ← p.argument .root arg
        parseFrom p args

/-- The command of a command line and its settings. -/
def settings (args : List String) : Except UsageError (Scope × Settings) := parseFrom {} args

/-! ### What is to be done -/

/-- A command with its arguments. -/
inductive Command where
  | generate (args : GenerateArgs)
  | roles (revision : Revision)
  deriving DecidableEq, Repr

/-- Where the log goes and what it shows. -/
structure LogConfig where
  /-- How much of the program is heard. -/
  verbosity : Verbosity
  /-- A filter in the environment takes the place of the verbosity. -/
  useEnvironment : Bool
  format : LogFormat
  ansi : Bool
  /-- The file of the log; none is the error output. -/
  file : Option String
  deriving DecidableEq, Repr

namespace Settings

/-- The arguments for generating a profile. -/
def generateArgs (s : Settings) : GenerateArgs :=
  let metadata : Metadata := {}
  { input := s.input.getD ""
    out := s.out
    revision := s.pdfVersion.getD default
    metadata := ⟨s.name.getD metadata.name, s.description.getD metadata.description,
      s.creator.getD metadata.creator⟩
    delimiter := s.delimiter.getD ',' }

/-- The level that is asked for by name, or else warnings and as many levels more or fewer as asked
for. -/
def verbosity (s : Settings) : Verbosity :=
  match s.logLevel with
  | some l => some l
  | none => Level.ofRank? (Level.warn.rank + s.verbose - s.quiet)

/-- Where the log goes and what it shows.  Without a choice, only a terminal gets colours. -/
def logConfig (s : Settings) (terminal : Bool) : LogConfig where
  verbosity := s.verbosity
  useEnvironment := s.verbose = 0 && s.quiet = 0 && s.logLevel.isNone
  format := s.logFormat.getD .full
  ansi := match s.color.getD .auto with
    | .always => true
    | .never => false
    | .auto => s.logFile.isNone && terminal
  file := s.logFile

/-- The command that is asked for. -/
def command (s : Settings) : Scope → Command
  | .roles => .roles (s.pdfVersion.getD default)
  | .root | .generate => .generate s.generateArgs

end Settings

/-- What a command line asks for. -/
def parse (args : List String) (terminal : Bool) : Except UsageError (Command × LogConfig) :=
  (settings args).map fun r => (r.2.command r.1, r.2.logConfig terminal)

end NestingRules.CommandLine
