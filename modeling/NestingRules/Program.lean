import NestingRules.Command.Tables
import NestingRules.CommandLine.Parser

/-!
# The program

A run of the program reads its command line, opens the log, carries out the command and answers with
an exit code and two texts.  Everything it needs of the world is given: the arguments, the filter of
the environment, the clock and the operations on files.
-/

namespace NestingRules

namespace Program

/-- What a run is given, files aside. -/
structure Invocation where
  args : List String
  /-- The filter of the environment. -/
  filter : Option String
  clock : Clock
  /-- The error output is a terminal. -/
  terminal : Bool

/-- The answer of a run. -/
structure Answer where
  exit : UInt8
  stdout : String
  stderr : String
  deriving DecidableEq, Repr

/-- The name and version of the program. -/
def version : String := "tagrel 0.1.0"

/-- A reminder of how the program is called. -/
def usage : String :=
  "usage: tagrel [OPTIONS] generate INPUT_CSV [-o FILE] [-p VERSION] [--name NAME]\n" ++
    "         [--description TEXT] [--creator NAME] [--delimiter CHAR]\n" ++
    "       tagrel [OPTIONS] roles [-p VERSION]\n" ++
    "options: -v, -q, --color WHEN, --log-level LEVEL, --log-format FORMAT, --log-file PATH\n"

/-- The answer to a command line that is not carried out. -/
def refusal : UsageError → Answer
  | .displayHelp => ⟨0, usage, ""⟩
  | .displayVersion => ⟨0, version ++ "\n", ""⟩
  | .displayHelpOnMissingArgumentOrSubcommand => ⟨2, "", usage⟩
  | _ => ⟨2, "", "error: the command line is not understood\n" ++ usage⟩

/-- The filter of a log.  One in the environment that cannot be read does not count. -/
def filterOf (c : CommandLine.LogConfig) (environment : Option String) : LogFilter :=
  let own := LogFilter.ofVerbosity c.verbosity
  if c.useEnvironment then (environment.bind LogFilter.parse?).getD own else own

section Run

variable {m : Type → Type} [Monad m] (files : FileAccess m)

/-- Open the log, which is made if it is a file that does not exist. -/
def openLog (c : CommandLine.LogConfig) : m (Except FileError Unit) :=
  match c.file with
  | none => pure (.ok ())
  | some path => files.append path []

/-- The state of a log while the program runs. -/
structure LogState where
  /-- The spans that have been entered and not left, the innermost first. -/
  stack : List OpenSpan := []
  /-- What went to the error output, the last line first. -/
  lines : List String := []

/-- Write what is heard of a step. -/
def log (c : CommandLine.LogConfig) (filter : LogFilter) (clock : Clock) (step : TraceStep) :
    StateT LogState m Unit := do
  let s ← get
  let (stack, entry) := filter.hear s.stack step
  let text := LogStyle.text { format := c.format, ansi := c.ansi } clock entry.toList
  match c.file with
  | none => set ({ stack, lines := text :: s.lines } : LogState)
  | some path => do
    set { s with stack }
    unless text.isEmpty do
      let _ ← files.lift.append path (Text.Utf8.encode text.toList)

/-- Generate a profile.  It goes to the output if no file is named for it, and otherwise the
summary does. -/
def generate (args : GenerateArgs) (c : CommandLine.LogConfig) (i : Invocation) : m Answer := do
  let filter := filterOf c i.filter
  let (result, s) ← (Generate.run files.lift (log files c filter i.clock) args i.clock).run {}
  let stderr := String.join s.lines.reverse
  match result with
  | .ok o => return ⟨0, if o.output.isSome then o.summary else o.text, stderr⟩
  | .error e => return ⟨1, "", stderr ++ "error: " ++ e.message ++ "\n"⟩

/-- Run the program. -/
def run (i : Invocation) : m Answer := do
  match CommandLine.parse i.args i.terminal with
  | .error e => return refusal e
  | .ok (command, c) =>
    match ← openLog files c with
    | .error e => return ⟨1, "", "error: failed to initialize logging: " ++ e.message ++ "\n"⟩
    | .ok () =>
      match command with
      | .roles revision => return ⟨0, Role.listingText revision, ""⟩
      | .generate args => generate files args c i

end Run

end Program

end NestingRules
