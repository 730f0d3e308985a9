import NestingRules.Compilation
import NestingRules.Log.Format
import NestingRules.RelationTable

/-!
# Generating a profile from a table

The command reads a relation table, compiles its relations and delivers the text of the profile, to a
file if one is named.  Everything is complete before the file is touched, so that a failure leaves no
part of a profile behind.
-/

namespace NestingRules

/-- What to generate a profile from, and how. -/
structure GenerateArgs where
  /-- The path of the table. -/
  input : String
  /-- The path of the profile. -/
  out : Option String := none
  revision : Revision := default
  metadata : Metadata := {}
  /-- The delimiter of the fields of the table. -/
  delimiter : Char := ','
  deriving DecidableEq, Repr

/-- Why there is no profile. -/
inductive GenerateError where
  /-- The delimiter is no single byte. -/
  | delimiter (c : Char)
  | table (path : String) (e : TableError)
  | wording (e : ArityError)
  | output (path : String) (e : FileError)
  deriving DecidableEq, Repr

namespace GenerateError

/-- The error in words, from what was to be done down to what is behind it. -/
def chain : GenerateError → List String
  | delimiter c => ["delimiter must be a single ASCII character, got " ++ Text.quotedChar c]
  | table path e => ["load relation table " ++ path, e.message] ++ e.cause?.toList
  | wording e => ["compile profile", e.message]
  | output path e => ["write " ++ path, e.message]

/-- The error in one line. -/
def message (e : GenerateError) : String := ": ".intercalate e.chain

end GenerateError

/-- What was made. -/
structure GenerateOutcome where
  profile : Profile
  report : Report
  /-- The path of the profile. -/
  output : Option String
  /-- The number of parents in the table. -/
  parents : Nat
  ignoredRows : Nat
  deriving DecidableEq

namespace GenerateOutcome

/-- The text of the profile. -/
def text (o : GenerateOutcome) : String := o.profile.serialize

/-- The bytes of the profile. -/
def bytes (o : GenerateOutcome) : List UInt8 := Text.Utf8.encode o.text.toList

end GenerateOutcome

namespace Generate

/-- The delimiter as a byte. -/
def delimiterByte (c : Char) : Except GenerateError UInt8 :=
  if c.toNat < 128 then .ok (UInt8.ofNat c.toNat) else .error (.delimiter c)

/-- How to compile what the arguments ask for. -/
def options (args : GenerateArgs) (clock : Clock) : CompileOptions where
  revision := args.revision
  metadata := args.metadata
  created := clock.now
  milliseconds := clock.milliseconds

/-- The outcome for a table, and what happens on the way. -/
def ofTable (args : GenerateArgs) (clock : Clock) (t : RelationTable) :
    Trace × Except GenerateError GenerateOutcome :=
  let parents := t.parents.length
  let survey : TraceStep :=
    .emit (.tableSurveyed t.relations.length parents t.children.length t.ignoredRows)
  match compile (options args clock) t.relations with
  | .error e => ([survey], .error (.wording e))
  | .ok c => (survey :: c.trace, .ok ⟨c.profile, c.report, args.out, parents, t.ignoredRows⟩)

/-- Deliver a profile to the file that is named, if one is. -/
def deliver {m : Type → Type} [Monad m] (files : FileAccess m) (o : GenerateOutcome) :
    m (Except GenerateError Unit) :=
  match o.output with
  | none => pure (.ok ())
  | some path => do
    return match ← files.write path o.bytes with
      | .ok () => .ok ()
      | .error e => .error (.output path e)

section Run

variable {m : Type → Type} [Monad m] (files : FileAccess m) (say : TraceStep → m Unit)

/-- Make a profile and deliver it. -/
def make (args : GenerateArgs) (clock : Clock) : m (Except GenerateError GenerateOutcome) := do
  match delimiterByte args.delimiter with
  | .error e => return .error e
  | .ok delimiter =>
    match ← RelationTable.load files (fun e => say (.emit e)) delimiter args.input with
    | .error e => return .error (.table args.input e)
    | .ok t =>
      let (trace, result) := ofTable args clock t
      trace.forM say
      match result with
      | .error e => return .error e
      | .ok o =>
        match ← deliver files o with
        | .error e => return .error e
        | .ok () =>
          say (.emit (.profileWritten o.bytes.length clock.milliseconds))
          return .ok o

/-- Run the command on files.  Each step of what happens is told to `say` when it happens. -/
def run (args : GenerateArgs) (clock : Clock) : m (Except GenerateError GenerateOutcome) := do
  say (.enter (.run args.input))
  let result ← make files say args clock
  say .leave
  return result

end Run

end Generate

end NestingRules
