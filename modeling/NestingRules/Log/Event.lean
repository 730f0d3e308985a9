import NestingRules.Applicability
import NestingRules.Rule.Basic

/-!
# Events, spans and traces

While it works, the program says what it does.  An `Event` is one such message with its data; a
`Span` is a stretch of work inside which events happen.  A `Trace` is the sequence of both, and it is
a value like any other: whether and how it is written is decided elsewhere.
-/

namespace NestingRules

/-- How important an event is, from the most to the least. -/
inductive Level where
  | error
  | warn
  | info
  | debug
  | trace
  deriving DecidableEq, Repr

namespace Level

/-- Every level, the most important first. -/
def all : List Level := [error, warn, info, debug, trace]

/-- The name of the level. -/
def name : Level → String
  | error => "error"
  | warn => "warn"
  | info => "info"
  | debug => "debug"
  | trace => "trace"

/-- How verbose one must be to hear of the level. -/
def rank : Level → Nat
  | error => 1
  | warn => 2
  | info => 3
  | debug => 4
  | trace => 5

/-- The level with this rank; every rank from five on is that of the least important level, and
zero is silence. -/
def ofRank? : Nat → Option Level
  | 0 => none
  | 1 => some error
  | 2 => some warn
  | 3 => some info
  | 4 => some debug
  | _ => some trace

end Level

/-- The least important level that is heard; `none` is silence. -/
abbrev Verbosity := Option Level

namespace Verbosity

/-- Zero for silence, and otherwise the rank of the level. -/
def rank (v : Verbosity) : Nat := v.elim 0 Level.rank

/-- A level is heard. -/
def admits (v : Verbosity) (l : Level) : Bool := l.rank ≤ v.rank

/-- The name of the verbosity. -/
def name (v : Verbosity) : String := v.elim "off" Level.name

end Verbosity

/-- A piece of data in an event or a span. -/
inductive FieldValue where
  | text (s : String)
  | number (n : Nat)
  deriving DecidableEq, Repr

/-- The data as text. -/
def FieldValue.display : FieldValue → String
  | text s => s
  | number n => toString n

/-- One message about the work. -/
inductive Event where
  /-- A row of a table has the wrong width or no parent. -/
  | rowIgnored (row width expected : Nat)
  /-- A table was read from a file. -/
  | tableLoaded (path : String) (relations ignoredRows : Nat)
  /-- What a table holds. -/
  | tableSurveyed (relations parents children ignoredRows : Nat)
  /-- A relation asks for no rule. -/
  | relationSkipped (relation : Relation) (revision : Revision) (reason : SkipReason)
  /-- A relation asks for a rule but has none. -/
  | noRule (relation : Relation)
  /-- A relation has a rule. -/
  | ruleSynthesized (relation : Relation) (id : RuleId) (object : String)
  /-- The id of a rule was taken. -/
  | duplicateId (relation : Relation) (id : RuleId)
  /-- A profile is complete. -/
  | profileCompiled (flavour : Flavour)
      (rules catalog synthesized skipped unhandled milliseconds : Nat)
  /-- A profile was delivered. -/
  | profileWritten (bytes milliseconds : Nat)
  deriving DecidableEq, Repr

namespace Event

/-- How important the event is. -/
def level : Event → Level
  | relationSkipped .. | noRule .. => .warn
  | tableSurveyed .. | profileCompiled .. => .info
  | rowIgnored .. | tableLoaded .. | ruleSynthesized .. | duplicateId .. | profileWritten .. =>
    .debug

/-- The part of the program that the event comes from. -/
def target : Event → String
  | rowIgnored .. | tableLoaded .. => "tagrel_standards::table"
  | tableSurveyed .. | profileWritten .. => "tagrel_cli::commands"
  | relationSkipped .. => "tagrel_rules::filter"
  | noRule .. | ruleSynthesized .. => "tagrel_rules::synthesize"
  | duplicateId .. | profileCompiled .. => "tagrel_rules::assemble"

/-- What the event says. -/
def message : Event → String
  | rowIgnored .. => "ignoring relation table row"
  | tableLoaded .. => "loaded relation table"
  | tableSurveyed .. => "relation table loaded"
  | relationSkipped .. => "skipping relation"
  | noRule .. => "no rule produced"
  | ruleSynthesized .. => "synthesized rule"
  | duplicateId .. => "duplicate rule id"
  | profileCompiled .. => "profile compiled"
  | profileWritten .. => "profile written"

/-- The data of the event.  Durations count as text, for they may exceed the numbers that readers of
logs take. -/
def fields : Event → List (String × FieldValue)
  | rowIgnored row width expected =>
    [("row", .number row), ("width", .number width), ("expected", .number expected)]
  | tableLoaded path relations ignoredRows =>
    [("path", .text path), ("entries", .number relations), ("ignored_rows", .number ignoredRows)]
  | tableSurveyed relations parents children ignoredRows =>
    [("entries", .number relations), ("parents", .number parents),
      ("children", .number children), ("ignored_rows", .number ignoredRows)]
  | relationSkipped relation revision reason =>
    [("relation", .text relation.description), ("revision", .text revision.label),
      ("reason", .text reason.text)]
  | noRule relation => [("relation", .text relation.description)]
  | ruleSynthesized relation id object =>
    [("relation", .text relation.description), ("id", .text id.text), ("object", .text object)]
  | duplicateId relation id => [("relation", .text relation.description), ("id", .text id.text)]
  | profileCompiled flavour rules catalog synthesized skipped unhandled milliseconds =>
    [("flavour", .text flavour.label), ("rules", .number rules), ("catalog", .number catalog),
      ("synthesized", .number synthesized), ("skipped", .number skipped),
      ("unhandled", .number unhandled), ("duration_ms", .text (toString milliseconds))]
  | profileWritten bytes milliseconds =>
    [("bytes", .number bytes), ("duration_ms", .text (toString milliseconds))]

/-- The names of the data of the event, the message among them. -/
def fieldNames (e : Event) : List String := "message" :: e.fields.map (·.1)

end Event

/-- A stretch of work. -/
inductive Span where
  /-- A whole run on an input file. -/
  | run (input : String)
  /-- The making of a profile. -/
  | compilation (revision : Revision) (relations : Nat)
  /-- The making of the rule set of a profile. -/
  | generation
  deriving DecidableEq, Repr

namespace Span

/-- Spans are as important as summaries. -/
def level : Level := .info

/-- The part of the program that the span comes from. -/
def target : Span → String
  | run .. => "tagrel_cli::commands"
  | compilation .. | generation => "tagrel_rules::assemble"

/-- The name of the span. -/
def name : Span → String
  | run .. | generation => "generate"
  | compilation .. => "compile"

/-- The data of the span. -/
def fields : Span → List (String × FieldValue)
  | run input => [("input", .text input)]
  | compilation revision relations =>
    [("revision", .text revision.label), ("entries", .number relations)]
  | generation => []

end Span

/-- A step of a trace. -/
inductive TraceStep where
  | enter (s : Span)
  | emit (e : Event)
  /-- Leave the span that was entered last. -/
  | leave
  deriving DecidableEq, Repr

/-- What happened, in order. -/
abbrev Trace := List TraceStep

namespace Trace

/-- Events one after the other. -/
def ofEvents (es : List Event) : Trace := es.map .emit

/-- What happened inside a span. -/
def within (s : Span) (t : Trace) : Trace := .enter s :: t ++ [.leave]

/-- The events of a trace. -/
def events (t : Trace) : List Event :=
  t.filterMap fun
    | .emit e => some e
    | _ => none

end Trace

end NestingRules
