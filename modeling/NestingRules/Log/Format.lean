import NestingRules.Instant.Rfc3339
import NestingRules.Json.Basic
import NestingRules.Log.Filter

/-!
# Lines of a log

A log entry is written on one line, in one of three formats: the full format names the spans with
their data before the message, the compact format puts the data of the spans after it, and the JSON
format is an object for each entry.  Only the JSON format shows times and the closing of spans, and
only the other two can be coloured.
-/

namespace NestingRules

/-- How entries are laid out. -/
inductive LogFormat where
  | full
  | compact
  | json
  deriving DecidableEq, Repr

namespace LogFormat

/-- Every format, the usual one first. -/
def all : List LogFormat := [full, compact, json]

/-- The name of the format. -/
def name : LogFormat → String
  | full => "pretty"
  | compact => "compact"
  | json => "json"

end LogFormat

/-- What a line shows beside the entry. -/
structure LogStyle where
  format : LogFormat
  /-- Colours and emphasis by terminal escapes. -/
  ansi : Bool := false
  /-- The part of the program that an event comes from. -/
  target : Bool := false
  deriving DecidableEq, Repr

/-- What the clock says. -/
structure Clock where
  now : Instant
  /-- Nanoseconds for which work has gone on. -/
  elapsed : Nat
  deriving DecidableEq

namespace Clock

/-- The elapsed time in whole milliseconds. -/
def milliseconds (c : Clock) : Nat := c.elapsed / 1000000

/-- The time of day with six digits of a fraction. -/
def stamp (c : Clock) : String :=
  let t := c.now
  String.ofList (Instant.yearChars t.date.year ++ '-' :: Instant.padded 2 t.date.month ++
    '-' :: Instant.padded 2 t.date.day ++ 'T' :: Instant.padded 2 t.hour ++
    ':' :: Instant.padded 2 t.minute ++ ':' :: Instant.padded 2 t.second ++
    '.' :: Instant.padded 6 (t.nanosecond / 1000) ++ ['Z'])

/-- The elapsed time in milliseconds, with two digits of a fraction. -/
def span (c : Clock) : String :=
  String.ofList (Nat.toDigits 10 c.milliseconds ++
    '.' :: Instant.padded 2 (c.elapsed % 1000000 / 10000)) ++ "ms"

end Clock

namespace LogStyle

variable (s : LogStyle)

/-- A text between the terminal escape `code` and the one that ends it, if there are escapes. -/
def painted (code text : String) : String :=
  if s.ansi then "\x1b[" ++ code ++ "m" ++ text ++ "\x1b[0m" else text

/-- A text in bold. -/
def bold (text : String) : String := s.painted "1" text

/-- A text that stands back. -/
def dimmed (text : String) : String := s.painted "2" text

/-- A text in italics. -/
def italic (text : String) : String := s.painted "3" text

/-- A level in five columns, in its colour. -/
def level : Level → String
  | .error => s.painted "31" "ERROR"
  | .warn => s.painted "33" " WARN"
  | .info => s.painted "32" " INFO"
  | .debug => s.painted "34" "DEBUG"
  | .trace => s.painted "35" "TRACE"

/-- A named piece of data. -/
def field (f : String × FieldValue) : String :=
  s.italic f.1 ++ s.dimmed "=" ++ f.2.display

/-- Named pieces of data. -/
def fields (fs : List (String × FieldValue)) : String := " ".intercalate (fs.map s.field)

/-- The message of an event with its data. -/
def body (e : Event) : String := " ".intercalate (e.message :: e.fields.map s.field)

/-- A span before a message of the full format. -/
def fullSpan (sp : Span) : String :=
  s.bold sp.name ++
    (if sp.fields.isEmpty then "" else s.bold "\x7b" ++ s.fields sp.fields ++ s.bold "\x7d") ++
    s.dimmed ":"

/-- The spans before a message, each written by `f`, and a blank if there are any. -/
def scope (f : Span → String) (sps : List Span) : String :=
  if sps.isEmpty then "" else String.join (sps.map f) ++ " "

/-- The target before a message, if it is shown. -/
def targetOf (e : Event) : String :=
  if s.target then s.dimmed e.target ++ s.dimmed ":" ++ " " else ""

/-- The line of the full format for an event. -/
def fullLine (sps : List Span) (e : Event) : String :=
  s.level e.level ++ " " ++ scope s.fullSpan sps ++ s.targetOf e ++ s.body e

/-- The line of the compact format for an event. -/
def compactLine (sps : List Span) (e : Event) : String :=
  s.level e.level ++ " " ++ scope (fun sp => s.bold sp.name ++ ":") sps ++ s.targetOf e ++
    s.body e ++
    String.join ((sps.filter (!·.fields.isEmpty)).map fun sp =>
      " " ++ s.dimmed (s.fields sp.fields))

/-! ### The JSON format -/

/-- The data as JSON. -/
def valueJson : FieldValue → Json
  | .text t => .text t
  | .number n => .nat n

/-- A span as an object, its data in ascending order of names and its own name last. -/
def spanJson (sp : Span) : Json :=
  .record (((sp.fields.mergeSort fun a b => decide (a.1 ≤ b.1)).map fun f =>
    (f.1, valueJson f.2)) ++ [("name", .text sp.name)])

/-- The spans of an entry: the innermost one, and all those around the present point. -/
def scopeJson : (innermost : Option Span) → (around : List Span) → List (String × Json)
  | none, _ => []
  | some sp, around => [("span", spanJson sp), ("spans", .array (around.map spanJson))]

/-- The level of an occurrence. -/
def occurrenceLevel : Occurrence → Level
  | .event e => e.level
  | .closed _ => Span.level

/-- The message of an occurrence with its data.  A span that was left tells how long it was busy. -/
def occurrenceFields (c : Clock) : Occurrence → List (String × Json)
  | .event e => ("message", .text e.message) :: e.fields.map fun f => (f.1, valueJson f.2)
  | .closed _ =>
    [("message", .text "close"), ("time.busy", .text c.span), ("time.idle", .text c.span)]

/-- The span that an entry is about: the one left, or the innermost one around an event. -/
def entrySpan? (l : LogEntry) : Option Span :=
  match l.occurrence with
  | .event _ => l.scope.getLast?
  | .closed sp => some sp

/-- The object of an entry. -/
def entryJson (c : Clock) (l : LogEntry) : Json :=
  .record ([("timestamp", .text c.stamp),
    ("level", .text (occurrenceLevel l.occurrence).name.toUpper),
    ("fields", .record (occurrenceFields c l.occurrence))] ++ scopeJson (entrySpan? l) l.scope)

/-- The line for an entry; none if the format does not show it. -/
def line? (c : Clock) (l : LogEntry) : Option String :=
  match s.format, l.occurrence with
  | .json, _ => some (entryJson c l).compact
  | .full, .event e => some (s.fullLine l.scope e)
  | .compact, .event e => some (s.compactLine l.scope e)
  | _, .closed _ => none

/-- The text of a log. -/
def text (c : Clock) (ls : List LogEntry) : String :=
  String.join ((ls.filterMap (s.line? c)).map (· ++ "\n"))

end LogStyle

/-- The text of the log of a trace. -/
def Trace.log (t : Trace) (f : LogFilter) (s : LogStyle) (c : Clock) : String :=
  s.text c (f.entries t)

end NestingRules
