import NestingRules.Log.Directive

/-!
# Which events are heard

A filter is a list of directives.  Of the directives that name no span and no value and that are
about an event, the most special one decides whether it is heard.  The others, and those that name a
field, look at spans: inside a span that one of them is about, everything is heard up to the highest
of the levels of those that accept its data, wherever it comes from.  A later directive takes the
place of an earlier one about the same things.
-/

namespace NestingRules

/-- Directives in the order in which they were given. -/
structure LogFilter where
  directives : List Directive
  deriving DecidableEq, Repr

namespace LogFilter

/-- Every part of the program is heard up to the same level. -/
def upTo (v : Verbosity) : LogFilter := ⟨[{ level := v }]⟩

/-- The parts of the program. -/
def parts : List String := ["tagrel_cli", "tagrel_model", "tagrel_rules", "tagrel_standards"]

/-- The parts of the program are heard up to a level, and everything else from warnings on. -/
def ofVerbosity (v : Verbosity) : LogFilter :=
  ⟨{ level := v.bind fun _ => some .warn } :: parts.map fun p => { target := p, level := v }⟩

/-- Read directives with commas between them, empty ones left out; none at all let errors pass. -/
def parse? (s : String) : Option LogFilter :=
  match (s.toList.splitOn ',').filter (!·.isEmpty) with
  | [] => some (upTo (some .error))
  | ds => (ds.mapM Directive.ofChars?).map (⟨·⟩)

/-- The directive that decides among static ones: the one that outranks the others, and of rivals the
one given last. -/
def deciding (ds : List Directive) : Option Directive :=
  ds.foldl (fun best d =>
    match best with
    | none => some d
    | some b => if b.outranks d then some b else some d) none

/-- The verbosity of static directives about one thing. -/
def verbosity (ds : List Directive) : Verbosity := (deciding ds).bind (·.level)

/-- The higher of two verbosities. -/
def highest (v w : Verbosity) : Verbosity := if v.rank < w.rank then w else v

/-- The directives without those that a later one takes the place of. -/
def unrivalled : List Directive → List Directive
  | [] => []
  | d :: ds => if ds.any d.isRival then unrivalled ds else d :: unrivalled ds

/-- The level up to which everything inside a span is heard, if a directive is about the span. -/
def lift? (f : LogFilter) (s : Span) : Option Verbosity :=
  match (unrivalled f.directives).filter fun d => d.isScoped && d.fitsSpan s with
  | [] => none
  | ds => some ((ds.filter (·.acceptsSpan s)).foldl (fun v d => highest v d.level) none)

/-- The least important level that some directive asks for, whether another takes its place or
not. -/
def ceiling (f : LogFilter) : Verbosity := f.directives.foldl (fun v d => highest v d.level) none

/-- Spans can be heard.  Where a directive asks for data they must be, whatever the levels. -/
def admitsSpans (f : LogFilter) : Bool :=
  f.directives.any (·.testsData) || f.ceiling.admits Span.level

end LogFilter

/-! ### What is heard of a trace -/

/-- A span that was entered and not yet left. -/
structure OpenSpan where
  span : Span
  /-- The span itself is heard. -/
  heard : Bool
  /-- What is heard inside, wherever it comes from. -/
  lift : Option Verbosity
  deriving DecidableEq, Repr

/-- Something to be written to a log. -/
inductive Occurrence where
  | event (e : Event)
  /-- A span was left. -/
  | closed (s : Span)
  deriving DecidableEq, Repr

/-- An entry of a log: what occurred, and inside which spans, the outermost first. -/
structure LogEntry where
  occurrence : Occurrence
  scope : List Span
  deriving DecidableEq, Repr

namespace LogFilter

/-- Some open span lifts a level over the filter. -/
def lifted (stack : List OpenSpan) (l : Level) : Bool :=
  stack.any fun o => o.lift.any (·.admits l)

/-- An event is heard inside these spans. -/
def hearsEvent (f : LogFilter) (stack : List OpenSpan) (e : Event) : Bool :=
  lifted stack e.level ||
    (verbosity (f.directives.filter fun d => d.isStatic && d.fitsEvent e)).admits e.level

/-- A span is heard inside these spans. -/
def hearsSpan (f : LogFilter) (stack : List OpenSpan) (s : Span) : Bool :=
  f.admitsSpans && ((f.lift? s).isSome || lifted stack Span.level ||
    (verbosity (f.directives.filter fun d =>
      d.isStatic && s.target.startsWith d.target)).admits Span.level)

/-- A span as it is entered. -/
def openSpan (f : LogFilter) (stack : List OpenSpan) (s : Span) : OpenSpan :=
  let heard := f.hearsSpan stack s
  ⟨s, heard, if heard then f.lift? s else none⟩

/-- The spans that are heard, the outermost first. -/
def scopeOf (stack : List OpenSpan) : List Span :=
  (stack.reverse.filter (·.heard)).map (·.span)

/-- What is heard of a step inside open spans, the innermost first, and which spans are open after
it. -/
def hear (f : LogFilter) : (stack : List OpenSpan) → TraceStep → List OpenSpan × Option LogEntry
  | stack, .enter s => (f.openSpan stack s :: stack, none)
  | stack, .emit e =>
    (stack, if f.hearsEvent stack e then some ⟨.event e, scopeOf stack⟩ else none)
  | [], .leave => ([], none)
  | o :: stack, .leave => (stack, if o.heard then some ⟨.closed o.span, scopeOf stack⟩ else none)

/-- The entries for a trace inside open spans. -/
def entriesFrom (f : LogFilter) (stack : List OpenSpan) : Trace → List LogEntry
  | [] => []
  | step :: t =>
    let (stack, entry) := f.hear stack step
    entry.toList ++ entriesFrom f stack t

/-- The entries for a trace. -/
def entries (f : LogFilter) (t : Trace) : List LogEntry := entriesFrom f [] t

end LogFilter

end NestingRules
