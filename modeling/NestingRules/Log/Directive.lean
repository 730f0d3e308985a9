import NestingRules.Log.Event
import NestingRules.Pattern.Match
import NestingRules.Pattern.Parser

/-!
# Directives

A directive says how verbose a part of the program is.  It is written `target[span]=level`, and every
part may be left out: a level alone is for all targets, a target alone is heard whatever its level.
In the brackets stand the name of a span, and in braces a field that the span or the event must have,
perhaps with a value.  A value is a number or else a pattern, of which a match must reach to the end
of the data.
-/

namespace NestingRules

/-- What the data of a field must be like. -/
inductive FieldTest where
  | number (n : Nat)
  | pattern (text : String) (p : Pattern)
  /-- A value of a kind that no field holds: a truth value, a negative number or a fraction. -/
  | never
  deriving DecidableEq, Repr

namespace FieldTest

/-- The data is as asked for. -/
def passes : FieldTest → FieldValue → Bool
  | number n, .number m => n == m
  | pattern _ p, .text s => p.endsMatch s
  | _, _ => false

/-- The largest number that is read as one. -/
def largest : Nat := 18446744073709551615

/-- The value of decimal digits; none if there are none or something else. -/
def digits? (cs : List Char) : Option Nat :=
  if cs.isEmpty || !cs.all Char.isDigit then none
  else some (cs.foldl (fun n c => 10 * n + (c.toNat - 48)) 0)

/-- A text without a sign at its front. -/
def unsigned : List Char → List Char
  | '+' :: cs => cs
  | '-' :: cs => cs
  | cs => cs

/-- The text is an exponent, or nothing. -/
def isExponent : List Char → Bool
  | [] => true
  | c :: cs => (c == 'e' || c == 'E') && (digits? (unsigned cs)).isSome

/-- The text is a decimal number, which may have a sign, a fraction and an exponent, or it is one of
the names of what is no finite number. -/
def isDecimal (cs : List Char) : Bool :=
  let cs := unsigned cs
  let whole := cs.takeWhile Char.isDigit
  let isNumber := match cs.dropWhile Char.isDigit with
    | '.' :: rest =>
      (!whole.isEmpty || (rest.head?.any Char.isDigit)) && isExponent (rest.dropWhile Char.isDigit)
    | rest => !whole.isEmpty && isExponent rest
  isNumber || ["inf", "infinity", "nan"].contains (String.ofList (cs.map Char.toLower))

/-- A number with an optional plus sign. -/
def natural? (cs : List Char) : Option Nat :=
  match cs with
  | '+' :: cs => digits? cs
  | cs => digits? cs

/-- Read a value: none if it is a pattern that cannot be read. -/
def read? (cs : List Char) : Option FieldTest :=
  let text := String.ofList cs
  if text == "true" || text == "false" then some never
  else
    match natural? cs with
    | some n => some (if n ≤ largest then number n else never)
    | none => if isDecimal cs then some never else (Pattern.parse? cs).map (pattern text)

end FieldTest

/-- A named field that a directive asks for, perhaps with its value. -/
structure FieldPattern where
  name : String
  test : Option FieldTest
  deriving DecidableEq, Repr

/-- How verbose a part of the program is. -/
structure Directive where
  /-- How the target begins. -/
  target : String := ""
  /-- The name of a span. -/
  span : Option String := none
  /-- A field that the event or the span has. -/
  field : Option FieldPattern := none
  level : Verbosity
  deriving DecidableEq, Repr

namespace Directive

/-- The directive looks at the data of spans. -/
def testsData (d : Directive) : Bool := d.field.any (·.test.isSome)

/-- The directive can decide about an event by itself: it names no span and no value. -/
def isStatic (d : Directive) : Bool := d.span.isNone && !d.testsData

/-- The directive looks at spans: it names one, or a field of one. -/
def isScoped (d : Directive) : Bool := d.span.isSome || d.field.isSome

/-- Two directives are about the same things. -/
def isRival (d e : Directive) : Bool :=
  d.target == e.target && d.span == e.span && d.field == e.field

/-- The directive is about an event. -/
def fitsEvent (d : Directive) (e : Event) : Bool :=
  e.target.startsWith d.target && d.field.all fun p => e.fieldNames.contains p.name

/-- The directive is about a span, whatever its data. -/
def fitsSpan (d : Directive) (s : Span) : Bool :=
  s.target.startsWith d.target && d.span.all (· == s.name) &&
    d.field.all fun p => s.fields.any (·.1 == p.name)

/-- The data of a span is as the directive asks for. -/
def acceptsSpan (d : Directive) (s : Span) : Bool :=
  d.field.all fun p => p.test.all fun t => s.fields.any fun f => f.1 == p.name && t.passes f.2

/-- Of two static directives about one event, the first decides: its target is longer, or else it
names a field and the other does not, or one that comes later in the order of names. -/
def outranks (d e : Directive) : Bool :=
  if d.target.utf8ByteSize != e.target.utf8ByteSize then
    e.target.utf8ByteSize < d.target.utf8ByteSize
  else
    match d.field, e.field with
    | some p, some q => q.name < p.name
    | some _, none => true
    | none, _ => false

/-! ### Reading -/

/-- Read a level: a name in letters of any case, or a rank; nothing at all is the most important
level. -/
def level? (cs : List Char) : Option Verbosity :=
  match cs.map Char.toLower with
  | [] => some (some .error)
  | ['o', 'f', 'f'] => some none
  | name =>
    match Level.all.find? (·.name.toList == name) with
    | some l => some (some l)
    | none =>
      match FieldTest.natural? name with
      | some n => if n ≤ 5 then some (Level.ofRank? n) else none
      | none => none

/-- Read the level after an equals sign; nothing at all is the least important level. -/
def levelOrEverything? (cs : List Char) : Option Verbosity :=
  if cs.isEmpty then some (some .trace) else level? cs

/-- Read what is a level or else a target. -/
def levelOrTarget (cs : List Char) : Directive :=
  match level? cs with
  | some l => { level := l }
  | none => { target := String.ofList cs, level := some .trace }

/-- Read a field, with or without a value.  What follows a second equals sign does not count. -/
def fieldPattern? (cs : List Char) : Option FieldPattern :=
  let name := cs.takeWhile (· != '=')
  if cs.isEmpty then none
  else
    match cs.drop name.length with
    | [] => some ⟨String.ofList name, none⟩
    | _ :: value =>
      (FieldTest.read? (value.takeWhile (· != '='))).map fun t => ⟨String.ofList name, some t⟩

/-- A directive may begin with this character, if not with a bracket. -/
def beginsTarget (c : Char) : Bool :=
  c == '-' || c == ':' || c == '_' || Text.isAlphanumeric c

/-- What is left of a text after a number of bytes; none if they end inside a character. -/
def dropBytes? : (n : Nat) → List Char → Option (List Char)
  | 0, cs => some cs
  | _, [] => none
  | n, c :: cs => if n < c.utf8Size then none else dropBytes? (n - c.utf8Size) cs

/-- The bytes of a text from one offset up to another as a text, if they are one. -/
def slice? (text : List Char) (first last : Nat) : Option (List Char) :=
  match dropBytes? first text, dropBytes? last text with
  | some cs, some rest => some (cs.take (cs.length - rest.length))
  | _, _ => none

/-- Which part of a directive is being read, and at which offset it begins. -/
inductive Part where
  | start
  | levelOrTarget
  | span (first : Nat)
  | field (first : Nat)
  /-- A field has been read and the bracket is still open. -/
  | fieldRead
  /-- The bracket has been closed. -/
  | closed
  | level (first : Nat)
  deriving DecidableEq, Repr

/-- Read a directive, of which `i` bytes and the parts in `d` have been read.  Parts are cut out of
`text`, the directive with the blanks around it, at the offsets that they have without them. -/
def readFrom (text : List Char) (d : Directive) : Part → (i : Nat) → List Char → Option Directive
  | part, _, [] =>
    match part with
    | .levelOrTarget => some (levelOrTarget text)
    | .level first =>
      (dropBytes? first text).bind fun cs =>
        (levelOrEverything? cs).map fun l => { d with level := l }
    | .closed => some d
    | _ => none
  | part, i, c :: cs =>
    let next := i + c.utf8Size
    let go (d : Directive) (part : Part) : Option Directive := readFrom text d part next cs
    match part with
    | .start =>
      if c == '[' then go d (.span next) else if beginsTarget c then go d .levelOrTarget else none
    | .levelOrTarget =>
      if c == '=' || c == '[' then
        match slice? text 0 i with
        | none => none
        | some target =>
          go { d with target := String.ofList target } (if c == '=' then .level next else .span next)
      else go d .levelOrTarget
    | .span first =>
      if c == ']' || c == '\x7b' then
        match slice? text first i with
        | none => none
        | some name =>
          if c == ']' then go { d with span := some (String.ofList name) } .closed
          else
            go { d with span := if name.isEmpty then none else some (String.ofList name) }
              (.field next)
      else go d (.span first)
    | .field first =>
      if c == '\x7d' then
        match (slice? text first i).bind fieldPattern? with
        | none => none
        | some p => go { d with field := some p } .fieldRead
      else go d (.field first)
    | .fieldRead => if c == ']' then go d .closed else none
    | .closed => if c == '=' then go d (.level next) else none
    | .level first => go d (.level first)

/-- Read a directive. -/
def ofChars? (cs : List Char) : Option Directive :=
  readFrom cs { level := some .trace } .start 0 (Text.trimBy Text.isBlank cs)

end Directive

end NestingRules
