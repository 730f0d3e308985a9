import NestingRules.Pattern.Basic

/-!
# Reading patterns

Patterns are written in the usual way: `.`, `^`, `$` and `|`, repetitions `*`, `+` and `?` with a
question mark behind them where fewer rounds are preferred, groups with names and modes, sets in
brackets with unions, intersections `&&`, differences `--` and symmetric differences `~~`, and escapes
with a backslash.  Braces are no part of this language, and neither are conditions that only word
boundaries beyond ASCII could decide.
-/

namespace NestingRules.Pattern

/-- How what follows is read. -/
structure Modes where
  /-- Characters that differ only in case are not told apart. -/
  ignoreCase : Bool := false
  /-- Lines begin and end inside the text. -/
  multiLine : Bool := false
  /-- The dot includes the ends of lines. -/
  dotAll : Bool := false
  /-- Repetitions prefer fewer rounds without a question mark and more with it. -/
  swapGreed : Bool := false
  /-- Classes hold characters of all scripts. -/
  allScripts : Bool := true
  /-- A carriage return ends a line. -/
  returns : Bool := false
  /-- Blanks and comments may stand between the parts. -/
  spaced : Bool := false
  deriving DecidableEq, Repr

namespace Modes

/-- The modes with the one of a letter switched. -/
def switch? (m : Modes) (on : Bool) : Char → Option Modes
  | 'i' => some { m with ignoreCase := on }
  | 'm' => some { m with multiLine := on }
  | 's' => some { m with dotAll := on }
  | 'U' => some { m with swapGreed := on }
  | 'u' => some { m with allScripts := on }
  | 'R' => some { m with returns := on }
  | 'x' => some { m with spaced := on }
  | _ => none

/-- Read letters of modes up to a colon or a parenthesis, those behind a hyphen switched off.  No
letter may stand twice, and a letter must stand behind the hyphen. -/
def read? (m : Modes) (on : Bool) (used : List Char) :
    List Char → Option (Modes × List Char × List Char)
  | [] => none
  | '-' :: cs =>
    if !on || cs.head?.all fun c => c == ':' || c == ')' then none else read? m false used cs
  | c :: cs =>
    if c == ':' || c == ')' then some (m, used, c :: cs)
    else if used.contains c then none
    else
      match m.switch? on c with
      | none => none
      | some m => read? m on (c :: used) cs

/-- What is left where blanks and comments are passed over, if they may be. -/
def skip (m : Modes) (comment : Bool) : List Char → List Char
  | [] => []
  | c :: cs =>
    if !m.spaced then c :: cs
    else if comment then skip m (c != '\n') cs
    else if Text.isBlank c then skip m false cs
    else if c == '#' then skip m true cs
    else c :: cs

/-- The set of one character. -/
def single? (m : Modes) (c : Char) : Option CharSet :=
  if !m.ignoreCase then some (.single c)
  else if m.allScripts then some (.folded (.single c))
  else if c.toNat < 128 then some (.union (.single c.toLower) (.single c.toUpper))
  else none

/-- The set of a class, if it holds whole characters only. -/
def whole? (m : Modes) (s : CharSet) : Option CharSet :=
  if m.allScripts || s.isAscii then some s else none

/-- The characters that the dot stands for. -/
def dot? (m : Modes) : Option CharSet :=
  if !m.allScripts then none
  else if m.dotAll then some .all
  else if m.returns then some (.compl (.union (.single '\n') (.single '\r')))
  else some (.compl (.single '\n'))

/-- The beginning of a line, or of the text. -/
def startAnchor (m : Modes) : Anchor :=
  if !m.multiLine then .textStart else if m.returns then .returnLineStart else .lineStart

/-- The end of a line, or of the text. -/
def endAnchor (m : Modes) : Anchor :=
  if !m.multiLine then .textEnd else if m.returns then .returnLineEnd else .lineEnd

end Modes

/-! ### Escapes -/

/-- What an escape stands for. -/
inductive Escape where
  /-- A character, which is given by its number or not. -/
  | char (c : Char) (byNumber : Bool)
  | set (s : CharSet)
  | anchor (a : Anchor)
  deriving DecidableEq, Repr

/-- Read a number of hexadecimal digits as the code point of a character. -/
def hexChar? : (n value : Nat) → List Char → Option (Escape × List Char)
  | 0, value, cs => if value.isValidChar then some (.char (Char.ofNat value) true, cs) else none
  | _ + 1, _, [] => none
  | n + 1, value, c :: cs =>
    match Text.hexDigit? c with
    | none => none
    | some d => hexChar? n (16 * value + d) cs

/-- A class of characters by its letter; a capital letter is for the complement. -/
def classOf (m : Modes) (letter : Char) : CharSet :=
  let s : CharSet := match letter.toLower with
    | 'd' => if m.allScripts then .digit else CharSet.asciiDigit
    | 's' => if m.allScripts then .blank else CharSet.asciiSpace
    | _ => if m.allScripts then .word else CharSet.asciiWord
  .complIf letter.isUpper s

/-- A boundary of words. -/
def boundary? (m : Modes) (a : Anchor) (cs : List Char) : Option (Escape × List Char) :=
  if m.allScripts then none else some (.anchor a, cs)

/-- Read what stands after a backslash.  Every character of ASCII that is no letter and no digit may
be escaped; boundaries of words are decided in ASCII only. -/
def escape? (m : Modes) : List Char → Option (Escape × List Char)
  | [] => none
  | c :: cs =>
    match c with
    | 'x' => hexChar? 2 0 cs
    | 'u' => hexChar? 4 0 cs
    | 'U' => hexChar? 8 0 cs
    | 'p' | 'P' =>
      match cs with
      | [] => none
      | k :: cs =>
        if !m.allScripts then none
        else
          (Text.GeneralCategory.ofLetter? k).map fun k =>
            (.set (.complIf (c == 'P') (.foldedIf m.ignoreCase (.category k))), cs)
    | 'd' | 's' | 'w' | 'D' | 'S' | 'W' => some (.set (classOf m c), cs)
    | 'a' => some (.char '\x07' false, cs)
    | 'f' => some (.char '\x0c' false, cs)
    | 't' => some (.char '\t' false, cs)
    | 'n' => some (.char '\n' false, cs)
    | 'r' => some (.char '\r' false, cs)
    | 'v' => some (.char '\x0b' false, cs)
    | 'A' => some (.anchor .textStart, cs)
    | 'z' => some (.anchor .textEnd, cs)
    | 'b' => boundary? m .wordBoundary cs
    | 'B' => boundary? m .noWordBoundary cs
    | '<' => boundary? m .wordStart cs
    | '>' => boundary? m .wordEnd cs
    | c => if c.toNat < 128 && !c.isAlphanum then some (.char c false, cs) else none

/-! ### Sets in brackets -/

/-- Two sets of characters in one. -/
inductive SetOperation where
  | inter
  | diff
  | symmDiff
  deriving DecidableEq, Repr

/-- The set that an operation makes of two. -/
def SetOperation.apply : SetOperation → CharSet → CharSet → CharSet
  | inter => .inter
  | diff => .diff
  | symmDiff => .symmDiff

/-- The left side of an operation in brackets, if there is one. -/
abbrev LeftSide := Option (CharSet × SetOperation)

/-- The set of both sides of an operation. -/
def LeftSide.join (l : LeftSide) (ignoreCase : Bool) (s : CharSet) : CharSet :=
  match l with
  | none => s
  | some (left, op) => op.apply (.foldedIf ignoreCase left) (.foldedIf ignoreCase s)

/-- Read the name of a set of ASCII between colons, behind `[:`. -/
def namedSet? (m : Modes) (cs : List Char) : Option (CharSet × List Char) :=
  let negated := cs.head? == some '^'
  let cs := if negated then cs.tail else cs
  let name := cs.takeWhile (· != ':')
  match cs.drop name.length with
  | ':' :: ']' :: rest =>
    (CharSet.named.find? (·.1 == String.ofList name)).map fun s =>
      (.complIf negated (.foldedIf m.ignoreCase s.2), rest)
  | _ => none

/-- Read an element of a set: a character, or a class that cannot begin a range. -/
def element? (m : Modes) : List Char → Option ((Char ⊕ CharSet) × List Char)
  | [] => none
  | '\\' :: cs =>
    match escape? m cs with
    | some (.char c _, cs) => some (.inl c, cs)
    | some (.set s, cs) => some (.inr s, cs)
    | _ => none
  | c :: cs => some (.inl c, cs)

/-- The set of an element. -/
def elementSet? (m : Modes) : Char ⊕ CharSet → Option CharSet
  | .inl c => if m.allScripts || c.toNat < 128 then some (.single c) else none
  | .inr s => some s

/-- Read an element or a range.  A hyphen in front of another one or of the closing bracket makes no
range. -/
def range? (m : Modes) (cs : List Char) : Option (CharSet × List Char) := do
  let (first, cs) ← element? m cs
  let cs := m.skip false cs
  match cs with
  | [] => none
  | '-' :: rest =>
    let rest := m.skip false rest
    match rest with
    | [] => none
    | c :: _ =>
      if c == ']' || c == '-' then return (← elementSet? m first, cs)
      else
        let (last, rest) ← element? m rest
        match first, last with
        | .inl a, .inl b =>
          if a ≤ b then
            let _ ← elementSet? m last
            return (.range a b, rest)
          else none
        | _, _ => none
  | _ => return (← elementSet? m first, cs)

/-- Read hyphens at the beginning of a set. -/
def leadingHyphens (m : Modes) : List CharSet → List Char → List CharSet × List Char
  | ss, '-' :: cs => leadingHyphens m (.single '-' :: ss) cs
  | ss, cs => (ss, cs)

/-- Read a closing bracket that stands for itself, at the beginning of a set. -/
def leadingBracket (m : Modes) (ss : List CharSet) (cs : List Char) : List CharSet × List Char :=
  match ss, cs with
  | [], ']' :: cs => ([.single ']'], m.skip false cs)
  | ss, cs => (ss, cs)

/-- Read a caret at the beginning of a set. -/
def leadingCaret (m : Modes) (cs : List Char) : Bool × List Char :=
  match cs with
  | '^' :: cs => (true, m.skip false cs)
  | cs => (false, cs)

mutual

/-- Read a set behind its opening bracket. -/
def bracket? (m : Modes) : (fuel : Nat) → List Char → Option (CharSet × List Char)
  | 0, _ => none
  | fuel + 1, cs =>
    let (negated, cs) := leadingCaret m (m.skip false cs)
    let (ss, cs) := leadingHyphens m [] cs
    let (ss, cs) := leadingBracket m ss (m.skip false cs)
    match elements? m fuel none ss cs with
    | none => none
    | some (s, cs) =>
      (m.whole? (.complIf negated (.foldedIf m.ignoreCase s))).map fun s => (s, cs)

/-- Read the elements of a set and its closing bracket. -/
def elements? (m : Modes) : (fuel : Nat) → LeftSide → List CharSet → List Char →
    Option (CharSet × List Char)
  | 0, _, _, _ => none
  | fuel + 1, left, ss, cs =>
    let joined := left.join m.ignoreCase (.ofList ss.reverse)
    match m.skip false cs with
    | [] => none
    | ']' :: cs => some (joined, cs)
    | '&' :: '&' :: cs => elements? m fuel (some (joined, .inter)) [] cs
    | '-' :: '-' :: cs => elements? m fuel (some (joined, .diff)) [] cs
    | '~' :: '~' :: cs => elements? m fuel (some (joined, .symmDiff)) [] cs
    | '[' :: cs =>
      let named := match cs with
        | ':' :: rest => namedSet? m rest
        | _ => none
      match named with
      | some (s, cs) => elements? m fuel left (s :: ss) cs
      | none =>
        match bracket? m fuel cs with
        | none => none
        | some (s, cs) => elements? m fuel left (s :: ss) cs
    | cs =>
      match range? m cs with
      | none => none
      | some (s, cs) => elements? m fuel left (s :: ss) cs

end

/-! ### Groups -/

/-- What stands behind an opening parenthesis. -/
inductive GroupStart where
  /-- A group, read in these modes; it may have a name. -/
  | group (modes : Modes) (name : Option (List Char))
  /-- No group: modes for what follows. -/
  | setting (modes : Modes)
  deriving DecidableEq, Repr

/-- The text can name a group. -/
def isGroupName : List Char → Bool
  | [] => false
  | c :: cs =>
    (c == '_' || Text.isAlphabetic c) &&
      cs.all fun c => c == '_' || c == '.' || c == '[' || c == ']' || Text.isAlphanumeric c

/-- Read the name of a group behind its opening mark. -/
def groupName? (m : Modes) (cs : List Char) : Option (GroupStart × List Char) :=
  let name := cs.takeWhile (· != '>')
  match cs.drop name.length with
  | _ :: rest => if isGroupName name then some (.group m (some name), rest) else none
  | [] => none

/-- Read what stands between an opening parenthesis and the inside of a group. -/
def groupStart? (m : Modes) : List Char → Option (GroupStart × List Char)
  | '?' :: 'P' :: '<' :: cs => groupName? m cs
  | '?' :: '<' :: cs =>
    match cs with
    | '=' :: _ | '!' :: _ => none
    | cs => groupName? m cs
  | '?' :: cs =>
    match m.read? true [] cs with
    | some (modes, _, ':' :: rest) => some (.group modes none, rest)
    | some (modes, used, ')' :: rest) => if used.isEmpty then none else some (.setting modes, rest)
    | _ => none
  | cs => some (.group m none, cs)

/-! ### Whole patterns -/

/-- A part of a sequence. -/
inductive Part where
  | pattern (p : Pattern)
  /-- A change of modes, which cannot be repeated. -/
  | setting
  deriving DecidableEq, Repr

/-- A group that has been opened and not closed. -/
structure OpenGroup where
  /-- The modes around the group. -/
  around : Modes
  /-- The alternatives that are complete, the last one first. -/
  alternatives : List Pattern := []
  /-- The parts of the alternative in the making, the last one first. -/
  parts : List Part := []
  deriving DecidableEq, Repr

namespace OpenGroup

/-- The alternative in the making. -/
def alternative (g : OpenGroup) : Pattern :=
  .sequence (g.parts.reverse.filterMap fun
    | .pattern p => some p
    | .setting => none)

/-- The pattern of the group. -/
def pattern (g : OpenGroup) : Pattern := .choice (g.alternative :: g.alternatives).reverse

/-- The group with another part. -/
def add (g : OpenGroup) (p : Pattern) : OpenGroup := { g with parts := .pattern p :: g.parts }

/-- The group with another alternative. -/
def alternate (g : OpenGroup) : OpenGroup :=
  { g with alternatives := g.alternative :: g.alternatives, parts := [] }

/-- The group with its last part repeated. -/
def repeat? (g : OpenGroup) (f : Pattern → Pattern) : Option OpenGroup :=
  match g.parts with
  | .pattern p :: ps => some { g with parts := .pattern (f p) :: ps }
  | _ => none

end OpenGroup

/-- Read whether a repetition is greedy. -/
def greed (m : Modes) : List Char → Bool × List Char
  | '?' :: cs => (m.swapGreed, cs)
  | cs => (!m.swapGreed, cs)

/-- The pattern of an escape. -/
def escapePattern? (m : Modes) : Escape → Option Pattern
  | .char c byNumber =>
    if byNumber && !m.allScripts && 128 ≤ c.toNat then none else (m.single? c).map .set
  | .set s => (m.whole? s).map .set
  | .anchor a => some (.anchor a)

/-- Read a pattern inside groups, the innermost one first. -/
def parseFrom (names : List (List Char)) (m : Modes) (g : OpenGroup) (outer : List OpenGroup) :
    (fuel : Nat) → List Char → Option Pattern
  | 0, _ => none
  | fuel + 1, cs =>
    let go (g : OpenGroup) (cs : List Char) : Option Pattern := parseFrom names m g outer fuel cs
    let put (s? : Option CharSet) (cs : List Char) : Option Pattern :=
      match s? with
      | none => none
      | some s => go (g.add (.set s)) cs
    let again (f : Bool → Pattern → Pattern) (cs : List Char) : Option Pattern :=
      let (greedy, cs) := greed m cs
      match g.repeat? (f greedy) with
      | none => none
      | some g => go g cs
    match m.skip false cs with
    | [] => if outer.isEmpty then some g.pattern else none
    | '(' :: cs =>
      match groupStart? m (m.skip false cs) with
      | none => none
      | some (.setting modes, cs) =>
        parseFrom names modes { g with parts := .setting :: g.parts } outer fuel cs
      | some (.group modes none, cs) => parseFrom names modes { around := m } (g :: outer) fuel cs
      | some (.group modes (some name), cs) =>
        if names.contains name then none
        else parseFrom (name :: names) modes { around := m } (g :: outer) fuel cs
    | ')' :: cs =>
      match outer with
      | [] => none
      | g' :: outer => parseFrom names g.around (g'.add g.pattern) outer fuel cs
    | '|' :: cs => go g.alternate cs
    | '[' :: cs =>
      match bracket? m (2 * cs.length + 2) cs with
      | none => none
      | some (s, cs) => go (g.add (.set s)) cs
    | '*' :: cs => again Pattern.star cs
    | '+' :: cs => again Pattern.rounds cs
    | '?' :: cs => again Pattern.optional cs
    | '\x7b' :: _ => none
    | '.' :: cs => put m.dot? cs
    | '^' :: cs => go (g.add (.anchor m.startAnchor)) cs
    | '$' :: cs => go (g.add (.anchor m.endAnchor)) cs
    | '\\' :: cs =>
      match escape? m cs with
      | none => none
      | some (e, cs) =>
        match escapePattern? m e with
        | none => none
        | some p => go (g.add p) cs
    | c :: cs => put (m.single? c) cs

/-- Read a pattern. -/
def parse? (cs : List Char) : Option Pattern :=
  parseFrom [] {} { around := {} } [] (cs.length + 1) cs

end NestingRules.Pattern
