import NestingRules.Pattern.CharSet

/-!
# Patterns

A pattern is a regular expression with preferences: of two alternatives the first is preferred, and
a repetition says whether it prefers more or fewer rounds.  Preferences decide which match is meant
where several begin.
-/

namespace NestingRules

/-- A condition on a point between two characters. -/
inductive Anchor where
  | textStart
  | textEnd
  | lineStart
  | lineEnd
  /-- As `lineStart` and `lineEnd`, where a carriage return ends a line too, alone or before a line
  feed. -/
  | returnLineStart
  | returnLineEnd
  /-- One of the neighbours is part of a word in ASCII and the other is not. -/
  | wordBoundary
  | noWordBoundary
  | wordStart
  | wordEnd
  deriving DecidableEq, Repr

namespace Anchor

/-- A neighbour is part of a word in ASCII. -/
def besideWord (c : Option Char) : Bool := c.any CharSet.asciiWord.contains

/-- The condition holds between two characters, of which there may be none. -/
def holds (before after : Option Char) : Anchor → Bool
  | textStart => before.isNone
  | textEnd => after.isNone
  | lineStart => before.all (· == '\n')
  | lineEnd => after.all (· == '\n')
  | returnLineStart => before.all fun c => c == '\n' || (c == '\r' && after != some '\n')
  | returnLineEnd => after.all fun c => c == '\r' || (c == '\n' && before != some '\r')
  | wordBoundary => besideWord before != besideWord after
  | noWordBoundary => besideWord before == besideWord after
  | wordStart => !besideWord before && besideWord after
  | wordEnd => besideWord before && !besideWord after

end Anchor

/-- A regular expression. -/
inductive Pattern where
  /-- The empty text. -/
  | empty
  /-- A character of a set. -/
  | set (s : CharSet)
  | anchor (a : Anchor)
  /-- One after the other. -/
  | append (p q : Pattern)
  /-- The first, or else the second. -/
  | orElse (p q : Pattern)
  /-- One or more rounds; the greedy repetition prefers more. -/
  | rounds (greedy : Bool) (p : Pattern)
  /-- More rounds, or none. -/
  | moreRounds (greedy : Bool) (p : Pattern)
  deriving DecidableEq, Repr

namespace Pattern

/-- A bound for the number of points between which a match moves. -/
def size : Pattern → Nat
  | empty | set _ | anchor _ => 1
  | append p q | orElse p q => p.size + q.size + 1
  | rounds _ p | moreRounds _ p => p.size + 2

/-- The pattern can match without a character, as far as its form shows. -/
def isNullable : Pattern → Bool
  | empty | anchor _ | moreRounds .. => true
  | set _ => false
  | append p q => p.isNullable && q.isNullable
  | orElse p q => p.isNullable || q.isNullable
  | rounds _ p => p.isNullable

/-- The pattern or nothing. -/
def optional (greedy : Bool) (p : Pattern) : Pattern :=
  if greedy then orElse p empty else orElse empty p

/-- Any number of rounds.  Where a round can be empty, nothing at all is an alternative to one or
more rounds, so that the preferences inside a round come first. -/
def star (greedy : Bool) (p : Pattern) : Pattern :=
  if p.isNullable then optional greedy (rounds greedy p) else moreRounds greedy p

/-- Patterns one after the other. -/
def sequence : List Pattern → Pattern
  | [] => empty
  | [p] => p
  | p :: ps => append p (sequence ps)

/-- One of several patterns, the first ones preferred. -/
def choice : List Pattern → Pattern
  | [] => empty
  | [p] => p
  | p :: ps => orElse p (choice ps)

end Pattern

end NestingRules
