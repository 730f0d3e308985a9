import NestingRules.Pattern.Basic

/-!
# Matching patterns

A pattern is looked for in a text from left to right, and where several matches begin, preferences
decide: earlier ones go before later ones.  `Pattern.endsMatch` says that the match which is found
in this way reaches to the end of the text.  For this all matches in the making are kept in the order
of preference; a complete one makes an end of those after it, for whatever they would become, it is
preferred.
-/

namespace NestingRules.Pattern

/-- What is left to be matched, one pattern after the other. -/
abbrev Goal := List Pattern

/-- A goal that waits for a character, or one that is reached. -/
inductive Thread where
  | reached
  | waiting (s : CharSet) (rest : Goal)
  deriving DecidableEq, Repr

/-- The threads of goals between two characters, in the order of preference.  A goal that has been
seen is not followed again. -/
def threads (before after : Option Char) : (fuel : Nat) → (seen work : List Goal) → List Thread
  | 0, _, _ => []
  | _, _, [] => []
  | fuel + 1, seen, goal :: work =>
    if seen.contains goal then threads before after fuel seen work
    else
      let follow (goals : List Goal) : List Thread :=
        threads before after fuel (goal :: seen) (goals ++ work)
      match goal with
      | [] => .reached :: follow []
      | .set s :: rest => .waiting s rest :: follow []
      | .empty :: rest => follow [rest]
      | .anchor a :: rest => follow (if a.holds before after then [rest] else [])
      | .append p q :: rest => follow [p :: q :: rest]
      | .orElse p q :: rest => follow [p :: rest, q :: rest]
      | .rounds greedy p :: rest => follow [p :: .moreRounds greedy p :: rest]
      | .moreRounds greedy p :: rest =>
        let again := p :: .moreRounds greedy p :: rest
        follow (if greedy then [again, rest] else [rest, again])

/-- The threads of goals.  Every goal that is followed leads to at most two others, and a pattern
has no more goals than twice its size. -/
def threadsOf (p : Pattern) (before after : Option Char) (goals : List Goal) : List Thread :=
  threads before after (goals.length + 4 * p.size + 4) [] goals

/-- What a thread waits for after a character. -/
def Thread.advance? (c : Char) : Thread → Option Goal
  | reached => none
  | waiting s rest => if s.contains c then some rest else none

/-- Go on at a point of a text with the goals of the matches in the making; while `searching`, a
match may begin here. -/
def search (p : Pattern) : (before : Option Char) → (searching : Bool) → List Goal → List Char → Bool
  | before, searching, goals, [] =>
    (p.threadsOf before none (goals ++ if searching then [[p]] else [])).contains .reached
  | before, searching, goals, c :: cs =>
    let ts := p.threadsOf before (some c) (goals ++ if searching then [[p]] else [])
    search p (some c) (searching && !ts.contains .reached)
      ((ts.takeWhile (· != .reached)).filterMap (·.advance? c)) cs

/-- The match that is found in a text reaches to its end. -/
def endsMatch (p : Pattern) (s : String) : Bool := search p none true [] s.toList

end NestingRules.Pattern
