import NestingRules.StructureType
import Mathlib.Data.List.Basic

/-!
# Patterns in expressions

A small part of the patterns that expressions are written with: anchors, and letters and digits,
which may be ranges in brackets and may be repeated.  `Regex.test` says which texts a pattern occurs
in; it accepts the numbered headings and nothing else for the pattern of a `HeadingPattern`
(`HeadingPattern.test_regex`).
-/

namespace NestingRules

namespace Expression

/-- The characters that are allowed in one place. -/
inductive Letters where
  | only (c : Char)
  | range (first last : Char)
  deriving DecidableEq, Repr

namespace Letters

/-- The character is allowed. -/
def contains : Letters → Char → Bool
  | only a, c => c == a
  | range a b, c => a ≤ c && c ≤ b

/-- The written form. -/
def print : Letters → List Char
  | only c => [c]
  | range a b => ['[', a, '-', b, ']']

/-- Only letters and digits stand for themselves in every place, and a range does not run
backwards. -/
def isPlain : Letters → Bool
  | only c => c.isAlphanum
  | range a b => a.isAlphanum && b.isAlphanum && a ≤ b

end Letters

/-- A part of a pattern. -/
inductive RegexItem where
  /-- The text begins here. -/
  | start
  /-- The text ends here. -/
  | stop
  | one (s : Letters)
  /-- Any number of characters. -/
  | many (s : Letters)
  deriving DecidableEq, Repr

/-- The written form. -/
def RegexItem.print : RegexItem → List Char
  | start => ['^']
  | stop => ['$']
  | one s => s.print
  | many s => s.print ++ ['*']

/-- A pattern: its parts one after the other. -/
abbrev Regex := List RegexItem

namespace Regex

/-- The written form. -/
def print (r : Regex) : List Char := r.flatMap RegexItem.print

/-- Read a pattern. -/
def parse? : List Char → Option Regex
  | [] => some []
  | '^' :: cs => (parse? cs).map (.start :: ·)
  | '$' :: cs => (parse? cs).map (.stop :: ·)
  | '[' :: a :: '-' :: b :: ']' :: '*' :: cs =>
    if (Letters.range a b).isPlain then (parse? cs).map (.many (.range a b) :: ·) else none
  | '[' :: a :: '-' :: b :: ']' :: cs =>
    if (Letters.range a b).isPlain then (parse? cs).map (.one (.range a b) :: ·) else none
  | c :: '*' :: cs =>
    if (Letters.only c).isPlain then (parse? cs).map (.many (.only c) :: ·) else none
  | c :: cs => if (Letters.only c).isPlain then (parse? cs).map (.one (.only c) :: ·) else none

/-! ### Occurrences -/

/-- Any number of characters from a set, and then the rest. -/
def skip (s : Letters) (rest : Bool → List Char → Bool) : Bool → List Char → Bool
  | atStart, [] => rest atStart []
  | atStart, c :: cs => rest atStart (c :: cs) || (s.contains c && skip s rest false cs)

/-- The pattern occurs at the front of what is left of a text. -/
def occursAtFront : Regex → (atStart : Bool) → List Char → Bool
  | [], _, _ => true
  | .start :: r, atStart, cs => atStart && occursAtFront r atStart cs
  | .stop :: r, atStart, cs => cs.isEmpty && occursAtFront r atStart cs
  | .one _ :: _, _, [] => false
  | .one s :: r, _, c :: cs => s.contains c && occursAtFront r false cs
  | .many s :: r, atStart, cs => skip s (occursAtFront r) atStart cs

/-- The pattern occurs somewhere in what is left of a text. -/
def occurs (r : Regex) : (atStart : Bool) → List Char → Bool
  | atStart, [] => r.occursAtFront atStart []
  | atStart, c :: cs => r.occursAtFront atStart (c :: cs) || occurs r false cs

/-- The pattern occurs in the text. -/
def test (r : Regex) (s : String) : Bool := r.occurs true s.toList

variable {r : Regex} {s : Letters} {b : Bool} {cs : List Char}

/-- Behind its start, a text has no pattern with an anchor there. -/
theorem occurs_start_false (r : Regex) (cs : List Char) :
    occurs (.start :: r) false cs = false := by
  induction cs with
  | nil => simp [occurs, occursAtFront]
  | cons c cs ih => simp [occurs, occursAtFront, ih]

theorem occurs_start (r : Regex) (cs : List Char) :
    occurs (.start :: r) true cs = r.occursAtFront true cs := by
  cases cs with
  | nil => simp [occurs, occursAtFront]
  | cons c cs => simp [occurs, occursAtFront, occurs_start_false]

theorem skip_stop (s : Letters) (b : Bool) (cs : List Char) :
    skip s (occursAtFront [.stop]) b cs = cs.all s.contains := by
  induction cs generalizing b with
  | nil => rfl
  | cons c cs ih =>
    have hstop : occursAtFront [.stop] b (c :: cs) = false := rfl
    rw [skip, hstop, ih, Bool.false_or, List.all_cons]

end Regex

end Expression

/-! ### Headings -/

namespace HeadingPattern

open Expression

/-- The pattern that is written. -/
def regex : HeadingPattern → Regex
  | upToSix => [.start, .one (.only 'H'), .one (.range '1' '6'), .stop]
  | unlimited => [.start, .one (.only 'H'), .one (.range '1' '9'), .many (.range '0' '9'), .stop]

theorem print_regex (p : HeadingPattern) : p.regex.print = p.text.toList := by
  cases p <;> rfl

theorem acceptsChars_of_ne (p : HeadingPattern) {c : Char} (h : c ≠ 'H') (cs : List Char) :
    p.acceptsChars (c :: cs) = false := by
  unfold acceptsChars
  split <;> simp_all

/-- **The pattern accepts the numbered headings** and nothing else. -/
theorem test_regex (p : HeadingPattern) (name : String) : p.regex.test name = p.accepts name := by
  unfold Regex.test accepts
  cases name.toList with
  | nil => cases p <;> rfl
  | cons c cs =>
    by_cases hc : c = 'H'
    · subst hc
      cases p with
      | upToSix =>
        rw [regex, Regex.occurs_start]
        cases cs with
        | nil => rfl
        | cons d ds => cases ds <;> simp [Regex.occursAtFront, Letters.contains, acceptsChars]
      | unlimited =>
        rw [regex, Regex.occurs_start]
        cases cs with
        | nil => rfl
        | cons d ds =>
          have hfront : Regex.occursAtFront unlimited.regex.tail true ('H' :: d :: ds) =
              ((Letters.range '1' '9').contains d &&
                Regex.skip (.range '0' '9') (Regex.occursAtFront [.stop]) false ds) := rfl
          exact hfront.trans (by rw [Regex.skip_stop]; rfl)
    · rw [acceptsChars_of_ne p hc]
      cases p <;> simp [regex, Regex.occurs_start, Regex.occursAtFront, Letters.contains, hc]

end HeadingPattern

end NestingRules
