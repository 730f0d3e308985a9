import NestingRules.Log.Event
import NestingRules.Report
import NestingRules.Rule.Set
import NestingRules.Synthesis

/-!
# Generation of rule sets

The rule set of a list of relations holds the catalog and, for each relation that asks for a rule and
has one, that rule, unless an earlier relation took its id.  `generate` makes the set, adds to a
report what became of each relation, and says so in events.
-/

namespace NestingRules

/-- What becomes of a relation, taken by itself. -/
inductive Outcome where
  | skipped (reason : SkipReason)
  | unhandled
  | synthesized (rule : Rule)
  deriving DecidableEq, Repr

namespace Outcome

/-- The relation is checked first, and then its rule is built. -/
def of (revision : Revision) (r : Relation) : Except ArityError Outcome :=
  match Applicability.check revision r with
  | some reason => .ok (.skipped reason)
  | none =>
    (Synthesis.rule? revision r).map fun
      | none => .unhandled
      | some rule => .synthesized rule

/-- What is said about the outcome. -/
def event (revision : Revision) (r : Relation) : Outcome → Event
  | skipped reason => .relationSkipped r revision reason
  | unhandled => .noRule r
  | synthesized rule => .ruleSynthesized r rule.id rule.object

end Outcome

/-- A rule set in the making. -/
structure Generation where
  rules : RuleSet
  report : Report
  /-- What was said, in order. -/
  events : List Event
  deriving DecidableEq

namespace Generation

/-- Put a catalog rule into the set. -/
def addCatalogRule (g : Generation) (rule : Rule) : Generation :=
  if g.rules.containsId rule.id then g
  else { g with
    rules := g.rules.insert rule
    report := { g.report with catalog := g.report.catalog + 1 } }

/-- Add the outcome of a relation to a set and a report; the answer holds the events of this
relation only. -/
def settle (revision : Revision) (rules : RuleSet) (report : Report) (r : Relation)
    (o : Outcome) : Generation :=
  match o with
  | .skipped reason =>
    ⟨rules, { report with skipped := report.skipped.increment reason }, [o.event revision r]⟩
  | .unhandled => ⟨rules, { report with unhandled := report.unhandled + 1 }, [o.event revision r]⟩
  | .synthesized rule =>
    if rules.containsId rule.id then
      ⟨rules, { report with duplicates := report.duplicates + 1 },
        [o.event revision r, .duplicateId r rule.id]⟩
    else
      ⟨rules.insert rule, { report with synthesized := report.synthesized + 1 },
        [o.event revision r]⟩

/-- Add relations one after the other. -/
def addAll (revision : Revision) :
    RuleSet → Report → List Relation → Except ArityError Generation
  | rules, report, [] => .ok ⟨rules, report, []⟩
  | rules, report, r :: rs => do
    let g := settle revision rules report r (← Outcome.of revision r)
    let h ← addAll revision g.rules g.report rs
    return { h with events := g.events ++ h.events }

end Generation

/-- The rule set of a list of relations, with a report that is added to the one given. -/
def generate (revision : Revision) (report : Report) (relations : List Relation) :
    Except ArityError Generation :=
  let start := (Catalog.rules revision).foldl Generation.addCatalogRule ⟨∅, report, []⟩
  Generation.addAll revision start.rules
    { start.report with parsed := start.report.parsed + relations.length } relations

end NestingRules
