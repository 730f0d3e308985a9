import NestingRules.Applicability

/-!
# Reports

A report counts what became of the relations that were turned into rules.  Several runs may add to
one report.
-/

namespace NestingRules

/-- How many relations were left out, by reason. -/
structure SkipCounts where
  unknownType : Nat := 0
  unconstrained : Nat := 0
  transitionalParent : Nat := 0
  notInRevision : Nat := 0
  deriving DecidableEq, Repr, Inhabited

namespace SkipCounts

/-- The count for a reason. -/
def count (c : SkipCounts) : SkipReason → Nat
  | .unknownType => c.unknownType
  | .unconstrained => c.unconstrained
  | .transitionalParent => c.transitionalParent
  | .notInRevision => c.notInRevision

/-- The counts with one more for a reason. -/
def increment (c : SkipCounts) : SkipReason → SkipCounts
  | .unknownType => { c with unknownType := c.unknownType + 1 }
  | .unconstrained => { c with unconstrained := c.unconstrained + 1 }
  | .transitionalParent => { c with transitionalParent := c.transitionalParent + 1 }
  | .notInRevision => { c with notInRevision := c.notInRevision + 1 }

/-- The relations left out, for whatever reason. -/
def total (c : SkipCounts) : Nat := SkipReason.all.foldl (fun n reason => n + c.count reason) 0

end SkipCounts

/-- What became of the relations. -/
structure Report where
  /-- All relations. -/
  parsed : Nat := 0
  /-- Relations that ask for no rule. -/
  skipped : SkipCounts := {}
  /-- Relations that ask for a rule but have none. -/
  unhandled : Nat := 0
  /-- Relations whose rule is in the set. -/
  synthesized : Nat := 0
  /-- Relations whose rule has an id that was taken. -/
  duplicates : Nat := 0
  /-- Rules of the catalog. -/
  catalog : Nat := 0
  deriving DecidableEq, Repr, Inhabited

namespace Report

/-- The relations that ask for no rule. -/
def skippedTotal (r : Report) : Nat := r.skipped.total

/-- The rules of the set. -/
def ruleCount (r : Report) : Nat := r.catalog + r.synthesized

end Report

end NestingRules
