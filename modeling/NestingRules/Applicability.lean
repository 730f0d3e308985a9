import NestingRules.Relation
import NestingRules.Role

/-!
# Applicability of relations

Not every relation of a table asks for a rule.  `Applicability.check` gives the reason why a
relation is left out for a revision; the reasons are tried in the order of their declaration and the
first one counts.
-/

namespace NestingRules

/-- Why a relation is left out. -/
inductive SkipReason where
  /-- The parent or the child is a structure type of no revision. -/
  | unknownType
  /-- The cardinality allows any number of children. -/
  | unconstrained
  /-- The parent is a grouping placeholder. -/
  | transitionalParent
  /-- The parent or the child is not standard in the legacy revision. -/
  | notInRevision
  deriving DecidableEq, Repr

namespace SkipReason

/-- Every reason, in the order in which they are tried. -/
def all : List SkipReason := [unknownType, unconstrained, transitionalParent, notInRevision]

/-- The reason in messages. -/
def text : SkipReason → String
  | unknownType => "unknown structure type"
  | unconstrained => "unconstrained"
  | transitionalParent => "transitional parent"
  | notInRevision => "not in revision"

end SkipReason

namespace Applicability

/-- Both sides of a relation are admitted by a scope. -/
def admits (s : RoleScope) (r : Relation) : Bool :=
  s.admitsParent r.parent && s.admitsChild r.child

/-- Why a relation is left out for a revision; none if it is not. -/
def check (revision : Revision) (r : Relation) : Option SkipReason :=
  if !admits .known r then some .unknownType
  else if r.cardinality.isUnconstrained then some .unconstrained
  else if Role.isTransitional r.parent.text then some .transitionalParent
  else if revision.isLegacy && !admits (.standard revision) r then some .notInRevision
  else none

/-- The relation asks for a rule for a revision. -/
def applies (revision : Revision) (r : Relation) : Bool := (check revision r).isNone

end Applicability

end NestingRules
