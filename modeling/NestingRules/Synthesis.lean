import NestingRules.Catalog
import NestingRules.Relation
import NestingRules.Template

/-!
# Rules from relations

`Synthesis.rule?` builds the rule that a relation asks for.  A rule that counts children is
evaluated on the parent, and so is every rule about content items; a rule that forbids a child of
some type is evaluated on the child and looks at its parent, so that the misplaced element is the
one reported.  Cardinalities that no single expression can test have no rule.
-/

namespace NestingRules

/-- The id of the rule for a relation: the names of parent and child make the clause. -/
def Relation.ruleId (r : Relation) : RuleId :=
  let child := if r.child.isContentItem then "content" else r.child.text
  ⟨.iso32005, r.parent.text ++ "-" ++ child, 1⟩

namespace Synthesis

/-- The wording of a kind of rule: its description and its error message, each with a slot for the
parent and one for the child. -/
structure Wording where
  description : Template
  error : Template
  deriving DecidableEq, Repr

namespace Wording

/-- No child. -/
def forbidden : Wording :=
  ⟨⟨"\x7b\x7d shall not contain \x7b\x7d"⟩, ⟨"\x7b\x7d contains \x7b\x7d"⟩⟩

/-- One child or more. -/
def atLeastOne : Wording :=
  ⟨⟨"\x7b\x7d shall contain at least one \x7b\x7d"⟩,
   ⟨"\x7b\x7d does not contain \x7b\x7d elements"⟩⟩

/-- No child or one. -/
def zeroOrOne : Wording :=
  ⟨⟨"\x7b\x7d shall contain at most one \x7b\x7d"⟩,
   ⟨"\x7b\x7d contains more than one \x7b\x7d"⟩⟩

/-- One child. -/
def exactlyOne : Wording :=
  ⟨⟨"\x7b\x7d shall contain exactly one \x7b\x7d"⟩,
   ⟨"\x7b\x7d either doesn't contain or contains more than one \x7b\x7d"⟩⟩

end Wording

/-- The part of a rule that depends on the kind of relation. -/
structure Draft where
  object : String
  test : String
  description : String
  error : String
  deriving DecidableEq, Repr

/-- The kind of object that stands for a structure type. -/
def elementObject (n : TypeName) : String := "SE" ++ n.text

/-- The kind of object that a rule about a parent is evaluated on. -/
def parentObject (n : TypeName) : String :=
  if n.isTreeRoot then "PDStructTreeRoot" else elementObject n

/-- The expression for the number of children of a type. -/
def childCount (revision : Revision) (child : TypeName) : String :=
  if child.isHeadingWildcard then
    "kidsStandardTypes.split('&').filter(elem => /" ++ revision.headingPattern.text ++
      "/.test(elem)).length"
  else "kidsStandardTypes.split('&').filter(elem => elem == '" ++ child.text ++ "').length"

/-- The expression that the parent is not of a type. -/
def parentDiffers (revision : Revision) (parent : TypeName) : String :=
  if parent.isHeadingWildcard then
    "/" ++ revision.headingPattern.text ++ "/.test(parentStandardType) == false"
  else "parentStandardType != '" ++ parent.text ++ "'"

/-- A draft in a wording, about a relation. -/
def Wording.draft (w : Wording) (r : Relation) (object test : String) :
    Except ArityError Draft := do
  return {
    object, test
    description := ← w.description.render [r.parent.display, r.child.display]
    error := ← w.error.render [r.parent.display, r.child.display] }

/-- The draft that forbids the child of a relation. -/
def forbidden (revision : Revision) (r : Relation) : Except ArityError Draft :=
  if r.child.isContentItem then do
    return {
      object := parentObject r.parent
      test := "hasContentItems == false"
      description := ← Wording.forbidden.description.render [r.parent.display, "content items"]
      error := ← Wording.forbidden.error.render [r.parent.display, "content item(s)"] }
  else
    Wording.forbidden.draft r (elementObject r.child) (parentDiffers revision r.parent)

/-- The draft for a relation; none if it has no rule. -/
def draft? (revision : Revision) (r : Relation) : Except ArityError (Option Draft) :=
  match r.cardinality with
  | .forbidden => (forbidden revision r).map some
  | .atLeastOne =>
    let test :=
      if r.child.isContentItem then "hasContentItems == true"
      else childCount revision r.child ++ " > 0"
    (Wording.atLeastOne.draft r (parentObject r.parent) test).map some
  | .zeroOrOne =>
    if r.child.isContentItem then .ok none
    else
      (Wording.zeroOrOne.draft r (parentObject r.parent)
        (childCount revision r.child ++ " <= 1")).map some
  | .exactlyOne =>
    if r.child.isContentItem then .ok none
    else
      (Wording.exactlyOne.draft r (parentObject r.parent)
        (childCount revision r.child ++ " == 1")).map some
  | .forbiddenForNonGroupingChild | .anyAmount | .anyAmountIfParentGrouping
  | .zeroOrOneIfParentGrouping | .dependsOnStructure | .ruby | .warichu => .ok none

/-- The rule of a draft. -/
def Draft.toRule (revision : Revision) (r : Relation) (d : Draft) : Rule where
  id := r.ruleId
  object := d.object
  tags := Category.relationTags r.parent r.child
  description := d.description
  test := d.test
  error := ⟨d.error, []⟩
  references := [.annexL revision]

/-- The rule for a relation; none if it has none. -/
def rule? (revision : Revision) (r : Relation) : Except ArityError (Option Rule) :=
  (draft? revision r).map (·.map (·.toRule revision r))

end Synthesis

end NestingRules
