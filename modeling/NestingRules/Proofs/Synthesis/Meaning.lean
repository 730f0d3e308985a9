import NestingRules.Proofs.Expression.ReadBack
import NestingRules.Proofs.Synthesis.RuleId
import NestingRules.Proofs.Synthesis.Wording

/-!
# The meaning of tests

The test of a rule is the written form of an expression (`Synthesis.test_eq_print`), which is read
back from it since no name that applies has a character that would end a literal.  Its value is true
iff the relation is fulfilled (`Synthesis.test_iff_isFulfilled`).
-/

namespace NestingRules

open Expression

/-- The type stands for a name: the heading wildcard for every numbered heading of the revision, and
any other type for its own name. -/
def TypeName.standsFor (revision : Revision) (n : TypeName) (name : String) : Bool :=
  if n.isHeadingWildcard then revision.headingPattern.accepts name else name == n.text

/-- What a test looks at: the types of the children and of the parent of an element. -/
structure Surroundings where
  kids : List String
  parent : String
  hasContentItems : Bool

/-- The surroundings as values of names, with the types of the children joined by ampersands. -/
def Surroundings.environment (s : Surroundings) : Environment
  | "kidsStandardTypes" => some (.text ("&".intercalate s.kids))
  | "parentStandardType" => some (.text s.parent)
  | "hasContentItems" => some (.boolean s.hasContentItems)
  | _ => none

namespace Relation

/-- The number of children of the type. -/
def count (revision : Revision) (r : Relation) (s : Surroundings) : Nat :=
  s.kids.countP (r.child.standsFor revision)

/-- What the relation asks for, if its cardinality has a rule. -/
def IsFulfilled (revision : Revision) (r : Relation) (s : Surroundings) : Prop :=
  match r.cardinality with
  | .forbidden =>
    if r.child.isContentItem then s.hasContentItems = false
    else r.parent.standsFor revision s.parent = false
  | .atLeastOne =>
    if r.child.isContentItem then s.hasContentItems = true else 1 ≤ r.count revision s
  | .zeroOrOne => r.count revision s ≤ 1
  | .exactlyOne => r.count revision s = 1
  | _ => True

end Relation

namespace Synthesis

variable {revision : Revision} {r : Relation} {s : Surroundings} {rule : Rule} {e : Expr}

/-! ### Expressions of tests -/

/-- The expression that the value of a name is a numbered heading. -/
def headingTest (revision : Revision) (x : String) : Expr :=
  .call .test (.atom (.pattern revision.headingPattern.regex)) (.atom (.name x))

/-- The expression that a type stands for the value of a name. -/
def typeTest (revision : Revision) (n : TypeName) (x : String) : Expr :=
  if n.isHeadingWildcard then headingTest revision x
  else .compare .equal (.atom (.name x)) (.atom (.text n.text))

/-- The expression for the types of the children. -/
def kids : Expr := .call .split (.atom (.name "kidsStandardTypes")) (.atom (.text "&"))

/-- The expression for the number of children of a type. -/
def countOf (revision : Revision) (n : TypeName) : Expr :=
  .length (.filter kids "elem" (typeTest revision n "elem"))

/-- The expression that a type does not stand for the parent. -/
def otherParent (revision : Revision) (n : TypeName) : Expr :=
  if n.isHeadingWildcard then
    .compare .equal (headingTest revision "parentStandardType") (.atom (.boolean false))
  else .compare .differ (.atom (.name "parentStandardType")) (.atom (.text n.text))

/-- The expression that there are content items, or that there are none. -/
def contentItems (b : Bool) : Expr :=
  .compare .equal (.atom (.name "hasContentItems")) (.atom (.boolean b))

/-- The expression that is the test of the rule for a relation; none if it has no rule. -/
def expression? (revision : Revision) (r : Relation) : Option Expr :=
  match r.cardinality with
  | .forbidden =>
    some (if r.child.isContentItem then contentItems false else otherParent revision r.parent)
  | .atLeastOne =>
    some (if r.child.isContentItem then contentItems true
      else .compare .greater (countOf revision r.child) (.atom (.number 0)))
  | .zeroOrOne =>
    if r.child.isContentItem then none
    else some (.compare .atMost (countOf revision r.child) (.atom (.number 1)))
  | .exactlyOne =>
    if r.child.isContentItem then none
    else some (.compare .equal (countOf revision r.child) (.atom (.number 1)))
  | _ => none

/-! ### Written tests -/

theorem print_headingTest (revision : Revision) (x : String) :
    (headingTest revision x).print =
      "/" ++ revision.headingPattern.text ++ "/.test(" ++ x ++ ")" := by
  apply String.toList_inj.1
  simp [headingTest, Atom.print, Method.name, HeadingPattern.print_regex]

theorem print_countOf (revision : Revision) (n : TypeName) :
    (countOf revision n).print = childCount revision n := by
  apply String.toList_inj.1
  unfold countOf typeTest childCount
  split_ifs
  · simp [kids, print_headingTest, Atom.print, Method.name]
  · simp [kids, Atom.print, Comparison.print, Method.name]

theorem print_compare_countOf (revision : Revision) (n : TypeName) (op : Comparison) (k : Nat) :
    (Expr.compare op (countOf revision n) (.atom (.number k))).print =
      childCount revision n ++
        (" " ++ String.ofList op.print ++ " " ++ String.ofList (Nat.toDigits 10 k)) := by
  rw [Expr.print_compare, Expr.print_atom, print_countOf, Atom.print]

theorem print_otherParent (revision : Revision) (n : TypeName) :
    (otherParent revision n).print = parentDiffers revision n := by
  apply String.toList_inj.1
  unfold otherParent parentDiffers
  split_ifs
  · simp [print_headingTest, Atom.print, Comparison.print]
  · simp [Atom.print, Comparison.print]

theorem map_print_expression? (revision : Revision) (r : Relation) :
    (expression? revision r).map (·.print) = r.phrases?.map fun _ => testOf revision r := by
  unfold expression? Relation.phrases? testOf
  cases r.cardinality with
  | forbidden =>
    dsimp only
    split_ifs
    · rfl
    · rw [Option.map_some, Option.map_some, print_otherParent]
  | atLeastOne =>
    dsimp only
    split_ifs
    · rfl
    · exact congrArg some (print_compare_countOf revision r.child .greater 0)
  | zeroOrOne =>
    dsimp only
    split_ifs
    · rfl
    · exact congrArg some (print_compare_countOf revision r.child .atMost 1)
  | exactlyOne =>
    dsimp only
    split_ifs
    · rfl
    · exact congrArg some (print_compare_countOf revision r.child .equal 1)
  | forbiddenForNonGroupingChild | anyAmount | anyAmountIfParentGrouping
  | zeroOrOneIfParentGrouping | dependsOnStructure | ruby | warichu => rfl

/-- **The test of a rule is the written form of its expression.** -/
theorem test_eq_print (h : rule? revision r = .ok (some rule)) :
    ∃ e, expression? revision r = some e ∧ rule.test = e.print := by
  obtain ⟨p, hp, rfl⟩ := rule?_eq_some_iff.1 h
  have htest : (expression? revision r).map (·.print) = some (testOf revision r) := by
    rw [map_print_expression?, hp, Option.map_some]
  obtain ⟨e, he, hprint⟩ := Option.map_eq_some_iff.1 htest
  exact ⟨e, he, hprint.symm⟩

/-! ### Readable tests -/

/-- The name can stand in a literal and is not empty. -/
def IsQuotable (name : String) : Prop := name.toList.all Enclosed.text.admits = true ∧ name ≠ ""

instance (name : String) : Decidable (IsQuotable name) :=
  inferInstanceAs (Decidable (_ ∧ _))

theorem isQuotable_of_isKnown {name : String} (h : Role.isKnown name = true) : IsQuotable name := by
  have key : ∀ revision, ∀ n ∈ Role.standard revision, IsQuotable n := by
    rintro (_ | _) <;> decide
  obtain ⟨revision, hr⟩ := Role.exists_isStandard_of_isKnown h
  exact key revision name hr

theorem isQuotable_of_check (h : Applicability.check revision r = none) :
    IsQuotable r.parent.text ∧ IsQuotable r.child.text := by
  obtain ⟨hparent, hchild⟩ :=
    Applicability.admits_iff.1 (Applicability.admits_of_check_eq_none h)
  constructor
  · obtain hp | hp | hp := RoleScope.admitsParent_iff.1 hparent
    · exact isQuotable_of_isKnown hp
    · rw [hp]; decide
    · rw [hp]; decide
  · obtain hc | hc | hc := RoleScope.admitsChild_iff.1 hchild
    · exact isQuotable_of_isKnown hc
    · rw [hc]; decide
    · rw [hc]; decide

theorem isReadable_headingTest {x : String} (hx : (Atom.name x).isReadable = true) :
    (headingTest revision x).isReadable = true := by
  have hpattern : (Atom.pattern revision.headingPattern.regex).isReadable = true := by
    cases revision <;> decide
  simp [headingTest, Expr.isReadable, Expr.isReceiver, Expr.isOperand, hpattern, hx]

theorem isReadable_countOf {n : TypeName} (h : IsQuotable n.text) :
    (countOf revision n).isReadable = true := by
  have helem : (Atom.name "elem").isReadable = true := by decide
  have htext : (Atom.text n.text).isReadable = true := h.1
  have htype : (typeTest revision n "elem").isReadable = true := by
    unfold typeTest
    split_ifs
    · exact isReadable_headingTest helem
    · exact Expr.isReadable_compare (a := .atom _) (b := .atom _) rfl helem rfl htext .equal
  have hkids : kids.isReceiver = true ∧ kids.isReadable = true := by decide
  have hfilter : (Expr.filter kids "elem" (typeTest revision n "elem")).isReceiver = true := rfl
  simp [countOf, Expr.isReadable, helem, htype, hkids, hfilter]

theorem isReadable_otherParent {n : TypeName} (h : IsQuotable n.text) :
    (otherParent revision n).isReadable = true := by
  have hparent : (Atom.name "parentStandardType").isReadable = true := by decide
  have htext : (Atom.text n.text).isReadable = true := h.1
  have hfalse : (Atom.boolean false).isReadable = true := by decide
  unfold otherParent
  split_ifs
  · exact Expr.isReadable_compare (b := .atom _) rfl (isReadable_headingTest hparent) rfl hfalse
      .equal
  · exact Expr.isReadable_compare (a := .atom _) (b := .atom _) rfl hparent rfl htext .differ

/-- The expression for a relation that applies is read back from what is written. -/
theorem isReadable_expression (h : Applicability.check revision r = none)
    (he : expression? revision r = some e) : e.isReadable = true := by
  obtain ⟨hparent, hchild⟩ := isQuotable_of_check h
  unfold expression? at he
  split at he
  · cases he
    split_ifs
    · decide
    · exact isReadable_otherParent hparent
  · cases he
    split_ifs
    · decide
    · exact Expr.isReadable_compare rfl (isReadable_countOf hchild) rfl (by decide) .greater
  · split_ifs at he
    cases he
    exact Expr.isReadable_compare rfl (isReadable_countOf hchild) rfl (by decide) .atMost
  · split_ifs at he
    cases he
    exact Expr.isReadable_compare rfl (isReadable_countOf hchild) rfl (by decide) .equal
  · cases he

/-! ### Values of tests -/

theorem eval?_headingTest {env : Environment} {x name : String} (hx : env x = some (.text name)) :
    (headingTest revision x).eval? env =
      some (.boolean (revision.headingPattern.accepts name)) := by
  simp only [headingTest, Expr.eval?, Atom.eval?, hx, Method.result?, HeadingPattern.test_regex]

theorem eval?_typeTest {env : Environment} {x name : String} (hx : env x = some (.text name))
    (n : TypeName) :
    (typeTest revision n x).eval? env = some (.boolean (n.standsFor revision name)) := by
  unfold typeTest TypeName.standsFor
  split_ifs
  · exact eval?_headingTest hx
  · simp only [Expr.eval?, Atom.eval?, hx, Comparison.result?, Value.equal?, Option.map_some]

theorem eval?_otherParent (revision : Revision) (n : TypeName) (s : Surroundings) :
    (otherParent revision n).eval? s.environment =
      some (.boolean (!n.standsFor revision s.parent)) := by
  have hparent : s.environment "parentStandardType" = some (.text s.parent) := rfl
  unfold otherParent TypeName.standsFor
  split_ifs
  · have hheading : (headingTest revision "parentStandardType").eval? s.environment =
        some (.boolean (revision.headingPattern.accepts s.parent)) := eval?_headingTest hparent
    simp only [Expr.eval?, hheading, Atom.eval?, Comparison.result?, Value.equal?, Option.map_some,
      beq_false]
  · simp only [Expr.eval?, Atom.eval?, hparent, Comparison.result?, Value.equal?, Option.map_some]

theorem eval?_contentItems (b : Bool) (s : Surroundings) :
    (contentItems b).eval? s.environment = some (.boolean (s.hasContentItems == b)) := rfl

theorem standsFor_empty {n : TypeName} (h : IsQuotable n.text) :
    n.standsFor revision "" = false := by
  unfold TypeName.standsFor
  split_ifs
  · cases revision <;> decide
  · exact beq_false_of_ne h.2.symm

theorem eval?_kids (hs : ∀ k ∈ s.kids, '&' ∉ k.toList) :
    kids.eval? s.environment = some (.texts (if s.kids = [] then [""] else s.kids)) := by
  have hkids : s.environment "kidsStandardTypes" = some (.text ("&".intercalate s.kids)) := rfl
  have hsplit : split? ("&".intercalate s.kids) "&" =
      some (if s.kids = [] then [""] else s.kids) := split?_intercalate rfl hs
  simp only [kids, Expr.eval?, Atom.eval?, hkids, Method.result?, hsplit, Option.map_some]

theorem eval?_countOf {n : TypeName} (hn : IsQuotable n.text)
    (hs : ∀ k ∈ s.kids, '&' ∉ k.toList) :
    (countOf revision n).eval? s.environment =
      some (.number (s.kids.countP (n.standsFor revision))) := by
  have hcondition : ∀ name ∈ if s.kids = [] then [""] else s.kids,
      (typeTest revision n "elem").eval?
          (Function.update s.environment "elem" (some (.text name))) =
        some (.boolean (n.standsFor revision name)) :=
    fun name _ => eval?_typeTest (Function.update_self ..) n
  have hcount : ((if s.kids = [] then [""] else s.kids).filter (n.standsFor revision)).length =
      s.kids.countP (n.standsFor revision) := by
    split_ifs with hkids
    · simp [hkids, standsFor_empty hn]
    · rw [List.countP_eq_length_filter]
  simp only [countOf, Expr.eval?, eval?_kids hs, keep?_eq_filter hcondition, Option.map_some,
    hcount]

/-- The expression for a relation that applies is true iff the relation is fulfilled. -/
theorem eval?_expression (h : Applicability.check revision r = none)
    (he : expression? revision r = some e) (hs : ∀ k ∈ s.kids, '&' ∉ k.toList) :
    ∃ b, e.eval? s.environment = some (.boolean b) ∧ (b = true ↔ r.IsFulfilled revision s) := by
  obtain ⟨-, hchild⟩ := isQuotable_of_check h
  have hcount : (countOf revision r.child).eval? s.environment =
      some (.number (r.count revision s)) := eval?_countOf hchild hs
  unfold expression? at he
  unfold Relation.IsFulfilled
  split at he
  · cases he
    split_ifs
    · exact ⟨_, eval?_contentItems false s, by simp⟩
    · exact ⟨_, eval?_otherParent revision r.parent s, by simp⟩
  · cases he
    split_ifs
    · exact ⟨_, eval?_contentItems true s, by simp⟩
    · refine ⟨decide (0 < r.count revision s), ?_, decide_eq_true_iff⟩
      simp only [Expr.eval?, hcount, Atom.eval?, Comparison.result?, Option.map_some]
  · split_ifs at he
    cases he
    refine ⟨decide (r.count revision s ≤ 1), ?_, decide_eq_true_iff⟩
    simp only [Expr.eval?, hcount, Atom.eval?, Comparison.result?, Option.map_some]
  · split_ifs at he
    cases he
    refine ⟨r.count revision s == 1, ?_, beq_iff_eq⟩
    simp only [Expr.eval?, hcount, Atom.eval?, Comparison.result?, Value.equal?, Option.map_some]
  · cases he

/-- **A test means what the cell says.**  It is the text of one expression, which is true of the
surroundings of an element iff the relation is fulfilled there. -/
theorem test_iff_isFulfilled (h : Applicability.check revision r = none)
    (hrule : rule? revision r = .ok (some rule)) (hs : ∀ k ∈ s.kids, '&' ∉ k.toList) :
    ∃ e b, Expr.parse? rule.test = some e ∧ e.eval? s.environment = some (.boolean b) ∧
      (b = true ↔ r.IsFulfilled revision s) := by
  obtain ⟨e, he, htest⟩ := test_eq_print hrule
  obtain ⟨b, heval, hiff⟩ := eval?_expression h he hs
  refine ⟨e, b, ?_, heval, hiff⟩
  rw [htest]
  exact Expr.parse?_print (isReadable_expression h he)

theorem test_iff_isFulfilled_one_heading :
    let r : Relation := ⟨⟨"Document"⟩, .headingWildcard, .exactlyOne, 1, 1⟩
    let s : Surroundings := ⟨["P", "H6", "H7"], "StructTreeRoot", false⟩
    ∃ rule e, rule? .pdf17 r = .ok (some rule) ∧ Expr.parse? rule.test = some e ∧
      e.eval? s.environment = some (.boolean true) := by
  intro r s
  have hcheck : Applicability.check .pdf17 r = none := by decide
  have hkids : ∀ k ∈ s.kids, '&' ∉ k.toList := by decide
  obtain ⟨rule, hrule⟩ : ∃ rule, rule? .pdf17 r = .ok (some rule) := ⟨_, rfl⟩
  obtain ⟨e, b, hparse, heval, hb⟩ := test_iff_isFulfilled hcheck hrule hkids
  have hfulfilled : r.IsFulfilled .pdf17 s := by
    have hcount : r.count .pdf17 s = 1 := by decide
    exact hcount
  obtain rfl : b = true := hb.2 hfulfilled
  exact ⟨rule, e, hrule, hparse, heval⟩

end Synthesis

end NestingRules
