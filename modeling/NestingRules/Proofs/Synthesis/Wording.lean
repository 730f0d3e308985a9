import NestingRules.Synthesis
import Mathlib.Data.List.Basic

/-!
# What a rule says

The rule for a relation is written out here (`Synthesis.ruleWith`).  Its id and its tags come from
the two names, its object is one of them, and its description and its message are the two names with
fixed words between them (`Phrases`); only its test and its references depend on the revision.
Building a rule never fails, and it gives the rule that is written out (`Synthesis.rule?_eq`).  There
is a rule exactly for the relations with `Relation.hasRule`, which reads the cardinality and the
child only (`Synthesis.rule?_spec`).  Where a relation stands in its table plays no part
(`Synthesis.rule?_congr`).
-/

namespace NestingRules

/-- A template with a slot at its front and another one behind some words. -/
theorem Template.render_pair {t : Template} {words ending : String} (hslots : t.slots = 2)
    (hpieces : splitSlots t.text.toList = [[], words.toList, ending.toList]) (a b : String) :
    t.render [a, b] = .ok (a ++ words ++ b ++ ending) := by
  have htext : interleave [[], words.toList, ending.toList] [a.toList, b.toList] =
      (a ++ words ++ b ++ ending).toList := by
    simp [interleave]
  have hlen : [a, b].length = t.slots := hslots.symm
  rw [render, if_pos hlen, hpieces, List.map_cons, List.map_singleton, htext, String.ofList_toList]

/-! ### Words -/

/-- The words of a kind of rule: between parent and child in the description, between them in the
message, and behind the child in the message. -/
structure Phrases where
  duty : String
  failure : String
  ending : String
  deriving DecidableEq, Repr

namespace Phrases

/-- No child. -/
def forbidden : Phrases := ⟨" shall not contain ", " contains ", ""⟩

/-- One child or more. -/
def atLeastOne : Phrases := ⟨" shall contain at least one ", " does not contain ", " elements"⟩

/-- No child or one. -/
def zeroOrOne : Phrases := ⟨" shall contain at most one ", " contains more than one ", ""⟩

/-- One child. -/
def exactlyOne : Phrases :=
  ⟨" shall contain exactly one ", " either doesn't contain or contains more than one ", ""⟩

/-- The words of all kinds of rules. -/
def all : List Phrases := [forbidden, atLeastOne, zeroOrOne, exactlyOne]

end Phrases

/-- The words of the rule for a relation; none if it has no rule. -/
def Relation.phrases? (r : Relation) : Option Phrases :=
  match r.cardinality with
  | .forbidden => some .forbidden
  | .atLeastOne => some .atLeastOne
  | .zeroOrOne => if r.child.isContentItem then none else some .zeroOrOne
  | .exactlyOne => if r.child.isContentItem then none else some .exactlyOne
  | _ => none

theorem Relation.mem_all_of_phrases? {r : Relation} {p : Phrases} (h : r.phrases? = some p) :
    p ∈ Phrases.all := by
  unfold phrases? at h
  split at h
  · cases h
    decide
  · cases h
    decide
  · split_ifs at h
    cases h
    decide
  · split_ifs at h
    cases h
    decide
  · cases h

namespace Synthesis

variable {revision : Revision} {r : Relation} {w : Wording} {p : Phrases}

/-- The texts in a wording have these words in them. -/
structure Wording.Says (w : Wording) (p : Phrases) : Prop where
  description : ∀ a b, w.description.render [a, b] = .ok (a ++ p.duty ++ b)
  error : ∀ a b, w.error.render [a, b] = .ok (a ++ p.failure ++ b ++ p.ending)

theorem Wording.says_of_splitSlots (hslots : w.description.slots = 2 ∧ w.error.slots = 2)
    (hd : Template.splitSlots w.description.text.toList = [[], p.duty.toList, "".toList])
    (he : Template.splitSlots w.error.text.toList = [[], p.failure.toList, p.ending.toList]) :
    w.Says p where
  description a b := by
    rw [Template.render_pair hslots.1 hd, String.append_empty]
  error := Template.render_pair hslots.2 he

theorem Wording.says_forbidden : forbidden.Says .forbidden :=
  says_of_splitSlots (by decide) (by decide) (by decide)

theorem Wording.says_atLeastOne : atLeastOne.Says .atLeastOne :=
  says_of_splitSlots (by decide) (by decide) (by decide)

theorem Wording.says_zeroOrOne : zeroOrOne.Says .zeroOrOne :=
  says_of_splitSlots (by decide) (by decide) (by decide)

theorem Wording.says_exactlyOne : exactlyOne.Says .exactlyOne :=
  says_of_splitSlots (by decide) (by decide) (by decide)

/-! ### Rules -/

/-- The kind of object that the rule for a relation is evaluated on: that of the child if a type is
forbidden as a child, and else that of the parent. -/
def objectOf (r : Relation) : String :=
  if r.cardinality = .forbidden ∧ r.child.isContentItem = false then elementObject r.child
  else parentObject r.parent

/-- The child in a sentence; content items that are forbidden are many. -/
def childIn (contentItems : String) (r : Relation) : String :=
  if r.cardinality = .forbidden ∧ r.child.isContentItem = true then contentItems
  else r.child.display

/-- The test of the rule for a relation, if it has one. -/
def testOf (revision : Revision) (r : Relation) : String :=
  match r.cardinality with
  | .forbidden =>
    if r.child.isContentItem then "hasContentItems == false" else parentDiffers revision r.parent
  | .atLeastOne =>
    if r.child.isContentItem then "hasContentItems == true"
    else childCount revision r.child ++ " > 0"
  | .zeroOrOne => childCount revision r.child ++ " <= 1"
  | .exactlyOne => childCount revision r.child ++ " == 1"
  | _ => ""

/-- The draft for a relation with some words in it. -/
def draftWith (revision : Revision) (r : Relation) (p : Phrases) : Draft where
  object := objectOf r
  test := testOf revision r
  description := r.parent.display ++ p.duty ++ childIn "content items" r
  error := r.parent.display ++ p.failure ++ childIn "content item(s)" r ++ p.ending

/-- The rule for a relation with some words in it. -/
def ruleWith (revision : Revision) (r : Relation) (p : Phrases) : Rule :=
  (draftWith revision r p).toRule revision r

theorem Wording.Says.draft_eq (h : w.Says p) (r : Relation) (object test : String) :
    w.draft r object test = .ok {
      object, test
      description := r.parent.display ++ p.duty ++ r.child.display
      error := r.parent.display ++ p.failure ++ r.child.display ++ p.ending } := by
  rw [draft, h.description, h.error]
  rfl

theorem forbidden_eq (h : r.cardinality = .forbidden) :
    forbidden revision r = .ok (draftWith revision r .forbidden) := by
  have hsays := Wording.says_forbidden
  cases hc : r.child.isContentItem with
  | true =>
    simp only [forbidden, draftWith, objectOf, childIn, testOf, h, hc, hsays.description,
      hsays.error]
    rfl
  | false =>
    simp only [forbidden, draftWith, objectOf, childIn, testOf, h, hc, hsays.draft_eq]
    rfl

/-- The draft of a rule that counts children or looks for content items. -/
theorem Wording.Says.map_draft_eq (h : w.Says p) (hr : r.cardinality ≠ .forbidden) :
    (w.draft r (parentObject r.parent) (testOf revision r)).map some =
      .ok (some (draftWith revision r p)) := by
  simp only [h.draft_eq, draftWith, objectOf, childIn, hr, false_and, ↓reduceIte]
  rfl

theorem draft?_eq (revision : Revision) (r : Relation) :
    draft? revision r = .ok (r.phrases?.map (draftWith revision r)) := by
  unfold draft? Relation.phrases?
  cases h : r.cardinality with
  | forbidden =>
    rw [forbidden_eq h]
    rfl
  | atLeastOne =>
    have htest : testOf revision r = if r.child.isContentItem then "hasContentItems == true"
        else childCount revision r.child ++ " > 0" := by rw [testOf, h]
    dsimp only
    rw [← htest, Wording.says_atLeastOne.map_draft_eq (by rw [h]; decide)]
    rfl
  | zeroOrOne =>
    have htest : testOf revision r = childCount revision r.child ++ " <= 1" := by rw [testOf, h]
    dsimp only
    split_ifs
    · rfl
    · rw [← htest, Wording.says_zeroOrOne.map_draft_eq (by rw [h]; decide)]
      rfl
  | exactlyOne =>
    have htest : testOf revision r = childCount revision r.child ++ " == 1" := by rw [testOf, h]
    dsimp only
    split_ifs
    · rfl
    · rw [← htest, Wording.says_exactlyOne.map_draft_eq (by rw [h]; decide)]
      rfl
  | forbiddenForNonGroupingChild | anyAmount | anyAmountIfParentGrouping
  | zeroOrOneIfParentGrouping | dependsOnStructure | ruby | warichu => rfl

/-- **Building the rule for a relation never fails**, and the rule is written out of the names. -/
theorem rule?_eq (revision : Revision) (r : Relation) :
    rule? revision r = .ok (r.phrases?.map (ruleWith revision r)) := by
  rw [rule?, draft?_eq]
  cases r.phrases? <;> rfl

theorem rule?_eq_some_iff {rule : Rule} : rule? revision r = .ok (some rule) ↔
    ∃ p, r.phrases? = some p ∧ ruleWith revision r p = rule := by
  rw [rule?_eq, Except.ok.injEq, Option.map_eq_some_iff]

end Synthesis

/-! ### Relations with a rule -/

/-- The cardinality has a rule: the child is forbidden or required, or it is a structure type whose
number is bounded. -/
def Relation.hasRule (r : Relation) : Bool :=
  match r.cardinality with
  | .forbidden | .atLeastOne => true
  | .zeroOrOne | .exactlyOne => !r.child.isContentItem
  | _ => false

theorem Relation.isSome_phrases? (r : Relation) : r.phrases?.isSome = r.hasRule := by
  unfold phrases? hasRule
  cases r.cardinality <;> cases r.child.isContentItem <;> rfl

namespace Synthesis

variable {revision : Revision} {r s : Relation}

/-- **Building a rule never fails**, and there is one iff the cardinality has a rule. -/
theorem rule?_spec (revision : Revision) (r : Relation) :
    ∃ o, rule? revision r = .ok o ∧ o.isSome = r.hasRule ∧ ∀ rule ∈ o, rule.id = r.ruleId := by
  refine ⟨_, rule?_eq revision r, ?_, fun rule hrule => ?_⟩
  · rw [Option.isSome_map, r.isSome_phrases?]
  · obtain ⟨p, -, rfl⟩ := Option.map_eq_some_iff.1 hrule
    rfl

theorem id_of_rule?_eq_ok {rule : Rule} (h : rule? revision r = .ok (some rule)) :
    rule.id = r.ruleId := by
  obtain ⟨o, ho, -, hid⟩ := rule?_spec revision r
  rw [ho] at h
  exact hid rule (Except.ok.inj h)

theorem rule?_congr (h : r.identity = s.identity) : rule? revision r = rule? revision s := by
  obtain ⟨parent, child, cardinality, row, col⟩ := r
  obtain ⟨parent', child', cardinality', row', col'⟩ := s
  obtain ⟨rfl, rfl, rfl⟩ := Relation.Identity.mk.inj h
  rfl

end Synthesis

end NestingRules
