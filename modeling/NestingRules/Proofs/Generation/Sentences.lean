import NestingRules.Proofs.Generation.Order

/-!
# Sentences with any names in them

Whether a relation has a rule depends on its kind only (`Relation.IsRuled`), and its names may be
any texts: they are put between the words of the kind as they are, and what looks like a slot or a
bracket in a name stays part of the name (`Rule.IsWordedFor`).  A relation need not apply for this
(`Synthesis.rule?_cases`), so rule sets are generated and profiles are compiled from any relations at
all (`rule?_verbatim`).
-/

namespace NestingRules

namespace TypeName

variable {n : TypeName}

theorem isContentItem_iff : n.isContentItem = true ↔ n.text = "content item" := by
  rw [isContentItem, beq_iff_eq, contentItem, ← TypeName.mk.injEq]

theorem isTreeRoot_iff : n.isTreeRoot = true ↔ n.text = "StructTreeRoot" := by
  rw [isTreeRoot, beq_iff_eq, treeRoot, ← TypeName.mk.injEq]

end TypeName

/-- A name in a sentence: the root and content items are bare, all else is in angle brackets. -/
def inSentence (name : String) : String :=
  if name = "StructTreeRoot" ∨ name = "content item" then name else "<" ++ name ++ ">"

theorem TypeName.display_eq (n : TypeName) : n.display = inSentence n.text := by
  simp only [display, inSentence, Bool.or_eq_true, isTreeRoot_iff, isContentItem_iff]

namespace Relation

variable {r : Relation} {p : Phrases}

/-- The relation is of a kind that has rules: a child is forbidden or required, or the number of
children of a structure type is bounded. -/
def IsRuled (r : Relation) : Prop :=
  r.cardinality = .forbidden ∨ r.cardinality = .atLeastOne ∨
    (r.cardinality = .zeroOrOne ∨ r.cardinality = .exactlyOne) ∧ r.child.text ≠ "content item"

theorem isRuled_iff : r.IsRuled ↔ r.phrases?.isSome = true := by
  rw [isSome_phrases?, hasRule, IsRuled, Ne, ← TypeName.isContentItem_iff]
  cases r.cardinality <;> simp

/-- The relation forbids content that is tagged directly. -/
def ForbidsContent (r : Relation) : Prop :=
  r.cardinality = .forbidden ∧ r.child.text = "content item"

instance (r : Relation) : Decidable r.ForbidsContent := inferInstanceAs (Decidable (_ ∧ _))

end Relation

/-- The rule says what relations of the kind of `r` ask for, with the names of `r` in it as they
are. -/
structure Rule.IsWordedFor (r : Relation) (x : Rule) : Prop where
  /-- Description and message have the words of the kind around the parent and the child. -/
  words : ∃ p, r.phrases? = some p ∧
    x.description = inSentence r.parent.text ++ p.duty ++
      (if r.ForbidsContent then "content items" else inSentence r.child.text) ∧
    x.error.message = inSentence r.parent.text ++ p.failure ++
      (if r.ForbidsContent then "content item(s)" else inSentence r.child.text) ++ p.ending
  /-- A type that is forbidden as a child is the object, and else the parent is. -/
  object : x.object =
    if r.cardinality = .forbidden ∧ r.child.text ≠ "content item" then "SE" ++ r.child.text
    else if r.parent.text = "StructTreeRoot" then "PDStructTreeRoot"
    else "SE" ++ r.parent.text

namespace Synthesis

variable {revision : Revision} {r : Relation} {p : Phrases}

theorem childIn_eq (contentItems : String) (r : Relation) : childIn contentItems r =
    if r.ForbidsContent then contentItems else inSentence r.child.text := by
  have hcontent : r.cardinality = .forbidden ∧ r.child.isContentItem = true ↔ r.ForbidsContent :=
    and_congr_right fun _ => TypeName.isContentItem_iff
  exact if_congr hcontent rfl r.child.display_eq

theorem parentObject_eq (n : TypeName) : parentObject n =
    if n.text = "StructTreeRoot" then "PDStructTreeRoot" else "SE" ++ n.text := by
  simp only [parentObject, TypeName.isTreeRoot_iff, elementObject]

theorem isWordedFor_ruleWith (h : r.phrases? = some p) :
    (ruleWith revision r p).IsWordedFor r where
  words := by
    refine ⟨p, h, ?_, ?_⟩
    · rw [← childIn_eq, ← TypeName.display_eq]
      rfl
    · rw [← childIn_eq, ← TypeName.display_eq]
      rfl
  object := by
    have hchild : r.child.isContentItem = false ↔ r.child.text ≠ "content item" := by
      rw [Ne, ← TypeName.isContentItem_iff, Bool.not_eq_true]
    have hobject : (ruleWith revision r p).object = objectOf r := rfl
    simp only [hobject, objectOf, hchild, elementObject, parentObject_eq]

/-- **A relation has a rule in the words of its kind, or its kind has no rules**; there is no third
case, whatever the names are. -/
theorem rule?_cases (revision : Revision) (r : Relation) :
    (r.IsRuled ∧ ∃ x, rule? revision r = .ok (some x) ∧ x.IsWordedFor r) ∨
      ¬ r.IsRuled ∧ rule? revision r = .ok none := by
  rw [rule?_eq, Relation.isRuled_iff]
  cases h : r.phrases? with
  | none => exact .inr ⟨by simp, rfl⟩
  | some p => exact .inl ⟨rfl, _, rfl, isWordedFor_ruleWith h⟩

end Synthesis

/-- **Generation never fails and takes names as they are.**  Any relation, applicable or not, has a
rule in the words of its kind if the kind has rules, and else none.  Hence every list of relations
has a rule set and a profile. -/
theorem rule?_verbatim (o : CompileOptions) (report : Report) (relations : List Relation) :
    (∀ revision r, (r.IsRuled ∧ ∃ x,
        Synthesis.rule? revision r = .ok (some x) ∧ x.IsWordedFor r) ∨
      ¬ r.IsRuled ∧ Synthesis.rule? revision r = .ok none) ∧
      (∃ g, generate o.revision report relations = .ok g) ∧
      ∃ c, compile o relations = .ok c := by
  obtain ⟨g, -, hg, -⟩ := generate_spec o.revision report relations
  obtain ⟨c, hc, -⟩ := compile_profile o relations
  exact ⟨Synthesis.rule?_cases, ⟨g, hg⟩, c, hc⟩

example : (Synthesis.rule? .pdf20 ⟨⟨"\x7b\x7d"⟩, ⟨"'\x7b\x7d>"⟩, .exactlyOne, 1, 1⟩).map
    (·.map fun x => (x.description, x.object)) =
      .ok (some ("<\x7b\x7d> shall contain exactly one <'\x7b\x7d>>", "SE\x7b\x7d")) := by
  rfl

end NestingRules
