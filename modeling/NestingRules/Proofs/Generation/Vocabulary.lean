import NestingRules.Proofs.Category.Tags
import NestingRules.Proofs.Generation.Order
import NestingRules.Proofs.Generation.Pairs
import NestingRules.Proofs.Synthesis.Meaning

/-!
# The vocabulary of rules

The names in a table are any texts, with quotes, backslashes or whole expressions in them, and they
are put into tests, objects and messages as they are.  What is put there is harmless all the same: a
relation that applies has a parent and a child in the scope of the revision, and these are all the
names that its rule has (`Rule.IsAbout`).  Since no other relation has a rule, this holds of every
rule of a profile that is not from the catalog (`compile_vocabulary`).
-/

namespace NestingRules

open Expression

/-- A rule about a parent and a child that a revision allows, with no other names in it. -/
structure Rule.IsAbout (revision : Revision) (parent child : TypeName) (x : Rule) : Prop where
  /-- The parent is a type in scope and no grouping placeholder, or a heading or the root. -/
  parent_mem : revision.scope.contains parent.text = true ∧
    parent.text ∉ ["Div", "Part", "NonStruct"] ∨ parent = .headingWildcard ∨ parent = .treeRoot
  /-- The child is a type in scope, or a heading or a content item. -/
  child_mem : revision.scope.contains child.text = true ∨ child = .headingWildcard ∨
    child = .contentItem
  /-- Types that only the newer revision has are not used for the older one. -/
  legacy : revision = .pdf17 →
    parent.text ∉ Role.specific .pdf20 ∧ child.text ∉ Role.specific .pdf20
  id : x.id = ⟨.iso32005, clauseOf parent child, 1⟩
  /-- The object is the root, a heading, or one of the two types if it is in scope. -/
  object : x.object = "PDStructTreeRoot" ∨ x.object = "SEHn" ∨
    ∃ n, (n = parent ∨ n = child) ∧ revision.scope.contains n.text = true ∧
      x.object = "SE" ++ n.text
  object_ne : x.object ≠ "SEStructTreeRoot" ∧ x.object ≠ "SEcontent item"
  /-- The tags are those of categories. -/
  tags : ∀ tag ∈ x.tags, tag = Category.baseTag ∨ tag ∈ Category.all.map (·.tag)
  /-- Every literal in the test is the separator or one of the names. -/
  test : ∃ texts, literals? x.test = some texts ∧ texts ⊆ ["&", parent.text, child.text]
  /-- Description and message are the two names with fixed words around them. -/
  words : ∃ p ∈ Phrases.all,
    x.description = parent.display ++ p.duty ++ child.display ∧
      x.error = ⟨parent.display ++ p.failure ++ child.display ++ p.ending, []⟩ ∨
    child = .contentItem ∧ x.description = parent.display ++ p.duty ++ "content items" ∧
      x.error = ⟨parent.display ++ p.failure ++ "content item(s)" ++ p.ending, []⟩
  references : x.references = [.annexL revision]

variable {revision : Revision} {relations : List Relation} {r : Relation} {p : Phrases} {e : Expr}

/-! ### Literals -/

namespace Synthesis

theorem texts_countOf (n : TypeName) : (countOf revision n).texts ⊆ ["&", n.text] := by
  unfold countOf typeTest
  split_ifs <;> simp [kids, headingTest, Expr.texts]

theorem texts_otherParent (n : TypeName) : (otherParent revision n).texts ⊆ [n.text] := by
  unfold otherParent
  split_ifs <;> simp [headingTest, Expr.texts]

/-- The texts in the expression for a relation are the separator and the names of the relation. -/
theorem texts_expression (h : expression? revision r = some e) :
    e.texts ⊆ ["&", r.parent.text, r.child.text] := by
  have hparent : (otherParent revision r.parent).texts ⊆ ["&", r.parent.text, r.child.text] :=
    List.Subset.trans (texts_otherParent r.parent) (by simp)
  have hcount : ∀ op k, (Expr.compare op (countOf revision r.child) (.atom (.number k))).texts ⊆
      ["&", r.parent.text, r.child.text] := by
    intro op k
    simpa [Expr.texts] using List.Subset.trans (texts_countOf r.child) (by simp)
  have hcontent : ∀ b, (contentItems b).texts ⊆ ["&", r.parent.text, r.child.text] :=
    fun _ => List.nil_subset _
  unfold expression? at h
  split at h
  · cases h
    split_ifs
    · exact hcontent false
    · exact hparent
  · cases h
    split_ifs
    · exact hcontent true
    · exact hcount .greater 0
  · split_ifs at h
    cases h
    exact hcount .atMost 1
  · split_ifs at h
    cases h
    exact hcount .equal 1
  · cases h

theorem literals?_test (h : Applicability.check revision r = none) (hp : r.phrases? = some p) :
    ∃ texts, literals? (testOf revision r) = some texts ∧
      texts ⊆ ["&", r.parent.text, r.child.text] := by
  have hrule : rule? revision r = .ok (some (ruleWith revision r p)) :=
    rule?_eq_some_iff.2 ⟨p, hp, rfl⟩
  obtain ⟨e, he, htest⟩ := test_eq_print hrule
  have hprint : testOf revision r = e.print := htest
  refine ⟨e.texts, ?_, texts_expression he⟩
  rw [hprint, literals?_print (isReadable_expression h he)]

/-! ### Objects -/

theorem objectOf_mem (h : Applicability.check revision r = none) :
    objectOf r = "PDStructTreeRoot" ∨ objectOf r = "SEHn" ∨
      ∃ n, (n = r.parent ∨ n = r.child) ∧ revision.scope.contains n.text = true ∧
        objectOf r = "SE" ++ n.text := by
  obtain ⟨hparent, hchild⟩ := Applicability.admits_iff.1 (Applicability.check_eq_none_iff.1 h).1
  unfold objectOf
  split_ifs with hc
  · rcases RoleScope.admitsChild_iff.1 hchild with hscope | hn | hn
    · exact .inr (.inr ⟨r.child, .inr rfl, hscope, rfl⟩)
    · rw [hn]
      exact .inr (.inl rfl)
    · rw [hn] at hc
      exact absurd hc.2 (by decide)
  · rcases RoleScope.admitsParent_iff.1 hparent with hscope | hn | hn
    · -- no type has the name of the root, so none is taken for it
      have hroot : r.parent.isTreeRoot = false := by
        have hne : r.parent.text ≠ "StructTreeRoot" :=
          Role.ne_of_isKnown (RoleScope.isKnown_of_contains hscope) (by decide)
        exact beq_false_of_ne fun e => hne (congrArg TypeName.text e)
      rw [parentObject, hroot]
      exact .inr (.inr ⟨r.parent, .inl rfl, hscope, rfl⟩)
    · rw [hn]
      exact .inr (.inl rfl)
    · rw [hn]
      exact .inl rfl

theorem objectOf_ne (h : Applicability.check revision r = none) :
    objectOf r ≠ "SEStructTreeRoot" ∧ objectOf r ≠ "SEcontent item" := by
  rcases objectOf_mem h with ho | ho | ⟨n, -, hscope, ho⟩
  · rw [ho]
    decide
  · rw [ho]
    decide
  · have hne : ∀ other : String, Role.isKnown other = false → objectOf r ≠ "SE" ++ other := by
      intro other hother
      rw [ho, Ne, String.append_right_inj]
      exact Role.ne_of_isKnown (RoleScope.isKnown_of_contains hscope) hother
    exact ⟨hne "StructTreeRoot" (by decide), hne "content item" (by decide)⟩

/-! ### Rules -/

theorem isAbout_ruleWith (h : Applicability.check revision r = none) (hp : r.phrases? = some p) :
    (ruleWith revision r p).IsAbout revision r.parent r.child := by
  obtain ⟨hadmits, -, hplaceholder⟩ := Applicability.check_eq_none_iff.1 h
  obtain ⟨hparent, hchild⟩ := Applicability.admits_iff.1 hadmits
  exact {
    parent_mem := (RoleScope.admitsParent_iff.1 hparent).imp_left fun hscope =>
      ⟨hscope, hplaceholder⟩
    child_mem := RoleScope.admitsChild_iff.1 hchild
    legacy := by
      rintro rfl
      exact ⟨RoleScope.not_mem_specific_of_admitsParent hparent,
        RoleScope.not_mem_specific_of_admitsChild hchild⟩
    id := by
      rw [← Relation.clause_eq]
      rfl
    object := objectOf_mem h
    object_ne := objectOf_ne h
    tags := Category.mem_relationTags
    test := literals?_test h hp
    words := by
      refine ⟨p, Relation.mem_all_of_phrases? hp, ?_⟩
      by_cases hc : r.cardinality = .forbidden ∧ r.child.isContentItem = true
      · refine .inr ⟨beq_iff_eq.1 hc.2, ?_, ?_⟩
        · simp only [ruleWith, Draft.toRule, draftWith, childIn, if_pos hc]
        · simp only [ruleWith, Draft.toRule, draftWith, childIn, if_pos hc]
      · refine .inl ⟨?_, ?_⟩
        · simp only [ruleWith, Draft.toRule, draftWith, childIn, if_neg hc]
        · simp only [ruleWith, Draft.toRule, draftWith, childIn, if_neg hc]
    references := rfl }

end Synthesis

/-- The rule of a pair is about its parent and its child, which some relation names. -/
theorem isAbout_of_ruleAbout {p : TypeName × TypeName} {x : Rule}
    (h : ruleAbout revision relations p = some x) :
    (∃ r ∈ relations, r.pair = p) ∧ x.IsAbout revision p.1 p.2 := by
  obtain ⟨r, words, hfirst, hwords, rfl⟩ := ruleAbout_eq_some_iff_ruleWith.1 h
  obtain ⟨rfl, hasks⟩ := pair_and_asks_of_firstAbout hfirst
  exact ⟨⟨r, List.mem_of_find?_eq_some hfirst, rfl⟩,
    Synthesis.isAbout_ruleWith (check_of_asksForRule hasks) hwords⟩

/-- **Names cannot inject anything into a profile.**  Whatever the names in relations are, every
rule of the profile that is not from the catalog is about the parent and the child of one of the
relations, which the revision allows, and has no other names in it.  There is such a rule for every
relation that applies and whose cardinality has one. -/
theorem compile_vocabulary (o : CompileOptions) (relations : List Relation) :
    ∃ c, compile o relations = .ok c ∧
      (∀ x ∈ c.profile.rules.toList, x ∉ Catalog.rules o.revision →
        ∃ r ∈ relations, x.IsAbout o.revision r.parent r.child) ∧
      ∀ r ∈ relations, Applicability.check o.revision r = none → r.hasRule = true →
        ∃ x ∈ c.profile.rules.toList, x.IsAbout o.revision r.parent r.child := by
  obtain ⟨c, hc, hrules⟩ := compile_spec o relations
  refine ⟨c, hc, ?_⟩
  rw [hrules]
  refine ⟨fun x hx hcatalog => ?_, fun r hr hcheck hrule => ?_⟩
  · obtain ⟨p, hp⟩ := (mem_ofList_produced.1 hx).resolve_left hcatalog
    obtain ⟨⟨r, hr, rfl⟩, hx⟩ := isAbout_of_ruleAbout hp
    exact ⟨r, hr, hx⟩
  · obtain ⟨x, hx, -⟩ := exists_ruleAbout hr (asksForRule_iff.2 ⟨hcheck, hrule⟩)
    exact ⟨x, mem_ofList_produced.2 (.inr ⟨r.pair, hx⟩), (isAbout_of_ruleAbout hx).2⟩

end NestingRules
