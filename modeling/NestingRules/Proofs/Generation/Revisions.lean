import NestingRules.Proofs.Generation.Pairs

/-!
# Rule sets of the two revisions

The revisions agree wherever both apply.  A relation applies for the older revision iff it applies
for the newer one and its names are in the older scope (`asksForRule_pdf17`).  These are the names
of its pair; so the first relation about a pair in scope is the same for both (`firstAbout_pdf17`).
The revision reaches a rule through its references and through the pattern of headings in its test
(`Synthesis.testOf_eq_intercalate`) and in no other way, so both rules of the pair say the same
(`Rule.Corresponds`).
-/

namespace NestingRules

variable {revision : Revision} {relations : List Relation} {r : Relation}

/-! ### Tests and the pattern of headings -/

namespace Synthesis

/-- The number of children is compared in the same words for every revision, up to the pattern. -/
theorem childCount_eq_intercalate {child : TypeName} (hchild : '^' ∉ child.text.toList)
    {comparison : String} (hcomparison : '^' ∉ comparison.toList) :
    ∃ parts : List String, (∀ part ∈ parts, '^' ∉ part.toList) ∧ ∀ revision : Revision,
      childCount revision child ++ comparison = revision.headingPattern.text.intercalate parts := by
  unfold childCount
  split_ifs
  · refine ⟨["kidsStandardTypes.split('&').filter(elem => /", "/.test(elem)).length" ++ comparison],
      ?_, fun revision => ?_⟩
    · simp [hcomparison]
    · apply String.toList_inj.1
      simp
  · refine ⟨["kidsStandardTypes.split('&').filter(elem => elem == '" ++ child.text ++
      "').length" ++ comparison], ?_, fun revision => ?_⟩
    · simp [hchild, hcomparison]
    · rfl

theorem parentDiffers_eq_intercalate {parent : TypeName} (hparent : '^' ∉ parent.text.toList) :
    ∃ parts : List String, (∀ part ∈ parts, '^' ∉ part.toList) ∧ ∀ revision : Revision,
      parentDiffers revision parent = revision.headingPattern.text.intercalate parts := by
  unfold parentDiffers
  split_ifs
  · refine ⟨["/", "/.test(parentStandardType) == false"], by decide, fun revision => ?_⟩
    apply String.toList_inj.1
    simp
  · refine ⟨["parentStandardType != '" ++ parent.text ++ "'"], ?_, fun revision => rfl⟩
    simp [hparent]

/-- **The test of a rule is the same for every revision, up to the pattern of headings** between its
parts. -/
theorem testOf_eq_intercalate (hparent : '^' ∉ r.parent.text.toList)
    (hchild : '^' ∉ r.child.text.toList) :
    ∃ parts : List String, (∀ part ∈ parts, '^' ∉ part.toList) ∧ ∀ revision : Revision,
      testOf revision r = revision.headingPattern.text.intercalate parts := by
  unfold testOf
  cases r.cardinality with
  | forbidden =>
    dsimp only
    split_ifs
    · exact ⟨["hasContentItems == false"], by decide, fun revision => rfl⟩
    · exact parentDiffers_eq_intercalate hparent
  | atLeastOne =>
    dsimp only
    split_ifs
    · exact ⟨["hasContentItems == true"], by decide, fun revision => rfl⟩
    · exact childCount_eq_intercalate hchild (by decide)
  | zeroOrOne => exact childCount_eq_intercalate hchild (by decide)
  | exactlyOne => exact childCount_eq_intercalate hchild (by decide)
  | forbiddenForNonGroupingChild | anyAmount | anyAmountIfParentGrouping
  | zeroOrOneIfParentGrouping | dependsOnStructure | ruby | warichu =>
    exact ⟨[""], by decide, fun revision => rfl⟩

end Synthesis

/-! ### Corresponding rules -/

/-- Two rules that say the same, the first for the older revision and the second for the newer
one. -/
structure Rule.Corresponds (x y : Rule) : Prop where
  id : y.id = x.id
  object : y.object = x.object
  tags : y.tags = x.tags
  description : y.description = x.description
  error : y.error = x.error
  /-- The references differ in the base standard. -/
  references : x.references = [⟨"ISO-32000-1", "Annex_L"⟩] ∧
    y.references = [⟨"ISO-32000-2", "Annex_L"⟩]
  /-- The tests differ in the pattern of headings, which stands in both at the same places. -/
  test : ∃ parts : List String, (∀ part ∈ parts, '^' ∉ part.toList) ∧
    x.test = "^H[1-6]$".intercalate parts ∧ y.test = "^H[1-9][0-9]*$".intercalate parts

theorem Synthesis.corresponds_ruleWith (h : Applicability.check revision r = none) (p : Phrases) :
    (ruleWith .pdf17 r p).Corresponds (ruleWith .pdf20 r p) where
  id := rfl
  object := rfl
  tags := rfl
  description := rfl
  error := rfl
  references := ⟨rfl, rfl⟩
  test := by
    obtain ⟨hparent, hchild⟩ := Applicability.not_mem_of_check h (c := '^') (by decide) (by decide)
    obtain ⟨parts, hparts, htest⟩ := testOf_eq_intercalate hparent hchild
    exact ⟨parts, hparts, htest .pdf17, htest .pdf20⟩

/-! ### Relations that apply for both revisions -/

/-- The names of a pair are in the scope of the older revision. -/
def isInLegacyScope (p : TypeName × TypeName) : Bool :=
  Revision.pdf17.scope.admitsParent p.1 && Revision.pdf17.scope.admitsChild p.2

theorem asksForRule_pdf17 (r : Relation) :
    asksForRule .pdf17 r = (isInLegacyScope r.pair && asksForRule .pdf20 r) := by
  have hadmits : Applicability.admits Revision.pdf17.scope r = isInLegacyScope r.pair := rfl
  unfold asksForRule Applicability.applies
  rw [Applicability.check_pdf17, hadmits]
  cases Applicability.check .pdf20 r <;> cases isInLegacyScope r.pair <;> rfl

/-- The first relation about a pair is the same for both revisions if the pair is in the scope of
the older one. -/
theorem firstAbout_pdf17 (p : TypeName × TypeName) : firstAbout .pdf17 relations p =
    if isInLegacyScope p then firstAbout .pdf20 relations p else none := by
  have hpred : (fun r : Relation => r.pair == p && asksForRule .pdf17 r) =
      fun r => isInLegacyScope p && (r.pair == p && asksForRule .pdf20 r) := by
    funext r
    rw [asksForRule_pdf17]
    by_cases hp : r.pair = p
    · rw [hp, Bool.and_left_comm]
    · rw [beq_false_of_ne hp, Bool.false_and, Bool.false_and, Bool.and_false]
  unfold firstAbout
  rw [hpred]
  cases isInLegacyScope p <;> simp

theorem exists_corresponds_of_ruleAbout {p : TypeName × TypeName} {x : Rule}
    (h : ruleAbout .pdf17 relations p = some x) : isInLegacyScope p = true ∧
      ∃ y, ruleAbout .pdf20 relations p = some y ∧ x.Corresponds y := by
  obtain ⟨r, words, hfirst, hwords, rfl⟩ := ruleAbout_eq_some_iff_ruleWith.1 h
  rw [firstAbout_pdf17] at hfirst
  split_ifs at hfirst with hscope
  have hcheck := check_of_asksForRule (pair_and_asks_of_firstAbout hfirst).2
  refine ⟨hscope, Synthesis.ruleWith .pdf20 r words, ?_,
    Synthesis.corresponds_ruleWith hcheck words⟩
  exact ruleAbout_eq_some_iff_ruleWith.2 ⟨r, words, hfirst, hwords, rfl⟩

theorem exists_ruleAbout_pdf17 {p : TypeName × TypeName} {y : Rule}
    (hscope : isInLegacyScope p = true) (h : ruleAbout .pdf20 relations p = some y) :
    ∃ x, ruleAbout .pdf17 relations p = some x ∧ x.id = y.id := by
  obtain ⟨r, words, hfirst, hwords, rfl⟩ := ruleAbout_eq_some_iff_ruleWith.1 h
  refine ⟨Synthesis.ruleWith .pdf17 r words,
    ruleAbout_eq_some_iff_ruleWith.2 ⟨r, words, ?_, hwords, rfl⟩, rfl⟩
  rw [firstAbout_pdf17, if_pos hscope, hfirst]

/-- The id of the rule of a pair for the newer revision is an id for the older one iff the pair is
in the scope of the older one. -/
theorem containsId_pdf17_iff {p : TypeName × TypeName} {y : Rule}
    (h : ruleAbout .pdf20 relations p = some y) :
    (RuleSet.ofList (Catalog.rules .pdf17 ++ produced .pdf17 relations)).containsId y.id = true ↔
      isInLegacyScope p = true := by
  obtain ⟨r, rfl, hr, hid⟩ := id_of_ruleAbout h
  rw [RuleSet.containsId_iff]
  constructor
  · rintro ⟨x, hx, hxid⟩
    rcases mem_ofList_produced.1 hx with hcatalog | ⟨q, hq⟩
    · exact absurd (hid.symm.trans hxid.symm) (r.ruleId_ne_of_mem_catalog hcatalog)
    · -- the rule for the newer revision has the id of the pair `q`, which is that of `r`
      obtain ⟨hscope, y', hy', hcorresponds⟩ := exists_corresponds_of_ruleAbout hq
      obtain ⟨s, rfl, hs, hid'⟩ := id_of_ruleAbout hy'
      have hsame : s.ruleId = r.ruleId := by
        rw [← hid', hcorresponds.id, hxid, hid]
      rwa [← Relation.pair_eq_of_ruleId_eq hs hr hsame]
  · intro hscope
    obtain ⟨x, hx, hxid⟩ := exists_ruleAbout_pdf17 hscope h
    exact ⟨x, mem_ofList_produced.2 (.inr ⟨r.pair, hx⟩), hxid⟩

theorem not_mem_catalog_of_ruleAbout {p : TypeName × TypeName} {x : Rule}
    (h : ruleAbout revision relations p = some x) : x ∉ Catalog.rules revision := by
  obtain ⟨r, -, -, hid⟩ := id_of_ruleAbout h
  exact fun hmem => r.ruleId_ne_of_mem_catalog hmem hid.symm

/-- **The two revisions agree wherever both apply.**  A relation that applies for the older revision
applies for the newer one, which never leaves one out for not being in the revision, and all other
reasons are the same.  The newer one has a rule for each relation that applies and has one.  Each
rule from a relation for the older revision has a corresponding rule for the newer one, and the
rules from relations that the newer one has beyond those are the ones with a name that is not in the
scope of the older one. -/
theorem generate_revisions (report report' : Report) (relations : List Relation) :
    (∀ r : Relation,
      (Applicability.check .pdf17 r = none → Applicability.check .pdf20 r = none) ∧
      Applicability.check .pdf20 r ≠ some .notInRevision ∧
      ∀ reason, reason ≠ .notInRevision →
        Applicability.check .pdf17 r = some reason → Applicability.check .pdf20 r = some reason) ∧
    ∃ g g', generate .pdf17 report relations = .ok g ∧ generate .pdf20 report' relations = .ok g' ∧
      (∀ r ∈ relations, Applicability.check .pdf20 r = none → r.hasRule = true →
        g'.rules.containsId r.ruleId = true) ∧
      (∀ x ∈ g.rules.toList, x ∉ Catalog.rules .pdf17 →
        ∃ y ∈ g'.rules.toList, y ∉ Catalog.rules .pdf20 ∧ x.Corresponds y) ∧
      ∀ y ∈ g'.rules.toList, y ∉ Catalog.rules .pdf20 →
        ∃ r ∈ relations, Applicability.check .pdf20 r = none ∧
          Synthesis.rule? .pdf20 r = .ok (some y) ∧
          (g.rules.containsId y.id = false ↔
            ¬ (Role.isStandard .pdf17 r.parent.text = true ∨ r.parent = .headingWildcard ∨
              r.parent = .treeRoot) ∨
            ¬ (Role.isStandard .pdf17 r.child.text = true ∨ r.child = .headingWildcard ∨
              r.child = .contentItem)) := by
  refine ⟨fun r => ⟨Applicability.check_pdf20_eq_none, Applicability.check_pdf20_ne r,
    fun _ => Applicability.check_pdf20_eq_some⟩, ?_⟩
  obtain ⟨g, -, hrun, hrules, -⟩ := generate_spec .pdf17 report relations
  obtain ⟨g', -, hrun', hrules', -⟩ := generate_spec .pdf20 report' relations
  refine ⟨g, g', hrun, hrun', fun r hr hcheck hrule => ?_, fun x hx hcatalog => ?_,
    fun y hy hcatalog => ?_⟩
  · obtain ⟨y, hy, hid⟩ := exists_ruleAbout hr (asksForRule_iff.2 ⟨hcheck, hrule⟩)
    rw [hrules', RuleSet.containsId_iff]
    exact ⟨y, mem_ofList_produced.2 (.inr ⟨r.pair, hy⟩), hid⟩
  · rw [hrules] at hx
    obtain ⟨p, hp⟩ := (mem_ofList_produced.1 hx).resolve_left hcatalog
    obtain ⟨-, y, hy, hcorresponds⟩ := exists_corresponds_of_ruleAbout hp
    exact ⟨y, hrules' ▸ mem_ofList_produced.2 (.inr ⟨p, hy⟩), not_mem_catalog_of_ruleAbout hy,
      hcorresponds⟩
  · rw [hrules'] at hy
    obtain ⟨p, hp⟩ := (mem_ofList_produced.1 hy).resolve_left hcatalog
    obtain ⟨r, hfirst, hrule⟩ := ruleAbout_eq_some_iff.1 hp
    obtain ⟨rfl, hasks⟩ := pair_and_asks_of_firstAbout hfirst
    refine ⟨r, List.mem_of_find?_eq_some hfirst, check_of_asksForRule hasks, hrule, ?_⟩
    rw [hrules, ← Bool.not_eq_true, containsId_pdf17_iff hp, isInLegacyScope, Bool.and_eq_true,
      RoleScope.admitsParent_iff, RoleScope.admitsChild_iff]
    exact not_and_or

end NestingRules
