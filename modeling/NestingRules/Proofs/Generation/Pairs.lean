import NestingRules.Proofs.Generation.Run
import Mathlib.Data.List.Dedup
import Mathlib.Data.List.Forall2

/-!
# One rule for each pair

The rule set of a run holds the catalog and, for each pair of parent and child that some applicable
relation with a rule is about, the rule of the first such relation (`generate_perm`).  The argument
is on ids: among the rules of relations an id stands for one pair (`find?_produced`), and the ids of
the catalog stand for none.  So does the clause in an id (`filter_clause_ofList_produced`).
-/

namespace NestingRules

variable {revision : Revision} {relations : List Relation} {r : Relation} {rule : Rule}

/-- The relation asks for a rule and has one. -/
def asksForRule (revision : Revision) (r : Relation) : Bool :=
  Applicability.applies revision r && r.hasRule

/-- The first relation about a pair that asks for a rule and has one. -/
def firstAbout (revision : Revision) (relations : List Relation) (p : TypeName × TypeName) :
    Option Relation :=
  relations.find? fun r => r.pair == p && asksForRule revision r

/-- The rule of the first relation about a pair. -/
def ruleAbout (revision : Revision) (relations : List Relation) (p : TypeName × TypeName) :
    Option Rule :=
  (firstAbout revision relations p).bind fun r => (Outcome.ofRelation revision r).rule?

/-- The pairs that relations with a rule are about. -/
def pairsOf (revision : Revision) (relations : List Relation) : List (TypeName × TypeName) :=
  ((relations.filter (asksForRule revision)).map (·.pair)).dedup

theorem pair_and_asks_of_firstAbout {p : TypeName × TypeName}
    (h : firstAbout revision relations p = some r) :
    r.pair = p ∧ asksForRule revision r = true := by
  have := List.find?_some h
  simpa using this

theorem mem_pairsOf {p : TypeName × TypeName} : p ∈ pairsOf revision relations ↔
    ∃ r ∈ relations, r.pair = p ∧ asksForRule revision r = true := by
  simp only [pairsOf, List.mem_dedup, List.mem_map, List.mem_filter]
  exact ⟨fun ⟨r, ⟨hr, ha⟩, hp⟩ => ⟨r, hr, hp, ha⟩, fun ⟨r, hr, hp, ha⟩ => ⟨r, ⟨hr, ha⟩, hp⟩⟩

theorem asksForRule_iff : asksForRule revision r = true ↔
    Applicability.check revision r = none ∧ r.hasRule = true := by
  rw [asksForRule, Applicability.applies, Bool.and_eq_true, Option.isNone_iff_eq_none]

theorem check_of_asksForRule (h : asksForRule revision r = true) :
    Applicability.check revision r = none :=
  (asksForRule_iff.1 h).1

theorem exists_rule_of_asksForRule (h : asksForRule revision r = true) :
    ∃ rule, (Outcome.ofRelation revision r).rule? = some rule ∧ rule.id = r.ruleId := by
  have hsome : (Outcome.ofRelation revision r).rule?.isSome = true := by
    rw [Outcome.isSome_rule?_ofRelation]
    exact h
  obtain ⟨rule, hrule⟩ := Option.isSome_iff_exists.1 hsome
  have hok := (Outcome.rule?_ofRelation_eq_some_iff.1 hrule).2
  exact ⟨rule, hrule, Synthesis.id_of_rule?_eq_ok hok⟩

theorem any_rule?_id (hr : Applicability.check revision r = none) (s : Relation) :
    (Outcome.ofRelation revision s).rule?.any (·.id == r.ruleId) =
      (s.pair == r.pair && asksForRule revision s) := by
  cases ha : asksForRule revision s with
  | false =>
    have hnone : (Outcome.ofRelation revision s).rule? = none := by
      rw [← Option.not_isSome_iff_eq_none, Outcome.isSome_rule?_ofRelation, Bool.not_eq_true]
      exact ha
    rw [hnone, Bool.and_false]
    rfl
  | true =>
    obtain ⟨rule, hrule, hid⟩ := exists_rule_of_asksForRule ha
    rw [hrule, Option.any_some, hid, Bool.and_true, Bool.eq_iff_iff, beq_iff_eq, beq_iff_eq]
    exact ⟨Relation.pair_eq_of_ruleId_eq (check_of_asksForRule ha) hr, Relation.ruleId_congr⟩

/-- Among the rules of relations, the first one with the id of an applicable relation is that of the
first relation about the same pair. -/
theorem find?_produced (hr : Applicability.check revision r = none) :
    (produced revision relations).find? (·.id == r.ruleId) =
      ruleAbout revision relations r.pair := by
  rw [produced, outcomes, List.filterMap_map, List.find?_filterMap, ruleAbout, firstAbout]
  simp only [Function.comp_def, any_rule?_id hr]

theorem id_of_ruleAbout {p : TypeName × TypeName} (h : ruleAbout revision relations p = some rule) :
    ∃ r, r.pair = p ∧ Applicability.check revision r = none ∧ rule.id = r.ruleId := by
  obtain ⟨r, hr, hrule⟩ := Option.bind_eq_some_iff.1 h
  obtain ⟨hp, ha⟩ := pair_and_asks_of_firstAbout hr
  obtain ⟨rule', hrule', hid⟩ := exists_rule_of_asksForRule ha
  rw [hrule] at hrule'
  exact ⟨r, hp, check_of_asksForRule ha, Option.some.inj hrule' ▸ hid⟩

theorem ruleAbout_eq_some_iff {p : TypeName × TypeName} :
    ruleAbout revision relations p = some rule ↔ ∃ r,
      firstAbout revision relations p = some r ∧ Synthesis.rule? revision r = .ok (some rule) := by
  rw [ruleAbout, Option.bind_eq_some_iff]
  refine exists_congr fun r => and_congr_right fun hr => ?_
  have hcheck := check_of_asksForRule (pair_and_asks_of_firstAbout hr).2
  rw [Outcome.rule?_ofRelation_eq_some_iff, and_iff_right hcheck]

/-- The rule of a pair is written out of the first relation about the pair, in the words of its
kind. -/
theorem ruleAbout_eq_some_iff_ruleWith {p : TypeName × TypeName} :
    ruleAbout revision relations p = some rule ↔ ∃ r words,
      firstAbout revision relations p = some r ∧ r.phrases? = some words ∧
        Synthesis.ruleWith revision r words = rule := by
  simp only [ruleAbout_eq_some_iff, Synthesis.rule?_eq_some_iff, exists_and_left]

theorem mem_ofList_produced :
    rule ∈ (RuleSet.ofList (Catalog.rules revision ++ produced revision relations)).toList ↔
      rule ∈ Catalog.rules revision ∨ ∃ p, ruleAbout revision relations p = some rule := by
  rw [RuleSet.mem_ofList, List.find?_append, Option.or_eq_some_iff,
    RuleSet.find?_id_eq_some_iff (Catalog.nodup_ids revision)]
  refine or_congr_right ⟨fun ⟨_, h⟩ => ?_, fun ⟨p, h⟩ => ?_⟩
  · -- the first rule with its own id is that of the first relation about its pair
    obtain ⟨r, -, hc, hrule⟩ := mem_produced_iff.1 (List.mem_of_find?_eq_some h)
    rw [Synthesis.id_of_rule?_eq_ok hrule, find?_produced hc] at h
    exact ⟨r.pair, h⟩
  · obtain ⟨r, rfl, hc, hid⟩ := id_of_ruleAbout h
    refine ⟨List.find?_eq_none.2 fun x hx => ?_, by rw [hid, find?_produced hc, h]⟩
    rw [hid, beq_iff_eq]
    exact (r.ruleId_ne_of_mem_catalog hx).symm

theorem mem_ofList_produced_and_clause_iff (hr : Applicability.check revision r = none) :
    rule ∈ (RuleSet.ofList (Catalog.rules revision ++ produced revision relations)).toList ∧
        rule.id.clause = r.ruleId.clause ↔ ruleAbout revision relations r.pair = some rule := by
  rw [mem_ofList_produced]
  constructor
  · rintro ⟨hcatalog | ⟨p, hp⟩, hclause⟩
    · exact absurd hclause.symm (r.clause_ne_of_mem_catalog hcatalog)
    · obtain ⟨s, rfl, hs, hid⟩ := id_of_ruleAbout hp
      rw [hid] at hclause
      rwa [← Relation.pair_eq_of_clause_eq hs hr hclause]
  · intro h
    obtain ⟨s, hs, -, hid⟩ := id_of_ruleAbout h
    exact ⟨.inr ⟨r.pair, h⟩, by rw [hid, Relation.ruleId_congr hs]⟩

/-- The set has one rule with the clause of an applicable relation if its pair has a rule, and else
none. -/
theorem filter_clause_ofList_produced (hr : Applicability.check revision r = none) :
    (RuleSet.ofList (Catalog.rules revision ++ produced revision relations)).toList.filter
        (·.id.clause == clauseOf r.parent r.child) =
      (ruleAbout revision relations r.pair).toList := by
  refine eq_toList_of_mem_iff ((RuleSet.nodup_toList _).filter _) fun rule => ?_
  rw [List.mem_filter, beq_iff_eq, ← r.clause_eq, mem_ofList_produced_and_clause_iff hr]

theorem forall₂_filterMap {α β : Type} {f : α → Option β} {l : List α}
    (h : ∀ a ∈ l, (f a).isSome = true) :
    List.Forall₂ (fun a b => f a = some b) l (l.filterMap f) := by
  induction l with
  | nil => exact .nil
  | cons a l ih =>
    obtain ⟨ha, hl⟩ := List.forall_mem_cons.1 h
    obtain ⟨b, hb⟩ := Option.isSome_iff_exists.1 ha
    rw [List.filterMap_cons_some hb]
    exact .cons hb (ih hl)

theorem isSome_ruleAbout {p : TypeName × TypeName} (h : p ∈ pairsOf revision relations) :
    (ruleAbout revision relations p).isSome = true := by
  obtain ⟨r, hr, hp, ha⟩ := mem_pairsOf.1 h
  obtain ⟨s, hs⟩ : ∃ s, firstAbout revision relations p = some s :=
    Option.isSome_iff_exists.1 (List.find?_isSome.2 ⟨r, hr, by simp [hp, ha]⟩)
  obtain ⟨rule, hrule, -⟩ := exists_rule_of_asksForRule (pair_and_asks_of_firstAbout hs).2
  rw [ruleAbout, hs, Option.bind_some, hrule]
  rfl

theorem exists_ruleAbout (hr : r ∈ relations) (ha : asksForRule revision r = true) :
    ∃ rule, ruleAbout revision relations r.pair = some rule ∧ rule.id = r.ruleId := by
  have hsome := isSome_ruleAbout (mem_pairsOf.2 ⟨r, hr, rfl, ha⟩)
  obtain ⟨rule, hrule⟩ := Option.isSome_iff_exists.1 hsome
  obtain ⟨s, hs, -, hid⟩ := id_of_ruleAbout hrule
  exact ⟨rule, hrule, hid.trans (Relation.ruleId_congr hs)⟩

theorem mem_pairsOf_of_ruleAbout {p : TypeName × TypeName}
    (h : ruleAbout revision relations p = some rule) : p ∈ pairsOf revision relations := by
  obtain ⟨r, hr, -⟩ := Option.bind_eq_some_iff.1 h
  obtain ⟨hp, ha⟩ := pair_and_asks_of_firstAbout hr
  exact mem_pairsOf.2 ⟨r, List.mem_of_find?_eq_some hr, hp, ha⟩

theorem nodup_catalog_append : (Catalog.rules revision ++
    (pairsOf revision relations).filterMap (ruleAbout revision relations)).Nodup := by
  refine List.nodup_append.2 ⟨(Catalog.nodup_ids revision).of_map _, ?_, ?_⟩
  · refine (List.nodup_dedup _).filterMap fun p q rule hp hq => ?_
    obtain ⟨r, rfl, hr, hid⟩ := id_of_ruleAbout hp
    obtain ⟨s, rfl, hs, hid'⟩ := id_of_ruleAbout hq
    exact Relation.pair_eq_of_ruleId_eq hr hs (hid.symm.trans hid')
  · rintro x hx y hy rfl
    obtain ⟨p, -, hp⟩ := List.mem_filterMap.1 hy
    obtain ⟨r, -, -, hid⟩ := id_of_ruleAbout hp
    exact r.ruleId_ne_of_mem_catalog hx hid.symm

/-- The rules of a run are those of the catalog and of the pairs. -/
theorem toList_ofList_produced_perm (revision : Revision) (relations : List Relation) :
    (RuleSet.ofList (Catalog.rules revision ++ produced revision relations)).toList.Perm
      (Catalog.rules revision ++
        (pairsOf revision relations).filterMap (ruleAbout revision relations)) := by
  rw [List.perm_ext_iff_of_nodup (RuleSet.nodup_toList _) nodup_catalog_append]
  intro rule
  rw [mem_ofList_produced, List.mem_append, List.mem_filterMap]
  exact or_congr_right ⟨fun ⟨p, hp⟩ => ⟨p, mem_pairsOf_of_ruleAbout hp, hp⟩,
    fun ⟨p, _, hp⟩ => ⟨p, hp⟩⟩

/-- **One rule for each pair.**  The rule set of a run holds the eight catalog rules and, for each
pair that an applicable relation with a rule is about, the rule of the first such relation. -/
theorem generate_perm (revision : Revision) (report : Report) (relations : List Relation) :
    ∃ g pairs rules, generate revision report relations = .ok g ∧
      g.rules.toList.Perm (Catalog.rules revision ++ rules) ∧
      (Catalog.rules revision).length = 8 ∧ pairs.Nodup ∧
      (∀ p, p ∈ pairs ↔ ∃ r ∈ relations, r.pair = p ∧
        Applicability.check revision r = none ∧ r.hasRule = true) ∧
      List.Forall₂ (fun p rule => ∃ r, firstAbout revision relations p = some r ∧
        Synthesis.rule? revision r = .ok (some rule)) pairs rules := by
  obtain ⟨g, -, hrun, hrules, -⟩ := generate_spec revision report relations
  refine ⟨g, pairsOf revision relations,
    (pairsOf revision relations).filterMap (ruleAbout revision relations), hrun, ?_,
    Catalog.length_rules revision, List.nodup_dedup _, fun p => ?_, ?_⟩
  · rw [hrules]
    exact toList_ofList_produced_perm revision relations
  · rw [mem_pairsOf]
    simp only [asksForRule, Applicability.applies, Bool.and_eq_true, Option.isNone_iff_eq_none]
  · refine (forall₂_filterMap fun p hp => isSome_ruleAbout hp).imp fun p rule h => ?_
    obtain ⟨r, hr, hrule⟩ := Option.bind_eq_some_iff.1 h
    exact ⟨r, hr, (Outcome.rule?_ofRelation_eq_some_iff.1 hrule).2⟩

end NestingRules
