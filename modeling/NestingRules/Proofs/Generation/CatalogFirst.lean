import NestingRules.Proofs.Generation.Pairs
import NestingRules.Proofs.Profile.ReadBack
import NestingRules.Proofs.Rule.Ids

/-!
# The catalog comes first

A rule set is in the order of its ids, and nothing in it sets the catalog apart.  Still the catalog
comes first in every profile, in the order of its numbers, because names of parents begin with a
capital letter and the clause of the catalog begins with a digit
(`toList_ofList_produced_eq_append`).  The rules of relations follow in the order of the bytes of
their clauses, and so they do in the file that is written (`compile_catalog_first`).
-/

namespace NestingRules

variable {revision : Revision} {relations : List Relation} {rule : Rule}

/-- The rules of a set that are not from the catalog, in ascending order of ids. -/
def RuleSet.beyondCatalog (s : RuleSet) : List Rule :=
  s.toList.filter (·.id.clause != Catalog.clause)

namespace Catalog

theorem ids_rules (revision : Revision) : (rules revision).map (·.id) =
    (List.range' 1 8).map fun n => ⟨.iso32005, "6.2", UInt32.ofNat n⟩ := by
  cases revision <;> rfl

end Catalog

theorem mem_beyondCatalog :
    rule ∈ (RuleSet.ofList (Catalog.rules revision ++ produced revision relations)).beyondCatalog ↔
      ∃ p, ruleAbout revision relations p = some rule := by
  rw [RuleSet.beyondCatalog, List.mem_filter, mem_ofList_produced, bne_iff_ne]
  constructor
  · rintro ⟨hcatalog | hp, hclause⟩
    · exact absurd (Catalog.clause_of_mem_rules hcatalog) hclause
    · exact hp
  · rintro ⟨p, hp⟩
    obtain ⟨r, -, hcheck, hid⟩ := id_of_ruleAbout hp
    refine ⟨.inr ⟨p, hp⟩, ?_⟩
    rw [hid]
    exact (String.ne_of_lt (Relation.catalogClause_lt hcheck)).symm

theorem catalog_lt_of_ruleAbout {p : TypeName × TypeName} {x : Rule}
    (hx : x ∈ Catalog.rules revision) (h : ruleAbout revision relations p = some rule) :
    x.id < rule.id := by
  obtain ⟨r, -, hcheck, hid⟩ := id_of_ruleAbout h
  refine .inl ?_
  rw [Catalog.clause_of_mem_rules hx, hid]
  exact Relation.catalogClause_lt hcheck

/-- **The set of a run has the catalog in front**, in the order of its numbers. -/
theorem toList_ofList_produced_eq_append (revision : Revision) (relations : List Relation) :
    (RuleSet.ofList (Catalog.rules revision ++ produced revision relations)).toList =
      Catalog.rules revision ++
        (RuleSet.ofList (Catalog.rules revision ++ produced revision relations)).beyondCatalog := by
  have hsorted : (Catalog.rules revision ++ (RuleSet.ofList (Catalog.rules revision ++
      produced revision relations)).beyondCatalog).Pairwise (·.id < ·.id) := by
    refine List.pairwise_append.2 ⟨Catalog.pairwise_rules revision, (RuleSet.sorted _).filter _,
      fun x hx y hy => ?_⟩
    obtain ⟨p, hp⟩ := mem_beyondCatalog.1 hy
    exact catalog_lt_of_ruleAbout hx hp
  refine eq_of_pairwise_of_mem_iff RuleId.lt_asymm (RuleSet.sorted _) hsorted fun x => ?_
  rw [List.mem_append, mem_beyondCatalog, mem_ofList_produced]

theorem testNumber_of_ruleAbout {p : TypeName × TypeName}
    (h : ruleAbout revision relations p = some rule) : rule.id.testNumber = 1 := by
  obtain ⟨r, -, -, hid⟩ := id_of_ruleAbout h
  rw [hid]
  rfl

theorem pairwise_clauseBytes {rules : List Rule} (h : rules.Pairwise (·.id < ·.id))
    (hnumber : ∀ x ∈ rules, x.id.testNumber = 1) :
    rules.Pairwise (·.id.clauseBytes < ·.id.clauseBytes) := by
  refine h.imp_of_mem fun {x y} hx hy hlt => ?_
  rw [RuleId.clauseBytes_lt_iff]
  refine hlt.resolve_right fun ⟨_, hn⟩ => ?_
  rw [hnumber x hx, hnumber y hy] at hn
  exact UInt32.lt_irrefl _ hn

/-- **The catalog comes first in every profile and in its file.**  Whatever the relations are, the
rules of the profile are the eight rules of the catalog, numbered from 1 to 8 under the clause 6.2,
and then the rules of the relations, one for each pair and all with the number 1, in the order of
the bytes of their clauses. -/
theorem compile_catalog_first (o : CompileOptions) (relations : List Relation) :
    ∃ c rules, compile o relations = .ok c ∧
      c.profile.rules.toList = Catalog.rules o.revision ++ rules ∧
      (Json.parse? c.profile.serialize).bind (·.fields? ["rules"]) =
        some [some (.array ((Catalog.rules o.revision ++ rules).map (·.toJson)))] ∧
      (Catalog.rules o.revision).map (·.id) =
        (List.range' 1 8).map (fun n => ⟨.iso32005, "6.2", UInt32.ofNat n⟩) ∧
      (∀ x, x ∈ rules ↔ ∃ p r, firstAbout o.revision relations p = some r ∧
        Synthesis.rule? o.revision r = .ok (some x)) ∧
      (∀ x ∈ rules, x.id.testNumber = 1) ∧
      rules.Pairwise (·.id.clauseBytes < ·.id.clauseBytes) := by
  obtain ⟨c, hc, hrules⟩ := compile_spec o relations
  have hlist := toList_ofList_produced_eq_append o.revision relations
  rw [← hrules] at hlist
  have hmem : ∀ x, x ∈ c.profile.rules.beyondCatalog ↔
      ∃ p, ruleAbout o.revision relations p = some x := by
    intro x
    rw [hrules, mem_beyondCatalog]
  have hnumber : ∀ x ∈ c.profile.rules.beyondCatalog, x.id.testNumber = 1 := by
    intro x hx
    obtain ⟨p, hp⟩ := (hmem x).1 hx
    exact testNumber_of_ruleAbout hp
  refine ⟨c, c.profile.rules.beyondCatalog, hc, hlist, ?_, Catalog.ids_rules o.revision,
    fun x => ?_, hnumber, pairwise_clauseBytes (c.profile.rules.sorted.filter _) hnumber⟩
  · rw [← hlist, Profile.serialize, Json.parse?_pretty c.profile.isPlain_toJson, Option.bind_some,
      Profile.toJson, Json.fields?_record (by simp)]
    rfl
  · rw [hmem]
    exact exists_congr fun p => ruleAbout_eq_some_iff

end NestingRules
