import NestingRules.Compilation
import NestingRules.Proofs.Generation.Run
import Mathlib.Data.List.Perm.Basic

/-!
# The order of relations

Relations about different pairs have rules with different ids, so no rule of a run over them is
dropped and the order in which they come does not matter: lists of relations with the same
identities give the same rule set and the same report (`generate_eq_of_perm`), and hence the same
profile (`compile_eq_of_perm`).  Compiling itself never fails (`compile_profile`).
-/

namespace NestingRules

variable {revision : Revision} {relations relations' : List Relation}

namespace Relation.Identity

/-- A relation with this identity. -/
def toRelation (i : Identity) : Relation := ⟨i.parent, i.child, i.cardinality, 0, 0⟩

end Relation.Identity

theorem outcomes_eq_map_identity : outcomes revision relations =
    (relations.map (·.identity)).map fun i => Outcome.ofRelation revision i.toRelation := by
  rw [outcomes, List.map_map]
  exact List.map_congr_left fun r _ => Outcome.ofRelation_congr rfl

/-- The outcomes depend on the identities only, and are in their order. -/
theorem outcomes_perm (revision : Revision)
    (h : (relations.map (·.identity)).Perm (relations'.map (·.identity))) :
    (outcomes revision relations).Perm (outcomes revision relations') := by
  rw [outcomes_eq_map_identity, outcomes_eq_map_identity]
  exact h.map _

theorem nodup_ids_catalog_append (h : (relations.map (·.pair)).Nodup) :
    ((Catalog.rules revision ++ produced revision relations).map (·.id)).Nodup := by
  rw [List.map_append]
  refine List.nodup_append.2 ⟨Catalog.nodup_ids revision, ?_, ?_⟩
  · rw [produced, outcomes, List.filterMap_map]
    refine List.pairwise_map.2 (List.pairwise_filterMap.2 ((List.pairwise_map.1 h).imp ?_))
    intro r s hne rule hrule rule' hrule' hid
    obtain ⟨hr, hrok⟩ := Outcome.rule?_ofRelation_eq_some_iff.1 hrule
    obtain ⟨hs, hsok⟩ := Outcome.rule?_ofRelation_eq_some_iff.1 hrule'
    rw [Synthesis.id_of_rule?_eq_ok hrok, Synthesis.id_of_rule?_eq_ok hsok] at hid
    exact hne (Relation.pair_eq_of_ruleId_eq hr hs hid)
  · rintro id hc id' hp rfl
    obtain ⟨rule, hrule, rfl⟩ := List.mem_map.1 hc
    obtain ⟨rule', hrule', hid⟩ := List.mem_map.1 hp
    obtain ⟨r, -, -, hok⟩ := mem_produced_iff.1 hrule'
    rw [Synthesis.id_of_rule?_eq_ok hok] at hid
    exact r.ruleId_ne_of_mem_catalog hrule hid

/-- **The order of relations about different pairs does not matter**, and neither does where they
stand. -/
theorem generate_eq_of_perm (revision : Revision) (report : Report)
    (h : (relations.map (·.identity)).Perm (relations'.map (·.identity)))
    (hn : (relations.map (·.pair)).Nodup) :
    ∃ g g', generate revision report relations = .ok g ∧
      generate revision report relations' = .ok g' ∧ g.rules = g'.rules ∧ g.report = g'.report := by
  obtain ⟨g, new, hrun, hrules, hsize, hacc⟩ := generate_spec revision report relations
  obtain ⟨g', new', hrun', hrules', hsize', hacc'⟩ := generate_spec revision report relations'
  have ho := outcomes_perm revision h
  -- no id is taken twice, so the set is that of the rules in any order
  have hset : g.rules = g'.rules := by
    rw [hrules, hrules']
    exact RuleSet.ofList_eq_of_perm (nodup_ids_catalog_append hn) ((ho.filterMap _).append_left _)
  have hnew : new' = new := by
    rw [← hset] at hsize'
    omega
  have hlen : relations'.length = relations.length := by
    have := h.length_eq
    rwa [List.length_map, List.length_map, eq_comm] at this
  rw [hlen, hnew] at hacc'
  exact ⟨g, g', hrun, hrun', hset, hacc.eq_of_perm hacc' ho⟩

@[simp]
theorem Compilation.rules_profileOf (o : CompileOptions) (rules : RuleSet) :
    (profileOf o rules).rules = rules := rfl

theorem compile_of_generate {o : CompileOptions} {g : Generation}
    (h : generate o.revision {} relations = .ok g) : ∃ c, compile o relations = .ok c ∧
      c.profile = Compilation.profileOf o g.rules ∧ c.report = g.report := by
  rw [compile, h]
  exact ⟨_, rfl, rfl, rfl⟩

/-- **Compiling never fails**, and the profile is that of the rules of the catalog and of the
relations, the first for each id. -/
theorem compile_profile (o : CompileOptions) (relations : List Relation) :
    ∃ c, compile o relations = .ok c ∧ c.profile = Compilation.profileOf o
      (RuleSet.ofList (Catalog.rules o.revision ++ produced o.revision relations)) := by
  obtain ⟨g, -, hrun, hrules, -⟩ := generate_spec o.revision {} relations
  obtain ⟨c, hc, hprofile, -⟩ := compile_of_generate hrun
  exact ⟨c, hc, by rw [hprofile, hrules]⟩

theorem compile_spec (o : CompileOptions) (relations : List Relation) :
    ∃ c, compile o relations = .ok c ∧ c.profile.rules =
      RuleSet.ofList (Catalog.rules o.revision ++ produced o.revision relations) := by
  obtain ⟨c, hc, hprofile⟩ := compile_profile o relations
  exact ⟨c, hc, by rw [hprofile, Compilation.rules_profileOf]⟩

theorem compile_eq_of_perm (o : CompileOptions)
    (h : (relations.map (·.identity)).Perm (relations'.map (·.identity)))
    (hn : (relations.map (·.pair)).Nodup) :
    ∃ c c', compile o relations = .ok c ∧ compile o relations' = .ok c' ∧
      c.profile = c'.profile ∧ c.report = c'.report := by
  obtain ⟨g, g', hrun, hrun', hrules, hreport⟩ := generate_eq_of_perm o.revision {} h hn
  obtain ⟨c, hc, hp, hr⟩ := compile_of_generate hrun
  obtain ⟨c', hc', hp', hr'⟩ := compile_of_generate hrun'
  exact ⟨c, c', hc, hc', by rw [hp, hp', hrules], by rw [hr, hr', hreport]⟩

end NestingRules
