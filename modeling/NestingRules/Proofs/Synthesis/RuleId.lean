import NestingRules.Proofs.Applicability.Scope
import NestingRules.Proofs.Rule.Ids
import NestingRules.Synthesis
import Mathlib.Data.List.Basic

/-!
# Ids of rules from relations

The clause of a rule joins the names of parent and child by a dash.  No name that applies has a
dash in it and none is the word that stands for content items, so the id of an applicable relation
tells its parent and its child (`Relation.pair_eq_of_clause_eq`), and it is the id of no catalog
rule (`Relation.ruleId_ne_of_mem_catalog`).
-/

namespace NestingRules

/-- What a relation is about: its parent and its child. -/
def Relation.pair (r : Relation) : TypeName × TypeName := (r.parent, r.child)

/-- The clause of the rules about a parent and a child. -/
def clauseOf (parent child : TypeName) : String :=
  parent.text ++ "-" ++ if child = .contentItem then "content" else child.text

/-! ### Names that apply -/

namespace RoleScope

theorem dash_not_mem_of_admitsParent {n : TypeName} (h : known.admitsParent n = true) :
    '-' ∉ n.text.toList := by
  intro hmem
  exact absurd (isAlphanum_of_admitsParent h '-' hmem) (by decide)

theorem ne_content_of_admitsChild {n : TypeName} (h : known.admitsChild n = true) :
    n.text ≠ "content" := by
  rcases admitsChild_iff.1 h with h | rfl | rfl
  · exact Role.ne_of_isKnown h (by decide)
  · decide
  · decide

end RoleScope

/-! ### Clauses -/

namespace Relation

variable {revision : Revision} {r s : Relation}

theorem clause_eq (r : Relation) : r.ruleId.clause = clauseOf r.parent r.child := by
  simp only [ruleId, clauseOf, TypeName.isContentItem, beq_iff_eq]

theorem clause_toList (r : Relation) : r.ruleId.clause.toList = r.parent.text.toList ++
    '-' :: (if r.child.isContentItem then "content" else r.child.text).toList := by
  simp only [ruleId, String.toList_append, List.append_assoc]
  rfl

/-- **The clauses of applicable relations never collide**: equal clauses belong to the same parent
and child. -/
theorem pair_eq_of_clause_eq (hr : Applicability.check revision r = none)
    (hs : Applicability.check revision s = none) (h : r.ruleId.clause = s.ruleId.clause) :
    r.pair = s.pair := by
  have hra := Applicability.admits_of_check_eq_none hr
  have hsa := Applicability.admits_of_check_eq_none hs
  simp only [Applicability.admits, Bool.and_eq_true] at hra hsa
  have hc : r.ruleId.clause.toList = s.ruleId.clause.toList := by rw [h]
  rw [clause_toList, clause_toList] at hc
  -- neither parent has a dash, so both clauses are cut at the same place
  obtain ⟨hp, hch⟩ := append_cons_inj (RoleScope.dash_not_mem_of_admitsParent hra.1)
    (RoleScope.dash_not_mem_of_admitsParent hsa.1) hc
  have hparent : r.parent = s.parent := TypeName.mk.injEq .. ▸ String.toList_inj.1 hp
  have hrc := RoleScope.ne_content_of_admitsChild hra.2
  have hsc := RoleScope.ne_content_of_admitsChild hsa.2
  have hchild : r.child = s.child := by
    have hch := String.toList_inj.1 hch
    -- a content item is written as a word that is the name of no other child
    split_ifs at hch with h1 h2 h2
    · exact (beq_iff_eq.1 h1).trans (beq_iff_eq.1 h2).symm
    · exact absurd hch.symm hsc
    · exact absurd hch hrc
    · exact TypeName.mk.injEq .. ▸ hch
  rw [pair, pair, hparent, hchild]

theorem pair_eq_of_ruleId_eq (hr : Applicability.check revision r = none)
    (hs : Applicability.check revision s = none) (h : r.ruleId = s.ruleId) : r.pair = s.pair :=
  pair_eq_of_clause_eq hr hs (congrArg RuleId.clause h)

theorem ruleId_congr (h : r.pair = s.pair) : r.ruleId = s.ruleId := by
  obtain ⟨hp, hc⟩ := Prod.mk.inj h
  simp only [ruleId, hp, hc]

end Relation

/-! ### The catalog -/

namespace Catalog

theorem clause_of_mem_rules {revision : Revision} {rule : Rule} (h : rule ∈ rules revision) :
    rule.id.clause = clause := by
  obtain ⟨e, -, rfl⟩ := List.mem_map.1 h
  rfl

theorem length_rules (revision : Revision) : (rules revision).length = 8 := rfl

theorem pairwise_rules (revision : Revision) : (rules revision).Pairwise (·.id < ·.id) := by
  cases revision <;> decide

theorem nodup_ids (revision : Revision) : ((rules revision).map (·.id)).Nodup := by
  cases revision <;> decide

end Catalog

theorem Relation.clause_ne_of_mem_catalog {revision : Revision} {rule : Rule} (r : Relation)
    (h : rule ∈ Catalog.rules revision) : r.ruleId.clause ≠ rule.id.clause := by
  intro e
  -- the clause of a relation has a dash in it, that of the catalog has none
  have hc : '-' ∈ r.ruleId.clause.toList := by simp [clause_toList]
  rw [e, Catalog.clause_of_mem_rules h] at hc
  exact absurd hc (by decide)

/-- The clause of the catalog comes before that of any relation that applies. -/
theorem Relation.catalogClause_lt {revision : Revision} {r : Relation}
    (h : Applicability.check revision r = none) : Catalog.clause < r.ruleId.clause := by
  have hparent := (Applicability.admits_iff.1 (Applicability.admits_of_check_eq_none h)).1
  obtain ⟨c, cs, hcs, hupper⟩ := RoleScope.exists_head_of_admitsParent hparent
  have hrange : 'A' ≤ c ∧ c ≤ 'Z' := of_decide_eq_true hupper
  -- the clause of the catalog begins with a digit, and digits come before capital letters
  have hlt : '6' < c := UInt32.lt_of_lt_of_le (by decide) hrange.1
  rw [String.lt_iff, Relation.clause_toList, hcs]
  exact .rel hlt

theorem Relation.ruleId_ne_of_mem_catalog {revision : Revision} {rule : Rule} (r : Relation)
    (h : rule ∈ Catalog.rules revision) : r.ruleId ≠ rule.id :=
  fun e => r.clause_ne_of_mem_catalog h (congrArg RuleId.clause e)

end NestingRules
