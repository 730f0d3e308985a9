import NestingRules.Generation
import NestingRules.Proofs.Rule.FirstWins
import NestingRules.Proofs.Synthesis.RuleId
import NestingRules.Proofs.Synthesis.Wording

/-!
# Runs of the generator

The outcome of a relation is a value (`Outcome.ofRelation`), and what a run does is told by the
outcomes of its relations: the rule set is that of the catalog followed by the rules of the
outcomes, and every relation moves one counter of the report (`Report.Accounts`).  `settle_rules`
and `settle_accounts` say this of one relation, `addAll_spec` of a list of relations and
`generate_spec` of a whole run.
-/

namespace NestingRules

variable {revision : Revision} {r s : Relation} {rule : Rule}

/-! ### Outcomes -/

namespace Outcome

/-- The rule that an outcome offers to the set. -/
def rule? : Outcome → Option Rule
  | synthesized rule => some rule
  | skipped _ | unhandled => none

/-- The outcome of a relation. -/
def ofRelation (revision : Revision) (r : Relation) : Outcome :=
  match Applicability.check revision r with
  | some reason => .skipped reason
  | none =>
    match Synthesis.rule? revision r with
    | .ok (some rule) => .synthesized rule
    | _ => .unhandled

theorem of_eq_ok (revision : Revision) (r : Relation) :
    Outcome.of revision r = .ok (ofRelation revision r) := by
  obtain ⟨o, ho, -⟩ := Synthesis.rule?_spec revision r
  unfold Outcome.of ofRelation
  cases Applicability.check revision r with
  | some reason => rfl
  | none =>
    rw [ho]
    cases o <;> rfl

theorem ofRelation_congr (h : r.identity = s.identity) :
    ofRelation revision r = ofRelation revision s := by
  have hc : Applicability.check revision r = Applicability.check revision s := by
    obtain ⟨parent, child, cardinality, row, col⟩ := r
    obtain ⟨parent', child', cardinality', row', col'⟩ := s
    obtain ⟨rfl, rfl, rfl⟩ := Relation.Identity.mk.inj h
    rfl
  rw [ofRelation, ofRelation, hc, Synthesis.rule?_congr h]

theorem rule?_ofRelation_eq_some_iff : (ofRelation revision r).rule? = some rule ↔
    Applicability.check revision r = none ∧ Synthesis.rule? revision r = .ok (some rule) := by
  obtain ⟨o, ho, -⟩ := Synthesis.rule?_spec revision r
  unfold ofRelation
  cases Applicability.check revision r with
  | some reason => simp [rule?]
  | none =>
    rw [ho]
    cases o <;> simp [rule?]

theorem isSome_rule?_ofRelation : (ofRelation revision r).rule?.isSome =
    (Applicability.applies revision r && r.hasRule) := by
  obtain ⟨o, ho, hsome, -⟩ := Synthesis.rule?_spec revision r
  unfold ofRelation Applicability.applies
  cases Applicability.check revision r with
  | some reason => rfl
  | none =>
    rw [ho, ← hsome]
    cases o <;> rfl

end Outcome

/-- The outcomes of relations, in order. -/
def outcomes (revision : Revision) (relations : List Relation) : List Outcome :=
  relations.map (Outcome.ofRelation revision)

/-- The rules of relations, in order. -/
def produced (revision : Revision) (relations : List Relation) : List Rule :=
  (outcomes revision relations).filterMap (·.rule?)

theorem mem_produced_iff {relations : List Relation} : rule ∈ produced revision relations ↔
    ∃ r ∈ relations, Applicability.check revision r = none ∧
      Synthesis.rule? revision r = .ok (some rule) := by
  simp only [produced, outcomes, List.filterMap_map, List.mem_filterMap, Function.comp,
    Outcome.rule?_ofRelation_eq_some_iff]

theorem produced_append (revision : Revision) (relations after : List Relation) :
    produced revision (relations ++ after) =
      produced revision relations ++ produced revision after := by
  rw [produced, outcomes, List.map_append, List.filterMap_append]
  rfl

theorem produced_singleton (revision : Revision) (r : Relation) :
    produced revision [r] = (Outcome.ofRelation revision r).rule?.toList := by
  unfold produced outcomes
  cases h : (Outcome.ofRelation revision r).rule? <;> simp [h]

theorem produced_cons (revision : Revision) (r : Relation) (relations : List Relation) :
    produced revision (r :: relations) =
      (Outcome.ofRelation revision r).rule?.toList ++ produced revision relations := by
  rw [← produced_singleton, ← produced_append, List.singleton_append]

/-! ### Accounts -/

namespace SkipCounts

theorem eq_of_count_eq {a b : SkipCounts} (h : ∀ reason, a.count reason = b.count reason) :
    a = b := by
  cases a; cases b
  exact SkipCounts.mk.injEq .. ▸
    ⟨h .unknownType, h .unconstrained, h .transitionalParent, h .notInRevision⟩

theorem count_increment (c : SkipCounts) (reason reason' : SkipReason) :
    (c.increment reason).count reason' = c.count reason' + if reason = reason' then 1 else 0 := by
  cases reason <;> cases reason' <;> rfl

end SkipCounts

namespace Report

/-- `after` is `before` with the outcomes `os` added, of whose rules `new` had an id of their
own. -/
structure Accounts (before after : Report) (os : List Outcome) (new : Nat) : Prop where
  parsed : after.parsed = before.parsed
  skipped : ∀ reason,
    after.skipped.count reason = before.skipped.count reason + os.count (.skipped reason)
  unhandled : after.unhandled = before.unhandled + os.count .unhandled
  synthesized : after.synthesized = before.synthesized + new
  duplicates : after.duplicates + new = before.duplicates + (os.filterMap (·.rule?)).length
  catalog : after.catalog = before.catalog

namespace Accounts

variable {a b c : Report} {os os' : List Outcome} {m n : Nat}

theorem nil (a : Report) : Accounts a a [] 0 :=
  ⟨rfl, fun _ => rfl, rfl, rfl, rfl, rfl⟩

theorem append (h : Accounts a b os m) (h' : Accounts b c os' n) :
    Accounts a c (os ++ os') (m + n) where
  parsed := h'.parsed.trans h.parsed
  skipped reason := by rw [h'.skipped, h.skipped, List.count_append, Nat.add_assoc]
  unhandled := by rw [h'.unhandled, h.unhandled, List.count_append, Nat.add_assoc]
  synthesized := by rw [h'.synthesized, h.synthesized, Nat.add_assoc]
  duplicates := by
    have hb := h.duplicates
    have hc := h'.duplicates
    rw [List.filterMap_append, List.length_append]
    omega
  catalog := h'.catalog.trans h.catalog

theorem eq_of_perm (h : Accounts a b os n) (h' : Accounts a c os' n) (hp : os.Perm os') :
    b = c := by
  have hskip : b.skipped = c.skipped :=
    SkipCounts.eq_of_count_eq fun reason => by rw [h.skipped, h'.skipped, hp.count_eq]
  have hun : b.unhandled = c.unhandled := by rw [h.unhandled, h'.unhandled, hp.count_eq]
  have hsyn : b.synthesized = c.synthesized := by rw [h.synthesized, h'.synthesized]
  have hdup : b.duplicates = c.duplicates := by
    have hb := h.duplicates
    have hc := h'.duplicates
    rw [(hp.filterMap _).length_eq] at hb
    omega
  have hparsed : b.parsed = c.parsed := by rw [h.parsed, h'.parsed]
  have hcat : b.catalog = c.catalog := by rw [h.catalog, h'.catalog]
  cases b; cases c
  exact Report.mk.injEq .. ▸ ⟨hparsed, hskip, hun, hsyn, hdup, hcat⟩

end Accounts

end Report

namespace Generation

variable {rules : RuleSet} {report : Report}

/-! ### One relation -/

theorem settle_rules (revision : Revision) (rules : RuleSet) (report : Report) (r : Relation)
    (o : Outcome) :
    (settle revision rules report r o).rules = rules.extend o.rule?.toList := by
  cases o with
  | skipped reason => rfl
  | unhandled => rfl
  | synthesized rule =>
    simp only [settle, Outcome.rule?, Option.toList_some, RuleSet.extend_cons, RuleSet.extend_nil]
    split_ifs with hc
    · exact (RuleSet.insert_of_containsId hc).symm
    · rfl

/-- **A relation moves one counter of the report.** -/
theorem settle_accounts (revision : Revision) (rules : RuleSet) (report : Report) (r : Relation)
    (o : Outcome) : ∃ new,
    (settle revision rules report r o).rules.size = rules.size + new ∧
      report.Accounts (settle revision rules report r o).report [o] new := by
  cases o with
  | skipped reason =>
    refine ⟨0, rfl, rfl, fun reason' => ?_, rfl, rfl, rfl, rfl⟩
    rw [settle, SkipCounts.count_increment, List.count_singleton]
    simp
  | unhandled => exact ⟨0, rfl, rfl, fun _ => rfl, rfl, rfl, rfl, rfl⟩
  | synthesized rule =>
    rw [settle]
    split_ifs with hc
    · exact ⟨0, rfl, rfl, fun _ => rfl, rfl, rfl, rfl, rfl⟩
    · have hsize : (rules.insert rule).size = rules.size + 1 :=
        RuleSet.size_insert (Bool.not_eq_true _ ▸ hc)
      exact ⟨1, hsize, rfl, fun _ => rfl, rfl, rfl, rfl, rfl⟩

/-! ### A list of relations -/

theorem addAll_cons (revision : Revision) (rules : RuleSet) (report : Report) (r : Relation)
    (relations : List Relation) :
    addAll revision rules report (r :: relations) =
      let g := settle revision rules report r (Outcome.ofRelation revision r)
      (addAll revision g.rules g.report relations).map
        fun h => { h with events := g.events ++ h.events } := by
  rw [addAll, Outcome.of_eq_ok]
  simp only [bind, Except.bind, pure, Except.pure, Except.map]

theorem addAll_spec (revision : Revision) (rules : RuleSet) (report : Report)
    (relations : List Relation) : ∃ g new, addAll revision rules report relations = .ok g ∧
      g.rules = rules.extend (produced revision relations) ∧ g.rules.size = rules.size + new ∧
      report.Accounts g.report (outcomes revision relations) new := by
  -- the set and the report so far vary, so the induction is over all of them
  induction relations generalizing rules report with
  | nil => exact ⟨⟨rules, report, []⟩, 0, rfl, rfl, rfl, .nil report⟩
  | cons r relations ih =>
    let o := Outcome.ofRelation revision r
    let g := settle revision rules report r o
    obtain ⟨m, hm, hg⟩ := settle_accounts revision rules report r o
    obtain ⟨h, n, hrun, hrules, hn, hacc⟩ := ih g.rules g.report
    refine ⟨{ h with events := g.events ++ h.events }, m + n, ?_, ?_, ?_, hg.append hacc⟩
    · rw [addAll_cons]
      exact congrArg (Except.map _) hrun
    · rw [produced_cons, RuleSet.extend_append, ← settle_rules revision rules report r o]
      exact hrules
    · exact hn.trans (by rw [hm, Nat.add_assoc])

/-! ### The catalog -/

theorem foldl_addCatalogRule (g : Generation) (l : List Rule) : ∃ n,
    l.foldl addCatalogRule g = ⟨g.rules.extend l,
      { g.report with catalog := g.report.catalog + n }, g.events⟩ ∧
      (g.rules.extend l).size = g.rules.size + n := by
  induction l generalizing g with
  | nil => exact ⟨0, rfl, rfl⟩
  | cons rule l ih =>
    obtain ⟨n, hfold, hsize⟩ := ih (g.addCatalogRule rule)
    rw [List.foldl_cons, RuleSet.extend_cons]
    -- the count follows what is put into the set, whether or not the ids are distinct
    by_cases hc : g.rules.containsId rule.id
    · rw [addCatalogRule, if_pos hc] at hfold hsize
      rw [addCatalogRule, if_pos hc, RuleSet.insert_of_containsId hc]
      exact ⟨n, hfold, hsize⟩
    · rw [addCatalogRule, if_neg hc] at hfold hsize
      rw [addCatalogRule, if_neg hc]
      refine ⟨1 + n, by rw [hfold, Nat.add_assoc], ?_⟩
      rw [hsize, RuleSet.size_insert (Bool.not_eq_true _ ▸ hc), Nat.add_assoc]

theorem size_ofList_catalog (revision : Revision) :
    (RuleSet.ofList (Catalog.rules revision)).size = 8 :=
  (RuleSet.toList_ofList_perm (Catalog.nodup_ids revision)).length_eq

end Generation

open Generation in
/-- The relations are added to the set of the catalog. -/
theorem generate_eq (revision : Revision) (report : Report) (relations : List Relation) :
    generate revision report relations =
      addAll revision (RuleSet.ofList (Catalog.rules revision)) { report with
        parsed := report.parsed + relations.length, catalog := report.catalog + 8 } relations := by
  obtain ⟨n, hfold, hsize⟩ := foldl_addCatalogRule ⟨∅, report, []⟩ (Catalog.rules revision)
  have hn : n = 8 := by
    have h8 := size_ofList_catalog revision
    rw [RuleSet.ofList, show RuleSet.empty = (∅ : RuleSet) from rfl, hsize] at h8
    exact (Nat.zero_add n).symm.trans h8
  rw [generate, hfold, hn]
  rfl

open Generation in
/-- **A run never fails**: its rule set is that of the catalog and the rules of the relations, the
first for each id, and its report accounts for every relation. -/
theorem generate_spec (revision : Revision) (report : Report) (relations : List Relation) :
    ∃ g new, generate revision report relations = .ok g ∧
      g.rules = RuleSet.ofList (Catalog.rules revision ++ produced revision relations) ∧
      g.rules.size = 8 + new ∧
      Report.Accounts { report with
        parsed := report.parsed + relations.length, catalog := report.catalog + 8 }
        g.report (outcomes revision relations) new := by
  obtain ⟨g, new, hrun, hrules, hnew, hacc⟩ := addAll_spec revision
    (RuleSet.ofList (Catalog.rules revision))
    { report with parsed := report.parsed + relations.length, catalog := report.catalog + 8 }
    relations
  refine ⟨g, new, ?_, ?_, ?_, hacc⟩
  · rw [generate_eq]
    exact hrun
  · rw [hrules, RuleSet.ofList_append]
  · rw [hnew, size_ofList_catalog]

end NestingRules
