import NestingRules.Proofs.Generation.Pairs
import Mathlib.Algebra.GroupWithZero.Nat
import Mathlib.Data.List.Induction
import Mathlib.Data.List.Perm.Basic

/-!
# Balanced reports

Several batches of relations may be turned into rule sets with one report (`generateAll`).  After
each of them the report balances (`Report.Balances`): every relation so far is in exactly one of its
counters, and each counter says how many relations there are of its kind.  A duplicate is a relation
with a rule whose pair an earlier relation with a rule in the same batch is about
(`length_pairsOf_add_repeats`).
-/

namespace NestingRules

variable {revision : Revision} {relations batch : List Relation} {batches : List (List Relation)}
  {sets : List RuleSet} {report : Report} {r : Relation} {g : Generation}

/-- The rule sets of batches of relations, all with one report: it is passed on from each batch to
the next. -/
def generateAll (revision : Revision) :
    Report → List (List Relation) → Except ArityError (List Generation)
  | _, [] => .ok []
  | report, batch :: batches => do
    let g ← generate revision report batch
    let gs ← generateAll revision g.report batches
    return g :: gs

/-- The relation asks for a rule but has none. -/
def isUnhandled (revision : Revision) (r : Relation) : Bool :=
  decide (Applicability.check revision r = none ∧ Synthesis.rule? revision r = .ok none)

/-- The number of relations with a rule that come after another one about the same pair. -/
def repeats (revision : Revision) (relations : List Relation) : Nat :=
  relations.zipIdx.countP fun p => asksForRule revision p.1 &&
    (relations.take p.2).any fun s => s.pair == p.1.pair && asksForRule revision s

/-- The report accounts for batches of relations whose rule sets are `sets`. -/
structure Report.Balances (revision : Revision) (batches : List (List Relation))
    (sets : List RuleSet) (report : Report) : Prop where
  parsed_eq_sum :
    report.parsed = report.skippedTotal + report.unhandled + report.synthesized + report.duplicates
  parsed : report.parsed = batches.flatten.length
  catalog : report.catalog = 8 * batches.length
  ruleCount : report.ruleCount = (sets.map (·.size)).sum
  skipped : ∀ reason, report.skipped.count reason =
    batches.flatten.countP fun r => Applicability.check revision r == some reason
  unhandled : report.unhandled = batches.flatten.countP (isUnhandled revision)
  duplicates : report.duplicates = (batches.map (repeats revision)).sum

/-! ### Kinds of outcomes -/

theorem Outcome.ofRelation_eq_skipped_iff {reason : SkipReason} :
    ofRelation revision r = .skipped reason ↔ Applicability.check revision r = some reason := by
  unfold ofRelation
  cases Applicability.check revision r with
  | some reason' => simp
  | none =>
    obtain ⟨o, ho, -⟩ := Synthesis.rule?_spec revision r
    rw [ho]
    cases o <;> simp

theorem Outcome.ofRelation_eq_unhandled_iff :
    ofRelation revision r = .unhandled ↔ isUnhandled revision r = true := by
  unfold ofRelation isUnhandled
  cases Applicability.check revision r with
  | some reason => simp
  | none =>
    obtain ⟨o, ho, -⟩ := Synthesis.rule?_spec revision r
    rw [ho]
    cases o <;> simp

theorem count_skipped_outcomes (reason : SkipReason) :
    (outcomes revision relations).count (.skipped reason) =
      relations.countP fun r => Applicability.check revision r == some reason := by
  rw [outcomes, List.count, List.countP_map]
  refine List.countP_congr fun r _ => ?_
  rw [Function.comp_apply, beq_iff_eq, beq_iff_eq, Outcome.ofRelation_eq_skipped_iff]

theorem count_unhandled_outcomes :
    (outcomes revision relations).count .unhandled = relations.countP (isUnhandled revision) := by
  rw [outcomes, List.count, List.countP_map]
  refine List.countP_congr fun r _ => ?_
  rw [Function.comp_apply, beq_iff_eq, Outcome.ofRelation_eq_unhandled_iff]

theorem length_produced :
    (produced revision relations).length = relations.countP (asksForRule revision) := by
  rw [produced, List.length_filterMap_eq_countP, outcomes, List.countP_map]
  refine List.countP_congr fun r _ => ?_
  rw [Function.comp_apply, Outcome.isSome_rule?_ofRelation, asksForRule]

theorem SkipCounts.total_eq (c : SkipCounts) : c.total = (SkipReason.all.map c.count).sum := by
  simp [total, SkipReason.all, Nat.add_assoc]

/-- Every outcome is of exactly one kind. -/
theorem length_eq_sum_counts (os : List Outcome) : os.length =
    (SkipReason.all.map fun reason => os.count (.skipped reason)).sum + os.count .unhandled +
      (os.filterMap (·.rule?)).length := by
  induction os with
  | nil => rfl
  | cons o os ih =>
    rw [List.length_cons, ih]
    cases o with
    | skipped reason => cases reason <;> simp [SkipReason.all, Outcome.rule?] <;> omega
    | unhandled => simp [SkipReason.all, Outcome.rule?]; omega
    | synthesized rule => simp [SkipReason.all, Outcome.rule?]; omega

/-! ### Repeated pairs -/

theorem repeats_append_singleton : repeats revision (relations ++ [r]) =
    repeats revision relations + if asksForRule revision r && relations.any
      (fun s => s.pair == r.pair && asksForRule revision s) then 1 else 0 := by
  rw [repeats, List.zipIdx_append, List.countP_append, Nat.zero_add, List.zipIdx_singleton,
    List.countP_singleton, List.take_left]
  refine congrArg (· + _) (List.countP_congr fun p hp => ?_)
  -- a relation of the list has the same ones before it in the longer list
  have hlt : p.2 ≤ relations.length := Nat.le_of_lt (List.snd_lt_of_mem_zipIdx hp)
  rw [List.take_append_of_le_length hlt]

theorem mem_map_pair_filter {p : TypeName × TypeName} :
    p ∈ (relations.filter (asksForRule revision)).map (·.pair) ↔
      relations.any (fun s => s.pair == p && asksForRule revision s) = true := by
  simp only [List.mem_map, List.mem_filter, List.any_eq_true, Bool.and_eq_true, beq_iff_eq]
  exact exists_congr fun s =>
    ⟨fun ⟨⟨hs, ha⟩, hp⟩ => ⟨hs, hp, ha⟩, fun ⟨hs, hp, ha⟩ => ⟨⟨hs, ha⟩, hp⟩⟩

/-- A relation with a rule is the first one about its pair or repeats it. -/
theorem length_pairsOf_add_repeats (revision : Revision) (relations : List Relation) :
    (pairsOf revision relations).length + repeats revision relations =
      relations.countP (asksForRule revision) := by
  induction relations using List.reverseRecOn with
  | nil => rfl
  | append_singleton relations r ih =>
    have hperm : (((relations ++ [r]).filter (asksForRule revision)).map (·.pair)).Perm
        (([r].filter (asksForRule revision)).map (·.pair) ++
          (relations.filter (asksForRule revision)).map (·.pair)) := by
      rw [List.filter_append, List.map_append]
      exact List.perm_append_comm
    rw [repeats_append_singleton, List.countP_append, ← ih, pairsOf, hperm.dedup.length_eq]
    by_cases ha : asksForRule revision r = true
    · by_cases hmem : r.pair ∈ (relations.filter (asksForRule revision)).map (·.pair)
      · simp [ha, mem_map_pair_filter.1 hmem, List.dedup_cons_of_mem hmem, pairsOf]
        omega
      · simp [ha, mt mem_map_pair_filter.2 hmem, List.dedup_cons_of_notMem hmem, pairsOf]
        omega
    · simp [ha, pairsOf]

/-! ### Batches -/

theorem size_ofList_produced (revision : Revision) (relations : List Relation) :
    (RuleSet.ofList (Catalog.rules revision ++ produced revision relations)).size =
      8 + (pairsOf revision relations).length := by
  have hlen : (pairsOf revision relations).length =
      ((pairsOf revision relations).filterMap (ruleAbout revision relations)).length :=
    (forall₂_filterMap fun p hp => isSome_ruleAbout hp).length_eq
  rw [RuleSet.size, (toList_ofList_produced_perm revision relations).length_eq,
    List.length_append, Catalog.length_rules, ← hlen]

theorem Report.Accounts.sum_eq {a b : Report} {os : List Outcome} {new : Nat}
    (h : a.Accounts b os new) :
    b.skippedTotal + b.unhandled + b.synthesized + b.duplicates =
      a.skippedTotal + a.unhandled + a.synthesized + a.duplicates + os.length := by
  have hskipped : b.skippedTotal =
      a.skippedTotal + (SkipReason.all.map fun reason => os.count (.skipped reason)).sum := by
    simp only [Report.skippedTotal, SkipCounts.total_eq, SkipReason.all, List.map_cons,
      List.map_nil, List.sum_cons, List.sum_nil, h.skipped]
    omega
  have hduplicates := h.duplicates
  rw [length_eq_sum_counts os, hskipped, h.unhandled, h.synthesized]
  omega

theorem Report.Accounts.sum_outcomes {a b : Report} {new : Nat}
    (h : a.Accounts b (outcomes revision relations) new) :
    b.skippedTotal + b.unhandled + b.synthesized + b.duplicates =
      a.skippedTotal + a.unhandled + a.synthesized + a.duplicates + relations.length := by
  rw [h.sum_eq, outcomes, List.length_map]

/-- **A batch keeps the report balanced.** -/
theorem Report.Balances.add_batch (h : report.Balances revision batches sets)
    (hg : generate revision report batch = .ok g) :
    g.report.Balances revision (batches ++ [batch]) (sets ++ [g.rules]) := by
  obtain ⟨g', new, hrun, hrules, hsize, hacc⟩ := generate_spec revision report batch
  cases hg.symm.trans hrun
  -- as many rules are new as there are pairs, so the others repeat a pair
  have hnew : new = (pairsOf revision batch).length := by
    rw [hrules, size_ofList_produced] at hsize
    omega
  have hrepeats := length_pairsOf_add_repeats revision batch
  have hparsed : g.report.parsed = report.parsed + batch.length := hacc.parsed
  have hcatalog : g.report.catalog = report.catalog + 8 := hacc.catalog
  have hsynthesized : g.report.synthesized = report.synthesized + new := hacc.synthesized
  have hduplicates : g.report.duplicates + new =
      report.duplicates + batch.countP (asksForRule revision) := by
    rw [← length_produced]
    exact hacc.duplicates
  have hsum : g.report.skippedTotal + g.report.unhandled + g.report.synthesized +
      g.report.duplicates = report.skippedTotal + report.unhandled + report.synthesized +
        report.duplicates + batch.length := hacc.sum_outcomes
  refine ⟨?_, ?_, ?_, ?_, fun reason => ?_, ?_, ?_⟩
  · rw [hsum, hparsed, h.parsed_eq_sum]
  · rw [hparsed, h.parsed, List.flatten_append, List.length_append, List.flatten_singleton]
  · rw [hcatalog, h.catalog, List.length_append, List.length_singleton, Nat.mul_add]
  · have hcount : g.report.ruleCount = report.ruleCount + g.rules.size := by
      rw [Report.ruleCount, Report.ruleCount]
      omega
    rw [hcount, h.ruleCount, List.map_append, List.sum_append, List.map_singleton,
      List.sum_singleton]
  · rw [hacc.skipped, h.skipped, count_skipped_outcomes, List.flatten_append, List.countP_append,
      List.flatten_singleton]
  · rw [hacc.unhandled, h.unhandled, count_unhandled_outcomes, List.flatten_append,
      List.countP_append, List.flatten_singleton]
  · rw [List.map_append, List.sum_append, List.map_singleton, List.sum_singleton, ← h.duplicates]
    omega

theorem Report.balances_default (revision : Revision) :
    Report.Balances revision [] [] {} :=
  ⟨rfl, rfl, rfl, rfl, fun reason => by cases reason <;> rfl, rfl, rfl⟩

/-- After each of several batches a report that balances before them does. -/
theorem generateAll_spec (h : report.Balances revision batches sets)
    (later : List (List Relation)) :
    ∃ gs : List Generation, generateAll revision report later = .ok gs ∧ gs.length = later.length ∧
      ∀ (n : Nat) (g : Generation), gs[n]? = some g →
        g.report.Balances revision (batches ++ later.take (n + 1))
          (sets ++ (gs.take (n + 1)).map (·.rules)) := by
  -- the batches so far vary, so the induction is over all of them
  induction later generalizing batches sets report with
  | nil => exact ⟨[], rfl, rfl, by simp⟩
  | cons batch later ih =>
    obtain ⟨g, -, hrun, -⟩ := generate_spec revision report batch
    have hg := h.add_batch hrun
    obtain ⟨gs, hruns, hlen, hbal⟩ := ih hg
    refine ⟨g :: gs, ?_, by rw [List.length_cons, hlen, List.length_cons], fun n g' hn => ?_⟩
    · rw [generateAll, hrun]
      exact congrArg (fun x => x >>= fun gs => Except.ok (g :: gs)) hruns
    · cases n with
      | zero =>
        cases hn
        exact hg
      | succ n =>
        have := hbal n g' hn
        simpa using this

/-- **The report balances after each batch.**  Batches are turned into rule sets without failure,
and after the first `n + 1` of them the report accounts for all their relations and rules. -/
theorem generateAll_balances (revision : Revision) (batches : List (List Relation)) :
    ∃ gs : List Generation, generateAll revision {} batches = .ok gs ∧ gs.length = batches.length ∧
      ∀ (n : Nat) (g : Generation), gs[n]? = some g →
        g.report.Balances revision (batches.take (n + 1)) ((gs.take (n + 1)).map (·.rules)) :=
  generateAll_spec (Report.balances_default revision) batches

end NestingRules
