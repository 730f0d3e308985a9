import NestingRules.Proofs.Generation.Balance

/-!
# Diagnostics account for every relation

While a rule set is made, one or two events tell what becomes of each relation (`IsTold`).  The
events of a run are those of its relations one after the other (`generate_diagnostics`), and they
agree with the report: there is a warning for each relation that is left out or has no rule, and a
remark for each rule whose id is taken (`Report.Echoes`).  `settle_told` and `settle_echoes` say
this of one relation, and `addAll_told` of relations that come after others.
-/

namespace NestingRules

/-- An event as it is written to a log: how important it is, what it says and its data. -/
structure Diagnostic where
  level : Level
  message : String
  fields : List (String × FieldValue)
  deriving DecidableEq, Repr

/-- What is written of the event. -/
def Event.diagnostic (e : Event) : Diagnostic := ⟨e.level, e.message, e.fields⟩

/-- The id is that of a catalog rule or of the rule of a relation that applies. -/
def IsTaken (revision : Revision) (relations : List Relation) (id : RuleId) : Prop :=
  (∃ x ∈ Catalog.rules revision, x.id = id) ∨
    ∃ s ∈ relations, Applicability.check revision s = none ∧
      ∃ x, Synthesis.rule? revision s = .ok (some x) ∧ x.id = id

/-- How an event names the relation it is about, such as `Table-['1..n']->TR`. -/
def mention (r : Relation) : String × FieldValue :=
  ("relation", .text (r.parent.text ++ "-['" ++ r.cardinality.symbol ++ "']->" ++ r.child.text))

/-- What is told about a relation that comes after others. -/
inductive IsTold (revision : Revision) (before : List Relation) (r : Relation) :
    List Diagnostic → Prop where
  /-- The relation does not apply. -/
  | skipped {reason : SkipReason} (h : Applicability.check revision r = some reason) :
      IsTold revision before r
        [⟨.warn, "skipping relation", [mention r, ("revision", .text revision.label),
          ("reason", .text reason.text)]⟩]
  /-- The relation applies but has no rule. -/
  | noRule (h : Applicability.check revision r = none)
      (hrule : Synthesis.rule? revision r = .ok none) :
      IsTold revision before r
        [⟨.warn, "no rule produced", [mention r]⟩]
  /-- The rule of the relation is new. -/
  | new {rule : Rule} (h : Applicability.check revision r = none)
      (hrule : Synthesis.rule? revision r = .ok (some rule))
      (hid : ¬ IsTaken revision before rule.id) :
      IsTold revision before r
        [⟨.debug, "synthesized rule", [mention r, ("id", .text rule.id.text),
          ("object", .text rule.object)]⟩]
  /-- The id of the rule is taken. -/
  | taken {rule : Rule} (h : Applicability.check revision r = none)
      (hrule : Synthesis.rule? revision r = .ok (some rule))
      (hid : IsTaken revision before rule.id) :
      IsTold revision before r
        [⟨.debug, "synthesized rule", [mention r, ("id", .text rule.id.text),
          ("object", .text rule.object)]⟩,
         ⟨.debug, "duplicate rule id", [mention r, ("id", .text rule.id.text)]⟩]

variable {revision : Revision} {before relations : List Relation} {rules : RuleSet}
  {report : Report} {r : Relation} {rule : Rule} {g : Generation}

/-- The warnings among events. -/
def warnings (events : List Event) : Nat := events.countP (·.level == .warn)

/-- The remarks among events that an id was taken. -/
def duplicateRemarks (events : List Event) : Nat :=
  events.countP (·.message == "duplicate rule id")

/-- The counters of a report go up by what events say. -/
structure Report.Echoes (before after : Report) (events : List Event) : Prop where
  dropped : after.skippedTotal + after.unhandled =
    before.skippedTotal + before.unhandled + warnings events
  duplicates : after.duplicates = before.duplicates + duplicateRemarks events

/-! ### Ids that are taken -/

theorem containsId_iff_isTaken {id : RuleId} :
    (RuleSet.ofList (Catalog.rules revision ++ produced revision before)).containsId id = true ↔
      IsTaken revision before id := by
  rw [RuleSet.containsId_ofList, IsTaken]
  simp only [List.mem_append, mem_produced_iff]
  constructor
  · rintro ⟨x, hx | ⟨s, hs, hcheck, hrule⟩, hid⟩
    · exact .inl ⟨x, hx, hid⟩
    · exact .inr ⟨s, hs, hcheck, x, hrule, hid⟩
  · rintro (⟨x, hx, hid⟩ | ⟨s, hs, hcheck, x, hrule, hid⟩)
    · exact ⟨x, .inl hx, hid⟩
    · exact ⟨x, .inr ⟨s, hs, hcheck, hrule⟩, hid⟩

/-! ### One relation -/

open Generation

/-- **One or two events tell what becomes of a relation.** -/
theorem settle_told (hrules : ∀ id, rules.containsId id = true ↔ IsTaken revision before id) :
    IsTold revision before r ((settle revision rules report r
      (Outcome.ofRelation revision r)).events.map (·.diagnostic)) := by
  unfold Outcome.ofRelation
  cases hcheck : Applicability.check revision r with
  | some reason => exact .skipped hcheck
  | none =>
    obtain ⟨o, ho, -⟩ := Synthesis.rule?_spec revision r
    rw [ho]
    cases o with
    | none => exact .noRule hcheck ho
    | some rule =>
      simp only [settle]
      split_ifs with hid
      · exact .taken hcheck ho ((hrules rule.id).1 hid)
      · exact .new hcheck ho (mt (hrules rule.id).2 hid)

theorem SkipCounts.total_increment (c : SkipCounts) (reason : SkipReason) :
    (c.increment reason).total = c.total + 1 := by
  rw [total_eq, total_eq]
  cases reason <;> simp [SkipReason.all, increment, count] <;> omega

theorem settle_echoes (revision : Revision) (rules : RuleSet) (report : Report) (r : Relation)
    (o : Outcome) : report.Echoes (settle revision rules report r o).report
      (settle revision rules report r o).events := by
  cases o with
  | skipped reason =>
    refine ⟨?_, rfl⟩
    simp only [settle, Report.skippedTotal, SkipCounts.total_increment]
    exact Nat.add_right_comm _ 1 _
  | unhandled => exact ⟨rfl, rfl⟩
  | synthesized rule =>
    rw [settle]
    split_ifs
    · exact ⟨rfl, rfl⟩
    · exact ⟨rfl, rfl⟩

/-! ### Relations one after the other -/

theorem Report.Echoes.append {a b c : Report} {events later : List Event} (h : a.Echoes b events)
    (h' : b.Echoes c later) : a.Echoes c (events ++ later) where
  dropped := by
    rw [h'.dropped, h.dropped, warnings, warnings, warnings, List.countP_append, Nat.add_assoc]
  duplicates := by
    rw [h'.duplicates, h.duplicates, duplicateRemarks, duplicateRemarks, duplicateRemarks,
      List.countP_append, Nat.add_assoc]

/-- The events of relations that come after others tell of each of them in turn. -/
theorem addAll_told (hrules : rules =
      RuleSet.ofList (Catalog.rules revision ++ produced revision before))
    (hrun : addAll revision rules report relations = .ok g) :
    report.Echoes g.report g.events ∧ ∃ told : List (List Diagnostic),
      g.events.map (·.diagnostic) = told.flatten ∧ told.length = relations.length ∧
        ∀ i r, relations[i]? = some r →
          ∃ ds, told[i]? = some ds ∧ IsTold revision (before ++ relations.take i) r ds := by
  induction relations generalizing before rules report g with
  | nil =>
    cases hrun
    exact ⟨⟨rfl, rfl⟩, [], rfl, rfl, by simp⟩
  | cons r relations ih =>
    rw [addAll_cons] at hrun
    dsimp only at hrun
    let first := settle revision rules report r (Outcome.ofRelation revision r)
    obtain ⟨h, hrest, rfl⟩ : ∃ h, addAll revision first.rules first.report relations = .ok h ∧
        { h with events := first.events ++ h.events } = g := by
      cases hrest : addAll revision first.rules first.report relations with
      | error e =>
        rw [hrest] at hrun
        cases hrun
      | ok h =>
        rw [hrest] at hrun
        exact ⟨h, rfl, Except.ok.inj hrun⟩
    have hnext : first.rules =
        RuleSet.ofList (Catalog.rules revision ++ produced revision (before ++ [r])) := by
      rw [produced_append, produced_singleton, ← List.append_assoc, RuleSet.ofList_append, ← hrules]
      exact settle_rules revision rules report r _
    obtain ⟨hechoes, told, hevents, hlen, htold⟩ := ih hnext hrest
    have htaken : ∀ id, rules.containsId id = true ↔ IsTaken revision before id :=
      fun id => hrules ▸ containsId_iff_isTaken
    refine ⟨(settle_echoes revision rules report r _).append hechoes,
      first.events.map (·.diagnostic) :: told, ?_, ?_, fun i s hs => ?_⟩
    · rw [List.map_append, hevents, List.flatten_cons]
    · rw [List.length_cons, hlen, List.length_cons]
    · cases i with
      | zero =>
        cases hs
        refine ⟨_, rfl, ?_⟩
        rw [List.take_zero, List.append_nil]
        exact settle_told htaken
      | succ i =>
        obtain ⟨ds, hds, his⟩ := htold i s hs
        refine ⟨ds, hds, ?_⟩
        rwa [List.append_assoc, List.singleton_append] at his

/-- **Diagnostics account for every relation.**  The events of a run tell of each relation in turn;
the warnings among them are as many as the relations that are left out or have no rule, and the
remarks on ids that were taken are as many as the duplicates.  So each relation puts a rule into the
set or is reported. -/
theorem generate_diagnostics (revision : Revision) (report : Report) (relations : List Relation) :
    ∃ (g : Generation) (told : List (List Diagnostic)),
      generate revision report relations = .ok g ∧
      g.events.map (·.diagnostic) = told.flatten ∧ told.length = relations.length ∧
      (∀ i r, relations[i]? = some r →
        ∃ ds, told[i]? = some ds ∧ IsTold revision (relations.take i) r ds) ∧
      g.report.skippedTotal + g.report.unhandled =
        report.skippedTotal + report.unhandled + warnings g.events ∧
      g.report.duplicates = report.duplicates + duplicateRemarks g.events ∧
      g.rules.size + warnings g.events + duplicateRemarks g.events = 8 + relations.length := by
  obtain ⟨g, new, hrun, hrules, hsize, hacc⟩ := generate_spec revision report relations
  have hadd := hrun
  rw [generate_eq] at hadd
  have hstart : RuleSet.ofList (Catalog.rules revision) =
      RuleSet.ofList (Catalog.rules revision ++ produced revision []) := by
    rw [produced, outcomes, List.map_nil, List.filterMap_nil, List.append_nil]
  obtain ⟨hechoes, told, hevents, hlen, htold⟩ := addAll_told hstart hadd
  refine ⟨g, told, hrun, hevents, hlen, htold, hechoes.dropped, hechoes.duplicates, ?_⟩
  have hsum : g.report.skippedTotal + g.report.unhandled + g.report.synthesized +
      g.report.duplicates = report.skippedTotal + report.unhandled + report.synthesized +
        report.duplicates + relations.length := hacc.sum_outcomes
  have hdropped : g.report.skippedTotal + g.report.unhandled =
      report.skippedTotal + report.unhandled + warnings g.events := hechoes.dropped
  have hduplicates : g.report.duplicates = report.duplicates + duplicateRemarks g.events :=
    hechoes.duplicates
  have hsynthesized : g.report.synthesized = report.synthesized + new := hacc.synthesized
  omega

end NestingRules
