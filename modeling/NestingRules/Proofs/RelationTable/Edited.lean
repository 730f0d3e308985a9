import NestingRules.Proofs.Generation.Order
import NestingRules.Proofs.Generation.Pairs
import NestingRules.Proofs.RelationTable.Rows

/-!
# Edited tables

The rule of a pair of parent and child is that of the first cardinality with a rule among those that
the table gives the pair, in reading order (`ruleAbout_eq_some_iff_firstRuled?`).  Nothing else
matters: not what the table says about other pairs, not the ignored records, and not where the cells
are.  No other pair has its clause, so two tables that give a pair the same cardinalities
(`RelationTable.cardinalitiesOf`) are compiled to profiles with the same rule for it, or with none
(`RelationTable.compile_edited`).
-/

namespace NestingRules

variable {revision : Revision} {relations relations' : List Relation} {r s : Relation} {x : Rule}

/-! ### Relations about a pair -/

/-- The first of some cardinalities with which the relation has a rule. -/
def Relation.firstRuled? (r : Relation) (cs : List Cardinality) : Option Cardinality :=
  cs.find? fun k => { r with cardinality := k }.hasRule

/-- The cardinalities of the relations about a pair, in order. -/
def cardinalitiesAbout (relations : List Relation) (p : TypeName × TypeName) : List Cardinality :=
  (relations.filter (·.pair == p)).map (·.cardinality)

theorem identity_of_pair_eq (h : s.pair = r.pair) :
    s.identity = { r with cardinality := s.cardinality }.identity := by
  obtain ⟨hparent, hchild⟩ := Prod.mk.inj h
  rw [Relation.identity, Relation.identity, hparent, hchild]

theorem asksForRule_of_pair_eq (hr : Applicability.check revision r = none) (h : s.pair = r.pair) :
    asksForRule revision s = { r with cardinality := s.cardinality }.hasRule := by
  obtain ⟨hparent, hchild⟩ := Prod.mk.inj h
  have hrule : { r with cardinality := s.cardinality }.hasRule = s.hasRule := by
    unfold Relation.hasRule
    rw [hchild]
  rw [hrule, asksForRule]
  cases hs : s.hasRule with
  | false => exact Bool.and_false _
  | true =>
    -- a cardinality with a rule constrains something, and the names are those of `r`
    have hne : s.cardinality ≠ .anyAmount := by
      intro e
      rw [Relation.hasRule, e] at hs
      cases hs
    obtain ⟨hadmits, -, hplaceholder⟩ := Applicability.check_eq_none_iff.1 hr
    have hcheck : Applicability.check revision s = none := by
      rw [Applicability.check_eq_none_iff, Applicability.admits, hparent, hchild]
      exact ⟨hadmits, hne, hplaceholder⟩
    rw [Applicability.applies, hcheck]
    rfl

theorem firstRuled?_cardinalitiesAbout (hr : Applicability.check revision r = none) :
    r.firstRuled? (cardinalitiesAbout relations r.pair) =
      (firstAbout revision relations r.pair).map (·.cardinality) := by
  rw [Relation.firstRuled?, cardinalitiesAbout, List.find?_map, List.find?_filter, firstAbout]
  congr 2
  funext s
  by_cases hp : s.pair = r.pair
  · simp [hp, asksForRule_of_pair_eq hr hp]
  · simp [hp]

/-- **The rule of a pair is that of its first cardinality with a rule.** -/
theorem ruleAbout_eq_some_iff_firstRuled? (hr : Applicability.check revision r = none) :
    ruleAbout revision relations r.pair = some x ↔
      ∃ k, r.firstRuled? (cardinalitiesAbout relations r.pair) = some k ∧
        Synthesis.rule? revision { r with cardinality := k } = .ok (some x) := by
  rw [ruleAbout_eq_some_iff, firstRuled?_cardinalitiesAbout hr]
  have hsame : ∀ s, firstAbout revision relations r.pair = some s →
      Synthesis.rule? revision s =
        Synthesis.rule? revision { r with cardinality := s.cardinality } := fun s hs =>
    Synthesis.rule?_congr (identity_of_pair_eq (pair_and_asks_of_firstAbout hs).1)
  constructor
  · rintro ⟨s, hs, hrule⟩
    exact ⟨s.cardinality, by rw [hs, Option.map_some], hsame s hs ▸ hrule⟩
  · rintro ⟨k, hk, hrule⟩
    obtain ⟨s, hs, rfl⟩ := Option.map_eq_some_iff.1 hk
    exact ⟨s, hs, (hsame s hs).trans hrule⟩

/-- What the relations say about other pairs plays no part. -/
theorem ruleAbout_congr (hr : Applicability.check revision r = none)
    (h : cardinalitiesAbout relations r.pair = cardinalitiesAbout relations' r.pair) :
    ruleAbout revision relations r.pair = ruleAbout revision relations' r.pair := by
  refine Option.ext fun x => ?_
  rw [ruleAbout_eq_some_iff_firstRuled? hr, ruleAbout_eq_some_iff_firstRuled? hr, h]

/-- A profile has the rule of a pair under its clause, and no other one. -/
theorem compile_clause (o : CompileOptions) (relations : List Relation)
    (hr : Applicability.check o.revision r = none) : ∃ c, compile o relations = .ok c ∧
      c.profile.rules.toList.filter (·.id.clause == clauseOf r.parent r.child) =
        (ruleAbout o.revision relations r.pair).toList := by
  obtain ⟨c, hc, hrules⟩ := compile_spec o relations
  exact ⟨c, hc, hrules ▸ filter_clause_ofList_produced hr⟩

namespace RelationTable

/-! ### Cells of a pair -/

/-- The cardinalities that a record gives to a child, from left to right. -/
def cardinalitiesInRow (children : List TypeName) (child : TypeName) (record : List String) :
    List Cardinality :=
  ((children.zip record.tail).filter (·.1 == child)).filterMap fun p => cardinality? p.2

/-- The cardinalities that records give to a parent and a child, row by row. -/
def cardinalitiesOf (parent child : TypeName) : List (List String) → List Cardinality
  | [] => []
  | header :: rows =>
    let children := childrenOf header
    (rows.filter fun record => !isIgnored (children.length + 1) record).flatMap fun record =>
      if record.headD "" = parent.text then cardinalitiesInRow children child record else []

theorem cardinalities_identitiesOfRow (children : List TypeName) (record : List String)
    (parent child : TypeName) :
    ((identitiesOfRow children record).filter
        fun i => (i.parent, i.child) == (parent, child)).map (·.cardinality) =
      if record.headD "" = parent.text then cardinalitiesInRow children child record else [] := by
  rw [identitiesOfRow, rowOf, List.zip_map_right, List.filterMap_map, List.filter_filterMap,
    List.map_filterMap]
  generalize record.headD "" = name
  split_ifs with hparent
  · obtain rfl : parent = ⟨name⟩ := congrArg TypeName.mk hparent.symm
    rw [cardinalitiesInRow, List.filterMap_filter]
    refine List.filterMap_congr fun p _ => ?_
    by_cases hchild : p.1 = child <;> cases hc : cardinality? p.2 <;> simp [hchild, hc]
  · have hne : parent ≠ ⟨name⟩ := fun e => hparent (congrArg TypeName.text e).symm
    refine List.filterMap_eq_nil_iff.2 fun p _ => ?_
    cases hc : cardinality? p.2 <;> simp [hne.symm, hc]

theorem cardinalitiesAbout_relationsOf (parent child : TypeName) (records : List (List String)) :
    cardinalitiesAbout (relationsOf records) (parent, child) =
      cardinalitiesOf parent child records := by
  have hidentity : cardinalitiesAbout (relationsOf records) (parent, child) =
      (((relationsOf records).map (·.identity)).filter
        fun i => (i.parent, i.child) == (parent, child)).map (·.cardinality) := by
    rw [cardinalitiesAbout, List.filter_map, List.map_map]
    rfl
  rw [hidentity]
  cases records with
  | nil => rfl
  | cons header rows =>
    rw [relationsOf, map_identity_relationsOfRows, List.filter_flatMap, List.map_flatMap]
    exact List.flatMap_congr fun record _ => cardinalities_identitiesOfRow ..

/-! ### Tables with the same cells for a pair -/

variable {s s' : Delimited.Stream} {t t' : RelationTable} {o o' : CompileOptions}

/-- **Editing a table does not disturb other rules.**  If two tables give an applicable pair the
same cardinalities in the same order, their profiles have the same rule with the clause of the pair,
or neither has one.  It is the rule of the first of these cardinalities that has one. -/
theorem compile_edited (ht : (ofRecords s).2 = .ok t) (ht' : (ofRecords s').2 = .ok t')
    (ho : o'.revision = o.revision) (hr : Applicability.check o.revision r = none)
    (hsame : cardinalitiesOf r.parent r.child s.records =
      cardinalitiesOf r.parent r.child s'.records) :
    ∃ c c' found, compile o t.relations = .ok c ∧ compile o' t'.relations = .ok c' ∧
      c.profile.rules.toList.filter (·.id.clause == clauseOf r.parent r.child) =
        Option.toList found ∧
      c'.profile.rules.toList.filter (·.id.clause == clauseOf r.parent r.child) =
        Option.toList found ∧
      ∀ x, found = some x ↔
        ∃ k, r.firstRuled? (cardinalitiesOf r.parent r.child s.records) = some k ∧
          Synthesis.rule? o.revision { r with cardinality := k } = .ok (some x) := by
  obtain ⟨c, hc, hrule⟩ := compile_clause o t.relations hr
  obtain ⟨c', hc', hrule'⟩ := compile_clause o' t'.relations (ho ▸ hr)
  have hcells : cardinalitiesAbout t.relations r.pair =
      cardinalitiesOf r.parent r.child s.records := by
    rw [relations_of_ofRecords_eq_ok ht, Relation.pair, cardinalitiesAbout_relationsOf]
  have hcells' : cardinalitiesAbout t'.relations r.pair =
      cardinalitiesOf r.parent r.child s.records := by
    rw [relations_of_ofRecords_eq_ok ht', Relation.pair, cardinalitiesAbout_relationsOf, hsame]
  rw [ho, ← ruleAbout_congr hr (hcells.trans hcells'.symm)] at hrule'
  refine ⟨c, c', _, hc, hc', hrule, hrule', fun x => ?_⟩
  rw [ruleAbout_eq_some_iff_firstRuled? hr, hcells]

/-- One table has two rows for the same parent and the other one two columns for the same child, and
the records that are ignored and the cells of other pairs are different. -/
theorem compile_edited_two_columns :
    let s : Delimited.Stream :=
      ⟨[["", "P", "Span"], ["TR", "∅", "0..n"], ["L", "", "1"], ["TR", "", "1"]], none⟩
    let s' : Delimited.Stream :=
      ⟨[["\ufeff", "Span", "Lbl", "Span"], ["TH"], ["TR", "0..n", "∅", "1"], ["", "?", "", ""]],
        none⟩
    let r : Relation := ⟨⟨"TR"⟩, ⟨"Span"⟩, .exactlyOne, 4, 2⟩
    let o : CompileOptions := { created := .epoch }
    Applicability.check o.revision r = none ∧
    cardinalitiesOf r.parent r.child s.records = [.anyAmount, .exactlyOne] ∧
    cardinalitiesOf r.parent r.child s'.records = [.anyAmount, .exactlyOne] ∧
    ∃ t t' c c' x, (ofRecords s).2 = .ok t ∧ (ofRecords s').2 = .ok t' ∧
      compile o t.relations = .ok c ∧ compile o t'.relations = .ok c' ∧
      c.profile.rules.toList.filter (·.id.clause == "TR-Span") = [x] ∧
      c'.profile.rules.toList.filter (·.id.clause == "TR-Span") = [x] := by
  intro s s' r o
  have hr : Applicability.check o.revision r = none := by decide
  have hs : cardinalitiesOf r.parent r.child s.records = [.anyAmount, .exactlyOne] := by decide
  have hs' : cardinalitiesOf r.parent r.child s'.records = [.anyAmount, .exactlyOne] := by decide
  obtain ⟨t, ht⟩ : ∃ t, (ofRecords s).2 = .ok t :=
    (ofRecords_isOk_iff (by decide)).2 (by unfold AreReadable; decide)
  obtain ⟨t', ht'⟩ : ∃ t, (ofRecords s').2 = .ok t :=
    (ofRecords_isOk_iff (by decide)).2 (by unfold AreReadable; decide)
  obtain ⟨c, c', found, hc, hc', hrule, hrule', hfound⟩ :=
    compile_edited ht ht' (rfl : o.revision = o.revision) hr (hs.trans hs'.symm)
  -- the first cardinality has no rule, so the rule is that of the second one
  obtain ⟨x, rfl⟩ : ∃ x, found = some x := by
    obtain ⟨x, hx⟩ : ∃ x, Synthesis.rule? o.revision r = .ok (some x) := ⟨_, rfl⟩
    exact ⟨x, (hfound x).2 ⟨.exactlyOne, by rw [hs]; rfl, hx⟩⟩
  exact ⟨hr, hs, hs', t, t', c, c', x, ht, ht', hc, hc', hrule, hrule'⟩

end RelationTable

end NestingRules
