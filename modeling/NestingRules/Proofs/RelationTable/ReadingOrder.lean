import NestingRules.Proofs.RelationTable.Rows

/-!
# Tables in reading order

Rows are read from the top down and cells from left to right, so the relations of a table are found
in reading order, whatever rows are ignored and whatever cells are blank
(`RelationTable.Draft.pairwise_found`).  Their layout keys ascend strictly, and putting them into
layout order changes nothing (`RelationTable.layoutKey_rowMajor`).
-/

namespace NestingRules

namespace RelationTable

variable {header : List String} {rows : List (List String)} {s : Delimited.Stream} {d : Draft}
  {t : RelationTable}

theorem exists_read_of_ofRecords_eq_ok (h : (ofRecords s).2 = .ok t) :
    ∃ d, (Draft.read {} s).2 = .ok d := by
  rw [ofRecords_snd] at h
  cases hd : (Draft.read {} s).2 with
  | error e =>
    rw [hd] at h
    cases h
  | ok d => exact ⟨d, rfl⟩

namespace Draft

/-- The relations in the order in which they were found. -/
def found (d : Draft) : List Relation := d.relations.reverse.flatten

theorem read_cons_none_snd (hc : corner header = "") :
    (read {} ⟨header :: rows, none⟩).2 =
      (addAll { children := some (childrenOf header) } rows).2 := by
  have hadd : (add {} header).2 = .ok { children := some (childrenOf header) } := by
    simp [add, hc]
  rw [read_snd, addAll_cons_snd, hadd]
  change ((addAll _ rows).2.bind .ok) = _
  cases (addAll { children := some (childrenOf header) } rows).2 <;> rfl

/-- What is found in records are the relations that they hold. -/
theorem found_of_read (h : (read {} s).2 = .ok d) : d.found = relationsOf s.records := by
  have ht : (ofRecords s).2 = .ok d.table := by
    rw [ofRecords_snd, h]
    rfl
  obtain ⟨rfl, -⟩ | ⟨header, rows, rfl, hc, hreadable, -⟩ := ofRecords_eq_ok_iff.1 ht
  · cases h
    rfl
  · obtain ⟨d', hok, -, hfound, -⟩ :=
      addAll_rows (d := { children := some (childrenOf header) }) rfl hreadable
    rw [read_cons_none_snd hc, hok] at h
    cases h
    exact hfound

theorem pairwise_found (h : (read {} s).2 = .ok d) : d.found.Pairwise Relation.Precedes := by
  rw [found_of_read h]
  cases s.records with
  | nil => exact .nil
  | cons header rows => exact pairwise_relationsOfRows pairwise_rowsFrom

end Draft

/-- **The layout key orders cells as they are read**, by row and then by column.  Hence putting the
relations of a table into layout order leaves them where they were found, with ascending keys. -/
theorem layoutKey_rowMajor :
    (∀ (m : Nat) (a b : Relation), a.col ≤ m → b.col ≤ m →
      (a.layoutKey m < b.layoutKey m ↔ a.row < b.row ∨ a.row = b.row ∧ a.col < b.col) ∧
      (a.layoutKey m = b.layoutKey m ↔ a.row = b.row ∧ a.col = b.col)) ∧
    ∀ (s : Delimited.Stream) (t : RelationTable), (ofRecords s).2 = .ok t →
      ∃ d, (Draft.read {} s).2 = .ok d ∧
        t.relations = inLayoutOrder d.found ∧ t.relations = d.found ∧
        t.relations.Pairwise fun a b =>
          a.layoutKey (maxCol t.relations) < b.layoutKey (maxCol t.relations) := by
  refine ⟨fun m a b ha hb => ?_, fun s t ht => ?_⟩
  · exact ⟨Relation.layoutKey_lt_iff ha hb, Relation.layoutKey_eq_iff ha hb⟩
  · obtain ⟨d, hd⟩ := exists_read_of_ofRecords_eq_ok ht
    have horder := Draft.pairwise_found hd
    have hrelations : t.relations = d.found := by
      rw [relations_of_ofRecords_eq_ok ht, Draft.found_of_read hd]
    refine ⟨d, hd, ?_, hrelations, ?_⟩
    · rw [hrelations, inLayoutOrder_eq_self horder]
    · rw [hrelations]
      exact pairwise_layoutKey horder

/-- The last cell of a row comes before the first one of a later row, whatever is ignored between
them. -/
theorem layoutKey_rowMajor_ragged :
    let a : Relation := ⟨⟨"L"⟩, ⟨"Span"⟩, .exactlyOne, 1, 2⟩
    let b : Relation := ⟨⟨"TR"⟩, ⟨"P"⟩, .forbidden, 3, 1⟩
    let s : Delimited.Stream :=
      ⟨[["", "P", "Span"], ["L", "", "1"], ["TH"], ["TR", "∅", ""]], none⟩
    (a.col ≤ 2 ∧ b.col ≤ 2 ∧ a.layoutKey 2 < b.layoutKey 2 ∧ a.layoutKey 2 ≠ b.layoutKey 2) ∧
    ∃ t d, (ofRecords s).2 = .ok t ∧ (Draft.read {} s).2 = .ok d ∧ t.relations = d.found ∧
      t.relations.Pairwise fun a b =>
        a.layoutKey (maxCol t.relations) < b.layoutKey (maxCol t.relations) := by
  intro a b s
  obtain ⟨hkeys, htables⟩ := layoutKey_rowMajor
  have ha : a.col ≤ 2 := by decide
  have hb : b.col ≤ 2 := by decide
  obtain ⟨hlt, heq⟩ := hkeys 2 a b ha hb
  obtain ⟨t, ht⟩ : ∃ t, (ofRecords s).2 = .ok t :=
    (ofRecords_isOk_iff (by decide)).2 (by unfold AreReadable; decide)
  obtain ⟨d, hd, -, hfound, hascending⟩ := htables s t ht
  exact ⟨⟨ha, hb, hlt.2 (by decide), mt heq.1 (by decide)⟩, t, d, ht, hd, hfound, hascending⟩

end RelationTable

end NestingRules
