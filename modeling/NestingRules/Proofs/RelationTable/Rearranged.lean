import NestingRules.Proofs.Generation.Order
import NestingRules.Proofs.RelationTable.Rows
import Mathlib.Data.List.FinRange
import Mathlib.Data.List.GetD

/-!
# The layout of a table does not matter

In a sheet (`IsSheet`) the corner is empty, the children are distinct, and every row has the width
of the header and a parent of its own.  Putting its rows into another order and its columns into
another order, alike in the header and in all rows, gives a sheet again (`IsSheet.rearrange`) whose
relations have the same identities (`IsSheet.identities_perm`).  Hence the rearranged sheet can be
read iff the sheet can, and both compile to the same profile with the same report
(`compile_rearranged`).
-/

namespace NestingRules

namespace RelationTable

variable {n : Nat} {header record : List String} {rows rows' : List (List String)}

/-- A record with its columns, the first one apart, in the order of a permutation. -/
def rearranged (σ : Equiv.Perm (Fin n)) (record : List String) : List String :=
  record.headD "" :: (List.finRange n).map fun i => record.tail.getD (σ i) ""

/-- Header and rows of a table with `n` children, all of them distinct, and one row for each of its
parents. -/
structure IsSheet (n : Nat) (header : List String) (rows : List (List String)) : Prop where
  corner_eq : corner header = ""
  width : header.length = n + 1
  children_nodup : (childrenOf header).Nodup
  row_width : ∀ record ∈ rows, record.length = n + 1
  parent_ne : ∀ record ∈ rows, record.headD "" ≠ ""
  parents_nodup : (rows.map fun record => record.headD "").Nodup

/-! ### Columns -/

theorem map_getD_finRange {xs : List String} (h : xs.length = n) :
    ((List.finRange n).map fun i : Fin n => xs.getD i "") = xs := by
  refine List.ext_getElem (by simp [h]) fun i hi hx => ?_
  rw [List.getElem_map, List.getElem_finRange]
  exact List.getD_eq_getElem _ _ hx

/-- Two lists whose elements are put into the same order stay side by side. -/
theorem zip_map_perm {α β : Type} (σ : Equiv.Perm (Fin n)) {xs ys : List String} (f : String → α)
    (g : String → β) (hx : xs.length = n) (hy : ys.length = n) :
    (((List.finRange n).map fun i => f (xs.getD (σ i) "")).zip
      ((List.finRange n).map fun i => g (ys.getD (σ i) ""))).Perm ((xs.map f).zip (ys.map g)) := by
  have hxs : xs.map f = (List.finRange n).map fun i : Fin n => f (xs.getD i "") := by
    conv_lhs => rw [← map_getD_finRange hx, List.map_map]
    rfl
  have hys : ys.map g = (List.finRange n).map fun i : Fin n => g (ys.getD i "") := by
    conv_lhs => rw [← map_getD_finRange hy, List.map_map]
    rfl
  rw [hxs, hys, List.zip_map', List.zip_map']
  have h := σ.map_finRange_perm.map fun i : Fin n => (f (xs.getD i ""), g (ys.getD i ""))
  rwa [List.map_map] at h

theorem tail_rearranged_perm (σ : Equiv.Perm (Fin n)) (h : record.length = n + 1) :
    (rearranged σ record).tail.Perm record.tail := by
  have hl : record.tail.length = n := by rw [List.length_tail, h]; rfl
  have hp := σ.map_finRange_perm.map fun i : Fin n => record.tail.getD i ""
  rwa [List.map_map, map_getD_finRange hl] at hp

theorem length_rearranged (σ : Equiv.Perm (Fin n)) : (rearranged σ record).length = n + 1 := by
  simp [rearranged]

theorem childrenOf_rearranged_perm (σ : Equiv.Perm (Fin n)) (h : header.length = n + 1) :
    (childrenOf (rearranged σ header)).Perm (childrenOf header) :=
  (tail_rearranged_perm σ h).map _

/-! ### Identities -/

theorem identitiesOfRow_rearranged (σ : Equiv.Perm (Fin n)) (hh : header.length = n + 1)
    (hr : record.length = n + 1) :
    (identitiesOfRow (childrenOf (rearranged σ header)) (rearranged σ record)).Perm
      (identitiesOfRow (childrenOf header) record) := by
  have hhl : header.tail.length = n := by rw [List.length_tail, hh]; rfl
  have hrl : record.tail.length = n := by rw [List.length_tail, hr]; rfl
  have hz : ((childrenOf (rearranged σ header)).zip (rowOf (rearranged σ record)).2).Perm
      ((childrenOf header).zip (rowOf record).2) := by
    have h := zip_map_perm σ (fun s => (⟨String.ofList (dropMarks s)⟩ : TypeName)) cardinality?
      hhl hrl
    simpa only [childrenOf, rowOf, rearranged, List.tail_cons, List.map_map, Function.comp_def]
      using h
  exact hz.filterMap _

/-! ### Sheets -/

namespace IsSheet

theorem length_childrenOf (h : IsSheet n header rows) : (childrenOf header).length = n := by
  rw [RelationTable.length_childrenOf, List.length_tail, h.width]
  rfl

theorem isIgnored_eq_false (h : IsSheet n header rows) :
    ∀ record ∈ rows, isIgnored ((childrenOf header).length + 1) record = false := by
  intro record hr
  rw [h.length_childrenOf, isIgnored, h.row_width record hr, Bool.or_eq_false_iff]
  exact ⟨bne_self_eq_false _, String.isEmpty_eq_false_iff.2 (h.parent_ne record hr)⟩

theorem rearrange (h : IsSheet n header rows) (σ : Equiv.Perm (Fin n)) (hp : rows'.Perm rows) :
    IsSheet n (rearranged σ header) (rows'.map (rearranged σ)) where
  corner_eq := h.corner_eq
  width := length_rearranged σ
  children_nodup := (childrenOf_rearranged_perm σ h.width).nodup_iff.2 h.children_nodup
  row_width record hr := by
    obtain ⟨record, -, rfl⟩ := List.mem_map.1 hr
    exact length_rearranged σ
  parent_ne record hr := by
    obtain ⟨record, hmem, rfl⟩ := List.mem_map.1 hr
    exact h.parent_ne record (hp.mem_iff.1 hmem)
  parents_nodup := by
    rw [List.map_map]
    exact (hp.map _).nodup_iff.2 h.parents_nodup

theorem areReadable_iff (h : IsSheet n header rows) :
    AreReadable ((childrenOf header).length + 1) rows ↔
      ∀ record ∈ rows, ∀ cell ∈ record.tail, isReadable cell = true :=
  forall₂_congr fun record hr => ⟨fun hc => hc (h.isIgnored_eq_false record hr), fun hc _ => hc⟩

theorem areReadable_rearranged_iff (h : IsSheet n header rows) (σ : Equiv.Perm (Fin n))
    (hp : rows'.Perm rows) :
    AreReadable ((childrenOf (rearranged σ header)).length + 1) (rows'.map (rearranged σ)) ↔
      AreReadable ((childrenOf header).length + 1) rows := by
  rw [h.areReadable_iff, (h.rearrange σ hp).areReadable_iff, List.forall_mem_map]
  constructor
  · intro hc record hr cell hcell
    have hcell := (tail_rearranged_perm σ (h.row_width record hr)).mem_iff.2 hcell
    exact hc record (hp.mem_iff.2 hr) cell hcell
  · intro hc record hr cell hcell
    have hr := hp.mem_iff.1 hr
    exact hc record hr cell ((tail_rearranged_perm σ (h.row_width record hr)).mem_iff.1 hcell)

theorem map_identity (h : IsSheet n header rows) :
    (relationsOfRows (childrenOf header) (rowsFrom ((childrenOf header).length + 1) 1 rows)).map
      (·.identity) = rows.flatMap (identitiesOfRow (childrenOf header)) := by
  have hrows : rows.filter (fun record => !isIgnored ((childrenOf header).length + 1) record) =
      rows := by
    refine List.filter_eq_self.2 fun record hr => ?_
    rw [h.isIgnored_eq_false record hr]
    rfl
  rw [map_identity_relationsOfRows, hrows]

theorem identities_perm (h : IsSheet n header rows) (σ : Equiv.Perm (Fin n))
    (hp : rows'.Perm rows) :
    ((rows'.map (rearranged σ)).flatMap (identitiesOfRow (childrenOf (rearranged σ header)))).Perm
      (rows.flatMap (identitiesOfRow (childrenOf header))) := by
  rw [List.flatMap_map]
  refine hp.flatMap fun record hr => ?_
  exact identitiesOfRow_rearranged σ h.width (h.row_width record (hp.mem_iff.1 hr))

theorem nodup_pairs (h : IsSheet n header rows) :
    ((rows.flatMap (identitiesOfRow (childrenOf header))).map
      fun i => (i.parent, i.child)).Nodup := by
  have hparent : ∀ record, ∀ i ∈ identitiesOfRow (childrenOf header) record,
      i.parent.text = record.headD "" := by
    intro record i hi
    obtain ⟨p, -, hp⟩ := List.mem_filterMap.1 hi
    obtain ⟨c, -, rfl⟩ := Option.map_eq_some_iff.1 hp
    rfl
  rw [List.Nodup, List.pairwise_map, List.pairwise_flatMap]
  -- inside a row the children differ, between two rows the parents do
  constructor
  · intro record hr
    have hl : (childrenOf header).length ≤ (rowOf record).2.length := by
      rw [h.length_childrenOf, rowOf, List.length_map, List.length_tail, h.row_width record hr]
      exact Nat.le_refl _
    have hz : ((childrenOf header).zip (rowOf record).2).Pairwise fun p q => p.1 ≠ q.1 := by
      rw [← List.pairwise_map, List.map_fst_zip hl]
      exact h.children_nodup
    refine List.pairwise_filterMap.2 (hz.imp fun {p q} hpq i hi j hj hij => ?_)
    obtain ⟨c, -, rfl⟩ := Option.map_eq_some_iff.1 hi
    obtain ⟨d, -, rfl⟩ := Option.map_eq_some_iff.1 hj
    exact hpq (Prod.mk.inj hij).2
  · refine (List.pairwise_map.1 h.parents_nodup).imp fun {r s} hrs i hi j hj hij => hrs ?_
    rw [← hparent r i hi, ← hparent s j hj, (Prod.mk.inj hij).1]

end IsSheet

/-- **The layout of a table does not matter.**  A sheet with its rows and its columns in another
order can be read iff the sheet can, and then both compile to the same rules with the same
fingerprint and the same report. -/
theorem compile_rearranged (h : IsSheet n header rows) (σ : Equiv.Perm (Fin n))
    (hp : rows'.Perm rows) (o : CompileOptions) :
    ((∃ t, (ofRecords ⟨rearranged σ header :: rows'.map (rearranged σ), none⟩).2 = .ok t) ↔
      ∃ t, (ofRecords ⟨header :: rows, none⟩).2 = .ok t) ∧
    ∀ t t', (ofRecords ⟨header :: rows, none⟩).2 = .ok t →
      (ofRecords ⟨rearranged σ header :: rows'.map (rearranged σ), none⟩).2 = .ok t' →
      ∃ c c', compile o t.relations = .ok c ∧ compile o t'.relations = .ok c' ∧
        c.profile.rules = c'.profile.rules ∧ c.profile.hash = c'.profile.hash ∧
        c.report = c'.report := by
  have h' := h.rearrange σ hp
  refine ⟨?_, fun t t' ht ht' => ?_⟩
  · rw [ofRecords_isOk_iff h.corner_eq, ofRecords_isOk_iff h'.corner_eq,
      h.areReadable_rearranged_iff σ hp]
  · rw [ofRecords_eq_ok h.corner_eq ((ofRecords_isOk_iff h.corner_eq).1 ⟨t, ht⟩)] at ht
    rw [ofRecords_eq_ok h'.corner_eq ((ofRecords_isOk_iff h'.corner_eq).1 ⟨t', ht'⟩)] at ht'
    cases ht
    cases ht'
    have hid := h.identities_perm σ hp
    rw [← h.map_identity, ← h'.map_identity] at hid
    have hn := h.nodup_pairs
    rw [← h.map_identity, List.map_map] at hn
    obtain ⟨c, c', hc, hc', hprofile, hreport⟩ := compile_eq_of_perm o hid.symm hn
    exact ⟨c, c', hc, hc', by rw [hprofile], by rw [hprofile], hreport⟩

theorem compile_rearranged_swap :
    IsSheet 2 ["", "P", "Span"] [["L", "∅", "1"], ["TR", "", "0..1"]] ∧
    [["TR", "", "0..1"], ["L", "∅", "1"]].Perm [["L", "∅", "1"], ["TR", "", "0..1"]] ∧
    ∃ t t' c c',
      (ofRecords ⟨[["", "P", "Span"], ["L", "∅", "1"], ["TR", "", "0..1"]], none⟩).2 = .ok t ∧
      (ofRecords ⟨[["", "Span", "P"], ["TR", "0..1", ""], ["L", "1", "∅"]], none⟩).2 = .ok t' ∧
      compile { created := .epoch } t.relations = .ok c ∧
      compile { created := .epoch } t'.relations = .ok c' ∧
      c.profile.rules = c'.profile.rules ∧ c.profile.hash = c'.profile.hash ∧
      c.report = c'.report := by
  have h : IsSheet 2 ["", "P", "Span"] [["L", "∅", "1"], ["TR", "", "0..1"]] :=
    ⟨by decide, by decide, by decide, by decide, by decide, by decide⟩
  have hp : [["TR", "", "0..1"], ["L", "∅", "1"]].Perm [["L", "∅", "1"], ["TR", "", "0..1"]] := by
    decide
  obtain ⟨hiff, hsame⟩ := compile_rearranged h (Equiv.swap 0 1) hp { created := .epoch }
  obtain ⟨t, ht⟩ := (ofRecords_isOk_iff h.corner_eq).2 (h.areReadable_iff.2 (by decide))
  obtain ⟨t', ht'⟩ := hiff.2 ⟨t, ht⟩
  obtain ⟨c, c', hc⟩ := hsame t t' ht ht'
  exact ⟨h, hp, t, t', c, c', ht, ht', hc⟩

end RelationTable

end NestingRules
