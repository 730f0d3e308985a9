import NestingRules.Proofs.RelationTable.Rows
import Mathlib.Data.List.Induction
import Mathlib.Data.Set.Card

/-!
# The parents of a table

The parents of a table are those of its relations, each once and in the order in which they are
first met (`RelationTable.listsParents_parents`).  In a table that was read they are the names in
front of the rows that have a filled cell (`RelationTable.mem_parents_iff`): a row that is ignored or
blank adds no parent, and a name that stands in front of several rows is one parent.
-/

namespace NestingRules

section EraseDups

variable {α : Type} [BEq α] [LawfulBEq α] {xs : List α}

/-- What is left of a list without repeats stands in the order of first places. -/
theorem pairwise_eraseDups : xs.eraseDups.Pairwise fun x y => xs.idxOf x < xs.idxOf y := by
  -- the last element is new or adds nothing, so the induction is from the right
  induction xs using List.reverseRecOn with
  | nil => exact .nil
  | append_singleton xs x ih =>
    have hidx : ∀ y ∈ xs.eraseDups, (xs ++ [x]).idxOf y = xs.idxOf y := fun y hy =>
      List.idxOf_append_of_mem (List.mem_eraseDups.1 hy)
    have hfront : xs.eraseDups.Pairwise fun y z => (xs ++ [x]).idxOf y < (xs ++ [x]).idxOf z :=
      ih.imp_of_mem fun hy hz hlt => by rwa [hidx _ hy, hidx _ hz]
    rw [List.eraseDups_append]
    by_cases hx : x ∈ xs
    · have hnone : [x].removeAll xs = [] := by simp [List.removeAll, hx]
      rwa [hnone, List.eraseDups_nil, List.append_nil]
    · have hone : ([x].removeAll xs).eraseDups = [x] := by
        simp [List.removeAll, hx, List.eraseDups_cons]
      rw [hone]
      refine List.pairwise_append.2 ⟨hfront, List.pairwise_singleton _ _, fun y hy z hz => ?_⟩
      rw [List.mem_singleton.1 hz, hidx y hy, List.idxOf_append_of_notMem hx]
      exact Nat.lt_add_right _ (List.idxOf_lt_length_of_mem (List.mem_eraseDups.1 hy))

theorem nodup_eraseDups : xs.eraseDups.Nodup :=
  pairwise_eraseDups.imp fun {_ _} hlt heq => Nat.ne_of_lt hlt (congrArg (xs.idxOf ·) heq)

end EraseDups

namespace RelationTable

variable {header record : List String} {rows : List (List String)} {children : List TypeName}
  {s : Delimited.Stream} {t : RelationTable} {p : TypeName} {cell : String}

/-! ### Parents of relations -/

/-- The names are the parents of the relations, each once and in the order of the first relations
that have them. -/
structure ListsParents (relations : List Relation) (names : List TypeName) : Prop where
  nodup : names.Nodup
  mem_iff : ∀ p, p ∈ names ↔ ∃ r ∈ relations, r.parent = p
  ordered : names.Pairwise fun p q =>
    relations.findIdx (·.parent == p) < relations.findIdx (·.parent == q)

theorem listsParents_parents (t : RelationTable) : ListsParents t.relations t.parents where
  nodup := nodup_eraseDups
  mem_iff p := by rw [parents, List.mem_eraseDups, List.mem_map]
  ordered := by
    have hidx : ∀ p, (t.relations.map (·.parent)).idxOf p =
        t.relations.findIdx (·.parent == p) := fun p => List.findIdx_map ..
    have hpairwise : (t.relations.map (·.parent)).eraseDups.Pairwise _ := pairwise_eraseDups
    simp only [hidx] at hpairwise
    exact hpairwise

/-! ### Parents in records -/

/-- The record is a row of the parent with a filled cell: it has the width of a row, the name of the
parent stands in front, and one of the cells behind it is not blank. -/
def IsFilledRowOf (width : Nat) (p : TypeName) (record : List String) : Prop :=
  record.length = width ∧ record.headD "" = p.text ∧ p.text ≠ "" ∧ ∃ cell ∈ record.tail, cell ≠ ""

/-- Below the header, and with its width, there is a row of the parent with a filled cell. -/
def NamesParent (records : List (List String)) (p : TypeName) : Prop :=
  ∃ record ∈ records.tail, IsFilledRowOf (records.headD []).length p record

theorem exists_cardinality?_eq_some_iff (h : isReadable cell = true) :
    (∃ c, cardinality? cell = some c) ↔ cell ≠ "" := by
  rw [cardinality?]
  split_ifs with he
  · simp [String.isEmpty_iff.1 he]
  · rw [isReadable, Bool.or_eq_true, or_iff_right he] at h
    have hne : cell ≠ "" := mt String.isEmpty_iff.2 he
    cases hc : Cardinality.parse cell with
    | error e =>
      rw [hc] at h
      cases h
    | ok c => exact iff_of_true ⟨c, rfl⟩ hne

/-- A row has relations of its own parent only, and it has one iff a cell is filled. -/
theorem exists_mem_identitiesOfRow_iff (hwidth : record.length = children.length + 1)
    (hread : ∀ cell ∈ record.tail, isReadable cell = true) :
    (∃ i ∈ identitiesOfRow children record, i.parent = p) ↔
      record.headD "" = p.text ∧ ∃ cell ∈ record.tail, cell ≠ "" := by
  have hcells : (children.zip (rowOf record).2).map Prod.snd = record.tail.map cardinality? := by
    refine List.map_snd_zip ?_
    rw [rowOf, List.length_map, List.length_tail, hwidth]
    exact Nat.le_refl _
  constructor
  · rintro ⟨i, hi, rfl⟩
    obtain ⟨q, hq, hi⟩ := List.mem_filterMap.1 hi
    obtain ⟨c, hc, rfl⟩ := Option.map_eq_some_iff.1 hi
    have hmem : q.2 ∈ record.tail.map cardinality? := hcells ▸ List.mem_map_of_mem hq
    obtain ⟨cell, hcell, hq⟩ := List.mem_map.1 hmem
    exact ⟨rfl, cell, hcell, (exists_cardinality?_eq_some_iff (hread cell hcell)).1
      ⟨c, hq.trans hc⟩⟩
  · rintro ⟨hp, cell, hcell, hne⟩
    obtain ⟨c, hc⟩ := (exists_cardinality?_eq_some_iff (hread cell hcell)).2 hne
    have hmem : some c ∈ (children.zip (rowOf record).2).map Prod.snd := by
      rw [hcells, ← hc]
      exact List.mem_map_of_mem hcell
    obtain ⟨q, hq, hqc⟩ := List.mem_map.1 hmem
    refine ⟨⟨⟨record.headD ""⟩, q.1, c⟩, List.mem_filterMap.2 ⟨q, hq, ?_⟩, congrArg _ hp⟩
    rw [hqc]
    rfl

/-- A record with a filled cell has the width of the rows iff it has that of the header. -/
theorem length_eq_width_iff (h : cell ∈ record.tail) :
    record.length = (childrenOf header).length + 1 ↔ record.length = header.length := by
  have hpos := List.length_pos_of_mem h
  rw [List.length_tail] at hpos
  rw [length_childrenOf, List.length_tail]
  omega

/-- The filled rows of a parent are the records with a relation of it that are not ignored. -/
theorem isFilledRowOf_iff (hread : isIgnored ((childrenOf header).length + 1) record = false →
      ∀ cell ∈ record.tail, isReadable cell = true) :
    IsFilledRowOf header.length p record ↔
      isIgnored ((childrenOf header).length + 1) record = false ∧
        ∃ i ∈ identitiesOfRow (childrenOf header) record, i.parent = p := by
  constructor
  · rintro ⟨hlength, hp, hne, cell, hcell, hfilled⟩
    have hwidth := (length_eq_width_iff hcell).2 hlength
    have hkept := isIgnored_eq_false_iff.2 ⟨hwidth, hp ▸ hne⟩
    exact ⟨hkept, (exists_mem_identitiesOfRow_iff hwidth (hread hkept)).2
      ⟨hp, cell, hcell, hfilled⟩⟩
  · rintro ⟨hkept, hi⟩
    obtain ⟨hwidth, hne⟩ := isIgnored_eq_false_iff.1 hkept
    obtain ⟨hp, cell, hcell, hfilled⟩ :=
      (exists_mem_identitiesOfRow_iff hwidth (hread hkept)).1 hi
    exact ⟨(length_eq_width_iff hcell).1 hwidth, hp, hp ▸ hne, cell, hcell, hfilled⟩

theorem mem_parents_iff (h : (ofRecords s).2 = .ok t) :
    p ∈ t.parents ↔ NamesParent s.records p := by
  have hparents : (∃ r ∈ t.relations, r.parent = p) ↔
      ∃ i ∈ t.relations.map (·.identity), i.parent = p := by
    simp [Relation.identity]
  rw [(listsParents_parents t).mem_iff, hparents, relations_of_ofRecords_eq_ok h]
  obtain ⟨rfl, -⟩ | ⟨header, rows, rfl, -, hread, -⟩ := ofRecords_eq_ok_iff.1 h
  · simp [relationsOf, NamesParent]
  · rw [relationsOf, map_identity_relationsOfRows]
    constructor
    · rintro ⟨i, hi, hp⟩
      obtain ⟨record, hrecord, hi⟩ := List.mem_flatMap.1 hi
      obtain ⟨hmem, hkept⟩ := List.mem_filter.1 hrecord
      rw [Bool.not_eq_true'] at hkept
      exact ⟨record, hmem, (isFilledRowOf_iff (hread record hmem)).2 ⟨hkept, i, hi, hp⟩⟩
    · rintro ⟨record, hmem, hfilled⟩
      obtain ⟨hkept, i, hi, hp⟩ := (isFilledRowOf_iff (hread record hmem)).1 hfilled
      have hrecord : record ∈ rows.filter fun record =>
          !isIgnored ((childrenOf header).length + 1) record :=
        List.mem_filter.2 ⟨hmem, by rw [hkept]; rfl⟩
      exact ⟨i, List.mem_flatMap.2 ⟨record, hrecord, hi⟩, hp⟩

theorem encard_namesParent (h : (ofRecords s).2 = .ok t) :
    {p | NamesParent s.records p}.encard = t.parents.length := by
  have hset : {p | NamesParent s.records p} = ↑t.parents.toFinset := by
    ext p
    rw [Set.mem_ofPred_eq, List.coe_toFinset, Set.mem_ofPred_eq, mem_parents_iff h]
  rw [hset, Set.encard_coe_eq_coe_finsetCard,
    List.toFinset_card_of_nodup (listsParents_parents t).nodup]

end RelationTable

end NestingRules
