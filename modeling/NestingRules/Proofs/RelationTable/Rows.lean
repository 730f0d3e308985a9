import NestingRules.Proofs.RelationTable.Layout
import Mathlib.Data.List.Basic

/-!
# What the rows of a table hold

A row is a parent with a cell for each child, and a cell holds a cardinality or nothing
(`RelationTable.Row`).  `relationsOfRows` lists the relations of numbered rows in reading order, and
`rowsFrom` takes the rows out of records: ignored records give none, but they count.  Reading
records succeeds iff every cell of a row that is not ignored is blank or a symbol, and then the
table holds the relations of the rows (`ofRecords_isOk_iff`, `ofRecords_eq_ok`), whose identities
do not depend on where the rows stand (`map_identity_relationsOfRows`).  There is no other way to
read a table (`ofRecords_eq_ok_iff`).
-/

namespace NestingRules

namespace RelationTable

/-- A parent and, for each child, the cardinality in its cell if there is one. -/
abbrev Row := TypeName × List (Option Cardinality)

/-- The relations of a row in the columns from `column` on. -/
def relationsInRow (row : Nat) (parent : TypeName) (column : Nat) (children : List TypeName)
    (cells : List (Option Cardinality)) : List Relation :=
  ((children.zip cells).zipIdx column).filterMap fun p =>
    p.1.2.map fun c => ⟨parent, p.1.1, c, row, p.2⟩

/-- The relations of numbered rows, row by row. -/
def relationsOfRows (children : List TypeName) (rows : List (Row × Nat)) : List Relation :=
  rows.flatMap fun r => relationsInRow r.2 r.1.1 1 children r.1.2

/-- The cell is blank or holds a symbol. -/
def isReadable (cell : String) : Bool := cell.isEmpty || (Cardinality.parse cell).isOk

/-- The cardinality in a cell; none if the cell is blank. -/
def cardinality? (cell : String) : Option Cardinality :=
  if cell.isEmpty then none else (Cardinality.parse cell).toOption

/-- The row that a record writes. -/
def rowOf (record : List String) : Row := (⟨record.headD ""⟩, record.tail.map cardinality?)

/-- The rows of records, numbered from `row` on, without the ignored ones. -/
def rowsFrom (width : Nat) (row : Nat) (records : List (List String)) : List (Row × Nat) :=
  ((records.zipIdx row).filter fun r => !isIgnored width r.1).map fun r => (rowOf r.1, r.2)

/-- Every record is ignored or has readable cells only. -/
def AreReadable (width : Nat) (records : List (List String)) : Prop :=
  ∀ record ∈ records, isIgnored width record = false → ∀ cell ∈ record.tail, isReadable cell = true

variable {children : List TypeName} {cells : List String} {record : List String}
  {records : List (List String)} {rs : List Relation} {row column width : Nat} {parent : String}

/-! ### Cells -/

theorem relationsInRow_cons (row : Nat) (parent : TypeName) (column : Nat) (child : TypeName)
    (children : List TypeName) (cell : Option Cardinality) (cells : List (Option Cardinality)) :
    relationsInRow row parent column (child :: children) (cell :: cells) =
      (cell.map fun c => ⟨parent, child, c, row, column⟩).toList ++
        relationsInRow row parent (column + 1) children cells := by
  rw [relationsInRow, List.zip_cons_cons, List.zipIdx_cons, List.filterMap_cons]
  cases cell <;> rfl

theorem cellsFrom_eq_ok (h : ∀ cell ∈ cells, isReadable cell = true) :
    cellsFrom row parent column children cells =
      .ok (relationsInRow row ⟨parent⟩ column children (cells.map cardinality?)) := by
  induction cells generalizing children column with
  | nil => cases children <;> rfl
  | cons cell cells ih =>
    obtain ⟨hcell, hcells⟩ := List.forall_mem_cons.1 h
    cases children with
    | nil => rfl
    | cons child children =>
      rw [cellsFrom, List.map_cons, relationsInRow_cons]
      cases he : cell.isEmpty with
      | true =>
        rw [if_pos rfl, ih hcells, cardinality?, he, if_pos rfl]
        rfl
      | false =>
        rw [isReadable, he, Bool.false_or] at hcell
        rw [cardinality?, he]
        cases hc : Cardinality.parse cell with
        | error e =>
          rw [hc] at hcell
          cases hcell
        | ok c =>
          simp only [Bool.false_eq_true, ↓reduceIte, ih hcells]
          rfl

theorem isReadable_of_cellsFrom_eq_ok (hl : cells.length ≤ children.length)
    (h : cellsFrom row parent column children cells = .ok rs) :
    ∀ cell ∈ cells, isReadable cell = true := by
  induction cells generalizing children column rs with
  | nil => intro cell hc; cases hc
  | cons cell cells ih =>
    cases children with
    | nil => exact absurd hl (by simp)
    | cons child children =>
      have hl : cells.length ≤ children.length := Nat.le_of_succ_le_succ hl
      rw [cellsFrom] at h
      refine List.forall_mem_cons.2 ?_
      cases he : cell.isEmpty with
      | true =>
        rw [he, if_pos rfl] at h
        exact ⟨by rw [isReadable, he, Bool.true_or], ih hl h⟩
      | false =>
        rw [he, if_neg Bool.false_ne_true] at h
        cases hc : Cardinality.parse cell with
        | error e =>
          rw [hc] at h
          cases h
        | ok c =>
          rw [hc] at h
          refine ⟨by rw [isReadable, hc]; exact Bool.or_true _, ?_⟩
          cases hr : cellsFrom row parent (column + 1) children cells with
          | error e =>
            rw [hr] at h
            cases h
          | ok rs' => exact ih hl hr

/-! ### Records -/

theorem isIgnored_eq_false_iff :
    isIgnored width record = false ↔ record.length = width ∧ record.headD "" ≠ "" := by
  simp [isIgnored]

theorem relationsOfRows_cons (children : List TypeName) (r : Row × Nat) (rows : List (Row × Nat)) :
    relationsOfRows children (r :: rows) =
      relationsInRow r.2 r.1.1 1 children r.1.2 ++ relationsOfRows children rows :=
  List.flatMap_cons

theorem rowsFrom_cons : rowsFrom width row (record :: records) =
    (if isIgnored width record then [] else [(rowOf record, row)]) ++
      rowsFrom width (row + 1) records := by
  rw [rowsFrom, rowsFrom, List.zipIdx_cons, List.filter_cons]
  cases isIgnored width record <;> rfl

namespace Draft

variable {d d' : Draft}

theorem add_row_of_isIgnored (hd : d.children = some children)
    (h : isIgnored (children.length + 1) record = true) :
    (d.add record).2 =
      .ok { d with rows := d.rows + 1, ignoredRows := d.ignoredRows + 1 } := by
  simp only [add, hd, h, ↓reduceIte]

theorem add_row (hd : d.children = some children)
    (h : isIgnored (children.length + 1) record = false) :
    (d.add record).2 = (cellsFrom (d.rows + 1) (record.headD "") 1 children record.tail).map
      fun rs => { d with rows := d.rows + 1, relations := rs :: d.relations } := by
  simp only [add, hd, h, Bool.false_eq_true, ↓reduceIte]

theorem addAll_cons_snd (d : Draft) (record : List String) (records : List (List String)) :
    (d.addAll (record :: records)).2 = (d.add record).2.bind fun d => (d.addAll records).2 := by
  rw [addAll]
  obtain ⟨events, result⟩ := d.add record
  cases result <;> rfl

theorem addAll_append_snd (d : Draft) (records after : List (List String)) :
    (d.addAll (records ++ after)).2 =
      (d.addAll records).2.bind fun d => (d.addAll after).2 := by
  induction records generalizing d with
  | nil => rfl
  | cons record records ih =>
    rw [List.cons_append, addAll_cons_snd, addAll_cons_snd]
    cases (d.add record).2 with
    | error e => rfl
    | ok d => exact ih d

theorem read_snd (d : Draft) (s : Delimited.Stream) : (d.read s).2 =
    (d.addAll s.records).2.bind fun d =>
      match s.failure with
      | none => .ok d
      | some f => .error (.unread f) := by
  rw [read]
  obtain ⟨events, result⟩ := d.addAll s.records
  cases result <;> rfl

/-- Reading rows whose cells are readable adds their relations and counts the ignored ones. -/
theorem addAll_rows (hd : d.children = some children)
    (h : AreReadable (children.length + 1) records) :
    ∃ d', (d.addAll records).2 = .ok d' ∧ d'.children = some children ∧
      d'.relations.reverse.flatten = d.relations.reverse.flatten ++
        relationsOfRows children (rowsFrom (children.length + 1) (d.rows + 1) records) ∧
      d'.ignoredRows = d.ignoredRows + records.countP (isIgnored (children.length + 1)) := by
  induction records generalizing d with
  | nil => exact ⟨d, rfl, hd, (List.append_nil _).symm, rfl⟩
  | cons record records ih =>
    obtain ⟨hr, hrs⟩ := List.forall_mem_cons.1 h
    rw [addAll_cons_snd, rowsFrom_cons, List.countP_cons]
    cases hi : isIgnored (children.length + 1) record with
    | true =>
      rw [add_row_of_isIgnored hd hi]
      obtain ⟨d', hok, hch, hrel, hign⟩ := ih (d := { d with
        rows := d.rows + 1, ignoredRows := d.ignoredRows + 1 }) hd hrs
      refine ⟨d', hok, hch, hrel, ?_⟩
      rw [hign]
      simp only [↓reduceIte]
      omega
    | false =>
      rw [add_row hd hi, cellsFrom_eq_ok (hr hi)]
      obtain ⟨d', hok, hch, hrel, hign⟩ := ih (d := { d with
        rows := d.rows + 1, relations := _ :: d.relations }) hd hrs
      refine ⟨d', hok, hch, ?_, hign⟩
      rw [hrel, List.reverse_cons, List.flatten_append, List.append_assoc, List.flatten_singleton,
        if_neg Bool.false_ne_true, List.singleton_append, relationsOfRows_cons]
      rfl

theorem areReadable_of_addAll_eq_ok (hd : d.children = some children)
    (h : (d.addAll records).2 = .ok d') : AreReadable (children.length + 1) records := by
  induction records generalizing d with
  | nil => intro record hr; cases hr
  | cons record records ih =>
    rw [addAll_cons_snd] at h
    refine List.forall_mem_cons.2 ?_
    cases hi : isIgnored (children.length + 1) record with
    | true =>
      rw [add_row_of_isIgnored hd hi] at h
      exact ⟨fun hf => absurd hf (by simp), ih (by exact hd) h⟩
    | false =>
      rw [add_row hd hi] at h
      -- the row has the width of the header, so no cell is out of reach
      have hl : record.tail.length ≤ children.length := by
        rw [List.length_tail, (isIgnored_eq_false_iff.1 hi).1]
        exact Nat.le_refl _
      cases hc : cellsFrom (d.rows + 1) (record.headD "") 1 children record.tail with
      | error e =>
        rw [hc] at h
        cases h
      | ok rs =>
        rw [hc] at h
        exact ⟨fun _ => isReadable_of_cellsFrom_eq_ok hl hc, ih (by exact hd) h⟩

end Draft

/-! ### Identities -/

/-- The identities of the relations in the row that a record writes. -/
def identitiesOfRow (children : List TypeName) (record : List String) : List Relation.Identity :=
  (children.zip (rowOf record).2).filterMap fun p => p.2.map fun c => ⟨(rowOf record).1, p.1, c⟩

theorem map_identity_relationsInRow (row : Nat) (parent : TypeName) (column : Nat)
    (children : List TypeName) (cells : List (Option Cardinality)) :
    (relationsInRow row parent column children cells).map (·.identity) =
      (children.zip cells).filterMap fun p => p.2.map fun c => ⟨parent, p.1, c⟩ := by
  have hz : children.zip cells = ((children.zip cells).zipIdx column).map Prod.fst :=
    (List.zipIdx_map_fst ..).symm
  conv_rhs => rw [hz, List.filterMap_map]
  rw [relationsInRow, List.map_filterMap]
  refine List.filterMap_congr fun p _ => ?_
  cases hc : p.1.2 <;> simp [hc, Relation.identity]

/-- Where a row stands plays no part in the identities of its relations. -/
theorem map_identity_relationsOfRows :
    (relationsOfRows children (rowsFrom width row records)).map (·.identity) =
      (records.filter fun record => !isIgnored width record).flatMap
        (identitiesOfRow children) := by
  induction records generalizing row with
  | nil => rfl
  | cons record records ih =>
    rw [rowsFrom_cons, List.filter_cons]
    cases isIgnored width record with
    | true => exact ih
    | false =>
      rw [if_neg Bool.false_ne_true, List.singleton_append, relationsOfRows_cons, List.map_append,
        ih, map_identity_relationsInRow, Bool.not_false, if_pos rfl, List.flatMap_cons]
      rfl

/-! ### Reading order -/

theorem mem_relationsInRow_iff {r : Relation} {row column : Nat} {parent : TypeName}
    {cells : List (Option Cardinality)} :
    r ∈ relationsInRow row parent column children cells ↔ r.row = row ∧ r.parent = parent ∧
      ∃ j, r.col = column + j ∧ children[j]? = some r.child ∧
        cells[j]? = some (some r.cardinality) := by
  rw [relationsInRow, List.mem_filterMap]
  constructor
  · rintro ⟨⟨⟨child, cell⟩, col⟩, hmem, hr⟩
    obtain ⟨c, rfl, rfl⟩ := Option.map_eq_some_iff.1 hr
    obtain ⟨hle, hget⟩ := List.mem_zipIdx_iff_le_and_getElem?_sub.1 hmem
    obtain ⟨hchild, hcell⟩ := List.getElem?_zip_eq_some.1 hget
    exact ⟨rfl, rfl, col - column, (Nat.add_sub_of_le hle).symm, hchild, hcell⟩
  · obtain ⟨parent', child, c, row', col⟩ := r
    rintro ⟨rfl, rfl, j, rfl, hchild, hcell⟩
    refine ⟨((child, some c), column + j), ?_, rfl⟩
    rw [List.mem_zipIdx_iff_le_and_getElem?_sub, Nat.add_sub_cancel_left]
    exact ⟨Nat.le_add_right column j, List.getElem?_zip_eq_some.2 ⟨hchild, hcell⟩⟩

theorem pairwise_relationsInRow (row column : Nat) (parent : TypeName)
    (cells : List (Option Cardinality)) :
    (relationsInRow row parent column children cells).Pairwise Relation.Precedes := by
  induction cells generalizing children column with
  | nil => simp [relationsInRow]
  | cons cell cells ih =>
    cases children with
    | nil => exact .nil
    | cons child children =>
      rw [relationsInRow_cons]
      refine List.pairwise_append.2 ⟨by cases cell <;> simp, ih _, fun a ha b hb => ?_⟩
      obtain ⟨hrow, -, j, hcol, -⟩ := mem_relationsInRow_iff.1 hb
      obtain ⟨c, -, rfl⟩ := Option.map_eq_some_iff.1 (Option.mem_toList.1 ha)
      exact .inr ⟨hrow.symm, hcol ▸ Nat.le_add_right (column + 1) j⟩

theorem pairwise_relationsOfRows {rows : List (Row × Nat)} (h : rows.Pairwise (·.2 < ·.2)) :
    (relationsOfRows children rows).Pairwise Relation.Precedes := by
  refine List.pairwise_flatMap.2 ⟨fun r _ => pairwise_relationsInRow _ _ _ _, ?_⟩
  refine h.imp fun {r s} hrs a ha b hb => .inl ?_
  rw [(mem_relationsInRow_iff.1 ha).1, (mem_relationsInRow_iff.1 hb).1]
  exact hrs

theorem pairwise_rowsFrom : (rowsFrom width row records).Pairwise (·.2 < ·.2) := by
  refine List.pairwise_map.2 (List.Pairwise.filter _ ?_)
  have h : ((records.zipIdx row).map Prod.snd).Pairwise (· < ·) := by
    rw [List.zipIdx_map_snd]
    exact List.pairwise_lt_range'
  exact List.pairwise_map.1 h

/-! ### Tables -/

variable {header : List String} {rows : List (List String)} {t : RelationTable}

theorem length_childrenOf (header : List String) :
    (childrenOf header).length = header.tail.length :=
  List.length_map ..

theorem ofRecords_snd (s : Delimited.Stream) :
    (ofRecords s).2 = (Draft.read {} s).2.map (·.table) := rfl

theorem ofRecords_of_corner_ne (hc : corner header ≠ "") (failure : Option Delimited.Failure) :
    (ofRecords ⟨header :: rows, failure⟩).2 = .error (.invalidHeader (corner header)) := by
  have hadd : Draft.add {} header = ([], .error (.invalidHeader (corner header))) := by
    simp [Draft.add, hc]
  simp only [ofRecords, Draft.read, Draft.addAll, hadd]
  rfl

/-- What is read after records: the table, unless the records end with a failure. -/
def Draft.close (failure : Option Delimited.Failure) (d : Draft) :
    Except TableError RelationTable :=
  match failure with
  | none => .ok d.table
  | some f => .error (.unread f)

theorem ofRecords_cons_snd (hc : corner header = "") (failure : Option Delimited.Failure) :
    (ofRecords ⟨header :: rows, failure⟩).2 =
      (Draft.addAll { children := some (childrenOf header) } rows).2.bind
        (Draft.close failure) := by
  have hadd : Draft.add {} header = ([], .ok { children := some (childrenOf header) }) := by
    simp [Draft.add, hc]
  cases hrun : Draft.addAll { children := some (childrenOf header) } rows with
  | mk events result =>
    simp only [ofRecords, Draft.read, Draft.addAll, hadd, hrun]
    cases result with
    | error e => rfl
    | ok d => cases failure <;> rfl

theorem ofRecords_eq_ok (hc : corner header = "")
    (h : AreReadable ((childrenOf header).length + 1) rows) :
    (ofRecords ⟨header :: rows, none⟩).2 = .ok ⟨childrenOf header,
      relationsOfRows (childrenOf header) (rowsFrom ((childrenOf header).length + 1) 1 rows),
      rows.countP (isIgnored ((childrenOf header).length + 1))⟩ := by
  obtain ⟨d, hok, hch, hrel, hign⟩ :=
    Draft.addAll_rows (d := { children := some (childrenOf header) }) rfl h
  rw [ofRecords_cons_snd hc, hok]
  simp only [Except.bind, Draft.close, Draft.table, hch, hrel, hign, List.reverse_nil,
    List.flatten_nil, List.nil_append, Nat.zero_add,
    inLayoutOrder_eq_self (pairwise_relationsOfRows pairwise_rowsFrom)]

/-- Records with an empty corner can be read iff every cell of a row that is not ignored can. -/
theorem ofRecords_isOk_iff (hc : corner header = "") :
    (∃ t, (ofRecords ⟨header :: rows, none⟩).2 = .ok t) ↔
      AreReadable ((childrenOf header).length + 1) rows := by
  refine ⟨fun ⟨t, ht⟩ => ?_, fun h => ⟨_, ofRecords_eq_ok hc h⟩⟩
  rw [ofRecords_cons_snd hc] at ht
  cases hd : (Draft.addAll { children := some (childrenOf header) } rows).2 with
  | error e =>
    rw [hd] at ht
    cases ht
  | ok d => exact Draft.areReadable_of_addAll_eq_ok rfl hd

/-- The relations that records hold if they can be read. -/
def relationsOf : List (List String) → List Relation
  | [] => []
  | header :: rows =>
    relationsOfRows (childrenOf header) (rowsFrom ((childrenOf header).length + 1) 1 rows)

/-- A table that was read was read from no records or from a header and rows, all of which were
read. -/
theorem ofRecords_eq_ok_iff {s : Delimited.Stream} : (ofRecords s).2 = .ok t ↔
    s = ⟨[], none⟩ ∧ t = empty ∨
    ∃ header rows, s = ⟨header :: rows, none⟩ ∧ corner header = "" ∧
      AreReadable ((childrenOf header).length + 1) rows ∧ t = ⟨childrenOf header,
        relationsOf (header :: rows), rows.countP (isIgnored ((childrenOf header).length + 1))⟩ := by
  constructor
  · intro h
    obtain ⟨records, failure⟩ := s
    cases records with
    | nil =>
      cases failure with
      | none =>
        cases h
        exact .inl ⟨rfl, rfl⟩
      | some f => cases h
    | cons header rows =>
      by_cases hc : corner header = ""
      · cases failure with
        | none =>
          have hread := (ofRecords_isOk_iff hc).1 ⟨t, h⟩
          rw [ofRecords_eq_ok hc hread] at h
          exact .inr ⟨header, rows, rfl, hc, hread, (Except.ok.inj h).symm⟩
        | some f =>
          rw [ofRecords_cons_snd hc] at h
          cases hd : (Draft.addAll { children := some (childrenOf header) } rows).2 with
          | error e =>
            rw [hd] at h
            cases h
          | ok d =>
            rw [hd] at h
            cases h
      · rw [ofRecords_of_corner_ne hc] at h
        cases h
  · rintro (⟨rfl, rfl⟩ | ⟨header, rows, rfl, hc, hread, rfl⟩)
    · rfl
    · exact ofRecords_eq_ok hc hread

theorem relations_of_ofRecords_eq_ok {s : Delimited.Stream} (h : (ofRecords s).2 = .ok t) :
    t.relations = relationsOf s.records := by
  obtain ⟨rfl, rfl⟩ | ⟨header, rows, rfl, -, -, rfl⟩ := ofRecords_eq_ok_iff.1 h <;> rfl

theorem children_of_ofRecords_eq_ok {s : Delimited.Stream} (h : (ofRecords s).2 = .ok t) :
    t.children = childrenOf (s.records.headD []) := by
  obtain ⟨rfl, rfl⟩ | ⟨header, rows, rfl, -, -, rfl⟩ := ofRecords_eq_ok_iff.1 h <;> rfl

end RelationTable

end NestingRules
