import NestingRules.Proofs.Delimited.ReadBack
import NestingRules.Proofs.RelationTable.Rows

/-!
# Written tables

A `Grid` is a relation table as it is meant: child types, and rows of a parent and a cell for each
child.  Reading undoes writing (`RelationTable.parse_of_writes`): from every delimited text of a
grid, with any ASCII delimiter, any padding, any record endings and with or without a byte order
mark, the table has the children of the grid, no ignored rows, and a relation for each cell that is
not blank, numbered by its place.
-/

namespace NestingRules

namespace RelationTable

open Text

/-- A relation table as it is meant to be written.  Names have no blanks at their ends; apart from
that they may be any texts, and they may repeat. -/
structure Grid where
  children : List TypeName
  rows : List Row
  children_ne_nil : children ≠ []
  trimmed_child : ∀ child ∈ children, IsTrimmed isBlank child.text.toList
  /-- No child name begins with a byte order mark. -/
  unmarked_child : ∀ child ∈ children, child.text.toList.head? ≠ some '\ufeff'
  trimmed_parent : ∀ row ∈ rows, IsTrimmed isBlank row.1.text.toList
  parent_ne_empty : ∀ row ∈ rows, row.1.text ≠ ""
  /-- Each row has a cell for each child. -/
  length_cells : ∀ row ∈ rows, row.2.length = children.length

/-- What is written into a cell. -/
def cellText : Option Cardinality → String
  | none => ""
  | some c => c.symbol

/-- What is written of a row. -/
def recordOf (row : Row) : List String := row.1.text :: row.2.map cellText

namespace Grid

/-- What is written of the children, after an empty corner. -/
def header (g : Grid) : List String := "" :: g.children.map (·.text)

/-- The records of the grid, without padding. -/
def records (g : Grid) : List (List String) := g.header :: g.rows.map recordOf

/-- The table of the grid: the children, and the cells that are not blank row by row, with their
rows and columns counted from one. -/
def table (g : Grid) : RelationTable :=
  ⟨g.children, relationsOfRows g.children (g.rows.zipIdx 1), 0⟩

end Grid

/-! ### Cells and rows -/

theorem cardinality?_cellText (cell : Option Cardinality) :
    cardinality? (cellText cell) = cell := by
  cases cell with
  | none => rfl
  | some c => cases c <;> decide

theorem isReadable_cellText (cell : Option Cardinality) : isReadable (cellText cell) = true := by
  cases cell with
  | none => rfl
  | some c => cases c <;> decide

theorem isTrimmed_cellText (cell : Option Cardinality) :
    IsTrimmed isBlank (cellText cell).toList := by
  cases cell with
  | none => decide
  | some c => cases c <;> decide

theorem rowOf_recordOf (row : Row) : rowOf (recordOf row) = row := by
  obtain ⟨parent, cells⟩ := row
  have hcells : (cells.map cellText).map cardinality? = cells := by
    rw [List.map_map]
    exact List.map_id'' cardinality?_cellText cells
  simp only [rowOf, recordOf, List.headD_cons, List.tail_cons, hcells]

theorem rowsFrom_map_recordOf {width : Nat} {rows : List Row}
    (h : ∀ row ∈ rows, isIgnored width (recordOf row) = false) (n : Nat) :
    rowsFrom width n (rows.map recordOf) = rows.zipIdx n := by
  induction rows generalizing n with
  | nil => rfl
  | cons row rows ih =>
    obtain ⟨hrow, hrows⟩ := List.forall_mem_cons.1 h
    rw [List.map_cons, rowsFrom_cons, hrow, if_neg Bool.false_ne_true, rowOf_recordOf, ih hrows,
      List.zipIdx_cons]
    rfl

namespace Grid

variable {g : Grid} {row : Row}

theorem isIgnored_recordOf (h : row ∈ g.rows) :
    isIgnored (g.children.length + 1) (recordOf row) = false := by
  have hlen := g.length_cells row h
  have hparent := g.parent_ne_empty row h
  simp [isIgnored, recordOf, hlen, hparent]

theorem areReadable_records (g : Grid) :
    AreReadable (g.children.length + 1) (g.rows.map recordOf) := by
  intro record hrecord _ cell hcell
  obtain ⟨row, -, rfl⟩ := List.mem_map.1 hrecord
  obtain ⟨c, -, rfl⟩ := List.mem_map.1 hcell
  exact isReadable_cellText c

theorem childrenOf_header (g : Grid) : childrenOf g.header = g.children := by
  rw [childrenOf, header, List.tail_cons, List.map_map]
  refine (List.map_congr_left fun child hchild => ?_).trans (List.map_id _)
  have hstop : Stops (· == '\ufeff') child.text.toList := by
    intro c hc
    refine beq_eq_false_iff_ne.2 ?_
    rintro rfl
    exact g.unmarked_child child hchild hc
  simp [dropMarks, hstop.dropWhile_eq_self]

theorem rowsFrom_records (g : Grid) :
    rowsFrom (g.children.length + 1) 1 (g.rows.map recordOf) = g.rows.zipIdx 1 :=
  rowsFrom_map_recordOf (fun _ => isIgnored_recordOf) 1

theorem countP_isIgnored (g : Grid) :
    (g.rows.map recordOf).countP (isIgnored (g.children.length + 1)) = 0 := by
  rw [List.countP_eq_zero]
  intro record hrecord
  obtain ⟨row, hrow, rfl⟩ := List.mem_map.1 hrecord
  rw [isIgnored_recordOf hrow]
  exact Bool.false_ne_true

theorem ofRecords_records (g : Grid) : (ofRecords ⟨g.records, none⟩).2 = .ok g.table := by
  have hcorner : corner g.header = "" := rfl
  have hread : AreReadable ((childrenOf g.header).length + 1) (g.rows.map recordOf) := by
    rw [childrenOf_header]
    exact g.areReadable_records
  rw [records, ofRecords_eq_ok hcorner hread, childrenOf_header, rowsFrom_records,
    countP_isIgnored, table]

/-! ### Texts -/

theorem isTrimmed_of_mem_records (g : Grid) :
    ∀ record ∈ g.records, ∀ s ∈ record, IsTrimmed isBlank s.toList := by
  refine List.forall_mem_cons.2 ⟨List.forall_mem_cons.2 ⟨isTrimmed_cellText none, ?_⟩, ?_⟩
  · intro s hs
    obtain ⟨child, hchild, rfl⟩ := List.mem_map.1 hs
    exact g.trimmed_child child hchild
  · intro record hrecord
    obtain ⟨row, hrow, rfl⟩ := List.mem_map.1 hrecord
    refine List.forall_mem_cons.2 ⟨g.trimmed_parent row hrow, fun s hs => ?_⟩
    obtain ⟨cell, -, rfl⟩ := List.mem_map.1 hs
    exact isTrimmed_cellText cell

theorem two_le_length_of_mem_records (g : Grid) : ∀ record ∈ g.records, 2 ≤ record.length := by
  have hpos : 0 < g.children.length := List.length_pos_iff.2 g.children_ne_nil
  refine List.forall_mem_cons.2 ⟨?_, fun record hrecord => ?_⟩
  · simp only [header, List.length_cons, List.length_map]
    omega
  · obtain ⟨row, hrow, rfl⟩ := List.mem_map.1 hrecord
    have hlen := g.length_cells row hrow
    simp only [recordOf, List.length_cons, List.length_map]
    omega

end Grid

/-- **Reading undoes writing.**  Every delimited text of a grid is read as the table of the grid. -/
theorem parse_of_writes (g : Grid) {delimiter : UInt8} {bytes : List UInt8}
    (hascii : delimiter < 128) (hquote : delimiter ≠ Delimited.quote)
    (hterminator : Delimited.isTerminator delimiter = false)
    (h : Delimited.Writes delimiter g.records bytes) :
    (parse delimiter bytes).2 = .ok g.table := by
  -- the first byte of a byte order mark is not ASCII
  have hmark : Delimited.opensMark delimiter = false := by
    refine beq_eq_false_iff_ne.2 ?_
    rintro rfl
    exact absurd hascii (by decide)
  rw [parse, Delimited.read_of_writes hquote hterminator hmark h g.isTrimmed_of_mem_records
    g.two_le_length_of_mem_records]
  exact g.ofRecords_records

/-- A grid whose names hold the delimiter, a quotation mark and a line break. -/
def quotedGrid : Grid where
  children := [⟨"P"⟩, ⟨"a,b"⟩]
  rows := [(⟨"\"Q"⟩, [some .forbidden, none]), (⟨"L\nI"⟩, [none, some .zeroOrOne])]
  children_ne_nil := by decide
  trimmed_child := by decide
  unmarked_child := by decide
  trimmed_parent := by decide
  parent_ne_empty := by decide
  length_cells := by decide

/-- The grid with padding and a byte order mark; its last record has no ending. -/
def quotedGridBytes : List UInt8 :=
  Delimited.mark ++
    Utf8.encode " ,P\u00a0,\"a,b\"\r\n\"\"\"Q\",∅,\r\"L\nI\",, 0..1".toList

open Delimited in
theorem writes_quotedGrid : Writes 44 quotedGrid.records quotedGridBytes := by
  have hcorner : Encodes "" (Utf8.encode [' ']) :=
    encodes_padded "" [' '] [] rfl rfl
  have hchild : Encodes "P" (Utf8.encode ['P', '\u00a0']) :=
    encodes_padded "P" [] ['\u00a0'] rfl rfl
  have hcell : Encodes "0..1" (Utf8.encode [' ', '0', '.', '.', '1']) :=
    encodes_padded "0..1" [' '] [] rfl rfl
  refine ⟨_, _, .cons (.cons hcorner (.cons hchild (.cons (encodes_self "a,b") .nil)))
    (.cons (.cons (encodes_self "\"Q") (.cons (encodes_self "∅") (.cons (encodes_self "") .nil)))
      (.cons (.cons (encodes_self "L\nI") (.cons (encodes_self "") (.cons hcell .nil))) .nil)),
    .cons (.cons (.plain ?_) (.cons (.plain ?_) (.last .quoted)))
      (show [13, 10] ∈ endings by decide)
      (.cons (.cons .quoted (.cons (.plain ?_) (.last (.plain ?_)))) (show [13] ∈ endings by decide)
        (.unended (.cons .quoted (.cons (.plain ?_) (.last (.plain ?_)))))), Or.inr ?_⟩
  all_goals decide

theorem parse_of_writes_quotedGrid :
    Delimited.Writes 44 quotedGrid.records quotedGridBytes ∧
      (parse 44 quotedGridBytes).2 = .ok quotedGrid.table :=
  ⟨writes_quotedGrid,
    parse_of_writes quotedGrid (by decide) (by decide) (by decide) writes_quotedGrid⟩

end RelationTable

end NestingRules
