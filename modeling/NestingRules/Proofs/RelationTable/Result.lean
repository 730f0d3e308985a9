import NestingRules.Proofs.RelationTable.Rows
import NestingRules.Proofs.Text.Trim
import Mathlib.Data.List.Forall2

/-!
# The result of reading records

`RelationTable.ReadsAs` lists, clause by clause, what comes of reading records: the empty table, the
error of the reader, of the corner or of a cell, or a table.  The clauses speak of the characters of
the cells.  Reading has the result that they give and no other (`readsAs_iff`).  In particular the
first failure in reading order decides, whatever comes after it, and a row that is ignored never
fails.
-/

namespace NestingRules

namespace Cardinality

variable {s : String} {c : Cardinality}

theorem mem_all (c : Cardinality) : c ∈ all := by
  cases c <;> decide

theorem symbol_inj {d : Cardinality} : c.symbol = d.symbol ↔ c = d := by
  refine ⟨fun h => ?_, congrArg symbol⟩
  revert h
  cases c <;> cases d <;> decide

theorem symbol_ne_empty (c : Cardinality) : c.symbol ≠ "" := by
  cases c <;> decide

theorem ofSymbol?_eq_some_iff : ofSymbol? s = some c ↔ c.symbol = s := by
  constructor
  · intro h
    unfold ofSymbol? at h
    have hs := List.find?_some h
    exact beq_iff_eq.1 hs
  · rintro rfl
    unfold ofSymbol?
    cases hfind : all.find? (·.symbol == c.symbol) with
    | none => exact absurd (List.find?_eq_none.1 hfind c c.mem_all) (by simp)
    | some d =>
      have hd := List.find?_some hfind
      rw [symbol_inj.1 (beq_iff_eq.1 hd)]

end Cardinality

namespace RelationTable

open Text

/-! ### Clauses -/

/-- Without the byte order marks at its front, `s` is `t`. -/
def Unmarks (s t : String) : Prop :=
  ∃ n, s.toList = List.replicate n '\ufeff' ++ t.toList ∧ t.toList.head? ≠ some '\ufeff'

/-- Without the byte order marks at its front and then without the blanks around it, the cell is
`found`. -/
def Shows (cell found : String) : Prop :=
  ∃ rest, Unmarks cell rest ∧ Padded isBlank found.toList rest.toList ∧
    IsTrimmed isBlank found.toList

/-- A cell that is no error: it is blank or holds a symbol. -/
def IsSoundCell (cell : String) : Prop := cell = "" ∨ ∃ c : Cardinality, c.symbol = cell

/-- A record that is no error: one of another width than the header, one without a parent, or one
whose cells are no errors. -/
def IsSound (width : Nat) (record : List String) : Prop :=
  record.length = width → record.headD "" ≠ "" → ∀ cell ∈ record.tail, IsSoundCell cell

/-- The relation is that of a cell: in its row, which is as wide as the header, its parent stands in
front and its symbol in its column, and its child stands over this column. -/
def IsEntry (names : List String) (rows : List (List String)) (r : Relation) : Prop :=
  ∃ i j cells name, r.row = i + 1 ∧ r.col = j + 1 ∧ rows[i]? = some (r.parent.text :: cells) ∧
    cells.length = names.length ∧ r.parent.text ≠ "" ∧ cells[j]? = some r.cardinality.symbol ∧
    names[j]? = some name ∧ Unmarks name r.child.text

/-- The relations are those of the cells, each once, row by row and from left to right. -/
structure ListsEntries (names : List String) (rows : List (List String))
    (relations : List Relation) : Prop where
  mem_iff : ∀ r, r ∈ relations ↔ IsEntry names rows r
  ordered : relations.Pairwise fun a b => a.row < b.row ∨ a.row = b.row ∧ a.col < b.col

/-- What records, and the failure after them if there is one, are read as.  The first record is the
header, with a cell for the corner and names of children. -/
inductive ReadsAs : Delimited.Stream → Except TableError RelationTable → Prop where
  /-- There is no record at all. -/
  | nothing : ReadsAs ⟨[], none⟩ (.ok ⟨[], [], 0⟩)
  /-- There is a failure in place of the header. -/
  | noHeader (f : Delimited.Failure) : ReadsAs ⟨[], some f⟩ (.error (.unread f))
  /-- The corner is not empty. -/
  | badCorner {cell found : String} (hcorner : Shows cell found) (hfound : found ≠ "")
      (names : List String) (rows : List (List String)) (failure : Option Delimited.Failure) :
      ReadsAs ⟨(cell :: names) :: rows, failure⟩ (.error (.invalidHeader found))
  /-- A cell is neither blank nor a symbol, and nothing before it is an error. -/
  | badCell {cell : String} {names : List String} {before : List (List String)}
      {parent symbol name child : String} {left right : List String} (hcorner : Shows cell "")
      (hbefore : ∀ record ∈ before, IsSound (names.length + 1) record)
      (hwidth : (left ++ symbol :: right).length = names.length) (hparent : parent ≠ "")
      (hleft : ∀ cell ∈ left, IsSoundCell cell) (hsymbol : ¬ IsSoundCell symbol)
      (hname : names[left.length]? = some name) (hchild : Unmarks name child)
      (after : List (List String)) (failure : Option Delimited.Failure) :
      ReadsAs
        ⟨(cell :: names) :: (before ++ (parent :: (left ++ symbol :: right)) :: after), failure⟩
        (.error (.unknownCardinality (before.length + 1) (left.length + 1) parent child symbol))
  /-- The failure behind the records is the first error. -/
  | unread {cell : String} {names : List String} {rows : List (List String)}
      (hcorner : Shows cell "") (hrows : ∀ record ∈ rows, IsSound (names.length + 1) record)
      (f : Delimited.Failure) : ReadsAs ⟨(cell :: names) :: rows, some f⟩ (.error (.unread f))
  /-- There is no error. -/
  | table {cell : String} {names : List String} {rows : List (List String)} {t : RelationTable}
      (hcorner : Shows cell "") (hrows : ∀ record ∈ rows, IsSound (names.length + 1) record)
      (hchildren : List.Forall₂ (fun name child => Unmarks name child.text) names t.children)
      (hrelations : ListsEntries names rows t.relations)
      (hignored : t.ignoredRows = rows.countP fun record =>
        record.length ≠ names.length + 1 ∨ record.headD "" = "") :
      ReadsAs ⟨(cell :: names) :: rows, none⟩ (.ok t)

variable {header names record : List String} {rows records before after : List (List String)}
  {cells left right : List String} {cell found name symbol : String} {children : List TypeName}
  {child : TypeName} {parent : String} {row column width : Nat} {e : TableError} {r : Relation}
  {rs rs' : List Relation} {t : RelationTable}

/-! ### Marks and corners -/

theorem unmarks_iff {s t : String} : Unmarks s t ↔ String.ofList (dropMarks s) = t := by
  constructor
  · rintro ⟨n, hs, hhead⟩
    have hstop : Stops (· == '\ufeff') t.toList := by
      intro c hc
      refine beq_eq_false_iff_ne.2 ?_
      rintro rfl
      exact hhead hc
    have hmarks : ∀ c ∈ List.replicate n '\ufeff', (c == '\ufeff') = true := fun c hc =>
      beq_iff_eq.2 (List.eq_of_mem_replicate hc)
    rw [dropMarks, hs, dropWhile_append_of_stops hmarks hstop, String.ofList_toList]
  · rintro rfl
    have hmarks : s.toList.takeWhile (· == '\ufeff') =
        List.replicate (s.toList.takeWhile (· == '\ufeff')).length '\ufeff' :=
      List.eq_replicate_of_mem fun c hc =>
        beq_iff_eq.1 (List.mem_takeWhile_imp (p := (· == '\ufeff')) hc)
    refine ⟨(s.toList.takeWhile (· == '\ufeff')).length, ?_, fun hhead => ?_⟩
    · rw [← hmarks, String.toList_ofList, dropMarks, List.takeWhile_append_dropWhile]
    · rw [String.toList_ofList] at hhead
      exact absurd (stops_dropWhile _ _ _ hhead) (by decide)

theorem shows_iff : Shows cell found ↔ corner (cell :: names) = found := by
  rw [corner, List.headD_cons]
  constructor
  · rintro ⟨rest, hrest, hpadded, htrimmed⟩
    rw [← unmarks_iff.1 hrest, String.toList_ofList] at hpadded
    rw [trimBy_of_padded hpadded htrimmed, String.ofList_toList]
  · rintro rfl
    refine ⟨_, unmarks_iff.2 rfl, ?_, ?_⟩
    · rw [String.toList_ofList, String.toList_ofList]
      exact padded_trimBy _ _
    · rw [String.toList_ofList]
      exact isTrimmed_trimBy _ _

theorem unmarks_text_iff :
    Unmarks name child.text ↔ (⟨String.ofList (dropMarks name)⟩ : TypeName) = child := by
  rw [unmarks_iff]
  exact ⟨congrArg TypeName.mk, congrArg TypeName.text⟩

theorem forall₂_unmarks_iff :
    List.Forall₂ (fun name child => Unmarks name child.text) names children ↔
      childrenOf (cell :: names) = children := by
  simp only [unmarks_text_iff]
  rw [← List.forall₂_map_left_iff, List.forall₂_eq_eq_eq, childrenOf, List.tail_cons]

/-! ### Sound cells and records -/

theorem isReadable_iff (h : IsTrimmed isBlank cell.toList) :
    isReadable cell = true ↔ IsSoundCell cell := by
  have hparse : (Cardinality.parse cell).isOk = (Cardinality.ofSymbol? cell).isSome := by
    rw [Cardinality.parse, trim_eq_self h]
    cases Cardinality.ofSymbol? cell <;> rfl
  rw [isReadable, hparse, Bool.or_eq_true, String.isEmpty_iff, Option.isSome_iff_exists]
  simp only [IsSoundCell, Cardinality.ofSymbol?_eq_some_iff]

theorem areReadable_iff (h : ∀ record ∈ records, ∀ cell ∈ record, IsTrimmed isBlank cell.toList) :
    AreReadable width records ↔ ∀ record ∈ records, IsSound width record := by
  refine forall₂_congr fun record hr => ?_
  rw [isIgnored_eq_false_iff, and_imp, IsSound]
  refine imp_congr_right fun _ => imp_congr_right fun _ => forall₂_congr fun cell hcell => ?_
  exact isReadable_iff (h record hr cell (List.mem_of_mem_tail hcell))

theorem exists_first {α : Type} {P : α → Prop} {l : List α} (h : ¬ ∀ x ∈ l, P x) :
    ∃ front x back, l = front ++ x :: back ∧ (∀ y ∈ front, P y) ∧ ¬ P x := by
  induction l with
  | nil => exact absurd (by simp) h
  | cons x l ih =>
    by_cases hx : P x
    · obtain ⟨front, y, back, rfl, hfront, hy⟩ := ih fun hl => h (List.forall_mem_cons.2 ⟨hx, hl⟩)
      exact ⟨x :: front, y, back, rfl, List.forall_mem_cons.2 ⟨hx, hfront⟩, hy⟩
    · exact ⟨[], x, l, rfl, by simp, hx⟩

/-! ### Entries -/

theorem cardinality?_eq_some_iff {c : Cardinality} (h : IsTrimmed isBlank cell.toList) :
    cardinality? cell = some c ↔ c.symbol = cell := by
  rw [cardinality?]
  split_ifs with he
  · have hne := c.symbol_ne_empty
    rw [String.isEmpty_iff.1 he]
    simp [hne]
  · rw [Cardinality.parse, trim_eq_self h, ← Cardinality.ofSymbol?_eq_some_iff]
    cases Cardinality.ofSymbol? cell <;> simp [Except.toOption]

theorem mem_rowsFrom_iff {q : Row × Nat} : q ∈ rowsFrom width 1 records ↔
    ∃ i record, q.2 = i + 1 ∧ records[i]? = some record ∧ isIgnored width record = false ∧
      q.1 = rowOf record := by
  rw [rowsFrom, List.mem_map]
  constructor
  · rintro ⟨⟨record, row⟩, hmem, rfl⟩
    obtain ⟨hmem, hkept⟩ := List.mem_filter.1 hmem
    obtain ⟨hle, hget⟩ := List.mem_zipIdx_iff_le_and_getElem?_sub.1 hmem
    exact ⟨row - 1, record, (Nat.sub_add_cancel hle).symm, hget, by simpa using hkept, rfl⟩
  · obtain ⟨q, row⟩ := q
    rintro ⟨i, record, rfl, hget, hkept, rfl⟩
    refine ⟨(record, i + 1), List.mem_filter.2 ⟨?_, by simp [hkept]⟩, rfl⟩
    rw [List.mem_zipIdx_iff_le_and_getElem?_sub]
    exact ⟨Nat.le_add_left 1 i, hget⟩

/-! ### The first error of a row -/

/-- The leftmost cell that cannot be read is the error of its row. -/
theorem cellsFrom_eq_error (hleft : ∀ cell ∈ left, isReadable cell = true)
    (hsymbol : isReadable symbol = false) (hchild : children[left.length]? = some child) :
    cellsFrom row parent column children (left ++ symbol :: right) =
      .error (.unknownCardinality row (column + left.length) parent child.text symbol) := by
  induction left generalizing children column with
  | nil =>
    obtain ⟨children, rfl⟩ : ∃ rest, children = child :: rest := by
      cases children with
      | nil => cases hchild
      | cons first rest => exact ⟨rest, by rw [Option.some.inj hchild]⟩
    obtain ⟨he, hp⟩ := Bool.or_eq_false_iff.1 hsymbol
    rw [List.nil_append, cellsFrom, he, if_neg Bool.false_ne_true]
    cases hc : Cardinality.parse symbol with
    | error e => rfl
    | ok c =>
      rw [hc] at hp
      cases hp
  | cons cell left ih =>
    obtain ⟨hcell, hleft⟩ := List.forall_mem_cons.1 hleft
    cases children with
    | nil => cases hchild
    | cons first children =>
      have hrest : cellsFrom row parent (column + 1) children (left ++ symbol :: right) =
          .error
            (.unknownCardinality row (column + (left.length + 1)) parent child.text symbol) := by
        rw [ih hleft hchild, Nat.add_right_comm, Nat.add_assoc]
      rw [List.cons_append, cellsFrom, List.length_cons]
      cases he : cell.isEmpty with
      | true => rw [if_pos rfl, hrest]
      | false =>
        rw [isReadable, he, Bool.false_or] at hcell
        cases hc : Cardinality.parse cell with
        | error e =>
          rw [hc] at hcell
          cases hcell
        | ok c =>
          simp only [Bool.false_eq_true, ↓reduceIte, hrest]
          rfl

/-! ### The first error of a table -/

namespace Draft

variable {d d' : Draft}

theorem rows_of_addAll (hd : d.children = some children) (h : (d.addAll records).2 = .ok d') :
    d'.children = some children ∧ d'.rows = d.rows + records.length := by
  induction records generalizing d with
  | nil =>
    cases h
    exact ⟨hd, rfl⟩
  | cons record records ih =>
    rw [addAll_cons_snd] at h
    have hstep : ∀ {d₁ : Draft}, (d.add record).2 = .ok d₁ → d₁.children = some children ∧
        d₁.rows = d.rows + 1 := by
      intro d₁ hadd
      cases hi : isIgnored (children.length + 1) record with
      | true =>
        rw [add_row_of_isIgnored hd hi] at hadd
        cases hadd
        exact ⟨hd, rfl⟩
      | false =>
        rw [add_row hd hi] at hadd
        cases hc : cellsFrom (d.rows + 1) (record.headD "") 1 children record.tail with
        | error e =>
          rw [hc] at hadd
          cases hadd
        | ok rs =>
          rw [hc] at hadd
          cases hadd
          exact ⟨hd, rfl⟩
    cases hadd : (d.add record).2 with
    | error e =>
      rw [hadd] at h
      cases h
    | ok d₁ =>
      rw [hadd] at h
      obtain ⟨hchildren, hrows⟩ := hstep hadd
      obtain ⟨hchildren', hrows'⟩ := ih hchildren h
      refine ⟨hchildren', ?_⟩
      rw [hrows', hrows, List.length_cons]
      omega

theorem addAll_eq_error (hd : d.children = some children)
    (hbefore : AreReadable (children.length + 1) before)
    (hrow : isIgnored (children.length + 1) record = false)
    (herror : cellsFrom (d.rows + before.length + 1) (record.headD "") 1 children record.tail =
      .error e) (after : List (List String)) :
    (d.addAll (before ++ record :: after)).2 = .error e := by
  obtain ⟨d', hok, -⟩ := addAll_rows hd hbefore
  obtain ⟨hchildren, hrows⟩ := rows_of_addAll hd hok
  rw [addAll_append_snd, hok]
  change (d'.addAll (record :: after)).2 = _
  rw [addAll_cons_snd, add_row hchildren hrow, hrows, herror]
  rfl

end Draft

/-! ### Reading -/

/-- Records that a reader gives: none is without cells, and the cells are trimmed. -/
def AreRecords (records : List (List String)) : Prop :=
  ∀ record ∈ records, record ≠ [] ∧ ∀ cell ∈ record, IsTrimmed isBlank cell.toList

theorem length_childrenOf_cons (cell : String) (names : List String) :
    (childrenOf (cell :: names)).length = names.length :=
  length_childrenOf _

theorem getElem?_childrenOf {j : Nat} : (childrenOf (cell :: names))[j]? = some child ↔
    ∃ name, names[j]? = some name ∧ Unmarks name child.text := by
  simp only [childrenOf, List.tail_cons, List.getElem?_map, Option.map_eq_some_iff,
    unmarks_text_iff]

theorem getElem?_map_cardinality? {c : Cardinality} {j : Nat}
    (h : ∀ cell ∈ cells, IsTrimmed isBlank cell.toList) :
    (cells.map cardinality?)[j]? = some (some c) ↔ cells[j]? = some c.symbol := by
  rw [List.getElem?_map, Option.map_eq_some_iff]
  constructor
  · rintro ⟨cell, hcell, hc⟩
    rw [hcell, (cardinality?_eq_some_iff (h cell (List.mem_of_getElem? hcell))).1 hc]
  · intro hcell
    exact ⟨_, hcell, (cardinality?_eq_some_iff (h _ (List.mem_of_getElem? hcell))).2 rfl⟩

/-- The relations of the rows are the entries. -/
theorem listsEntries_relationsOfRows (cell : String) (hrecords : AreRecords rows) :
    ListsEntries names rows (relationsOfRows (childrenOf (cell :: names))
      (rowsFrom (names.length + 1) 1 rows)) where
  ordered := pairwise_relationsOfRows pairwise_rowsFrom
  mem_iff r := by
    rw [relationsOfRows, List.mem_flatMap]
    constructor
    · rintro ⟨q, hq, hr⟩
      obtain ⟨i, record, hi, hget, hkept, hrow⟩ := mem_rowsFrom_iff.1 hq
      obtain ⟨hrow', hparent, j, hj, hchild, hcell⟩ := mem_relationsInRow_iff.1 hr
      obtain ⟨hne, htrimmed⟩ := hrecords record (List.mem_of_getElem? hget)
      obtain ⟨parent, cells, rfl⟩ := List.exists_cons_of_ne_nil hne
      obtain ⟨hwidth, hfilled⟩ := isIgnored_eq_false_iff.1 hkept
      obtain ⟨name, hname, hunmarks⟩ := getElem?_childrenOf.1 hchild
      rw [hrow] at hparent hcell
      have hsymbol := (getElem?_map_cardinality? (List.forall_mem_cons.1 htrimmed).2).1 hcell
      obtain rfl : r.parent.text = parent := congrArg TypeName.text hparent
      exact ⟨i, j, cells, name, hrow'.trans hi, hj.trans (Nat.add_comm 1 j), hget,
        Nat.succ.inj hwidth, hfilled, hsymbol, hname, hunmarks⟩
    · rintro ⟨i, j, cells, name, hi, hj, hget, hwidth, hfilled, hsymbol, hname, hunmarks⟩
      have htrimmed := (hrecords _ (List.mem_of_getElem? hget)).2
      have hkept : isIgnored (names.length + 1) (r.parent.text :: cells) = false :=
        isIgnored_eq_false_iff.2 ⟨congrArg (· + 1) hwidth, hfilled⟩
      have hj' : r.col = 1 + j := hj.trans (Nat.add_comm j 1)
      refine ⟨(rowOf (r.parent.text :: cells), i + 1), mem_rowsFrom_iff.2
        ⟨i, _, rfl, hget, hkept, rfl⟩, mem_relationsInRow_iff.2 ⟨hi, rfl, j, hj', ?_, ?_⟩⟩
      · exact getElem?_childrenOf.2 ⟨name, hname, hunmarks⟩
      · exact (getElem?_map_cardinality? (List.forall_mem_cons.1 htrimmed).2).2 hsymbol

/-- Entries are listed in one way only. -/
theorem ListsEntries.eq (h : ListsEntries names rows rs) (h' : ListsEntries names rows rs') :
    rs = rs' := by
  have hnodup : ∀ {rs}, ListsEntries names rows rs → rs.Nodup := fun h =>
    h.ordered.imp fun hab heq => by
      subst heq
      omega
  have hperm : rs.Perm rs' := (List.perm_ext_iff_of_nodup (hnodup h) (hnodup h')).2 fun r => by
    rw [h.mem_iff, h'.mem_iff]
  refine hperm.eq_of_pairwise (fun a b _ _ hab hba => ?_) h.ordered h'.ordered
  omega

theorem countP_isIgnored (width : Nat) (records : List (List String)) :
    records.countP (isIgnored width) = records.countP fun record =>
      record.length ≠ width ∨ record.headD "" = "" := by
  refine List.countP_congr fun record _ => ?_
  simp [isIgnored, String.isEmpty_iff]

theorem areReadable_of_isSound (hrecords : AreRecords records)
    (h : ∀ record ∈ records, IsSound (names.length + 1) record) :
    AreReadable ((childrenOf (cell :: names)).length + 1) records := by
  rw [length_childrenOf_cons]
  exact (areReadable_iff fun record hr => (hrecords record hr).2).2 h

theorem exists_readsAs {s : Delimited.Stream} (h : AreRecords s.records) :
    ∃ result, ReadsAs s result := by
  obtain ⟨records, failure⟩ := s
  cases records with
  | nil =>
    cases failure with
    | none => exact ⟨_, .nothing⟩
    | some f => exact ⟨_, .noHeader f⟩
  | cons header rows =>
    obtain ⟨⟨hheader, -⟩, hrecords⟩ := List.forall_mem_cons.1 h
    obtain ⟨cell, names, rfl⟩ := List.exists_cons_of_ne_nil hheader
    have hshows : Shows cell (corner (cell :: names)) := shows_iff.2 rfl
    by_cases hc : corner (cell :: names) = ""
    · rw [hc] at hshows
      by_cases hrows : ∀ record ∈ rows, IsSound (names.length + 1) record
      · cases failure with
        | none =>
          have hchildren : List.Forall₂ (fun name child => Unmarks name child.text) names
              (childrenOf (cell :: names)) := forall₂_unmarks_iff.2 rfl
          exact ⟨_, .table (t := ⟨_, _, _⟩) hshows hrows hchildren
            (listsEntries_relationsOfRows cell hrecords) rfl⟩
        | some f => exact ⟨_, .unread hshows hrows f⟩
      · obtain ⟨before, record, after, rfl, hbefore, hrecord⟩ := exists_first hrows
        have hne : record ≠ [] := (hrecords record (by simp)).1
        obtain ⟨parent, cells, rfl⟩ := List.exists_cons_of_ne_nil hne
        simp only [IsSound, List.headD_cons, List.tail_cons, Classical.not_imp] at hrecord
        obtain ⟨hwidth, hparent, hcells⟩ := hrecord
        obtain ⟨left, symbol, right, rfl, hleft, hsymbol⟩ := exists_first hcells
        have hwidth : (left ++ symbol :: right).length = names.length := Nat.succ.inj hwidth
        -- the row has the width of the header, so there is a name over the cell
        have hlt : left.length < names.length := by
          simp only [List.length_cons, List.length_append] at hwidth
          omega
        exact ⟨_, .badCell hshows hbefore hwidth hparent hleft hsymbol
          (List.getElem?_eq_getElem hlt) (unmarks_iff.2 rfl) after failure⟩
    · exact ⟨_, .badCorner hshows hc names rows failure⟩

/-- Reading has the result of each clause. -/
theorem ReadsAs.ofRecords_eq {s : Delimited.Stream} {result : Except TableError RelationTable}
    (h : ReadsAs s result) (hs : AreRecords s.records) : (ofRecords s).2 = result := by
  cases h with
  | nothing => rfl
  | noHeader f => rfl
  | badCorner hcorner hfound names rows failure =>
    have hc : corner (_ :: names) = _ := shows_iff.1 hcorner
    rw [ofRecords_of_corner_ne (hc ▸ hfound), hc]
  | @badCell cell names before parent symbol name child left right hcorner hbefore hwidth hparent
      hleft hsymbol hname hchild after failure =>
    obtain ⟨-, hrows⟩ := List.forall_mem_cons.1 hs
    obtain ⟨hfront, hback⟩ := List.forall_mem_append.1 hrows
    have hrow : isIgnored ((childrenOf (cell :: names)).length + 1)
        (parent :: (left ++ symbol :: right)) = false := by
      rw [length_childrenOf_cons]
      exact isIgnored_eq_false_iff.2 ⟨congrArg (· + 1) hwidth, hparent⟩
    have htrim : ∀ cell ∈ left ++ symbol :: right, IsTrimmed isBlank cell.toList :=
      fun cell hcell => (hback _ List.mem_cons_self).2 cell (List.mem_cons_of_mem _ hcell)
    obtain ⟨hltrim, hrtrim⟩ := List.forall_mem_append.1 htrim
    have hlread : ∀ cell ∈ left, isReadable cell = true :=
      fun cell hcell => (isReadable_iff (hltrim cell hcell)).2 (hleft cell hcell)
    have hsread : isReadable symbol = false := by
      rw [← Bool.not_eq_true, isReadable_iff (hrtrim symbol List.mem_cons_self)]
      exact hsymbol
    have hover : (childrenOf (cell :: names))[left.length]? = some ⟨child⟩ :=
      getElem?_childrenOf.2 ⟨name, hname, hchild⟩
    have herror : cellsFrom (0 + before.length + 1) parent 1 (childrenOf (cell :: names))
        (left ++ symbol :: right) = .error (.unknownCardinality (before.length + 1)
          (left.length + 1) parent child symbol) := by
      rw [cellsFrom_eq_error hlread hsread hover, Nat.zero_add, Nat.add_comm 1]
    rw [ofRecords_cons_snd (shows_iff.1 hcorner), Draft.addAll_eq_error rfl
      (areReadable_of_isSound hfront hbefore) hrow herror after]
    rfl
  | @unread cell names rows hcorner hrows f =>
    obtain ⟨-, hrecords⟩ := List.forall_mem_cons.1 hs
    obtain ⟨d, hok, -⟩ := Draft.addAll_rows (d := { children := some (childrenOf (cell :: names)) })
      rfl (areReadable_of_isSound hrecords hrows)
    rw [ofRecords_cons_snd (shows_iff.1 hcorner), hok]
    rfl
  | @table cell names rows t hcorner hrows hchildren hrelations hignored =>
    obtain ⟨-, hrecords⟩ := List.forall_mem_cons.1 hs
    rw [ofRecords_eq_ok (shows_iff.1 hcorner) (areReadable_of_isSound hrecords hrows),
      length_childrenOf_cons, countP_isIgnored, ← hignored,
      ← hrelations.eq (listsEntries_relationsOfRows cell hrecords), forall₂_unmarks_iff.1 hchildren]

/-- **The result of reading records** is the one that the clauses give, and no other. -/
theorem readsAs_iff {s : Delimited.Stream} (hs : AreRecords s.records)
    (result : Except TableError RelationTable) : ReadsAs s result ↔ (ofRecords s).2 = result := by
  refine ⟨fun h => h.ofRecords_eq hs, ?_⟩
  rintro rfl
  obtain ⟨result, h⟩ := exists_readsAs hs
  rw [h.ofRecords_eq hs]
  exact h

/-- Rows that are ignored, a bad cell, and after it another one and a failure. -/
theorem readsAs_iff_bad_cell :
    let s : Delimited.Stream := ⟨[["\ufeff", "P", "Span"], ["L", "?"], ["", "∅", "?"],
      ["TR", "", "?"], ["TH", "?", "1"]], some (.file .isADirectory)⟩
    AreRecords s.records ∧ ReadsAs s (.error (.unknownCardinality 3 2 "TR" "Span" "?")) := by
  intro s
  have hs : AreRecords s.records := by
    unfold AreRecords
    decide
  exact ⟨hs, (readsAs_iff hs _).2 rfl⟩

end RelationTable

end NestingRules
