import NestingRules.Proofs.RelationTable.Rows
import NestingRules.Proofs.Text.Trim
import Mathlib.Data.List.Forall2

/-!
# Names without blanks around them

The fields of delimited text are trimmed (`Delimited.isTrimmed_of_mem_read`), and so the parents in
a table that was read have no blanks around them.  The names of children lose byte order marks after
that, and are not trimmed again: they end without a blank, but one may begin with a blank, and does
so iff its cell has byte order marks and then a blank in front
(`RelationTable.parse_cleanNames`).
-/

namespace NestingRules

open Text

namespace Delimited

variable {field : List UInt8} {fields : List (List UInt8)} {record : List String} {s : String}

theorem isTrimmed_of_decodeField (h : decodeField field = .ok s) : IsTrimmed isBlank s.toList := by
  unfold decodeField at h
  cases hd : Utf8.decode (trimBy isBlankByte field) with
  | error e =>
    rw [hd] at h
    cases h
  | ok cs =>
    rw [hd] at h
    cases h
    rw [String.toList_ofList]
    exact isTrimmed_trimBy isBlank cs

theorem isTrimmed_of_decodeFields {i : Nat} (h : decodeFields i fields = .ok record) :
    ∀ s ∈ record, IsTrimmed isBlank s.toList := by
  induction fields generalizing i record with
  | nil =>
    cases h
    exact List.forall_mem_nil _
  | cons field fields ih =>
    rw [decodeFields] at h
    cases hf : decodeField field with
    | error e =>
      rw [hf] at h
      cases h
    | ok s =>
      rw [hf] at h
      cases hfs : decodeFields (i + 1) fields with
      | error e =>
        simp only [hfs] at h
        cases h
      | ok rest =>
        simp only [hfs] at h
        cases h
        exact List.forall_mem_cons.2 ⟨isTrimmed_of_decodeField hf, ih hfs⟩

theorem isTrimmed_of_mem_decodeRecords {i : Nat} {rs : List RawRecord}
    (h : record ∈ (decodeRecords i rs).records) : ∀ s ∈ record, IsTrimmed isBlank s.toList := by
  induction rs generalizing i with
  | nil => cases h
  | cons r rs ih =>
    rw [decodeRecords] at h
    cases hf : decodeFields 0 r.fields with
    | error e =>
      rw [hf] at h
      cases h
    | ok fields =>
      rw [hf] at h
      rcases List.mem_cons.1 h with rfl | hrest
      · exact isTrimmed_of_decodeFields hf
      · exact ih hrest

/-- **The fields of delimited text are trimmed.** -/
theorem isTrimmed_of_mem_read {delimiter : UInt8} {bytes : List UInt8}
    (h : record ∈ (read delimiter bytes).records) : ∀ s ∈ record, IsTrimmed isBlank s.toList :=
  isTrimmed_of_mem_decodeRecords h

end Delimited

namespace RelationTable

variable {header : List String} {records rows : List (List String)} {children : List TypeName}
  {t : RelationTable} {cell : String} {r : Relation} {row column width : Nat} {parent : TypeName}

/-- The name has no blanks at its ends. -/
def IsClean (n : TypeName) : Prop := IsTrimmed isBlank n.text.toList

instance (n : TypeName) : Decidable (IsClean n) :=
  inferInstanceAs (Decidable (IsTrimmed _ _))

/-- The character is a byte order mark. -/
def isMark (c : Char) : Bool := c == '\ufeff'

/-- The cell begins with byte order marks and then a blank. -/
def HidesBlank (cell : String) : Prop :=
  ∃ marks b rest, cell.toList = marks ++ b :: rest ∧ marks ≠ [] ∧ (∀ m ∈ marks, isMark m = true) ∧
    isBlank b = true

/-! ### Names of children -/

theorem dropMarks_eq (cell : String) : dropMarks cell = cell.toList.dropWhile isMark := rfl

theorem isMark_eq_false {c : Char} (h : isBlank c = true) : isMark c = false := by
  rw [isMark, beq_eq_false_iff_ne]
  rintro rfl
  exact absurd h (by decide)

/-- Dropping byte order marks bares no blank at the end of a name. -/
theorem stops_reverse_dropMarks (h : IsTrimmed isBlank cell.toList) :
    Stops isBlank (dropMarks cell).reverse :=
  h.last.of_isPrefix <| List.reverse_prefix.2 <| List.dropWhile_suffix _

/-- Dropping byte order marks bares the blank behind them. -/
theorem stops_dropMarks_iff (h : IsTrimmed isBlank cell.toList) :
    Stops isBlank (dropMarks cell) ↔ ¬ HidesBlank cell := by
  rw [dropMarks_eq]
  constructor
  · rintro hstops ⟨marks, b, rest, hcell, -, hmarks, hb⟩
    rw [hcell, dropWhile_append_of_stops hmarks (stops_cons.2 (isMark_eq_false hb)), stops_cons,
      hb] at hstops
    cases hstops
  · intro hhides b hb
    rw [← Bool.not_eq_true]
    intro hblank
    obtain ⟨rest, hrest⟩ := List.head?_eq_some_iff.1 hb
    have hcell : cell.toList = cell.toList.takeWhile isMark ++ b :: rest := by
      rw [← hrest, List.takeWhile_append_dropWhile]
    refine hhides ⟨_, b, rest, hcell, fun hnil => ?_, fun m => List.mem_takeWhile_imp, hblank⟩
    -- without a mark in front, the cell itself begins with the blank
    have hstops := h.head
    rw [hcell, hnil, List.nil_append, stops_cons, hblank] at hstops
    cases hstops

theorem isClean_iff (h : IsTrimmed isBlank cell.toList) :
    IsClean ⟨String.ofList (dropMarks cell)⟩ ↔ ¬ HidesBlank cell := by
  rw [IsClean, String.toList_ofList, ← stops_dropMarks_iff h]
  exact ⟨IsTrimmed.head, fun hhead => ⟨hhead, stops_reverse_dropMarks h⟩⟩

/-! ### Names in relations -/

theorem names_of_mem_relationsOf (h : r ∈ relationsOf records) :
    (∃ record ∈ records, r.parent = ⟨record.headD ""⟩) ∧
      r.child ∈ childrenOf (records.headD []) := by
  cases records with
  | nil => cases h
  | cons header rows =>
    obtain ⟨row, hrow, hr⟩ := List.mem_flatMap.1 h
    obtain ⟨record, hrecord, rfl⟩ := List.mem_map.1 hrow
    obtain ⟨-, hparent, j, -, hchild, -⟩ := mem_relationsInRow_iff.1 hr
    have hmem := List.fst_mem_of_mem_zipIdx (List.mem_filter.1 hrecord).1
    exact ⟨⟨record.1, List.mem_cons_of_mem _ hmem, hparent⟩, List.mem_of_getElem? hchild⟩

/-! ### Names in tables -/

/-- **The names in a table have no blanks at their ends, but for the blanks that byte order marks
hide.**  The cells of the header are those of the text, and each names a child. -/
theorem parse_cleanNames {delimiter : UInt8} {bytes : List UInt8}
    (h : (parse delimiter bytes).2 = .ok t) :
    (∀ r ∈ t.relations, IsClean r.parent ∧ r.child ∈ t.children) ∧
    List.Forall₂ (fun cell child => Stops isBlank child.text.toList.reverse ∧
        (IsClean child ↔ ¬ HidesBlank cell))
      ((Delimited.read delimiter bytes).records.headD []).tail t.children := by
  have hcells : ∀ record ∈ (Delimited.read delimiter bytes).records, ∀ s ∈ record,
      IsTrimmed isBlank s.toList := fun record => Delimited.isTrimmed_of_mem_read
  have hrelations := relations_of_ofRecords_eq_ok h
  have hchildren := children_of_ofRecords_eq_ok h
  rw [hrelations, hchildren]
  generalize (Delimited.read delimiter bytes).records = records at hcells ⊢
  refine ⟨fun r hr => ?_, ?_⟩
  · obtain ⟨⟨record, hrecord, hparent⟩, hchild⟩ := names_of_mem_relationsOf hr
    refine ⟨?_, hchild⟩
    rw [IsClean, hparent]
    cases record with
    | nil => exact isTrimmed_of_forall (List.forall_mem_nil _)
    | cons s record => exact hcells _ hrecord s List.mem_cons_self
  · rw [childrenOf, List.forall₂_map_right_iff, List.forall₂_same]
    intro cell hcell
    have htrimmed : IsTrimmed isBlank cell.toList := by
      cases records with
      | nil => cases hcell
      | cons header rows => exact hcells header List.mem_cons_self cell (List.mem_of_mem_tail hcell)
    refine ⟨?_, isClean_iff htrimmed⟩
    rw [String.toList_ofList]
    exact stops_reverse_dropMarks htrimmed

/-- A child behind a byte order mark, and one behind a byte order mark and a blank. -/
theorem parse_cleanNames_two_columns :
    let bytes := Utf8.encode ",\ufeffP,\ufeff Span\n L ,1,∅\n".toList
    ∃ t, (parse 44 bytes).2 = .ok t ∧ t.children = [⟨"P"⟩, ⟨" Span"⟩] ∧
      (∀ r ∈ t.relations, IsClean r.parent ∧ r.child ∈ t.children) ∧
      List.Forall₂ (fun cell child => Stops isBlank child.text.toList.reverse ∧
          (IsClean child ↔ ¬ HidesBlank cell))
        ((Delimited.read 44 bytes).records.headD []).tail t.children := by
  intro bytes
  have hread : Delimited.read 44 bytes =
      ⟨[["", "\ufeffP", "\ufeff Span"], ["L", "1", "∅"]], none⟩ := by
    decide +kernel
  obtain ⟨t, ht⟩ : ∃ t, (ofRecords (Delimited.read 44 bytes)).2 = .ok t := by
    rw [hread]
    exact (ofRecords_isOk_iff (by decide)).2 (by unfold AreReadable; decide)
  have hchildren : t.children = [⟨"P"⟩, ⟨" Span"⟩] := by
    rw [children_of_ofRecords_eq_ok ht, hread]
    decide
  exact ⟨t, ht, hchildren, parse_cleanNames ht⟩

/-- A blank behind a byte order mark stays in the name of a child. -/
theorem parse_hidden_blank :
    (parse 44 (Utf8.encode ",\ufeff P\nL,1\n".toList)).2 =
      .ok ⟨[⟨" P"⟩], [⟨⟨"L"⟩, ⟨" P"⟩, .exactlyOne, 1, 1⟩], 0⟩ ∧ ¬ IsClean ⟨" P"⟩ := by
  decide +kernel

end RelationTable

end NestingRules
