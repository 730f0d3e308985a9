import NestingRules.Delimited
import Mathlib.Data.List.Basic

/-!
# Writing delimited text

`WritesRecords` says what it is to write records of raw fields: a field with a special byte stands
between quotation marks, the delimiter stands between the fields of a record, and each record has an
ending, without which the last one may do.  The scanner undoes this for records of at least two
fields (`Delimited.map_fields_scan`), with or without a byte order mark in front.
-/

namespace NestingRules.Delimited

/-! ### The written form -/

/-- The byte does not stand for itself outside quotation marks. -/
def isSpecial (delimiter b : UInt8) : Bool := b == delimiter || b == quote || isTerminator b

/-- A byte between quotation marks. -/
def double (b : UInt8) : List UInt8 := if b == quote then [quote, quote] else [b]

/-- The field between quotation marks. -/
def enquote (field : List UInt8) : List UInt8 := quote :: (field.flatMap double ++ [quote])

/-- How a field is written: between quotation marks, or as it is if it has no special bytes. -/
inductive WritesField (delimiter : UInt8) (field : List UInt8) : List UInt8 → Prop where
  | plain (h : field.any (isSpecial delimiter) = false) : WritesField delimiter field field
  | quoted : WritesField delimiter field (enquote field)

/-- How the fields of a record are written, at least one. -/
inductive WritesFields (delimiter : UInt8) : List (List UInt8) → List UInt8 → Prop where
  | last {field bs : List UInt8} (h : WritesField delimiter field bs) :
      WritesFields delimiter [field] bs
  | cons {field bs cs : List UInt8} {fields : List (List UInt8)}
      (h : WritesField delimiter field bs) (hs : WritesFields delimiter fields cs) :
      WritesFields delimiter (field :: fields) (bs ++ delimiter :: cs)

/-- The endings of a record: a line feed, a carriage return, or both. -/
def endings : List (List UInt8) := [[10], [13, 10], [13]]

/-- How records are written; the last one may have no ending. -/
inductive WritesRecords (delimiter : UInt8) : List (List (List UInt8)) → List UInt8 → Prop where
  | nil : WritesRecords delimiter [] []
  | unended {fields : List (List UInt8)} {bs : List UInt8}
      (h : WritesFields delimiter fields bs) : WritesRecords delimiter [fields] bs
  | cons {fields : List (List UInt8)} {records : List (List (List UInt8))}
      {bs ending cs : List UInt8} (h : WritesFields delimiter fields bs) (he : ending ∈ endings)
      (hs : WritesRecords delimiter records cs) :
      WritesRecords delimiter (fields :: records) (bs ++ (ending ++ cs))

/-- The byte order mark. -/
def mark : List UInt8 := [0xef, 0xbb, 0xbf]

/-! ### Single bytes -/

variable {delimiter b : UInt8} {bs cs field : List UInt8}

theorem isSpecial_eq_false_iff : isSpecial delimiter b = false ↔
    b ≠ delimiter ∧ b ≠ quote ∧ isTerminator b = false := by
  simp [isSpecial, and_assoc]

namespace Mode

variable {m : Mode}

theorem next_of_not_special (hm : m ≠ .quoted ∧ m ≠ .quoteSeen)
    (h : isSpecial delimiter b = false) : m.next delimiter b = (.plain, .copy) := by
  obtain ⟨hd, hq, ht⟩ := isSpecial_eq_false_iff.1 h
  cases m <;> simp_all [next, startField, continueField]

theorem next_delimiter (hq : delimiter ≠ quote) (ht : isTerminator delimiter = false)
    (hm : m ≠ .quoted) : m.next delimiter delimiter = (.fieldStart, .endField) := by
  cases m <;> simp_all [next, startField, continueField]

/-- A line feed or a carriage return ends a record that has begun and whose last field is not
open. -/
theorem next_terminator (hd : b ≠ delimiter) (ht : isTerminator b = true) (hm : m ≠ .quoted)
    (hm' : m ≠ .recordStart) : m.next delimiter b = (.recordStart, .endRecord) := by
  have hq : b ≠ quote := by
    rintro rfl
    cases ht
  cases m <;> simp_all [next, startField, continueField]

end Mode

namespace Scanner

variable {s t u : Scanner} {m n : Mode} {pos start : Position} {fields : List (List UInt8)}

/-- The bytes take the scanner from `s` to `t` and complete no record. -/
def Leads (delimiter : UInt8) (s : Scanner) (bs : List UInt8) (t : Scanner) : Prop :=
  ∀ rest, scan delimiter s (bs ++ rest) = scan delimiter t rest

theorem Leads.nil (s : Scanner) : Leads delimiter s [] s := fun _ => rfl

theorem Leads.append (h : Leads delimiter s bs t) (h' : Leads delimiter t cs u) :
    Leads delimiter s (bs ++ cs) u := by
  intro rest
  rw [List.append_assoc, h, h']

theorem Leads.cons (h : Leads delimiter s [b] t) (h' : Leads delimiter t bs u) :
    Leads delimiter s (b :: bs) u :=
  h.append h'

theorem leads_discard (h : m.next delimiter b = (n, .discard)) :
    Leads delimiter ⟨m, pos, start, fields, field⟩ [b] ⟨n, pos.after b, start, fields, field⟩ := by
  intro rest
  simp [scan, h]

theorem leads_copy (h : m.next delimiter b = (n, .copy)) :
    Leads delimiter ⟨m, pos, start, fields, field⟩ [b]
      ⟨n, pos.after b, start, fields, b :: field⟩ := by
  intro rest
  simp [scan, h]

theorem leads_endField (h : m.next delimiter b = (n, .endField)) :
    Leads delimiter ⟨m, pos, start, fields, field⟩ [b]
      ⟨n, pos.after b, start, field.reverse :: fields, []⟩ := by
  intro rest
  simp [scan, h]

theorem scan_endRecord (h : s.mode.next delimiter b = (n, .endRecord)) (rest : List UInt8) :
    scan delimiter s (b :: rest) = (s.record :: (scan delimiter (behind (s.pos.after b)) rest).1,
      (scan delimiter (behind (s.pos.after b)) rest).2) := by
  simp [scan, h]

/-! ### Fields -/

theorem leads_plain (pos : Position) (field : List UInt8)
    (h : bs.any (isSpecial delimiter) = false) :
    ∃ pos', Leads delimiter ⟨.plain, pos, start, fields, field⟩ bs
      ⟨.plain, pos', start, fields, bs.reverse ++ field⟩ := by
  induction bs generalizing pos field with
  | nil => exact ⟨pos, .nil _⟩
  | cons b bs ih =>
    obtain ⟨hb, hbs⟩ := Bool.or_eq_false_iff.1 h
    have hnext : Mode.plain.next delimiter b = (.plain, .copy) :=
      Mode.next_of_not_special (by simp) hb
    obtain ⟨pos', hrest⟩ := ih (pos.after b) (b :: field) hbs
    rw [List.reverse_cons, List.append_assoc]
    exact ⟨pos', (leads_copy hnext).cons hrest⟩

theorem leads_double (delimiter : UInt8) (pos : Position) (b : UInt8) :
    ∃ pos', Leads delimiter ⟨.quoted, pos, start, fields, field⟩ (double b)
      ⟨.quoted, pos', start, fields, b :: field⟩ := by
  unfold double
  split_ifs with hb
  · have hfirst : Mode.quoted.next delimiter quote = (.quoteSeen, .discard) := rfl
    have hsecond : Mode.quoteSeen.next delimiter quote = (.quoted, .copy) := rfl
    rw [beq_iff_eq.1 hb]
    exact ⟨_, (leads_discard hfirst).cons (leads_copy hsecond)⟩
  · have hnext : Mode.quoted.next delimiter b = (.quoted, .copy) := by simp [Mode.next, hb]
    exact ⟨_, leads_copy hnext⟩

theorem leads_flatMap_double (delimiter : UInt8) (pos : Position) (field bs : List UInt8) :
    ∃ pos', Leads delimiter ⟨.quoted, pos, start, fields, field⟩ (bs.flatMap double)
      ⟨.quoted, pos', start, fields, bs.reverse ++ field⟩ := by
  induction bs generalizing pos field with
  | nil => exact ⟨pos, .nil _⟩
  | cons b bs ih =>
    obtain ⟨pos₁, hb⟩ := leads_double delimiter pos b
    obtain ⟨pos₂, hbs⟩ := ih pos₁ (b :: field)
    rw [List.flatMap_cons, List.reverse_cons, List.append_assoc]
    exact ⟨pos₂, hb.append hbs⟩

/-- A written field is scanned, and it is not open after that. -/
theorem leads_field (h : WritesField delimiter field bs) (hm : m = .recordStart ∨ m = .fieldStart) :
    ∃ n pos', Leads delimiter ⟨m, pos, start, fields, []⟩ bs
      ⟨n, pos', start, fields, field.reverse⟩ ∧ n ≠ .quoted ∧ (n = .recordStart → n = m) := by
  cases h with
  | plain h =>
    cases bs with
    | nil =>
      refine ⟨m, pos, .nil _, ?_, fun _ => rfl⟩
      rcases hm with rfl | rfl <;> simp
    | cons b bs =>
      obtain ⟨hb, hbs⟩ := Bool.or_eq_false_iff.1 h
      have hnext : m.next delimiter b = (.plain, .copy) := by
        refine Mode.next_of_not_special ?_ hb
        rcases hm with rfl | rfl <;> simp
      obtain ⟨pos', hrest⟩ := leads_plain (pos.after b) [b] hbs
      rw [List.reverse_cons]
      exact ⟨.plain, pos', (leads_copy hnext).cons hrest, by simp, by simp⟩
  | quoted =>
    have hopen : m.next delimiter quote = (.quoted, .discard) := by
      rcases hm with rfl | rfl <;> rfl
    have hclose : Mode.quoted.next delimiter quote = (.quoteSeen, .discard) := rfl
    obtain ⟨pos', hbody⟩ := leads_flatMap_double delimiter (pos.after quote) [] field
    rw [List.append_nil] at hbody
    exact ⟨.quoteSeen, _, (leads_discard hopen).cons (hbody.append (leads_discard hclose)),
      by simp, by simp⟩

theorem leads_fields (pos start : Position) (fields : List (List UInt8))
    {written : List (List UInt8)} (hq : delimiter ≠ quote)
    (ht : isTerminator delimiter = false) (h : WritesFields delimiter written bs)
    (hm : m = .recordStart ∨ m = .fieldStart) :
    ∃ t, Leads delimiter ⟨m, pos, start, fields, []⟩ bs t ∧
      t.record.fields = fields.reverse ++ written ∧ t.mode ≠ .quoted ∧
      (t.mode = .recordStart → m = .recordStart ∧ written.length = 1) := by
  induction h generalizing m pos fields with
  | @last field bs hfield =>
    -- only an empty field leaves the scanner where it was, before a record
    obtain ⟨n, pos', hlead, hopen, hstart⟩ := leads_field hfield hm
    refine ⟨_, hlead, by simp [record], hopen, fun hn => ⟨?_, rfl⟩⟩
    exact (hstart hn).symm.trans hn
  | @cons field bs cs written hfield _ ih =>
    obtain ⟨n, pos', hlead, hopen, -⟩ := leads_field hfield hm
    have hend : n.next delimiter delimiter = (.fieldStart, .endField) :=
      Mode.next_delimiter hq ht hopen
    have hnext : Mode.fieldStart = .recordStart ∨ Mode.fieldStart = .fieldStart := .inr rfl
    obtain ⟨t, hrest, hrecord, hquoted, hstart⟩ :=
      ih (pos'.after delimiter) (field.reverse.reverse :: fields) hnext
    refine ⟨t, hlead.append ((leads_endField hend).cons hrest), ?_, hquoted, fun hn => ?_⟩
    · rw [hrecord]
      simp
    · exact absurd (hstart hn).1 (by simp)

/-! ### Records -/

/-- The scanner before the first byte of a record. -/
def atRecord (pos start : Position) : Scanner := ⟨.recordStart, pos, start, [], []⟩

/-- The records that the bytes complete, and the one that they leave without an ending. -/
def records (delimiter : UInt8) (s : Scanner) (bs : List UInt8) : List RawRecord :=
  (scan delimiter s bs).1 ++ ((scan delimiter s bs).2.finish?.map (·.1)).toList

theorem Leads.records_eq (h : Leads delimiter s bs t) (rest : List UInt8) :
    records delimiter s (bs ++ rest) = records delimiter t rest := by
  rw [records, h, records]

theorem records_terminator (hd : isTerminator delimiter = false) (hb : isTerminator b = true)
    (hquoted : s.mode ≠ .quoted) (hstart : s.mode ≠ .recordStart) (rest : List UInt8) :
    records delimiter s (b :: rest) =
      s.record :: records delimiter (atRecord (s.pos.after b) (s.pos.after b)) rest := by
  have hne : b ≠ delimiter := by
    rintro rfl
    rw [hb] at hd
    cases hd
  rw [records, scan_endRecord (Mode.next_terminator hne hb hquoted hstart)]
  rfl

/-- An ending completes the record, and the scanner is before the next one. -/
theorem records_ending {ending : List UInt8} (he : ending ∈ endings)
    (hd : isTerminator delimiter = false) (hquoted : s.mode ≠ .quoted)
    (hstart : s.mode ≠ .recordStart) :
    ∃ pos start, ∀ rest, records delimiter s (ending ++ rest) =
      s.record :: records delimiter (atRecord pos start) rest := by
  simp only [endings, List.mem_cons, List.not_mem_nil, or_false] at he
  rcases he with rfl | rfl | rfl
  · exact ⟨_, _, records_terminator hd rfl hquoted hstart⟩
  · refine ⟨(s.pos.after 13).after 10, s.pos.after 13, fun rest => ?_⟩
    have hskip : Mode.recordStart.next delimiter 10 = (.recordStart, .discard) := rfl
    -- the line feed after the carriage return is passed over before the next record
    rw [List.cons_append, records_terminator hd rfl hquoted hstart]
    exact congrArg _ ((leads_discard hskip).records_eq rest)
  · exact ⟨_, _, records_terminator hd rfl hquoted hstart⟩

theorem map_fields_records {written : List (List (List UInt8))} (hq : delimiter ≠ quote)
    (ht : isTerminator delimiter = false) (h : WritesRecords delimiter written bs)
    (hlen : ∀ fields ∈ written, 2 ≤ fields.length) :
    (records delimiter (atRecord pos start) bs).map (·.fields) = written := by
  induction h generalizing pos start with
  | nil => rfl
  | @unended written bs hfields =>
    obtain ⟨t, hlead, hrecord, hquoted, hstart⟩ :=
      leads_fields pos start [] hq ht hfields (Or.inl rfl)
    have hscan : scan delimiter (atRecord pos start) bs = ([], t) := by
      have h := hlead []
      rwa [List.append_nil] at h
    have hmode : t.mode ≠ .recordStart := by
      intro hm
      have hone := (hstart hm).2
      have htwo := hlen written (List.mem_singleton.2 rfl)
      omega
    -- the record has begun, so the end of the text completes it
    simp [records, hscan, finish?, hmode, hrecord]
  | @cons fields written bs ending cs hfields he _ ih =>
    obtain ⟨htwo, hlen⟩ := List.forall_mem_cons.1 hlen
    obtain ⟨t, hlead, hrecord, hquoted, hstart⟩ :=
      leads_fields pos start [] hq ht hfields (Or.inl rfl)
    have hmode : t.mode ≠ .recordStart := by
      intro hm
      have hone := (hstart hm).2
      omega
    obtain ⟨pos', start', hend⟩ := records_ending he ht hquoted hmode
    have hrecords : records delimiter (atRecord pos start) (bs ++ (ending ++ cs)) =
        t.record :: records delimiter (atRecord pos' start') cs := by
      rw [← hend]
      exact hlead.records_eq _
    rw [hrecords, List.map_cons, hrecord, ih hlen]
    rfl

end Scanner

open Scanner in
/-- **Scanning undoes writing** of records with at least two fields each, with or without a byte
order mark in front. -/
theorem map_fields_scan {written : List (List (List UInt8))} (hq : delimiter ≠ quote)
    (ht : isTerminator delimiter = false) (h : WritesRecords delimiter written bs)
    (hlen : ∀ fields ∈ written, 2 ≤ fields.length) :
    (scan delimiter (mark ++ bs)).map (·.fields) = written ∧
      (¬ mark <+: bs → (scan delimiter bs).map (·.fields) = written) := by
  refine ⟨map_fields_records hq ht h hlen, fun hmark => ?_⟩
  have hskip : Scanner.skipMark {} bs = ({}, bs) := by
    unfold Scanner.skipMark
    split
    · exact absurd (List.prefix_append mark _) hmark
    · rfl
  have hscan : scan delimiter bs = Scanner.records delimiter (atRecord ⟨0, 1⟩ ⟨0, 1⟩) bs := by
    rw [scan, feed, hskip]
    rfl
  rw [hscan, map_fields_records hq ht h hlen]

end NestingRules.Delimited
