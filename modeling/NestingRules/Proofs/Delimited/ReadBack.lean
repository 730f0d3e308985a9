import NestingRules.Proofs.Delimited.Writing
import NestingRules.Proofs.Text.Utf8
import Mathlib.Data.List.Forall2

/-!
# Reading delimited text back

Records of texts are written as bytes with any padding around each text.  Reading them takes the
padding off and gives the records back (`Delimited.read_of_writes`), provided that no text has
blanks at its ends and that the first one is not taken for a byte order mark.
-/

namespace NestingRules.Delimited

open Text

/-- The raw field holds the text with blanks around it. -/
def Encodes (s : String) (field : List UInt8) : Prop :=
  ∃ cs, Padded isBlank s.toList cs ∧ field = Utf8.encode cs

/-- How records of texts are written, with or without a byte order mark in front. -/
def Writes (delimiter : UInt8) (records : List (List String)) (bytes : List UInt8) : Prop :=
  ∃ fields bs, List.Forall₂ (List.Forall₂ Encodes) records fields ∧
    WritesRecords delimiter fields bs ∧ (bytes = bs ∨ bytes = mark ++ bs)

variable {delimiter : UInt8} {s : String} {field bs bytes : List UInt8} {record : List String}
  {records : List (List String)} {fields : List (List UInt8)}

theorem encodes_padded (s : String) (before after : List Char) (hb : before.all isBlank = true)
    (ha : after.all isBlank = true) : Encodes s (Utf8.encode (before ++ s.toList ++ after)) :=
  ⟨_, ⟨before, after, List.all_eq_true.1 hb, List.all_eq_true.1 ha, rfl⟩, rfl⟩

theorem encodes_self (s : String) : Encodes s (Utf8.encode s.toList) := by
  have h := encodes_padded s [] [] rfl rfl
  rwa [List.nil_append, List.append_nil] at h

/-! ### Decoding -/

theorem decodeField_of_encodes (h : Encodes s field) (ht : IsTrimmed isBlank s.toList) :
    decodeField field = .ok s := by
  obtain ⟨cs, hpad, rfl⟩ := h
  -- cutting blank bytes first takes a part of the padding only
  have hinner : Padded isBlank s.toList (trimBy Utf8.isBlankAscii cs) :=
    hpad.trimBy ht fun c => Utf8.isBlank_of_isBlankAscii
  rw [decodeField, Utf8.trimBy_encode, Utf8.decode_encode]
  simp only [Except.map, trimBy_of_padded hinner ht, String.ofList_toList]

theorem decodeFields_of_forall₂ (h : List.Forall₂ Encodes record fields)
    (ht : ∀ s ∈ record, IsTrimmed isBlank s.toList) (i : Nat) :
    decodeFields i fields = .ok record := by
  induction h generalizing i with
  | nil => rfl
  | cons hs _ ih =>
    obtain ⟨hfirst, hrest⟩ := List.forall_mem_cons.1 ht
    rw [decodeFields, decodeField_of_encodes hs hfirst]
    simp only [ih hrest, Except.map]

theorem decodeRecords_of_forall₂ {raw : List RawRecord}
    (h : List.Forall₂ (List.Forall₂ Encodes) records (raw.map (·.fields)))
    (ht : ∀ record ∈ records, ∀ s ∈ record, IsTrimmed isBlank s.toList) (i : Nat) :
    decodeRecords i raw = ⟨records, none⟩ := by
  induction raw generalizing records i with
  | nil =>
    cases h
    rfl
  | cons r raw ih =>
    obtain ⟨record, records, hr, hrs, rfl⟩ := List.forall₂_cons_right_iff.1 h
    obtain ⟨hfirst, hrest⟩ := List.forall_mem_cons.1 ht
    rw [decodeRecords, decodeFields_of_forall₂ hr hfirst, ih hrs hrest]

/-! ### The first byte -/

/-- The byte is the first one of a byte order mark. -/
def opensMark (b : UInt8) : Bool := b == 0xef

theorem not_mark_prefix (h : Stops opensMark bs) : ¬ mark <+: bs := by
  rintro ⟨cs, rfl⟩
  exact absurd (h 0xef rfl) (by decide)

theorem stops_of_writesField (h : WritesField delimiter field bs) (hfield : Stops opensMark field) :
    Stops opensMark bs := by
  cases h with
  | plain => exact hfield
  | quoted => exact stops_cons.2 rfl

theorem stops_of_writesFields (hd : opensMark delimiter = false)
    (h : WritesFields delimiter fields bs)
    (hfirst : ∀ field ∈ fields.head?, Stops opensMark field) : Stops opensMark bs := by
  cases h with
  | last hfield => exact stops_of_writesField hfield (hfirst _ rfl)
  | cons hfield _ =>
    exact (stops_of_writesField hfield (hfirst _ rfl)).append_stops (stops_cons.2 hd)

/-- What is written opens no byte order mark if the first field opens none. -/
theorem stops_of_writesRecords {written : List (List (List UInt8))}
    (hd : opensMark delimiter = false) (h : WritesRecords delimiter written bs)
    (hfirst : ∀ fields ∈ written.head?, ∀ field ∈ fields.head?, Stops opensMark field) :
    Stops opensMark bs := by
  cases h with
  | nil => exact stops_nil
  | unended hfields => exact stops_of_writesFields hd hfields (hfirst _ rfl)
  | cons hfields hending _ =>
    refine (stops_of_writesFields hd hfields (hfirst _ rfl)).append_stops ?_
    simp only [endings, List.mem_cons, List.not_mem_nil, or_false] at hending
    rcases hending with rfl | rfl | rfl <;> exact stops_cons.2 rfl

theorem stops_of_encodes_empty (h : Encodes "" field) : Stops opensMark field := by
  obtain ⟨cs, hpad, rfl⟩ := h
  cases cs with
  | nil => exact stops_nil
  | cons c cs =>
    have hblank : isBlank c := padded_nil_iff.1 hpad c List.mem_cons_self
    have hlow : c.toNat < 0xf000 := by
      simp only [isBlank, Bool.or_eq_true, Bool.and_eq_true, decide_eq_true_eq,
        beq_iff_eq] at hblank
      omega
    have hhead : Stops opensMark (String.utf8EncodeChar c) := by
      intro b hb
      exact beq_eq_false_iff_ne.2 (Utf8.head?_utf8EncodeChar_ne hlow b hb)
    exact hhead.append String.utf8EncodeChar_ne_nil

theorem stops_of_forall₂ {header : List String} {written : List (List (List UInt8))}
    (h : List.Forall₂ (List.Forall₂ Encodes) (("" :: header) :: records) written) :
    ∀ fields ∈ written.head?, ∀ field ∈ fields.head?, Stops opensMark field := by
  obtain ⟨fields, written, hfields, -, rfl⟩ := List.forall₂_cons_left_iff.1 h
  obtain ⟨field, fields, hfield, -, rfl⟩ := List.forall₂_cons_left_iff.1 hfields
  rintro _ ⟨⟩ _ ⟨⟩
  exact stops_of_encodes_empty hfield

/-! ### Reading -/

theorem length_of_forall₂ {n : Nat} {written : List (List (List UInt8))}
    (h : List.Forall₂ (List.Forall₂ Encodes) records written)
    (hlen : ∀ record ∈ records, n ≤ record.length) : ∀ fields ∈ written, n ≤ fields.length := by
  induction h with
  | nil =>
    intro fields hfields
    cases hfields
  | cons hfields _ ih =>
    obtain ⟨hfirst, hrest⟩ := List.forall_mem_cons.1 hlen
    exact List.forall_mem_cons.2 ⟨hfields.length_eq ▸ hfirst, ih hrest⟩

/-- **Reading undoes writing** of trimmed texts in records of at least two, the first of all texts
being empty. -/
theorem read_of_writes {header : List String} (hq : delimiter ≠ quote)
    (ht : isTerminator delimiter = false) (hd : opensMark delimiter = false)
    (h : Writes delimiter (("" :: header) :: records) bytes)
    (htrim : ∀ record ∈ ("" :: header) :: records, ∀ s ∈ record, IsTrimmed isBlank s.toList)
    (hlen : ∀ record ∈ ("" :: header) :: records, 2 ≤ record.length) :
    read delimiter bytes = ⟨("" :: header) :: records, none⟩ := by
  obtain ⟨written, bs, hencodes, hwrites, hbytes⟩ := h
  have hmark : ¬ mark <+: bs :=
    not_mark_prefix (stops_of_writesRecords hd hwrites (stops_of_forall₂ hencodes))
  obtain ⟨hmarked, hplain⟩ := map_fields_scan hq ht hwrites (length_of_forall₂ hencodes hlen)
  have hscan : (scan delimiter bytes).map (·.fields) = written := by
    rcases hbytes with rfl | rfl
    · exact hplain hmark
    · exact hmarked
  rw [read]
  exact decodeRecords_of_forall₂ (hscan.symm ▸ hencodes) htrim 0

end NestingRules.Delimited
