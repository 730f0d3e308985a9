import NestingRules.Revision
import NestingRules.Text.CaseFolding
import Mathlib.Data.List.Chain

/-!
# How revisions are spelled

A revision is read by its name or its number, whatever the case of the letters.  Reading turns the
text into upper case, where one character may become several; still, the texts whose upper case is
a given spelling are those that differ from it in the case of characters alone
(`Revision.flatMap_upperCase_eq_iff`).  No character but a letter and its small form has the letter
for upper case, and the characters that become several are the ligatures of `F` at best, which fit
nowhere because no spelling has two of these letters in a row.

The family mark may stand in front of the number not once only but any number of times, and nothing
else is read (`Revision.parse_spellings`).
-/

namespace NestingRules

/-- The texts differ in the case of characters only. -/
def Text.SameUpToCase (s t : String) : Prop :=
  s.toList.map (fun c => foldCode c.toNat) = t.toList.map fun c => foldCode c.toNat

instance (s t : String) : Decidable (Text.SameUpToCase s t) :=
  inferInstanceAs (Decidable (_ = _))

namespace Revision

open Text

/-- The name of a revision without the family mark. -/
def number : Revision → String
  | pdf17 => "1.7"
  | pdf20 => "2.0"

/-- The number of a revision behind family marks. -/
def spelling (marks : Nat) (r : Revision) : String :=
  String.join (List.replicate marks "PDF-") ++ r.number

/-- The characters in the spellings of revisions. -/
def letters : List Char := ['P', 'D', 'F', '-', '1', '.', '7', '2', '0']

variable {a b c : Char} {cs ds tail : List Char} {n : Nat}

/-! ### The case of characters -/

/-- What is claimed of the letters alone is decided letter by letter, and not for all characters. -/
theorem forall_letters {P : Char → Prop} [DecidablePred P] (h : letters.all (P ·) = true) :
    ∀ a ∈ letters, P a := by
  simpa only [List.all_eq_true, decide_eq_true_eq] using h

theorem find?_cases {α : Type} (p : α → Bool) (xs : List α) :
    xs.find? p = none ∨ ∃ x ∈ xs, p x = true ∧ xs.find? p = some x := by
  cases h : xs.find? p with
  | none => exact .inl rfl
  | some x => exact .inr ⟨x, List.mem_of_find?_eq_some h, List.find?_some h, rfl⟩

theorem upperCodes_cases (n : Nat) : upperCodes n = [n] ∨
    ∃ r ∈ upperRanges, r.contains n = true ∧ upperCodes n = r.image n := by
  rcases find?_cases (·.contains n) upperRanges with h | ⟨r, hr, hn, h⟩
  · exact .inl (by rw [upperCodes, h])
  · exact .inr ⟨r, hr, hn, by rw [upperCodes, h]⟩

theorem foldCode_cases (n : Nat) : foldCode n = n ∨
    ∃ r ∈ foldingRanges, r.contains n = true ∧ foldCode n = n - r.distance := by
  rcases find?_cases (·.contains n) foldingRanges with h | ⟨r, hr, hn, h⟩
  · exact .inl (by rw [foldCode, h])
  · exact .inr ⟨r, hr, hn, by rw [foldCode, h]⟩

theorem ofNat_eq_iff (ha : a ∈ letters) : Char.ofNat n = a ↔ n = a.toNat := by
  constructor
  · rintro rfl
    by_cases h : n.isValidChar
    · rw [Char.ofNat, dif_pos h]
      rfl
    · -- what is no character is read as the one with number zero
      have hzero : '\x00' ∉ letters := by decide
      rw [Char.ofNat, dif_neg h] at ha
      exact absurd ha hzero
  · rintro rfl
    exact Char.ofNat_toNat a

theorem upperCase_eq_singleton_iff (ha : a ∈ letters) :
    upperCase c = [a] ↔ c = a ∨ c = a.toLower := by
  constructor
  · intro h
    obtain ⟨m, tail, hcodes, hm, htail⟩ := List.map_eq_cons_iff.1 h
    rw [ofNat_eq_iff ha] at hm
    rw [List.map_eq_nil_iff] at htail
    rw [hm, htail] at hcodes
    rcases upperCodes_cases c.toNat with hself | ⟨r, hr, hc, himage⟩
    · rw [hself, List.singleton_inj] at hcodes
      exact .inl (Char.toNat_inj.1 hcodes)
    · have key : ∀ a ∈ letters, ∀ r ∈ upperRanges, r.target ≤ a.toNat →
          r.contains (r.first + (a.toNat - r.target)) = true → r.tail = [] →
            r.first + (a.toNat - r.target) = a.toLower.toNat :=
        forall_letters (by decide +kernel)
      rw [himage, UpperRange.image, List.cons_eq_cons] at hcodes
      have hfirst : r.first ≤ c.toNat := by
        simp only [UpperRange.contains, Bool.and_eq_true, decide_eq_true_eq] at hc
        exact hc.1.1
      have hn : c.toNat = r.first + (a.toNat - r.target) := by omega
      rw [hn] at hc
      exact .inr (Char.toNat_inj.1 (hn.trans (key a ha r hr (by omega) hc hcodes.2)))
  · have key : ∀ a ∈ letters, upperCase a = [a] ∧ upperCase a.toLower = [a] :=
      forall_letters (by decide)
    rintro (rfl | rfl)
    · exact (key c ha).1
    · exact (key a ha).2

theorem foldCode_eq_iff (ha : a ∈ letters) :
    foldCode c.toNat = foldCode a.toNat ↔ c = a ∨ c = a.toLower := by
  have hself : ∀ a ∈ letters,
      foldCode a.toNat = a.toNat ∧ foldCode a.toLower.toNat = a.toNat ∧ 0 < a.toNat :=
    forall_letters (by decide)
  rw [(hself a ha).1]
  constructor
  · intro h
    rcases foldCode_cases c.toNat with hc | ⟨r, hr, hc, hfold⟩
    · exact .inl (Char.toNat_inj.1 (hc.symm.trans h))
    · have key : ∀ a ∈ letters, ∀ r ∈ foldingRanges, r.contains (a.toNat + r.distance) = true →
          a.toNat + r.distance = a.toLower.toNat :=
        forall_letters (by decide +kernel)
      have := (hself a ha).2.2
      have hn : c.toNat = a.toNat + r.distance := by omega
      rw [hn] at hc
      exact .inr (Char.toNat_inj.1 (hn.trans (key a ha r hr hc)))
  · rintro (rfl | rfl)
    · exact (hself c ha).1
    · exact (hself a ha).2.1

theorem upperCase_ne_nil (c : Char) : upperCase c ≠ [] := by
  rw [upperCase, Ne, List.map_eq_nil_iff]
  rcases upperCodes_cases c.toNat with h | ⟨r, -, -, h⟩
  · rw [h]
    exact List.cons_ne_nil _ _
  · rw [h]
    exact List.cons_ne_nil _ _

theorem eq_of_upperCase_eq_cons_cons (ha : a ∈ letters) (hb : b ∈ letters)
    (h : upperCase c = a :: b :: tail) : a = 'F' ∧ b = 'F' := by
  obtain ⟨m, codes, hcodes, hm, hrest⟩ := List.map_eq_cons_iff.1 h
  obtain ⟨k, codes, rfl, hk, -⟩ := List.map_eq_cons_iff.1 hrest
  rw [ofNat_eq_iff ha] at hm
  rw [ofNat_eq_iff hb] at hk
  rcases upperCodes_cases c.toNat with hself | ⟨r, hr, hc, himage⟩
  · rw [hself] at hcodes
    cases hcodes
  · have key : ∀ b ∈ letters, ∀ r ∈ upperRanges, r.tail.head? = some b.toNat →
        r.first = r.last ∧ r.target = 'F'.toNat ∧ b = 'F' :=
      forall_letters (by decide +kernel)
    rw [himage, UpperRange.image, List.cons_eq_cons] at hcodes
    obtain ⟨hhead, htail⟩ := hcodes
    obtain ⟨hlast, htarget, hF⟩ := key b hb r hr (by rw [htail, List.head?_cons, hk])
    simp only [UpperRange.contains, Bool.and_eq_true, decide_eq_true_eq] at hc
    exact ⟨Char.toNat_inj.1 (by omega), hF⟩

/-! ### The case of spellings -/

/-- Made of letters of spellings, with no two `F` next to each other. -/
structure IsPlain (ds : List Char) : Prop where
  letters : ds ⊆ letters
  chain : ds.IsChain fun a b => a = 'F' → b ≠ 'F'

theorem IsPlain.of_cons (h : IsPlain (a :: ds)) : IsPlain ds :=
  ⟨(List.cons_subset.1 h.letters).2, (List.isChain_cons.1 h.chain).2⟩

theorem upperCase_eq_singleton_iff_foldCode (ha : a ∈ letters) :
    upperCase c = [a] ↔ foldCode c.toNat = foldCode a.toNat :=
  (upperCase_eq_singleton_iff ha).trans (foldCode_eq_iff ha).symm

/-- **A plain text is the upper case of the texts that differ from it in case alone.** -/
theorem flatMap_upperCase_eq_iff (h : IsPlain ds) : cs.flatMap upperCase = ds ↔
    cs.map (fun c => foldCode c.toNat) = ds.map fun c => foldCode c.toNat := by
  constructor
  · intro heq
    induction cs generalizing ds with
    | nil =>
      rw [← heq]
      rfl
    | cons c cs ih =>
      obtain ⟨a, tail, hc⟩ := List.exists_cons_of_ne_nil (upperCase_ne_nil c)
      rw [List.flatMap_cons, hc, List.cons_append] at heq
      subst heq
      have ha := h.letters List.mem_cons_self
      cases tail with
      | nil =>
        rw [List.map_cons, List.map_cons, (upperCase_eq_singleton_iff_foldCode ha).1 hc,
          ih h.of_cons rfl]
      | cons b tail =>
        -- the characters whose upper case is longer have no place in a plain text
        have hb : b ∈ letters := h.letters (by simp)
        obtain ⟨rfl, rfl⟩ := eq_of_upperCase_eq_cons_cons ha hb hc
        have hchain := (List.isChain_cons_cons.1 h.chain).1
        exact absurd rfl (hchain rfl)
  · intro heq
    induction ds generalizing cs with
    | nil =>
      rw [List.map_nil, List.map_eq_nil_iff] at heq
      rw [heq, List.flatMap_nil]
    | cons d ds ih =>
      obtain ⟨c, cs, rfl, hd, hds⟩ := List.map_eq_cons_iff.1 heq
      have hc := (upperCase_eq_singleton_iff_foldCode (h.letters List.mem_cons_self)).2 hd
      rw [List.flatMap_cons, hc, ih h.of_cons hds]
      rfl

/-! ### Spellings -/

/-- The family mark. -/
def family : List Char := ['P', 'D', 'F', '-']

theorem IsPlain.family_append (h : IsPlain ds) : IsPlain (family ++ ds) where
  letters := List.append_subset.2 ⟨by decide, h.letters⟩
  chain := by
    have hdash : ('-' :: ds).IsChain fun a b => a = 'F' → b ≠ 'F' :=
      List.isChain_cons.2 ⟨fun _ _ hF => absurd hF (by decide), h.chain⟩
    simp only [family, List.cons_append, List.nil_append, List.isChain_cons_cons]
    exact ⟨by decide, by decide, by decide, hdash⟩

theorem toList_spelling (marks : Nat) (r : Revision) :
    (spelling marks r).toList = (List.replicate marks family).flatten ++ r.number.toList := by
  have hmark : "PDF-".toList = family := by decide
  rw [spelling, String.toList_append, String.toList_join, List.flatMap_def, List.map_replicate,
    hmark]

theorem isPlain_spelling (marks : Nat) (r : Revision) : IsPlain (spelling marks r).toList := by
  rw [toList_spelling]
  induction marks with
  | zero => cases r <;> exact ⟨by decide, by decide⟩
  | succ marks ih =>
    rw [List.replicate_succ, List.flatten_cons, List.append_assoc]
    exact ih.family_append

/-- Dropping family marks leaves the texts that begin with none. -/
theorem dropFamily_eq_iff (h : ¬ family <+: ds) : dropFamily cs = ds ↔
    ∃ marks, cs = (List.replicate marks family).flatten ++ ds := by
  fun_induction dropFamily cs with
  | case1 cs ih =>
    rw [ih]
    constructor
    · rintro ⟨marks, rfl⟩
      exact ⟨marks + 1, rfl⟩
    · rintro ⟨marks, hcs⟩
      cases marks with
      | zero => exact absurd ⟨cs, hcs⟩ h
      | succ marks => exact ⟨marks, (List.append_right_inj family).1 hcs⟩
  | case2 cs hcs =>
    constructor
    · rintro rfl
      exact ⟨0, rfl⟩
    · rintro ⟨marks, rfl⟩
      cases marks with
      | zero => rfl
      | succ marks => exact absurd rfl (hcs _)

theorem parse_eq_ok_iff_dropFamily {s : String} {r : Revision} : parse s = .ok r ↔
    dropFamily ((trimBy isBlank s.toList).flatMap upperCase) = r.number.toList := by
  unfold parse
  split
  · next h => cases r <;> simp [h, number]
  · next h => cases r <;> simp [h, number]
  · next h17 h20 =>
    cases r with
    | pdf17 => exact iff_of_false (by simp) h17
    | pdf20 => exact iff_of_false (by simp) h20

/-- The spellings of a revision are its number behind family marks, in letters of any case. -/
theorem parse_eq_ok_iff {s : String} {r : Revision} :
    parse s = .ok r ↔ ∃ marks, SameUpToCase (trim s) (spelling marks r) := by
  have hnumber : ¬ family <+: r.number.toList := by cases r <;> decide
  rw [parse_eq_ok_iff_dropFamily, dropFamily_eq_iff hnumber]
  refine exists_congr fun marks => ?_
  rw [← toList_spelling, flatMap_upperCase_eq_iff (isPlain_spelling marks r), SameUpToCase, trim,
    String.toList_ofList]

theorem eq_of_parse_eq_error {s : String} {e : UnknownRevision} (h : parse s = .error e) :
    e = ⟨s⟩ := by
  unfold parse at h
  split at h <;> cases h
  rfl

theorem spelling_zero (r : Revision) : spelling 0 r = r.number := by cases r <;> decide

theorem spelling_one (r : Revision) : spelling 1 r = r.label := by cases r <;> decide

/-- **Reading a revision accepts its name and its number**, in letters of any case and with blanks
around it, and besides the number behind more than one family mark; every other text is given back
as it was. -/
theorem parse_spellings (s : String) :
    (∀ r, parse s = .ok r ↔ SameUpToCase (trim s) r.label ∨ SameUpToCase (trim s) r.number ∨
      ∃ marks, 2 ≤ marks ∧ SameUpToCase (trim s) (spelling marks r)) ∧
    ∀ e, parse s = .error e ↔ e = ⟨s⟩ ∧ ∀ r marks, ¬ SameUpToCase (trim s) (spelling marks r) := by
  refine ⟨fun r => ?_, fun e => ⟨fun h => ⟨eq_of_parse_eq_error h, fun r marks hr => ?_⟩, ?_⟩⟩
  · rw [parse_eq_ok_iff, ← spelling_zero, ← spelling_one]
    constructor
    · rintro ⟨marks, h⟩
      match marks, h with
      | 0, h => exact .inr (.inl h)
      | 1, h => exact .inl h
      | marks + 2, h => exact .inr (.inr ⟨marks + 2, by omega, h⟩)
    · rintro (h | h | ⟨marks, -, h⟩)
      · exact ⟨1, h⟩
      · exact ⟨0, h⟩
      · exact ⟨marks, h⟩
  · rw [parse_eq_ok_iff.2 ⟨marks, hr⟩] at h
    cases h
  · rintro ⟨rfl, hnone⟩
    cases h : parse s with
    | ok r =>
      obtain ⟨marks, hr⟩ := parse_eq_ok_iff.1 h
      exact absurd hr (hnone r marks)
    | error e => rw [eq_of_parse_eq_error h]

/-- Two family marks are read, although that is neither the name of a revision nor its number. -/
theorem parse_two_marks : parse "PDF-PDF-1.7" = .ok .pdf17 ∧ ∀ r : Revision,
    ¬ SameUpToCase (trim "PDF-PDF-1.7") r.label ∧ ¬ SameUpToCase (trim "PDF-PDF-1.7") r.number := by
  refine ⟨by decide, ?_⟩
  rintro (_ | _) <;> decide

end Revision

end NestingRules
