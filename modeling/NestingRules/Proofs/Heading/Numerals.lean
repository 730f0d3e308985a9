import NestingRules.StructureType
import NestingRules.Proofs.Text.Digits

/-!
# Numbered headings and numerals

The pattern without a limit accepts the letter `H` before the numeral of a positive number, however
long, and nothing else (`HeadingPattern.accepts_unlimited_iff`).  The other one accepts the same for
the numbers up to six (`HeadingPattern.accepts_upToSix_iff`).
-/

namespace NestingRules.HeadingPattern

theorem isLevel_iff {d : Char} : ('1' ≤ d && d ≤ '9') = true ↔ d.isDigit ∧ d ≠ '0' := by
  have hzero : d ≠ '0' ↔ d.toNat ≠ 48 := Char.toNat_inj.not.symm
  have hlevel : ('1' ≤ d && d ≤ '9') = true ↔ 49 ≤ d.toNat ∧ d.toNat ≤ 57 := by
    rw [Bool.and_eq_true, decide_eq_true_iff, decide_eq_true_iff]
    exact Iff.rfl
  have hdigit : d.isDigit ↔ 48 ≤ d.toNat ∧ d.toNat ≤ 57 := Char.isDigit_iff_toNat
  rw [hzero, hlevel, hdigit]
  omega

theorem acceptsChars_unlimited_iff {cs : List Char} : unlimited.acceptsChars cs = true ↔
    ∃ n, 1 ≤ n ∧ cs = 'H' :: Nat.toDigits 10 n := by
  have hdigits : ∀ ds, unlimited.acceptsChars ('H' :: ds) = true ↔
      ∃ n, 1 ≤ n ∧ ds = Nat.toDigits 10 n := by
    intro ds
    rw [exists_eq_toDigits_iff]
    cases ds with
    | nil => simp [acceptsChars]
    | cons d ds =>
      have hall : ds.all (fun c => '0' ≤ c && c ≤ '9') = ds.all Char.isDigit := rfl
      rw [acceptsChars, hall, Bool.and_eq_true, isLevel_iff, and_right_comm]
      simp
  cases cs with
  | nil => simp [acceptsChars]
  | cons c cs =>
    by_cases hc : c = 'H'
    · rw [hc, hdigits]
      simp
    · simp [acceptsChars, hc]

theorem toList_level (n : Nat) : ("H" ++ toString n).toList = 'H' :: Nat.toDigits 10 n := by
  simp

/-- **Numbered headings are written with the numerals of the positive numbers.** -/
theorem accepts_unlimited_iff {name : String} : unlimited.accepts name = true ↔
    ∃ n : Nat, 1 ≤ n ∧ name = "H" ++ toString n := by
  rw [accepts, acceptsChars_unlimited_iff]
  refine exists_congr fun n => and_congr_right fun _ => ?_
  rw [← String.toList_inj, toList_level]

theorem exists_of_acceptsChars_upToSix {cs : List Char} (h : upToSix.acceptsChars cs = true) :
    ∃ d, cs = ['H', d] ∧ 49 ≤ d.toNat ∧ d.toNat ≤ 54 := by
  rcases cs with _ | ⟨c, _ | ⟨d, _ | ⟨e, cs⟩⟩⟩
  · cases h
  · simp [acceptsChars] at h
  · by_cases hc : c = 'H'
    · rw [hc, acceptsChars, Bool.and_eq_true, decide_eq_true_iff, decide_eq_true_iff] at h
      exact ⟨d, by rw [hc], h⟩
    · simp [acceptsChars, hc] at h
  · simp [acceptsChars] at h

theorem accepts_upToSix_iff {name : String} : upToSix.accepts name = true ↔
    ∃ n : Nat, 1 ≤ n ∧ n ≤ 6 ∧ name = "H" ++ toString n := by
  constructor
  · intro h
    obtain ⟨d, hname, hlow, hhigh⟩ := exists_of_acceptsChars_upToSix h
    have hdigit : 48 ≤ d.toNat ∧ d.toNat ≤ 57 := ⟨by omega, by omega⟩
    obtain ⟨hlt, hd⟩ := digitChar_of_isDigit (Char.isDigit_iff_toNat.2 hdigit)
    refine ⟨d.toNat - 48, by omega, by omega, String.toList_inj.1 ?_⟩
    rw [hname, toList_level, Nat.toDigits_of_lt_base hlt, hd]
  · rintro ⟨n, hlow, hhigh, rfl⟩
    have key : ∀ n < 7, 1 ≤ n → upToSix.accepts ("H" ++ toString n) = true := by decide
    exact key n (by omega) hlow

theorem accepts_unlimited_of_accepts {pattern : HeadingPattern} {name : String}
    (h : pattern.accepts name = true) : unlimited.accepts name = true := by
  cases pattern with
  | unlimited => exact h
  | upToSix =>
    obtain ⟨n, hn, -, rfl⟩ := accepts_upToSix_iff.1 h
    exact accepts_unlimited_iff.2 ⟨n, hn, rfl⟩

end NestingRules.HeadingPattern
