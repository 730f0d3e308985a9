import NestingRules.Instant.Rfc3339
import NestingRules.Proofs.Text.Trim
import Mathlib.Algebra.Group.Nat.Defs
import Mathlib.Data.List.Induction

/-!
# Decimal digits

Numbers are written with the digits of `Nat.toDigits 10`, which are read back as the number, with
or without zeros in front of them.  Digits without a zero in front are those of a positive number
(`exists_eq_toDigits_iff`).
-/

namespace NestingRules

/-! ### The digits of a number -/

section Digits

variable {n width : Nat} {c : Char} {ds : List Char}

theorem isDigit_of_mem_toDigits (h : c ∈ Nat.toDigits 10 n) : c.isDigit :=
  Nat.isDigit_of_mem_toDigits (by omega) (by omega) h

theorem exists_toDigits_eq_cons (n : Nat) :
    ∃ d ds, Nat.toDigits 10 n = d :: ds ∧ d.isDigit := by
  obtain ⟨d, ds, hds⟩ := List.exists_cons_of_ne_nil (Nat.toDigits_ne_nil (n := n) (b := 10))
  exact ⟨d, ds, hds, isDigit_of_mem_toDigits (hds ▸ List.mem_cons_self)⟩

theorem toDigits_inj {m : Nat} : Nat.toDigits 10 m = Nat.toDigits 10 n ↔ m = n := by
  refine ⟨fun h => ?_, congrArg _⟩
  rw [← Nat.ofDigitChars_ten_toDigits (n := m), h, Nat.ofDigitChars_ten_toDigits]

theorem head?_toDigits_ne (h : 0 < n) : (Nat.toDigits 10 n).head? ≠ some '0' := by
  induction n using Nat.strong_induction_on with
  | _ n ih =>
    -- the digits of `n / 10` come first, down to a number with one digit
    by_cases hn : n < 10
    · rw [Nat.toDigits_of_lt_base hn]
      intro h0
      have hval := Nat.toNat_digitChar_sub_48_of_lt_ten hn
      rw [Option.some.inj h0] at hval
      exact h.ne hval
    · have hdiv : 0 < n / 10 := by omega
      obtain ⟨d, ds, hds, -⟩ := exists_toDigits_eq_cons (n / 10)
      have hhead := ih (n / 10) (by omega) hdiv
      rw [Nat.toDigits_of_base_le (by omega) (by omega), hds]
      rw [hds] at hhead
      exact hhead

theorem pos_of_head?_toDigits_ne (h : (Nat.toDigits 10 n).head? ≠ some '0') : 0 < n := by
  refine Nat.pos_of_ne_zero fun hzero => h ?_
  rw [hzero, Nat.toDigits_zero]
  rfl

theorem digitChar_of_isDigit (h : c.isDigit) :
    c.toNat - 48 < 10 ∧ Nat.digitChar (c.toNat - 48) = c := by
  obtain ⟨hlow, hhigh⟩ : 48 ≤ c.toNat ∧ c.toNat ≤ 57 := Char.isDigit_iff_toNat.1 h
  have hlt : c.toNat - 48 < 10 := by omega
  refine ⟨hlt, Char.toNat_inj.1 ?_⟩
  rw [Nat.toNat_digitChar_of_lt_ten hlt]
  omega

/-- Digits without a zero in front are those of their number. -/
theorem toDigits_ofDigitChars (hne : ds ≠ []) (hd : ∀ c ∈ ds, c.isDigit)
    (h0 : ds.head? ≠ some '0') : Nat.toDigits 10 (Nat.ofDigitChars 10 ds 0) = ds := by
  -- the last digit is the remainder by ten, so the induction is from the right
  induction ds using List.reverseRecOn with
  | nil => exact absurd rfl hne
  | append_singleton ds c ih =>
    obtain ⟨hlt, hc⟩ := digitChar_of_isDigit (hd c (by simp))
    have hlast : Nat.toDigits 10 (c.toNat - 48) = [c] := by
      rw [Nat.toDigits_of_lt_base hlt, hc]
    rw [Nat.ofDigitChars_append, Nat.ofDigitChars_cons, Nat.ofDigitChars_nil]
    cases ds with
    | nil =>
      rw [Nat.ofDigitChars_nil, Nat.mul_zero, Nat.zero_add]
      exact hlast
    | cons d ds =>
      have hfront := ih (List.cons_ne_nil d ds) (fun x hx => hd x (List.mem_append_left _ hx)) h0
      have hpos : 0 < Nat.ofDigitChars 10 (d :: ds) 0 :=
        pos_of_head?_toDigits_ne (by rw [hfront]; exact h0)
      have happend := Nat.toDigits_append_toDigits (by omega) hpos hlt
      rw [hfront, hlast] at happend
      exact happend.symm

/-- The digits of the positive numbers are those without a zero in front. -/
theorem exists_eq_toDigits_iff : (∃ n, 1 ≤ n ∧ ds = Nat.toDigits 10 n) ↔
    ds ≠ [] ∧ (∀ c ∈ ds, c.isDigit) ∧ ds.head? ≠ some '0' := by
  constructor
  · rintro ⟨n, hn, rfl⟩
    exact ⟨Nat.toDigits_ne_nil, fun c => isDigit_of_mem_toDigits, head?_toDigits_ne hn⟩
  · rintro ⟨hne, hd, h0⟩
    have hds := toDigits_ofDigitChars hne hd h0
    exact ⟨_, pos_of_head?_toDigits_ne (hds.symm ▸ h0), hds.symm⟩

end Digits

/-! ### Digits with zeros in front -/

namespace Instant

variable {n width : Nat} {c : Char}

theorem padded_ne_nil (width n : Nat) : padded width n ≠ [] := by
  simp [padded]

theorem isDigit_of_mem_padded (h : c ∈ padded width n) : c.isDigit := by
  simp only [padded, List.mem_append, List.mem_replicate] at h
  rcases h with ⟨-, rfl⟩ | h
  · rfl
  · exact isDigit_of_mem_toDigits h

theorem length_padded (hw : 0 < width) (h : n < 10 ^ width) : (padded width n).length = width := by
  have hlen := (Nat.length_toDigits_le_iff (by omega : 1 < 10) hw).2 h
  simp only [padded, List.length_append, List.length_replicate]
  omega

theorem ofDigitChars_padded (width n : Nat) : Nat.ofDigitChars 10 (padded width n) 0 = n := by
  simp only [padded, Nat.ofDigitChars_append, Nat.ofDigitChars_replicate_zero, Nat.mul_zero]
  exact Nat.ofDigitChars_ten_toDigits

theorem ofDigitChars_padded_append (width n zeros : Nat) :
    Nat.ofDigitChars 10 (padded width n ++ List.replicate zeros '0') 0 = 10 ^ zeros * n := by
  rw [Nat.ofDigitChars_append, Nat.ofDigitChars_replicate_zero, ofDigitChars_padded]

end Instant

end NestingRules
