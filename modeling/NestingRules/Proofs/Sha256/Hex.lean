import NestingRules.Sha256
import Mathlib.Algebra.Group.Nat.Defs
import Mathlib.Data.List.Basic

/-!
# Hashes in hexadecimal

The eight digits of a word tell the word, and so the hexadecimal form of a hash tells the hash
(`Sha256.hex_eq_hex_iff`): two messages have one form only if they collide.
-/

namespace NestingRules.Sha256

variable {a b : List UInt8}

/-- Two different messages with one hash. -/
structure IsCollision (a b : List UInt8) : Prop where
  ne : a ≠ b
  digest_eq : digest a = digest b

theorem eq_of_digits_eq {m n n' : Nat} (hn : n < 16 ^ m) (hn' : n' < 16 ^ m)
    (h : ∀ k < m, n / 16 ^ k % 16 = n' / 16 ^ k % 16) : n = n' := by
  -- by induction on the number of digits, the last one taken off first
  induction m generalizing n n' with
  | zero => omega
  | succ m ih =>
    rw [Nat.pow_succ] at hn hn'
    have hlast : n % 16 = n' % 16 := by simpa using h 0 m.succ_pos
    have hrest : n / 16 = n' / 16 := by
      refine ih (by omega) (by omega) fun k hk => ?_
      have hdigit := h (k + 1) (Nat.succ_lt_succ hk)
      rwa [Nat.pow_succ', ← Nat.div_div_eq_div_mul, ← Nat.div_div_eq_div_mul] at hdigit
    omega

theorem digitChar_inj : ∀ {d e : Nat}, d < 16 → e < 16 → Nat.digitChar d = Nat.digitChar e → d = e :=
  have key : ∀ d < 16, ∀ e < 16, Nat.digitChar d = Nat.digitChar e → d = e := by decide
  fun hd he => key _ hd _ he

theorem length_wordHex (w : UInt32) : (wordHex w).length = 8 := by simp [wordHex]

theorem wordHex_injective : Function.Injective wordHex := by
  intro v w h
  rw [wordHex, wordHex, List.map_inj_left] at h
  refine UInt32.toNat_inj.1 (eq_of_digits_eq (m := 8) v.toNat_lt w.toNat_lt fun k hk => ?_)
  have hdigit := h (7 - k) (List.mem_range.2 (by omega))
  rw [show 4 * (7 - (7 - k)) = 4 * k by omega, Nat.shiftRight_eq_div_pow, Nat.shiftRight_eq_div_pow,
    Nat.pow_mul] at hdigit
  exact digitChar_inj (Nat.mod_lt _ (by decide)) (Nat.mod_lt _ (by decide)) hdigit

/-- Words in one row tell each other apart, since each has its eight digits. -/
theorem flatMap_wordHex_inj {vs ws : List UInt32} (hlen : vs.length = ws.length)
    (h : vs.flatMap wordHex = ws.flatMap wordHex) : vs = ws := by
  induction vs generalizing ws with
  | nil => exact (List.length_eq_zero_iff.1 hlen.symm).symm
  | cons v vs ih =>
    cases ws with
    | nil => cases hlen
    | cons w ws =>
      rw [List.flatMap_cons, List.flatMap_cons] at h
      obtain ⟨hhead, htail⟩ := List.append_inj h (by rw [length_wordHex, length_wordHex])
      rw [wordHex_injective hhead, ih (Nat.succ.inj hlen) htail]

/-- **The hexadecimal form of a hash tells the hash.** -/
theorem hex_eq_hex_iff : hex a = hex b ↔ digest a = digest b := by
  refine ⟨fun h => ?_, fun h => by rw [hex, hex, h]⟩
  simp only [hex, String.ofList_inj] at h
  have hwords := flatMap_wordHex_inj (by simp only [List.length_cons]) h
  simp only [List.cons.injEq, and_true] at hwords
  cases hd : digest a
  cases he : digest b
  simpa [hd, he] using hwords

example : hex "abc".toByteArray.toList =
    "ba7816bf8f01cfea414140de5dae2223b00361a396177a9cb410ff61f20015ad" := by
  decide +kernel

end NestingRules.Sha256
