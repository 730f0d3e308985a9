import NestingRules.Proofs.Text.Trim
import NestingRules.Text.Basic
import Mathlib.Data.Char
import Mathlib.Data.List.Lex
import Mathlib.Tactic.SplitIfs

/-!
# UTF-8

Decoding undoes encoding (`Text.Utf8.decode_encode`).  Texts are ordered character by character, and
files are ordered byte by byte.  The two orders are one: of two characters the smaller one has the
smaller bytes, whatever follows them, so encoding keeps the order of texts
(`Text.Utf8.encode_lt_encode_iff`).  Characters beyond ASCII have bytes beyond ASCII only, so cutting
blank bytes off an encoded text is cutting the ASCII blanks off the text (`Text.Utf8.trimBy_encode`).
-/

namespace NestingRules.Text.Utf8

variable {c : Char} {b : UInt8}

/-! ### The bytes of a character -/

theorem utf8EncodeChar_of_lt (h : c.toNat < 128) :
    String.utf8EncodeChar c = [UInt8.ofNat c.toNat] := by
  have hle : c.val.toNat ≤ 0x7f := Nat.le_of_lt_succ h
  rw [String.utf8EncodeChar, if_pos hle]
  rfl

theorem le_of_mem_utf8EncodeChar (h : 128 ≤ c.toNat) (hb : b ∈ String.utf8EncodeChar c) :
    128 ≤ b.toNat := by
  have hval : c.val.toNat = c.toNat := rfl
  simp only [String.utf8EncodeChar, hval] at hb
  split_ifs at hb <;> simp only [List.mem_cons, List.not_mem_nil, or_false] at hb
  · omega
  · rcases hb with rfl | rfl <;> simp only [UInt8.toNat_ofNat'] <;> omega
  · rcases hb with rfl | rfl | rfl <;> simp only [UInt8.toNat_ofNat'] <;> omega
  · rcases hb with rfl | rfl | rfl | rfl <;> simp only [UInt8.toNat_ofNat'] <;> omega

/-- Only the last characters of the basic plane have 0xEF as their first byte. -/
theorem head?_utf8EncodeChar_ne (h : c.toNat < 0xf000) :
    ∀ b ∈ (String.utf8EncodeChar c).head?, b ≠ 0xef := by
  have hval : c.val.toNat = c.toNat := rfl
  intro b hb heq
  have hnat : b.toNat = 0xef := congrArg UInt8.toNat heq
  simp only [String.utf8EncodeChar, hval] at hb
  split_ifs at hb <;> simp only [List.head?_cons, Option.mem_some_iff] at hb <;> subst hb <;>
    simp only [UInt8.toNat_ofNat'] at hnat <;> omega

/-! ### Decoding -/

theorem first?_append (c : Char) (bs : List UInt8) :
    first? (String.utf8EncodeChar c ++ bs) = some c := by
  have hlen : (String.utf8EncodeChar c).length ≤ 4 := by
    rw [String.length_utf8EncodeChar]
    exact c.utf8Size_le_four
  rw [first?, List.take_append, List.take_of_length_le hlen, List.toByteArray_append]
  exact ByteArray.utf8DecodeChar?_utf8EncodeChar_append

theorem decodeFrom_append {skip : Nat} {bs : List UInt8} (h : bs.length = skip) (i : Nat)
    (cs : List UInt8) : decodeFrom i skip (bs ++ cs) = decodeFrom (i + skip) 0 cs := by
  induction bs generalizing i skip with
  | nil =>
    subst h
    rfl
  | cons b bs ih =>
    subst h
    rw [List.cons_append, List.length_cons, decodeFrom, ih rfl]
    congr 1
    omega

theorem decodeFrom_encode (i : Nat) (cs : List Char) : decodeFrom i 0 (encode cs) = .ok cs := by
  induction cs generalizing i with
  | nil => rfl
  | cons c cs ih =>
    have hfirst := first?_append c (encode cs)
    obtain ⟨b, bs, hbs⟩ := List.exists_cons_of_ne_nil (String.utf8EncodeChar_ne_nil (c := c))
    have hlen : bs.length = c.utf8Size - 1 := by
      rw [← String.length_utf8EncodeChar, hbs, List.length_cons, Nat.add_sub_cancel]
    -- the first byte yields the character, the others are passed over
    have hencode : encode (c :: cs) = b :: (bs ++ encode cs) := by
      rw [encode, List.flatMap_cons, hbs, List.cons_append, encode]
    rw [hbs, List.cons_append] at hfirst
    rw [hencode, decodeFrom, hfirst]
    simp only [decodeFrom_append hlen, ih, Except.map]

/-- **Decoding undoes encoding.** -/
theorem decode_encode (cs : List Char) : decode (encode cs) = .ok cs :=
  decodeFrom_encode 0 cs

theorem encode_injective : Function.Injective encode := by
  intro cs ds h
  have hdecode := decode_encode cs
  rw [h, decode_encode] at hdecode
  exact (Except.ok.inj hdecode).symm

/-! ### Order -/

section Order

variable {d : Char} {cs ds : List Char}

theorem utf8EncodeChar_append_lt (h : c < d) (as bs : List UInt8) :
    String.utf8EncodeChar c ++ as < String.utf8EncodeChar d ++ bs := by
  have hval : c.val.toNat < d.val.toNat := UInt32.lt_iff_toNat_lt.1 h
  have hmax : d.val.toNat < 0x110000 := by
    rcases d.valid with hd | hd
    · exact Nat.lt_trans hd (by decide)
    · exact hd.2
  -- the groups of six bits are taken off one after the other
  have hdiv : ∀ n : Nat, n / 4096 = n / 64 / 64 ∧ n / 262144 = n / 64 / 64 / 64 := by omega
  simp only [String.utf8EncodeChar]
  -- by the numbers of bytes; where these differ, the first bytes already do
  split_ifs <;>
    simp only [List.cons_append, List.nil_append, List.cons_lt_cons_iff, UInt8.lt_iff_toNat_lt,
      ← UInt8.toNat_inj, UInt8.toNat_ofNat', hdiv] <;> omega

theorem encode_cons (c : Char) (cs : List Char) :
    encode (c :: cs) = String.utf8EncodeChar c ++ encode cs :=
  List.flatMap_cons

theorem encode_lt_encode (h : cs < ds) : encode cs < encode ds := by
  -- by induction on the place where the two texts differ first
  induction h with
  | @nil d ds =>
    obtain ⟨b, bs, hbs⟩ := List.exists_cons_of_ne_nil (String.utf8EncodeChar_ne_nil (c := d))
    rw [encode_cons, hbs]
    exact .nil
  | rel hlt =>
    rw [encode_cons, encode_cons]
    exact utf8EncodeChar_append_lt hlt _ _
  | cons _ ih =>
    rw [encode_cons, encode_cons]
    exact List.Lex.append_left _ ih _

/-- **The order of texts is the order of their bytes.** -/
theorem encode_lt_encode_iff : encode cs < encode ds ↔ cs < ds := by
  refine ⟨fun h => ?_, encode_lt_encode⟩
  rcases lt_trichotomy cs ds with hlt | rfl | hgt
  · exact hlt
  · exact absurd h (List.lt_irrefl _)
  · exact absurd (encode_lt_encode hgt) (List.lt_asymm h)

end Order

/-! ### Trimming bytes -/

/-- The character is a blank of ASCII that is cut off as a byte. -/
def isBlankAscii (c : Char) : Bool :=
  decide (c.toNat < 128) && isBlankByte (UInt8.ofNat c.toNat)

theorem isBlank_of_isBlankAscii (h : isBlankAscii c) : isBlank c := by
  simp only [isBlankAscii, isBlankByte, Bool.and_eq_true, decide_eq_true_eq, Bool.or_eq_true,
    beq_iff_eq, ← UInt8.toNat_inj, UInt8.toNat_ofNat', UInt8.reduceToNat] at h
  simp only [isBlank, Bool.or_eq_true, Bool.and_eq_true, decide_eq_true_eq, beq_iff_eq]
  omega

theorem isBlankByte_eq_false (h : 128 ≤ b.toNat) : isBlankByte b = false := by
  simp only [isBlankByte, Bool.or_eq_false_iff, beq_eq_false_iff_ne, ne_eq, ← UInt8.toNat_inj,
    UInt8.reduceToNat]
  omega

theorem trimBy_encode (cs : List Char) :
    trimBy isBlankByte (encode cs) = encode (trimBy isBlankAscii cs) := by
  refine trimBy_flatMap (fun c hc b hb => ?_) fun c hc => ⟨String.utf8EncodeChar_ne_nil, ?_⟩
  · simp only [isBlankAscii, Bool.and_eq_true, decide_eq_true_eq] at hc
    rw [utf8EncodeChar_of_lt hc.1] at hb
    rw [List.mem_singleton.1 hb]
    exact hc.2
  · refine isTrimmed_of_forall fun b hb => ?_
    by_cases hascii : c.toNat < 128
    · rw [utf8EncodeChar_of_lt hascii] at hb
      rw [List.mem_singleton.1 hb]
      simpa [isBlankAscii, hascii] using hc
    · exact isBlankByte_eq_false (le_of_mem_utf8EncodeChar (by omega) hb)

end NestingRules.Text.Utf8
