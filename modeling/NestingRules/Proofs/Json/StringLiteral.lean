import NestingRules.Json.Basic
import NestingRules.Json.Reader
import Mathlib.Tactic.SplitIfs

/-!
# String literals

Every character is written as one piece of a string literal, which stands for that character, so a
text is read back from its literal whatever follows (`Json.string?_writeText`).
-/

namespace NestingRules.Json

variable {c : Char} {p : Piece}

/-! ### Characters -/

/-- The piece stands for the character. -/
def Piece.StandsFor (p : Piece) (c : Char) : Prop :=
  ∀ ps, joinPieces? (p :: ps) = (joinPieces? ps).map (c :: ·)

/-- The text is read as the piece, whatever follows. -/
def ReadsAs (cs : List Char) (p : Piece) : Prop :=
  ∀ rest, pieces? (cs ++ rest) = (pieces? rest).map fun r => (p :: r.1, r.2)

theorem standsFor_char (c : Char) : (Piece.char c).StandsFor c := by
  intro ps
  rw [joinPieces?]

theorem standsFor_unit (h : c.toNat < 32) : (Piece.unit c.toNat).StandsFor c := by
  intro ps
  have hhigh : isHighUnit c.toNat = false := by simp [isHighUnit]; omega
  have hlow : isLowUnit c.toNat = false := by simp [isLowUnit]; omega
  -- only halves of surrogate pairs look at the piece that follows
  rw [joinPieces?.eq_def]
  simp [hhigh, hlow]

theorem readsAs_shortEscape {e : Char} (h : shortEscape? e = some c) :
    ReadsAs ['\\', e] (.char c) := by
  have he : e ≠ 'u' := by
    rintro rfl
    cases h
  intro rest
  rw [List.cons_append, List.singleton_append, pieces?, h]
  · cases pieces? rest <;> rfl
  · intro a b c d cs hu
    exact absurd hu he

theorem hexDigit?_digitChar : ∀ {d : Nat}, d < 16 → hexDigit? (Nat.digitChar d) = some d := by
  decide

theorem codeUnit?_digitChar {n : Nat} (h : n < 32) :
    codeUnit? '0' '0' (Nat.digitChar (n / 16)) (Nat.digitChar (n % 16)) = some n := by
  have hzero : hexDigit? '0' = some 0 := rfl
  have hhigh := hexDigit?_digitChar (by omega : n / 16 < 16)
  have hlow := hexDigit?_digitChar (by omega : n % 16 < 16)
  simp only [codeUnit?, hzero, hhigh, hlow, Option.bind_eq_bind, Option.bind_some, Option.pure_def,
    Option.some.injEq]
  omega

theorem readsAs_unitEscape (h : c.toNat < 32) : ReadsAs (unitEscape c) (.unit c.toNat) := by
  intro rest
  simp only [unitEscape, List.cons_append, List.nil_append]
  rw [pieces?, codeUnit?_digitChar h]
  cases pieces? rest <;> rfl

theorem readsAs_self (hq : c ≠ '"') (hb : c ≠ '\\') (h : ¬ c.toNat < 32) :
    ReadsAs [c] (.char c) := by
  intro rest
  rw [List.singleton_append, pieces?]
  · rw [if_neg (by simp [h, hb])]
    cases pieces? rest <;> rfl
  · exact hq
  · intro a b d e cs hc
    exact absurd hc hb
  · intro e cs hc
    exact absurd hc hb

/-- The characters written by a short escape, each with its letter. -/
def shortEscapes : List (Char × Char) :=
  [('"', '"'), ('\\', '\\'), ('\n', 'n'), ('\r', 'r'), ('\t', 't'), ('\x08', 'b'), ('\x0c', 'f')]

theorem escapeChar_of_mem : ∀ s ∈ shortEscapes,
    shortEscape? s.2 = some s.1 ∧ escapeChar s.1 = ['\\', s.2] := by
  decide

theorem escapeChar_of_notMem (h : c ∉ shortEscapes.map Prod.fst) :
    escapeChar c = if c.toNat < 32 then unitEscape c else [c] := by
  simp_all [shortEscapes, escapeChar]

/-- **A character is written as one piece that stands for it.** -/
theorem exists_piece (c : Char) : ∃ p : Piece, p.StandsFor c ∧ ReadsAs (escapeChar c) p := by
  by_cases hs : c ∈ shortEscapes.map Prod.fst
  · obtain ⟨s, hmem, rfl⟩ := List.mem_map.mp hs
    obtain ⟨hread, hwritten⟩ := escapeChar_of_mem s hmem
    rw [hwritten]
    exact ⟨.char s.1, standsFor_char s.1, readsAs_shortEscape hread⟩
  · have hq : c ≠ '"' := fun hc => hs (by simp [shortEscapes, hc])
    have hb : c ≠ '\\' := fun hc => hs (by simp [shortEscapes, hc])
    rw [escapeChar_of_notMem hs]
    split_ifs with hc
    · exact ⟨.unit c.toNat, standsFor_unit hc, readsAs_unitEscape hc⟩
    · exact ⟨.char c, standsFor_char c, readsAs_self hq hb hc⟩

/-! ### Texts -/

theorem pieces?_flatMap_escapeChar (cs rest : List Char) :
    ∃ ps, pieces? (cs.flatMap escapeChar ++ '"' :: rest) = some (ps, rest) ∧
      joinPieces? ps = some cs := by
  induction cs with
  | nil => exact ⟨[], by rw [List.flatMap_nil, List.nil_append, pieces?], rfl⟩
  | cons c cs ih =>
    obtain ⟨ps, hread, hjoin⟩ := ih
    obtain ⟨p, hp, hc⟩ := exists_piece c
    refine ⟨p :: ps, ?_, by rw [hp, hjoin]; rfl⟩
    rw [List.flatMap_cons, List.append_assoc, hc, hread]
    rfl

/-- **A text is read back from its string literal**, whatever follows. -/
theorem string?_writeText (s : String) (rest : List Char) :
    ∃ cs, writeText s ++ rest = '"' :: cs ∧ string? cs = some (some s, rest) := by
  obtain ⟨ps, hread, hjoin⟩ := pieces?_flatMap_escapeChar s.toList rest
  refine ⟨s.toList.flatMap escapeChar ++ '"' :: rest, by simp [writeText], ?_⟩
  rw [string?, hread]
  simp [hjoin]

end NestingRules.Json
