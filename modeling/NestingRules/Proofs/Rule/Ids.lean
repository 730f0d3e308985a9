import NestingRules.Proofs.Text.Digits
import NestingRules.Proofs.Text.Utf8
import NestingRules.Rule.Basic
import NestingRules.Rule.Set
import Mathlib.Data.String.Basic

/-!
# Ids of rules

Ids are compared by the specification, then by the bytes of the clause and then by the number
(`RuleId.lt_iff_precedes`).  The order is total, so it can be the order of a map
(`RuleId.compare`).

The text of an id joins its parts by a blank and a dash.  A clause may have blanks, dashes and digits
of its own, but the label of a specification has no blank in it and the digits of a number have no
dash: the clause is what stands between the first blank and the last dash.  So no two ids have the
same text (`RuleId.text_inj`).
-/

namespace NestingRules

/-! ### The order of ids -/

namespace RuleId

variable {a b : RuleId}

/-- The bytes of the clause. -/
def clauseBytes (id : RuleId) : List UInt8 := Text.Utf8.encode id.clause.toList

/-- The id `a` comes before `b`: by the specification, in the order of declaration, then by the
bytes of the clause, and then by the number. -/
def Precedes (a b : RuleId) : Prop :=
  a.specification.ctorIdx < b.specification.ctorIdx ∨
    a.specification = b.specification ∧ (a.clauseBytes < b.clauseBytes ∨
      a.clause = b.clause ∧ a.testNumber.toNat < b.testNumber.toNat)

theorem clauseBytes_lt_iff : a.clauseBytes < b.clauseBytes ↔ a.clause < b.clause := by
  rw [clauseBytes, clauseBytes, Text.Utf8.encode_lt_encode_iff, String.lt_iff]

/-- **The order of ids is that of their parts**, with the bytes of the clauses and the values of the
numbers. -/
theorem lt_iff_precedes : a < b ↔ a.Precedes b := by
  -- there is one specification, so it never decides
  have hspec : a.specification = b.specification := by
    cases a.specification
    cases b.specification
    rfl
  have hidx : ¬ a.specification.ctorIdx < b.specification.ctorIdx := by
    rw [hspec]
    exact Nat.lt_irrefl _
  rw [Precedes, or_iff_right hidx, and_iff_right hspec, clauseBytes_lt_iff,
    ← UInt32.lt_iff_toNat_lt]
  exact Iff.rfl

/-! ### Comparison -/

/-- How an id stands to another one in the order of ids. -/
def compare (a b : RuleId) : Ordering := compareOfLessAndEq a b

instance : Std.TransCmp compare :=
  .compareOfLessAndEq_of_irrefl_of_trans_of_antisymm lt_irrefl lt_trans fun hab hba =>
    Decidable.byContradiction fun hne => hba (lt_of_not_lt_of_ne hab hne)

instance : Std.LawfulEqCmp compare where
  eq_of_compare h := by
    unfold compare compareOfLessAndEq at h
    split_ifs at h
    assumption

theorem compare_eq_lt_iff : compare a b = .lt ↔ a < b := by
  unfold compare compareOfLessAndEq
  split_ifs <;> simp_all

end RuleId

/-! ### Cuts at a mark -/

section Cut

variable {α : Type} {c : α} {xs ys zs ws : List α}

/-- A list is cut at the first occurrence of a mark in one way only. -/
theorem append_cons_inj (hx : c ∉ xs) (hy : c ∉ ys) (h : xs ++ c :: zs = ys ++ c :: ws) :
    xs = ys ∧ zs = ws := by
  induction xs generalizing ys with
  | nil =>
    cases ys with
    | nil => exact ⟨rfl, (List.cons.inj h).2⟩
    | cons y ys => exact absurd (List.cons.inj h).1 (List.ne_of_not_mem_cons hy)
  | cons x xs ih =>
    cases ys with
    | nil => exact absurd (List.cons.inj h).1.symm (List.ne_of_not_mem_cons hx)
    | cons y ys =>
      obtain ⟨rfl, ht⟩ := List.cons.inj h
      obtain ⟨rfl, rfl⟩ := ih (List.not_mem_of_not_mem_cons hx) (List.not_mem_of_not_mem_cons hy) ht
      exact ⟨rfl, rfl⟩

/-- A list is cut at the last occurrence of a mark in one way only. -/
theorem append_cons_inj_last (hz : c ∉ zs) (hw : c ∉ ws) (h : xs ++ c :: zs = ys ++ c :: ws) :
    xs = ys ∧ zs = ws := by
  -- read backwards, the last occurrence is the first one
  have hrev : zs.reverse ++ c :: xs.reverse = ws.reverse ++ c :: ys.reverse := by
    simpa using congrArg List.reverse h
  obtain ⟨hzs, hxs⟩ := append_cons_inj (by simpa using hz) (by simpa using hw) hrev
  exact ⟨List.reverse_inj.1 hxs, List.reverse_inj.1 hzs⟩

end Cut

/-! ### Parts of the text -/

theorem Specification.blank_not_mem_label (s : Specification) : ' ' ∉ s.label.toList := by
  cases s
  decide

theorem Specification.label_inj {s t : Specification} : s.label = t.label ↔ s = t := by
  cases s
  cases t
  decide

theorem dash_not_mem_toDigits (n : Nat) : '-' ∉ Nat.toDigits 10 n := fun hmem =>
  absurd (isDigit_of_mem_toDigits hmem) (by decide)

namespace RuleId

theorem toList_text (id : RuleId) : id.text.toList =
    (id.specification.label.toList ++ ' ' :: id.clause.toList) ++
      '-' :: Nat.toDigits 10 id.testNumber.toNat := by
  simp only [text, Nat.toString_eq_ofList_toDigits, String.toList_append, String.toList_ofList,
    List.append_assoc]
  rfl

/-- **The text of an id tells the id**, whatever its clause is. -/
theorem text_inj (a b : RuleId) : a.text = b.text ↔ a = b := by
  refine ⟨fun h => ?_, congrArg text⟩
  have htext : a.text.toList = b.text.toList := congrArg String.toList h
  rw [toList_text, toList_text] at htext
  -- digits have no dash, so the last one is in front of the number
  obtain ⟨hfront, hdigits⟩ :=
    append_cons_inj_last (dash_not_mem_toDigits _) (dash_not_mem_toDigits _) htext
  -- labels have no blank, so the first one is in front of the clause
  obtain ⟨hlabel, hchars⟩ :=
    append_cons_inj (Specification.blank_not_mem_label _) (Specification.blank_not_mem_label _)
      hfront
  have hspec : a.specification = b.specification :=
    Specification.label_inj.1 (String.toList_inj.1 hlabel)
  have hclause : a.clause = b.clause := String.toList_inj.1 hchars
  have hnumber : a.testNumber = b.testNumber := UInt32.toNat_inj.1 (toDigits_inj.1 hdigits)
  obtain ⟨specification, clause, testNumber⟩ := a
  exact RuleId.mk.injEq .. ▸ ⟨hspec, hclause, hnumber⟩

end RuleId

end NestingRules
