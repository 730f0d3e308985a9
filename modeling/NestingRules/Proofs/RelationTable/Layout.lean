import NestingRules.RelationTable
import Mathlib.Data.Nat.Basic

/-!
# Reading order

`Relation.Precedes` is the reading order of cells: by row and then by column.  As long as no column
exceeds the largest one, the layout key is a number in a positional system whose digits are the row
and the column, and so it orders cells as they are read (`Relation.layoutKey_lt_iff`,
`Relation.layoutKey_eq_iff`).  Relations that stand in reading order have ascending keys and are left
alone when they are put into layout order (`RelationTable.inLayoutOrder_eq_self`).
-/

namespace NestingRules

namespace Relation

/-- The cell of `a` is read before that of `b`. -/
def Precedes (a b : Relation) : Prop := a.row < b.row ∨ a.row = b.row ∧ a.col < b.col

variable {a b : Relation} {m : Nat}

theorem layoutKey_lt_of_precedes (ha : a.col ≤ m) (h : a.Precedes b) :
    a.layoutKey m < b.layoutKey m := by
  unfold layoutKey
  rcases h with h | ⟨h, hc⟩
  · -- a whole row of keys lies between the two rows
    have hrow : (a.row + 1) * (m + 1) ≤ b.row * (m + 1) := Nat.mul_le_mul_right _ h
    rw [Nat.succ_mul] at hrow
    omega
  · rw [h]
    omega

/-- Of two cells one is read before the other, unless they are the same cell. -/
theorem precedes_or (a b : Relation) :
    a.Precedes b ∨ (a.row = b.row ∧ a.col = b.col) ∨ b.Precedes a := by
  unfold Precedes
  omega

theorem layoutKey_congr (h : a.row = b.row ∧ a.col = b.col) : a.layoutKey m = b.layoutKey m := by
  rw [layoutKey, layoutKey, h.1, h.2]

theorem layoutKey_lt_iff (ha : a.col ≤ m) (hb : b.col ≤ m) :
    a.layoutKey m < b.layoutKey m ↔ a.Precedes b := by
  refine ⟨fun h => ?_, layoutKey_lt_of_precedes ha⟩
  rcases precedes_or a b with hab | hsame | hba
  · exact hab
  · exact absurd (layoutKey_congr hsame) (Nat.ne_of_lt h)
  · exact absurd (layoutKey_lt_of_precedes hb hba) (Nat.lt_asymm h)

theorem layoutKey_eq_iff (ha : a.col ≤ m) (hb : b.col ≤ m) :
    a.layoutKey m = b.layoutKey m ↔ a.row = b.row ∧ a.col = b.col := by
  refine ⟨fun h => ?_, layoutKey_congr⟩
  rcases precedes_or a b with hab | hsame | hba
  · exact absurd h (Nat.ne_of_lt (layoutKey_lt_of_precedes ha hab))
  · exact hsame
  · exact absurd h (Nat.ne_of_gt (layoutKey_lt_of_precedes hb hba))

end Relation

namespace RelationTable

theorem le_foldl_max {xs : List Nat} {x m : Nat} (h : x ≤ m ∨ x ∈ xs) : x ≤ xs.foldl max m := by
  induction xs generalizing m with
  | nil => exact h.resolve_right List.not_mem_nil
  | cons y ys ih =>
    refine ih ?_
    rcases h with h | h
    · exact .inl (Nat.le_trans h (Nat.le_max_left _ _))
    · rcases List.mem_cons.1 h with rfl | h
      · exact .inl (Nat.le_max_right _ _)
      · exact .inr h

variable {rs : List Relation} {r : Relation}

/-- The largest column of relations; zero if there are none. -/
def maxCol (rs : List Relation) : Nat := (rs.map (·.col)).foldl max 0

theorem col_le_maxCol (h : r ∈ rs) : r.col ≤ maxCol rs :=
  le_foldl_max (.inr (List.mem_map_of_mem h))

/-- Relations in reading order have ascending layout keys. -/
theorem pairwise_layoutKey (h : rs.Pairwise Relation.Precedes) :
    rs.Pairwise fun a b => a.layoutKey (maxCol rs) < b.layoutKey (maxCol rs) :=
  h.imp_of_mem fun ha _ hab => Relation.layoutKey_lt_of_precedes (col_le_maxCol ha) hab

theorem inLayoutOrder_eq_self (h : rs.Pairwise Relation.Precedes) : inLayoutOrder rs = rs :=
  List.mergeSort_of_pairwise <| (pairwise_layoutKey h).imp fun hab =>
    decide_eq_true (Nat.le_of_lt hab)

end RelationTable

end NestingRules
