import NestingRules.Json.Basic
import NestingRules.Proofs.Json.ReadBack
import Mathlib.Data.List.Nodup

/-!
# Fields of JSON objects

A structure is written as an object with a member for each field.  Its fields are read back by
name, so the members of an object with distinct names are found wherever they stand
(`Json.fields?_record`), and a list is read back if its items are (`Json.list?_map`).
-/

namespace NestingRules.Json

variable {α : Type} {ms : List (String × Json)} {name : String}

/-! ### Members -/

theorem filter_record (h : (ms.map (·.1)).Nodup) (name : String) :
    ((ms.map fun m => (some m.1, m.2)).filter fun m => m.1 == some name) =
      ((ms.lookup name).map fun j => (some name, j)).toList := by
  induction ms with
  | nil => rfl
  | cons m ms ih =>
    obtain ⟨key, j⟩ := m
    obtain ⟨hkey, hms⟩ := List.nodup_cons.1 h
    rw [List.map_cons, List.filter_cons, ih hms, List.lookup_cons]
    by_cases hname : name = key
    · -- no other member has the name
      have hlookup : ms.lookup key = none := by
        rw [List.lookup_eq_none_iff]
        intro m hm
        rw [bne_iff_ne]
        intro heq
        exact hkey (List.mem_map.2 ⟨m, hm, heq.symm⟩)
      simp [hname, hlookup]
    · have hbeq : (name == key) = false := beq_eq_false_iff_ne.2 hname
      simp [hbeq, Ne.symm hname]

theorem member?_record (h : (ms.map (·.1)).Nodup) (name : String) :
    member? (ms.map fun m => (some m.1, m.2)) name = some (ms.lookup name) := by
  rw [member?, filter_record h]
  cases ms.lookup name <;> rfl

/-- **The fields of an object with distinct names are its members with these names.** -/
theorem fields?_record (h : (ms.map (·.1)).Nodup) (names : List String) :
    fields? names (record ms) = some (names.map fun name => ms.lookup name) := by
  have hany : ((ms.map fun m => (some m.1, m.2)).any fun m => m.1.isNone) = false := by
    simp
  rw [record, fields?, hany]
  induction names with
  | nil => rfl
  | cons name names ih =>
    rw [if_neg (by simp)] at ih ⊢
    rw [List.mapM_cons, ih, member?_record h]
    rfl

/-! ### Lists -/

theorem list?_map {f : Json → Option α} {g : α → Json} {xs : List α}
    (h : ∀ x ∈ xs, f (g x) = some x) : list? f (.array (xs.map g)) = some xs := by
  rw [list?]
  induction xs with
  | nil => rfl
  | cons x xs ih =>
    obtain ⟨hx, hxs⟩ := List.forall_mem_cons.1 h
    rw [List.map_cons, List.mapM_cons, hx, ih hxs]
    rfl

theorem list?_texts (ss : List String) : list? text? (texts ss) = some ss :=
  list?_map fun _ _ => rfl

theorem natBelow?_nat {bound n : Nat} (h : n < bound) : natBelow? bound (.nat n) = some n :=
  if_pos h

/-! ### Plain values -/

theorem isPlain_texts (ss : List String) : (texts ss).IsPlain := by
  refine .array fun j hj => ?_
  obtain ⟨s, -, rfl⟩ := List.mem_map.1 hj
  exact .text s

theorem isPlain_map {g : α → Json} {xs : List α} (h : ∀ x, (g x).IsPlain) :
    (Json.array (xs.map g)).IsPlain := by
  refine .array fun j hj => ?_
  obtain ⟨x, -, rfl⟩ := List.mem_map.1 hj
  exact h x

end NestingRules.Json
