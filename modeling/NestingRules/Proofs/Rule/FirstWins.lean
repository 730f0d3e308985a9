import NestingRules.Rule.Set
import Mathlib.Data.List.Nodup
import Mathlib.Data.List.Perm.Basic

/-!
# First-wins rule sets

A rule set is determined by its rules, and the set of a list holds the first rule for each id of
the list and nothing else (`RuleSet.mem_ofList`).  Hence

* the order of a list whose ids are distinct does not matter (`RuleSet.ofList_eq_of_perm`), and its
  set has exactly the rules of the list (`RuleSet.toList_ofList_perm`);
* a set is the set of its own list (`RuleSet.ofList_toList`);
* two lists have one set iff they have the same first rule for each id
  (`RuleSet.ofList_eq_ofList_iff`).
-/

namespace NestingRules

/-! ### Members of lists -/

section

variable {α : Type} {xs ys : List α}

theorem eq_of_pairwise_of_mem_iff {lt : α → α → Prop} (hasymm : ∀ {a b}, lt a b → ¬ lt b a)
    (hx : xs.Pairwise lt) (hy : ys.Pairwise lt) (h : ∀ a, a ∈ xs ↔ a ∈ ys) : xs = ys := by
  have hne : ∀ {a b}, lt a b → a ≠ b := by
    rintro a _ hab rfl
    exact hasymm hab hab
  have hp : xs.Perm ys := (List.perm_ext_iff_of_nodup (hx.imp hne) (hy.imp hne)).2 h
  -- there is only one ascending order
  exact hp.eq_of_pairwise (fun a b _ _ hab hba => absurd hba (hasymm hab)) hx hy

theorem eq_toList_of_mem_iff {o : Option α} (hn : xs.Nodup) (h : ∀ a, a ∈ xs ↔ o = some a) :
    xs = o.toList := by
  cases o with
  | none => exact List.eq_nil_iff_forall_not_mem.2 fun a => by simp [h]
  | some b =>
    refine List.perm_singleton.1 ((List.perm_ext_iff_of_nodup hn (List.nodup_singleton _)).2
      fun a => ?_)
    rw [h, Option.some.injEq, List.mem_singleton, eq_comm]

end

namespace RuleId

theorem ne_of_lt {a b : RuleId} (h : a < b) : a ≠ b := by
  rintro rfl
  exact lt_irrefl a h

theorem lt_asymm {a b : RuleId} (h : a < b) : ¬ b < a :=
  fun h' => lt_irrefl a (lt_trans h h')

end RuleId

/-! ### Insertion into an ascending list -/

theorem mem_insertRule {r x : Rule} {rules : List Rule} (h : rules.Pairwise (·.id < ·.id)) :
    x ∈ insertRule r rules ↔ x ∈ rules ∨ x = r ∧ ∀ s ∈ rules, s.id ≠ r.id := by
  induction rules with
  | nil => simp [insertRule]
  | cons s rules ih =>
    obtain ⟨hs, hrules⟩ := List.pairwise_cons.1 h
    rw [insertRule]
    split_ifs with hlt heq
    · -- `r` comes before all rules of the list
      have hne : ∀ t ∈ s :: rules, t.id ≠ r.id := by
        intro t ht
        rcases List.mem_cons.1 ht with rfl | ht
        · exact (RuleId.ne_of_lt hlt).symm
        · exact (RuleId.ne_of_lt (RuleId.lt_trans hlt (hs t ht))).symm
      rw [List.mem_cons, or_comm]
      exact or_congr_right ⟨fun hx => ⟨hx, hne⟩, And.left⟩
    · refine ⟨Or.inl, fun hx => hx.resolve_right fun hr => ?_⟩
      exact hr.2 s List.mem_cons_self heq.symm
    · have hne : s.id ≠ r.id := fun e => heq e.symm
      rw [List.mem_cons, ih hrules, List.mem_cons, List.forall_mem_cons, or_assoc]
      exact or_congr_right (or_congr_right (and_congr_right fun _ => (and_iff_right hne).symm))

theorem insertRule_of_mem {r s : Rule} {rules : List Rule} (h : rules.Pairwise (·.id < ·.id))
    (hs : s ∈ rules) (hid : s.id = r.id) : insertRule r rules = rules := by
  induction rules with
  | nil => cases hs
  | cons t rules ih =>
    obtain ⟨ht, hrules⟩ := List.pairwise_cons.1 h
    rw [insertRule]
    rcases List.mem_cons.1 hs with rfl | hs
    · rw [if_neg (hid ▸ RuleId.lt_irrefl _), if_pos hid.symm]
    · have hlt : t.id < r.id := hid ▸ ht s hs
      rw [if_neg (RuleId.lt_asymm hlt), if_neg (RuleId.ne_of_lt hlt).symm, ih hrules hs]

theorem length_insertRule {r : Rule} {rules : List Rule} (h : ∀ s ∈ rules, s.id ≠ r.id) :
    (insertRule r rules).length = rules.length + 1 := by
  induction rules with
  | nil => rfl
  | cons s rules ih =>
    obtain ⟨hs, hrules⟩ := List.forall_mem_cons.1 h
    rw [insertRule]
    split_ifs with hlt heq
    · rfl
    · exact absurd heq.symm hs
    · rw [List.length_cons, ih hrules, List.length_cons]

namespace RuleSet

variable {s t : RuleSet} {r x y : Rule} {rules : List Rule}

/-! ### Rules and ids of a set -/

theorem toList_injective (h : s.toList = t.toList) : s = t := by
  cases s; cases t; cases h; rfl

theorem containsId_iff {id : RuleId} : s.containsId id = true ↔ ∃ x ∈ s.toList, x.id = id := by
  simp [containsId]

theorem containsId_eq_false_iff {id : RuleId} :
    s.containsId id = false ↔ ∀ x ∈ s.toList, x.id ≠ id := by
  simp [containsId]

theorem nodup_ids (s : RuleSet) : (s.toList.map (·.id)).Nodup :=
  List.pairwise_map.2 (s.sorted.imp RuleId.ne_of_lt)

theorem nodup_toList (s : RuleSet) : s.toList.Nodup :=
  s.nodup_ids.of_map _

theorem eq_of_mem_iff (h : ∀ x, x ∈ s.toList ↔ x ∈ t.toList) : s = t :=
  toList_injective (eq_of_pairwise_of_mem_iff RuleId.lt_asymm s.sorted t.sorted h)

/-! ### Insertion -/

theorem mem_insert : x ∈ (s.insert r).toList ↔
    x ∈ s.toList ∨ x = r ∧ s.containsId r.id = false := by
  rw [containsId_eq_false_iff]
  exact mem_insertRule s.sorted

theorem insert_of_containsId (h : s.containsId r.id = true) : s.insert r = s := by
  obtain ⟨x, hx, hid⟩ := containsId_iff.1 h
  exact toList_injective (insertRule_of_mem s.sorted hx hid)

theorem size_insert (h : s.containsId r.id = false) : (s.insert r).size = s.size + 1 :=
  length_insertRule (containsId_eq_false_iff.1 h)

theorem toList_insert_perm (h : s.containsId r.id = false) :
    (s.insert r).toList.Perm (r :: s.toList) := by
  have hr : r ∉ s.toList := fun hr => containsId_eq_false_iff.1 h r hr rfl
  refine (List.perm_ext_iff_of_nodup (nodup_toList _) (List.nodup_cons.2 ⟨hr, s.nodup_toList⟩)).2
    fun x => ?_
  rw [mem_insert, List.mem_cons, and_iff_left h, or_comm]

theorem containsId_insert {id : RuleId} :
    (s.insert r).containsId id = true ↔ s.containsId id = true ∨ r.id = id := by
  simp only [containsId_iff, mem_insert]
  constructor
  · rintro ⟨x, hx | ⟨rfl, -⟩, hid⟩
    · exact .inl ⟨x, hx, hid⟩
    · exact .inr hid
  · rintro (⟨x, hx, hid⟩ | rfl)
    · exact ⟨x, .inl hx, hid⟩
    · cases hc : s.containsId r.id
      · exact ⟨r, .inr ⟨rfl, rfl⟩, rfl⟩
      · obtain ⟨x, hx, hid⟩ := containsId_iff.1 hc
        exact ⟨x, .inl hx, hid⟩

/-! ### Extension -/

@[simp]
theorem extend_nil : s.extend [] = s := rfl

@[simp]
theorem extend_cons : s.extend (r :: rules) = (s.insert r).extend rules := rfl

theorem extend_append {rules' : List Rule} :
    s.extend (rules ++ rules') = (s.extend rules).extend rules' :=
  List.foldl_append

/-- An extension keeps the rules of the set and adds the first rule for each id that the set does
not have. -/
theorem mem_extend : x ∈ (s.extend rules).toList ↔ x ∈ s.toList ∨
    s.containsId x.id = false ∧ rules.find? (·.id == x.id) = some x := by
  induction rules generalizing s with
  | nil => simp
  | cons r rules ih =>
    rw [extend_cons, ih, mem_insert, List.find?_cons]
    -- `r` is the first rule for the id of `x` or has no part in it
    by_cases hid : r.id = x.id
    · have hc : (s.insert r).containsId x.id = true := containsId_insert.2 (.inr hid)
      simp only [hc, hid, beq_self_eq_true, Option.some.injEq, Bool.true_eq_false, false_and,
        or_false]
      exact or_congr_right ⟨fun ⟨hx, h⟩ => ⟨h, hx.symm⟩, fun ⟨h, hx⟩ => ⟨hx.symm, h⟩⟩
    · have hx : x ≠ r := fun e => hid (e ▸ rfl)
      have hc : (s.insert r).containsId x.id = s.containsId x.id := by
        rw [Bool.eq_iff_iff, containsId_insert, or_iff_left hid]
      simp only [hc, hx, false_and, or_false, beq_false_of_ne hid]

theorem containsId_extend {id : RuleId} : (s.extend rules).containsId id = true ↔
    s.containsId id = true ∨ ∃ x ∈ rules, x.id = id := by
  induction rules generalizing s with
  | nil => simp
  | cons r rules ih =>
    have hcons : (∃ x ∈ r :: rules, x.id = id) ↔ r.id = id ∨ ∃ x ∈ rules, x.id = id := by simp
    rw [extend_cons, ih, containsId_insert, or_assoc, hcons]

/-! ### The set of a list -/

theorem ofList_append {rules' : List Rule} :
    ofList (rules ++ rules') = (ofList rules).extend rules' :=
  extend_append

theorem containsId_ofList {id : RuleId} :
    (ofList rules).containsId id = true ↔ ∃ x ∈ rules, x.id = id := by
  rw [ofList, containsId_extend]
  simp [empty, containsId]

/-- **The set of a list holds the first rule for each id.** -/
theorem mem_ofList : x ∈ (ofList rules).toList ↔ rules.find? (·.id == x.id) = some x := by
  rw [ofList, mem_extend]
  simp [empty, containsId]

theorem find?_eq_some_iff_mem_ofList {id : RuleId} : rules.find? (·.id == id) = some x ↔
    x ∈ (ofList rules).toList ∧ x.id = id := by
  rw [mem_ofList]
  constructor
  · intro h
    have hid : x.id = id := by simpa using List.find?_some h
    exact ⟨hid ▸ h, hid⟩
  · rintro ⟨h, rfl⟩
    exact h

theorem filter_id_ofList (rules : List Rule) (id : RuleId) :
    (ofList rules).toList.filter (·.id == id) = (rules.find? (·.id == id)).toList := by
  refine eq_toList_of_mem_iff ((nodup_toList _).filter _) fun x => ?_
  rw [List.mem_filter, beq_iff_eq, find?_eq_some_iff_mem_ofList]

/-- Two lists have one set iff they have the same first rule for each id. -/
theorem ofList_eq_ofList_iff {rules' : List Rule} : ofList rules = ofList rules' ↔
    ∀ id, rules.find? (·.id == id) = rules'.find? (·.id == id) := by
  constructor
  · intro h id
    refine Option.ext fun x => ?_
    rw [find?_eq_some_iff_mem_ofList, find?_eq_some_iff_mem_ofList, h]
  · exact fun h => eq_of_mem_iff fun x => by rw [mem_ofList, mem_ofList, h]

/-- A rule whose id occurs before it makes no difference. -/
theorem ofList_append_cons {before after : List Rule} (h : ∃ x ∈ before, x.id = r.id) :
    ofList (before ++ r :: after) = ofList (before ++ after) := by
  rw [ofList_append, ofList_append, extend_cons, insert_of_containsId (containsId_ofList.2 h)]

/-- A list with another rule in place of a rule of the set has another set, whatever the ids. -/
theorem ofList_ne_of_ne {before after : List Rule} (h : s.toList = before ++ x :: after)
    (hne : y ≠ x) : ofList (before ++ y :: after) ≠ s := by
  intro heq
  have hnodup := s.nodup_toList
  have hx : x ∈ s.toList := by simp [h]
  rw [h, List.nodup_middle, List.nodup_cons] at hnodup
  rw [← heq, mem_ofList] at hx
  have hmem := List.mem_of_find?_eq_some hx
  -- the rule stands nowhere else in the list of the set
  rw [List.mem_append, List.mem_cons, or_left_comm] at hmem
  exact hnodup.1 (List.mem_append.2 (hmem.resolve_left hne.symm))

theorem find?_id_eq_some_iff (h : (rules.map (·.id)).Nodup) :
    rules.find? (·.id == x.id) = some x ↔ x ∈ rules := by
  refine ⟨List.mem_of_find?_eq_some, fun hx => ?_⟩
  obtain ⟨y, hy⟩ : ∃ y, rules.find? (·.id == x.id) = some y :=
    Option.isSome_iff_exists.1 (List.find?_isSome.2 ⟨x, hx, by simp⟩)
  have hid : y.id = x.id := by simpa using List.find?_some hy
  rw [hy, List.inj_on_of_nodup_map h (List.mem_of_find?_eq_some hy) hx hid]

theorem mem_ofList_of_nodup (h : (rules.map (·.id)).Nodup) :
    x ∈ (ofList rules).toList ↔ x ∈ rules := by
  rw [mem_ofList, find?_id_eq_some_iff h]

theorem toList_ofList_perm (h : (rules.map (·.id)).Nodup) : (ofList rules).toList.Perm rules :=
  (List.perm_ext_iff_of_nodup (nodup_toList _) (h.of_map _)).2 fun _ => mem_ofList_of_nodup h

/-- The set of a list in ascending order of ids has the rules in this order. -/
theorem toList_ofList_of_pairwise (h : rules.Pairwise (·.id < ·.id)) :
    (ofList rules).toList = rules :=
  eq_of_pairwise_of_mem_iff RuleId.lt_asymm (sorted _) h fun _ =>
    mem_ofList_of_nodup (List.pairwise_map.2 (h.imp RuleId.ne_of_lt))

theorem ofList_eq_of_perm {rules' : List Rule} (h : (rules.map (·.id)).Nodup)
    (hp : rules.Perm rules') : ofList rules = ofList rules' := by
  refine eq_of_mem_iff fun x => ?_
  rw [mem_ofList_of_nodup h, mem_ofList_of_nodup ((hp.map _).nodup_iff.1 h), hp.mem_iff]

theorem ofList_toList (s : RuleSet) : ofList s.toList = s :=
  toList_injective (toList_ofList_of_pairwise s.sorted)

end RuleSet

end NestingRules
