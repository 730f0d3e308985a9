import NestingRules.Rule.Basic

/-!
# Rule sets

A `RuleSet` holds at most one rule for each id, in ascending order of ids.  Inserting a rule whose
id is taken changes nothing, so of several rules with one id the first stays.
-/

namespace NestingRules

/-- `rules` with `r` at its place, unless a rule with its id is there. -/
def insertRule (r : Rule) : List Rule → List Rule
  | [] => [r]
  | s :: rules =>
    if r.id < s.id then r :: s :: rules
    else if r.id = s.id then s :: rules
    else s :: insertRule r rules

/-- A rule in the list after an insertion was there before or is the one inserted. -/
theorem mem_or_eq_of_mem_insertRule {r x : Rule} {rules : List Rule}
    (h : x ∈ insertRule r rules) : x = r ∨ x ∈ rules := by
  induction rules with
  | nil => simpa [insertRule] using h
  | cons s rules ih =>
    simp only [insertRule] at h
    split at h
    · simpa using h
    · split at h
      · exact .inr h
      · rcases List.mem_cons.1 h with rfl | h
        · exact .inr List.mem_cons_self
        · exact (ih h).imp id (List.mem_cons_of_mem _)

namespace RuleId

theorem lt_trans {a b c : RuleId} (hab : a < b) (hbc : b < c) : a < c := by
  rcases hab with hab | ⟨hab, nab⟩ <;> rcases hbc with hbc | ⟨hbc, nbc⟩
  · exact .inl (String.lt_trans hab hbc)
  · exact .inl (hbc ▸ hab)
  · exact .inl (hab ▸ hbc)
  · exact .inr ⟨hab.trans hbc, UInt32.lt_trans nab nbc⟩

theorem lt_irrefl (a : RuleId) : ¬ a < a := by
  rintro (h | ⟨-, h⟩)
  · exact String.lt_irrefl _ h
  · exact UInt32.lt_irrefl _ h

/-- Two different ids are ordered one way or the other. -/
theorem lt_of_not_lt_of_ne {a b : RuleId} (h : ¬ a < b) (hne : a ≠ b) : b < a := by
  by_cases hc : a.clause = b.clause
  · refine .inr ⟨hc.symm, ?_⟩
    rcases Nat.lt_trichotomy a.testNumber.toNat b.testNumber.toNat with hn | hn | hn
    · exact absurd (.inr ⟨hc, UInt32.lt_iff_toNat_lt.2 hn⟩) h
    · refine absurd ?_ hne
      cases a; cases b; simp_all [UInt32.toNat_inj]
    · exact UInt32.lt_iff_toNat_lt.2 hn
  · refine .inl (Decidable.byContradiction fun hb => hc ?_)
    exact String.le_antisymm hb fun ha => h (.inl ha)

end RuleId

/-- Insertion keeps a list of rules in ascending order of ids. -/
theorem pairwise_insertRule {r : Rule} {rules : List Rule}
    (h : rules.Pairwise (·.id < ·.id)) : (insertRule r rules).Pairwise (·.id < ·.id) := by
  induction rules with
  | nil => simp [insertRule]
  | cons s rules ih =>
    rw [List.pairwise_cons] at h
    simp only [insertRule]
    split
    next hlt =>
      refine List.pairwise_cons.2 ⟨fun x hx => ?_, List.pairwise_cons.2 h⟩
      rcases List.mem_cons.1 hx with rfl | hx
      · exact hlt
      · exact RuleId.lt_trans hlt (h.1 x hx)
    next hlt =>
      split
      next => exact List.pairwise_cons.2 h
      next hne =>
        refine List.pairwise_cons.2 ⟨fun x hx => ?_, ih h.2⟩
        rcases mem_or_eq_of_mem_insertRule hx with rfl | hx
        · exact RuleId.lt_of_not_lt_of_ne hlt hne
        · exact h.1 x hx

/-- Rules in ascending order of ids, one for each id. -/
structure RuleSet where
  /-- The rules in ascending order of ids. -/
  toList : List Rule
  sorted : toList.Pairwise (·.id < ·.id)
  deriving DecidableEq

namespace RuleSet

/-- The set without rules. -/
def empty : RuleSet := ⟨[], .nil⟩

instance : EmptyCollection RuleSet := ⟨empty⟩

instance : Inhabited RuleSet := ⟨empty⟩

variable (s : RuleSet)

/-- Some rule of the set has this id. -/
def containsId (id : RuleId) : Bool := s.toList.any (·.id == id)

/-- Put a rule into the set unless its id is taken. -/
def insert (r : Rule) : RuleSet :=
  ⟨insertRule r s.toList, pairwise_insertRule s.sorted⟩

/-- Put a rule into the set unless its id is taken, and say whether it was put. -/
def insertNew (r : Rule) : Bool × RuleSet :=
  (!s.containsId r.id, s.insert r)

/-- Put rules into the set one after the other. -/
def extend (rules : List Rule) : RuleSet := rules.foldl insert s

/-- The set of the first rule for each id in a list. -/
def ofList (rules : List Rule) : RuleSet := empty.extend rules

/-- The number of rules. -/
def size : Nat := s.toList.length

/-- The set has no rules. -/
def isEmpty : Bool := s.toList.isEmpty

/-- The ids in ascending order. -/
def ids : List RuleId := s.toList.map (·.id)

/-- The rules that carry a tag, in ascending order of ids. -/
def withTag (tag : String) : List Rule := s.toList.filter (·.hasTag tag)

end RuleSet

end NestingRules
