import NestingRules.Proofs.Rule.Codec
import NestingRules.Proofs.Rule.Ids

/-!
# Runs on rule sets

A rule set is made step by step: a rule is inserted, the set is extended by a list, or the set of a
list takes its place.  Whatever the steps, the set stands for an ordered map from ids to rules in
which each rule is under its own id (`RuleSet.Represents`): `Represents.apply` says this of one step
and `represents_run` of a run.  The map puts a rule only where there is none, so of several rules
with one id the first stays (`RuleSet.run_firstWins`).
-/

namespace NestingRules

namespace RuleSet

variable {s : RuleSet} {r x : Rule} {rules : List Rule} {id : RuleId}

/-! ### Maps -/

/-- Rules under keys, in ascending order of the keys. -/
abbrev Table := Std.TreeMap RuleId Rule RuleId.compare

/-- Put rules under their ids, each unless there is one. -/
def Table.extend (m : Table) (rules : List Rule) : Table :=
  rules.foldl (fun m r => m.insertIfNew r.id r) m

/-- The map has the rules of the set, each under its own id, and nothing else. -/
def Represents (m : Table) (s : RuleSet) : Prop :=
  ∀ id x, m[id]? = some x ↔ x ∈ s.toList ∧ x.id = id

variable {m : Table}

theorem represents_empty : Represents ∅ empty := by
  intro id x
  simp [empty]

theorem Represents.mem_iff (h : Represents m s) : id ∈ m ↔ s.containsId id = true := by
  rw [Std.TreeMap.mem_iff_isSome_getElem?, Option.isSome_iff_exists, containsId_iff]
  exact exists_congr (h id)

theorem Represents.insert (h : Represents m s) (r : Rule) :
    Represents (m.insertIfNew r.id r) (s.insert r) := by
  intro id x
  simp only [Std.TreeMap.getElem?_insertIfNew, Std.LawfulEqCmp.compare_eq_iff_eq, h.mem_iff,
    mem_insert, Bool.not_eq_true]
  split_ifs with hnew
  · -- the place was free, so no rule of the set has the id
    obtain ⟨rfl, hfree⟩ := hnew
    have hx : ¬ (x ∈ s.toList ∧ x.id = r.id) :=
      fun hx => containsId_eq_false_iff.1 hfree x hx.1 hx.2
    rw [Option.some.injEq]
    constructor
    · rintro rfl
      exact ⟨.inr ⟨rfl, hfree⟩, rfl⟩
    · rintro ⟨hmem | ⟨rfl, -⟩, hid⟩
      · exact absurd ⟨hmem, hid⟩ hx
      · rfl
  · rw [h id x]
    refine and_congr_left fun hid => (or_iff_left ?_).symm
    rintro ⟨rfl, hfree⟩
    exact hnew ⟨hid, hfree⟩

theorem Represents.extend (h : Represents m s) (rules : List Rule) :
    Represents (m.extend rules) (s.extend rules) := by
  induction rules generalizing m s with
  | nil => exact h
  | cons r rules ih => exact ih (h.insert r)

/-- **The entries of the map are the rules of the set**, in the same order. -/
theorem Represents.toList_eq (h : Represents m s) :
    m.toList = s.toList.map fun x => (x.id, x) := by
  have hsorted : (s.toList.map fun x => (x.id, x)).Pairwise
      fun a b => RuleId.compare a.1 b.1 = .lt :=
    List.pairwise_map.2 (s.sorted.imp RuleId.compare_eq_lt_iff.2)
  refine eq_of_pairwise_of_mem_iff (fun hab hba => ?_) Std.TreeMap.ordered_keys_toList hsorted
    fun ⟨id, x⟩ => ?_
  · exact RuleId.lt_asymm (RuleId.compare_eq_lt_iff.1 hab) (RuleId.compare_eq_lt_iff.1 hba)
  · rw [Std.TreeMap.mem_toList_iff_getElem?_eq_some, h id x]
    simp [eq_comm]

/-! ### Runs -/

/-- What is done to a rule set. -/
inductive Step where
  | insert (r : Rule)
  | extend (rules : List Rule)
  /-- The set of a list takes the place of the set. -/
  | collect (rules : List Rule)

/-- A step on a set. -/
def Step.apply (s : RuleSet) : Step → RuleSet
  | insert r => (s.insertNew r).2
  | extend rules => s.extend rules
  | collect rules => ofList rules

/-- A step on a map. -/
def Step.applyTable (m : Table) : Step → Table
  | insert r => m.insertIfNew r.id r
  | extend rules => m.extend rules
  | collect rules => Table.extend ∅ rules

/-- The set after some steps from the empty one. -/
def run (steps : List Step) : RuleSet := steps.foldl Step.apply empty

/-- The map after some steps from the empty one. -/
def runTable (steps : List Step) : Table := steps.foldl Step.applyTable ∅

theorem Represents.apply (h : Represents m s) (step : Step) :
    Represents (step.applyTable m) (step.apply s) := by
  cases step with
  | insert r => exact h.insert r
  | extend rules => exact h.extend rules
  | collect rules => exact represents_empty.extend rules

theorem represents_run (steps : List Step) : Represents (runTable steps) (run steps) := by
  suffices ∀ m s, Represents m s →
      Represents (steps.foldl Step.applyTable m) (steps.foldl Step.apply s) from
    this ∅ empty represents_empty
  induction steps with
  | nil => exact fun m s h => h
  | cons step steps ih => exact fun m s h => ih _ _ (h.apply step)

/-- The set keeps the first rule for each id, as the map does. -/
structure KeepsFirst (m : Table) (s : RuleSet) : Prop where
  /-- The map has the rules of the set in their order, each under its own id. -/
  entries : m.toList = s.toList.map fun x => (x.id, x)
  ascending : s.toList.Pairwise fun x y => x.id.Precedes y.id
  /-- The set is the set of its own list. -/
  collected : ofList s.toList = s
  /-- An insertion that finds the id taken changes nothing, and any other adds the rule. -/
  insertion : ∀ r, (∃ x ∈ s.toList, x.id = r.id) ∧ s.insertNew r = (false, s) ∨
    (∀ x ∈ s.toList, x.id ≠ r.id) ∧ (s.insertNew r).1 = true ∧
      (s.insertNew r).2.toList.Perm (r :: s.toList)

theorem Represents.keepsFirst (h : Represents m s) : KeepsFirst m s where
  entries := h.toList_eq
  ascending := s.sorted.imp RuleId.lt_iff_precedes.1
  collected := s.ofList_toList
  insertion r := by
    cases hc : s.containsId r.id with
    | true =>
      refine .inl ⟨containsId_iff.1 hc, ?_⟩
      rw [insertNew, hc, insert_of_containsId hc, Bool.not_true]
    | false =>
      refine .inr ⟨containsId_eq_false_iff.1 hc, ?_, toList_insert_perm hc⟩
      rw [insertNew, hc, Bool.not_false]

/-- **Of several rules with one id the first stays, whatever is done to a set.**  After any steps
the set keeps the first rule for each id.  To collect a list and to extend the set by another is to
collect both, a list is also collected when it is read from its text, and what is collected has for
each id the first rule of the list with that id and nothing else. -/
theorem run_firstWins (steps : List Step) (rules rules' : List Rule) :
    KeepsFirst (runTable steps) (run steps) ∧
      (ofList rules).extend rules' = ofList (rules ++ rules') ∧
      (Json.parse? (Json.array (rules.map (·.toJson))).compact).bind ofJson? =
        some (ofList rules) ∧
      ∀ id, (ofList (rules ++ rules')).toList.filter (·.id == id) =
        ((rules ++ rules').find? (·.id == id)).toList := by
  refine ⟨(represents_run steps).keepsFirst, ofList_append.symm, ?_, filter_id_ofList _⟩
  rw [Json.parse?_compact (Json.isPlain_map Rule.isPlain_toJson), Option.bind_some, ofJson?_array]

end RuleSet

end NestingRules
