import NestingRules.Relation
import Mathlib.Data.Finmap

/-!
# Runs on sets of relations

Relations are compared and hashed by their identity, so a set of relations has one member for each
identity, and the member brings its own place in the table.  Hence a set stands for a finite map
from identities to places (`RelationSet.Represents`): `Represents.apply` says of one step that the
set and the map give the same answer and still agree after it, and `Represents.run` says so of a
run.  Which place is kept depends on the step (`Step.applyPlaces`): an insertion keeps the old one,
a replacement takes the new one.
-/

namespace NestingRules

/-! ### Identity -/

namespace Relation

variable {a b r : Relation}

theorem beq_iff_identity_eq : (a == b) = true ↔ a.identity = b.identity :=
  beq_iff_eq (a := a.identity)

theorem identity_eq_iff : a.identity = b.identity ↔
    a.parent = b.parent ∧ a.child = b.child ∧ a.cardinality = b.cardinality := by
  rw [identity, identity, Identity.mk.injEq]

instance : EquivBEq Relation where
  rfl := beq_iff_identity_eq.2 rfl
  symm h := beq_iff_identity_eq.2 (beq_iff_identity_eq.1 h).symm
  trans h h' := beq_iff_identity_eq.2 ((beq_iff_identity_eq.1 h).trans (beq_iff_identity_eq.1 h'))

instance : LawfulHashable Relation where
  hash_eq _ _ h := congrArg (fun i : Identity => hash i) (beq_iff_identity_eq.1 h)

/-- The place in the table: row and column. -/
def place (r : Relation) : Nat × Nat := (r.row, r.col)

/-- The relation with an identity at a place. -/
def Identity.placedAt (i : Identity) (p : Nat × Nat) : Relation :=
  ⟨i.parent, i.child, i.cardinality, p.1, p.2⟩

end Relation

namespace RelationSet

/-! ### Maps -/

/-- A place for each identity that there is. -/
abbrev Places := Finmap fun _ : Relation.Identity => Nat × Nat

namespace Places

variable {m : Places} {i j : Relation.Identity} {p : Nat × Nat}

/-- The relation with an identity, at its place. -/
def relation? (m : Places) (i : Relation.Identity) : Option Relation := (m.lookup i).map i.placedAt

theorem isSome_relation? : (m.relation? i).isSome = true ↔ i ∈ m := by
  rw [relation?, Option.isSome_map, Finmap.lookup_isSome]

theorem relation?_insert_self : relation? (m.insert i p) i = some (i.placedAt p) := by
  rw [relation?, Finmap.lookup_insert, Option.map_some]

theorem relation?_insert_of_ne (h : j ≠ i) : relation? (m.insert i p) j = m.relation? j := by
  rw [relation?, Finmap.lookup_insert_of_ne m h, relation?]

theorem relation?_erase_self : relation? (m.erase i) i = none := by
  rw [relation?, Finmap.lookup_erase, Option.map_none]

theorem relation?_erase_of_ne (h : j ≠ i) : relation? (m.erase i) j = m.relation? j := by
  rw [relation?, Finmap.lookup_erase_ne h, relation?]

theorem keys_insert : (m.insert i p).keys = insert i m.keys := by
  ext j
  rw [Finset.mem_insert, Finmap.mem_keys, Finmap.mem_insert, Finmap.mem_keys]

/-- A new place takes the place of the old one. -/
theorem insert_erase : (m.erase i).insert i p = m.insert i p := by
  refine Finmap.ext_lookup fun j => ?_
  by_cases h : j = i
  · rw [h, Finmap.lookup_insert, Finmap.lookup_insert]
  · rw [Finmap.lookup_insert_of_ne _ h, Finmap.lookup_erase_ne h, Finmap.lookup_insert_of_ne _ h]

end Places

/-- The map has the place of each relation in the set, and no other identities. -/
structure Represents (m : Places) (s : RelationSet) : Prop where
  get? : ∀ r, s.get? r = m.relation? r.identity
  size : s.size = m.keys.card

namespace Represents

variable {m : Places} {s : RelationSet} {r : Relation}

theorem empty : Represents ∅ ∅ := ⟨fun _ => Std.HashSet.get?_empty, rfl⟩

theorem mem_iff (h : Represents m s) : r ∈ s ↔ r.identity ∈ m := by
  rw [← Std.HashSet.isSome_get?_iff_mem, h.get?, Places.isSome_relation?]

theorem contains_eq (h : Represents m s) : s.contains r = decide (r.identity ∈ m) := by
  rw [Bool.eq_iff_iff, Std.HashSet.contains_iff_mem, h.mem_iff, decide_eq_true_iff]

theorem insert_of_mem (h : Represents m s) (hr : r.identity ∈ m) : Represents m (s.insert r) where
  get? a := by
    have hmem : r ∈ s := h.mem_iff.2 hr
    rw [Std.HashSet.get?_insert, if_neg fun hnew => hnew.2 hmem, h.get?]
  size := by rw [Std.HashSet.size_insert, if_pos (h.mem_iff.2 hr), h.size]

theorem insert_of_notMem (h : Represents m s) (hr : r.identity ∉ m) :
    Represents (m.insert r.identity r.place) (s.insert r) where
  get? a := by
    have hmem : r ∉ s := fun hr' => hr (h.mem_iff.1 hr')
    simp only [Std.HashSet.get?_insert, Relation.beq_iff_identity_eq, hmem, not_false_eq_true,
      and_true]
    split_ifs with heq
    · rw [← heq, Places.relation?_insert_self]
      rfl
    · rw [Places.relation?_insert_of_ne (Ne.symm heq), h.get?]
  size := by
    have hkeys : r.identity ∉ m.keys := fun hr' => hr (Finmap.mem_keys.1 hr')
    rw [Std.HashSet.size_insert, if_neg fun hr' => hr (h.mem_iff.1 hr'), Places.keys_insert,
      Finset.card_insert_of_notMem hkeys, h.size]

theorem erase (h : Represents m s) (r : Relation) :
    Represents (m.erase r.identity) (s.erase r) where
  get? a := by
    simp only [Std.HashSet.get?_erase, Relation.beq_iff_identity_eq]
    split_ifs with heq
    · rw [← heq, Places.relation?_erase_self]
    · rw [Places.relation?_erase_of_ne (Ne.symm heq), h.get?]
  size := by
    simp only [Std.HashSet.size_erase, Finmap.keys_erase, Finset.card_erase_eq_ite, h.mem_iff,
      Finmap.mem_keys, h.size]

theorem replace (h : Represents m s) (r : Relation) :
    Represents (m.insert r.identity r.place) ((s.erase r).insert r) := by
  rw [← Places.insert_erase]
  exact (h.erase r).insert_of_notMem Finmap.notMem_erase_self

end Represents

/-! ### Runs -/

/-- What is done to a set of relations. -/
inductive Step where
  | insert (r : Relation)
  | contains (r : Relation)
  | get (r : Relation)
  | remove (r : Relation)
  | replace (r : Relation)

/-- What a step answers. -/
inductive Answer where
  | truth (b : Bool)
  | member (r : Option Relation)
  deriving DecidableEq

/-- A step on a set. -/
def Step.apply (s : RelationSet) : Step → Answer × RelationSet
  | insert r => (.truth (s.insertNew r).1, (s.insertNew r).2)
  | contains r => (.truth (s.contains r), s)
  | get r => (.member (s.get? r), s)
  | remove r => (.truth (s.remove r).1, (s.remove r).2)
  | replace r => (.member (s.replace r).1, (s.replace r).2)

/-- A step on a map. -/
def Step.applyPlaces (m : Places) : Step → Answer × Places
  | insert r =>
    if r.identity ∈ m then (.truth false, m) else (.truth true, m.insert r.identity r.place)
  | contains r => (.truth (r.identity ∈ m), m)
  | get r => (.member (m.relation? r.identity), m)
  | remove r => (.truth (r.identity ∈ m), m.erase r.identity)
  | replace r => (.member (m.relation? r.identity), m.insert r.identity r.place)

/-- The answers to some steps on a set, each with the size after it, and the set in the end. -/
def run (s : RelationSet) : List Step → List (Answer × Nat) × RelationSet
  | [] => ([], s)
  | step :: steps =>
    let after := step.apply s
    let rest := run after.2 steps
    ((after.1, after.2.size) :: rest.1, rest.2)

/-- The answers to some steps on a map, each with the number of identities after it, and the map in
the end. -/
def runPlaces (m : Places) : List Step → List (Answer × Nat) × Places
  | [] => ([], m)
  | step :: steps =>
    let after := step.applyPlaces m
    let rest := runPlaces after.2 steps
    ((after.1, after.2.keys.card) :: rest.1, rest.2)

variable {m : Places} {s : RelationSet}

theorem Represents.apply (h : Represents m s) (step : Step) :
    (step.apply s).1 = (step.applyPlaces m).1 ∧
      Represents (step.applyPlaces m).2 (step.apply s).2 := by
  cases step with
  | insert r =>
    rw [Step.apply, insertNew, h.contains_eq, Step.applyPlaces]
    split_ifs with hr
    · exact ⟨by simp [hr], h.insert_of_mem hr⟩
    · exact ⟨by simp [hr], h.insert_of_notMem hr⟩
  | contains r => exact ⟨congrArg Answer.truth h.contains_eq, h⟩
  | get r => exact ⟨congrArg Answer.member (h.get? r), h⟩
  | remove r => exact ⟨congrArg Answer.truth h.contains_eq, h.erase r⟩
  | replace r => exact ⟨congrArg Answer.member (h.get? r), h.replace r⟩

theorem Represents.run (h : Represents m s) (steps : List Step) :
    (run s steps).1 = (runPlaces m steps).1 ∧
      Represents (runPlaces m steps).2 (run s steps).2 := by
  -- the set and the map vary from step to step
  induction steps generalizing m s with
  | nil => exact ⟨rfl, h⟩
  | cons step steps ih =>
    obtain ⟨hanswer, hafter⟩ := h.apply step
    obtain ⟨hanswers, hend⟩ := ih hafter
    refine ⟨?_, hend⟩
    rw [RelationSet.run, runPlaces, hanswer, hafter.size, hanswers]

/-- **A set of relations is a map from identities to places.**  To be equal is to have the same
parent, child and cardinality wherever the relations stand; it is an equivalence, and what is equal
is hashed from the same data.  Whatever is done to the empty set, the answers and the sizes are
those of the map: an identity that is there keeps its place when it is inserted again and gets the
new one when it is replaced. -/
theorem run_eq_runPlaces (steps : List Step) :
    (Equivalence fun a b : Relation => (a == b) = true) ∧
      (∀ a b : Relation, (a == b) = true ↔
        a.parent = b.parent ∧ a.child = b.child ∧ a.cardinality = b.cardinality) ∧
      (∀ a b : Relation, (a == b) = true → a.identity = b.identity ∧ hash a = hash b) ∧
      (run ∅ steps).1 = (runPlaces ∅ steps).1 ∧
      Represents (runPlaces ∅ steps).2 (run ∅ steps).2 := by
  have hequivalence : Equivalence fun a b : Relation => (a == b) = true :=
    ⟨fun _ => BEq.rfl, BEq.symm, BEq.trans⟩
  refine ⟨hequivalence, fun a b => ?_, fun a b h => ?_, Represents.empty.run steps⟩
  · rw [Relation.beq_iff_identity_eq, Relation.identity_eq_iff]
  · exact ⟨Relation.beq_iff_identity_eq.1 h, hash_eq h⟩

example :
    let r (row col : Nat) : Relation := ⟨⟨"Table"⟩, ⟨"TR"⟩, .atLeastOne, row, col⟩
    (runPlaces ∅ [.insert (r 1 4), .insert (r 9 2), .replace (r 9 2), .get (r 1 4)]).1 =
      [(.truth true, 1), (.truth false, 1), (.member (some (r 1 4)), 1),
        (.member (some (r 9 2)), 1)] := by
  decide

end RelationSet

end NestingRules
