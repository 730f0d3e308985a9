import NestingRules.Applicability
import Mathlib.Data.List.Basic

/-!
# Which relations apply

The names of a relation are checked against the types in scope (`Revision.scope`): those of the
older revision for itself, and those of both revisions for the newer one.  A relation applies iff
its names are in scope, it constrains something and its parent is no grouping placeholder
(`Applicability.check_eq_none_iff`).  The two revisions agree on everything but the scope
(`Applicability.check_pdf17`).
-/

namespace NestingRules

/-- The types that a revision allows in rules. -/
def Revision.scope : Revision → RoleScope
  | .pdf17 => .standard .pdf17
  | .pdf20 => .known

variable {revision : Revision} {r : Relation} {s : RoleScope} {n : TypeName} {name : String}

/-! ### Names in scope -/

namespace Role

theorem exists_isStandard_of_isKnown (h : isKnown name = true) :
    ∃ revision, name ∈ standard revision := by
  obtain ⟨revision, -, hr⟩ := List.any_eq_true.1 h
  exact ⟨revision, List.contains_iff_mem.1 hr⟩

theorem isKnown_of_isStandard (h : isStandard revision name = true) : isKnown name = true :=
  List.any_eq_true.2 ⟨revision, by cases revision <;> decide, h⟩

theorem ne_of_isKnown {other : String} (h : isKnown name = true) (ho : isKnown other = false) :
    name ≠ other := by
  rintro rfl
  rw [h] at ho
  cases ho

theorem not_mem_specific_pdf20 (h : isStandard .pdf17 name = true) : name ∉ specific .pdf20 := by
  have key : ∀ n ∈ standard .pdf17, n ∉ specific .pdf20 := by decide
  exact key name (List.contains_iff_mem.1 h)

theorem isAlphanum_of_isKnown (h : isKnown name = true) :
    ∀ c ∈ name.toList, c.isAlphanum = true := by
  have key : ∀ revision, ∀ n ∈ standard revision, n.toList.all (·.isAlphanum) = true := by
    rintro (_ | _) <;> decide
  obtain ⟨revision, hr⟩ := exists_isStandard_of_isKnown h
  exact List.all_eq_true.1 (key revision name hr)

/-- The names of types begin with a capital letter. -/
theorem exists_head_of_isKnown (h : isKnown name = true) :
    ∃ c cs, name.toList = c :: cs ∧ c.isUpper = true := by
  have key : ∀ revision, ∀ n ∈ standard revision, n.toList.head?.any (·.isUpper) = true := by
    rintro (_ | _) <;> decide
  obtain ⟨revision, hr⟩ := exists_isStandard_of_isKnown h
  obtain ⟨c, hc, hupper⟩ := (Option.any_eq_true _ _).1 (key revision name hr)
  obtain ⟨cs, hcs⟩ := List.head?_eq_some_iff.1 hc
  exact ⟨c, cs, hcs, hupper⟩

end Role

namespace RoleScope

theorem isKnown_of_contains (h : s.contains name = true) : Role.isKnown name = true := by
  cases s with
  | known => exact h
  | standard revision => exact Role.isKnown_of_isStandard h

theorem admitsParent_iff : s.admitsParent n = true ↔
    s.contains n.text = true ∨ n = .headingWildcard ∨ n = .treeRoot := by
  simp [admitsParent, TypeName.isHeadingWildcard, TypeName.isTreeRoot, or_assoc]

theorem admitsChild_iff : s.admitsChild n = true ↔
    s.contains n.text = true ∨ n = .headingWildcard ∨ n = .contentItem := by
  simp [admitsChild, TypeName.isHeadingWildcard, TypeName.isContentItem, or_assoc]

theorem admitsParent_known (h : s.admitsParent n = true) : known.admitsParent n = true :=
  admitsParent_iff.2 ((admitsParent_iff.1 h).imp_left isKnown_of_contains)

theorem admitsChild_known (h : s.admitsChild n = true) : known.admitsChild n = true :=
  admitsChild_iff.2 ((admitsChild_iff.1 h).imp_left isKnown_of_contains)

theorem not_mem_specific_of_admitsParent (h : (standard .pdf17).admitsParent n = true) :
    n.text ∉ Role.specific .pdf20 := by
  rcases admitsParent_iff.1 h with h | rfl | rfl
  · exact Role.not_mem_specific_pdf20 h
  · decide
  · decide

theorem not_mem_specific_of_admitsChild (h : (standard .pdf17).admitsChild n = true) :
    n.text ∉ Role.specific .pdf20 := by
  rcases admitsChild_iff.1 h with h | rfl | rfl
  · exact Role.not_mem_specific_pdf20 h
  · decide
  · decide

theorem isAlphanum_of_admitsParent (h : s.admitsParent n = true) :
    ∀ c ∈ n.text.toList, c.isAlphanum = true := by
  rcases admitsParent_iff.1 h with h | rfl | rfl
  · exact Role.isAlphanum_of_isKnown (isKnown_of_contains h)
  · exact List.all_eq_true.1 (by decide)
  · exact List.all_eq_true.1 (by decide)

theorem exists_head_of_admitsParent (h : s.admitsParent n = true) :
    ∃ c cs, n.text.toList = c :: cs ∧ c.isUpper = true := by
  rcases admitsParent_iff.1 h with h | rfl | rfl
  · exact Role.exists_head_of_isKnown (isKnown_of_contains h)
  · exact ⟨'H', ['n'], by decide⟩
  · exact ⟨'S', "tructTreeRoot".toList, by decide⟩

theorem isAlphanum_or_blank_of_admitsChild (h : s.admitsChild n = true) :
    ∀ c ∈ n.text.toList, c.isAlphanum = true ∨ c = ' ' := by
  rcases admitsChild_iff.1 h with h | rfl | rfl
  · exact fun c hc => .inl (Role.isAlphanum_of_isKnown (isKnown_of_contains h) c hc)
  · exact fun c hc => .inl (List.all_eq_true.1 (by decide) c hc)
  · have hall :
        TypeName.contentItem.text.toList.all (fun c => c.isAlphanum || c == ' ') = true := by
      decide
    intro c hc
    have hc := List.all_eq_true.1 hall c hc
    rwa [Bool.or_eq_true, beq_iff_eq] at hc

end RoleScope

/-! ### Relations that apply -/

namespace Applicability

theorem admits_iff : admits s r = true ↔
    s.admitsParent r.parent = true ∧ s.admitsChild r.child = true := by
  simp [admits]

theorem admits_known (h : admits s r = true) : admits .known r = true := by
  obtain ⟨hparent, hchild⟩ := admits_iff.1 h
  exact admits_iff.2 ⟨RoleScope.admitsParent_known hparent, RoleScope.admitsChild_known hchild⟩

/-- **The revisions agree wherever both apply**: a relation is left out for the older revision for
the reason for which it is left out for the newer one, and else if its names are not in scope. -/
theorem check_pdf17 (r : Relation) : check .pdf17 r =
    (check .pdf20 r).or (if admits Revision.pdf17.scope r then none else some .notInRevision) := by
  unfold check
  split_ifs <;> simp_all [Revision.scope, Revision.isLegacy]

theorem check_pdf20_eq_none (h : check .pdf17 r = none) : check .pdf20 r = none := by
  rw [check_pdf17, Option.or_eq_none_iff] at h
  exact h.1

theorem check_pdf20_eq_some {reason : SkipReason} (hne : reason ≠ .notInRevision)
    (h : check .pdf17 r = some reason) : check .pdf20 r = some reason := by
  rw [check_pdf17, Option.or_eq_some_iff] at h
  refine h.resolve_right fun ⟨_, hscope⟩ => hne ?_
  split_ifs at hscope
  exact (Option.some.inj hscope).symm

theorem check_pdf20_ne (r : Relation) : check .pdf20 r ≠ some .notInRevision := by
  unfold check
  split_ifs <;> simp_all [Revision.isLegacy]

/-- A relation applies iff its names are in scope, it constrains something, and its parent is no
grouping placeholder. -/
theorem check_eq_none_iff : check revision r = none ↔
    admits revision.scope r = true ∧ r.cardinality ≠ .anyAmount ∧
      r.parent.text ∉ Role.transitional := by
  have hknown : admits revision.scope r = true → admits .known r = true := admits_known
  unfold check
  split_ifs <;> cases revision <;> simp_all [Revision.scope, Revision.isLegacy,
    Cardinality.isUnconstrained, Role.isTransitional]

theorem admits_of_check_eq_none (h : check revision r = none) : admits .known r = true :=
  admits_known (check_eq_none_iff.1 h).1

/-- The names of a relation that applies have no punctuation in them. -/
theorem not_mem_of_check (h : check revision r = none) {c : Char} (hc : c.isAlphanum = false)
    (hblank : c ≠ ' ') : c ∉ r.parent.text.toList ∧ c ∉ r.child.text.toList := by
  obtain ⟨hparent, hchild⟩ := admits_iff.1 (admits_of_check_eq_none h)
  constructor
  · intro hmem
    rw [RoleScope.isAlphanum_of_admitsParent hparent c hmem] at hc
    cases hc
  · intro hmem
    rcases RoleScope.isAlphanum_or_blank_of_admitsChild hchild c hmem with halpha | rfl
    · rw [halpha] at hc
      cases hc
    · exact hblank rfl

end Applicability

end NestingRules
