import NestingRules.Proofs.Applicability.Scope
import NestingRules.Proofs.Heading.Numerals

/-!
# Numbered headings in relations

A revision says by a pattern which names are numbered headings, and the registry of types lists the
names that relations may speak of.  The registry has the headings up to `H6`, for both revisions
(`Role.contains_iff_of_accepts`).  So a relation with a numbered heading on one side is recognised
if and only if the level is six at most (`Applicability.recognises_heading_iff`).  For the older
revision these are all headings there are; for the newer one the headings from `H7` on match the
pattern and still are unknown types (`Applicability.check_level_seven`).
-/

namespace NestingRules

variable {revision : Revision} {r : Relation} {n : TypeName} {name : String}

/-! ### Headings in the registry -/

namespace Role

theorem contains_iff_of_accepts (h : HeadingPattern.unlimited.accepts name = true) :
    revision.scope.contains name = true ↔ HeadingPattern.upToSix.accepts name = true := by
  constructor
  · intro hscope
    have key : ∀ r, ∀ n ∈ standard r, HeadingPattern.unlimited.accepts n = true →
        HeadingPattern.upToSix.accepts n = true := by
      rintro (_ | _) <;> decide
    obtain ⟨r, hr⟩ := exists_isStandard_of_isKnown (RoleScope.isKnown_of_contains hscope)
    exact key r name hr h
  · intro hsix
    obtain ⟨level, hlow, hhigh, rfl⟩ := HeadingPattern.accepts_upToSix_iff.1 hsix
    have key : ∀ r : Revision, ∀ level < 7, 1 ≤ level →
        r.scope.contains ("H" ++ toString level) = true := by
      rintro (_ | _) <;> decide
    exact key revision level (by omega) hlow

end Role

/-! ### Relations with headings -/

namespace Applicability

/-- Neither name of a relation is the reason why it is left out. -/
def Recognises (revision : Revision) (r : Relation) : Prop :=
  check revision r ≠ some .unknownType ∧ check revision r ≠ some .notInRevision

/-- One side of a relation is the name, and the revision allows what is on the other side. -/
def HasSide (revision : Revision) (n : TypeName) (r : Relation) : Prop :=
  (r.parent = n ∧ revision.scope.admitsChild r.child = true) ∨
    (revision.scope.admitsParent r.parent = true ∧ r.child = n)

instance : Decidable (HasSide revision n r) :=
  inferInstanceAs (Decidable (_ ∨ _))

theorem recognises_of_admits (h : admits revision.scope r = true) : Recognises revision r := by
  have hknown := admits_known h
  unfold Recognises check
  split_ifs <;> cases revision <;> simp_all [Revision.scope, Revision.isLegacy]

theorem check_pdf20_of_not_admits (h : ¬ admits .known r = true) :
    check .pdf20 r = some .unknownType := by
  rw [Bool.not_eq_true] at h
  rw [check, h]
  rfl

/-- Names that a side has besides the registered ones do not matter if they are no headings. -/
theorem contains_or_iff_of_accepts {a b : TypeName}
    (h : HeadingPattern.unlimited.accepts n.text = true)
    (ha : HeadingPattern.unlimited.accepts a.text = false)
    (hb : HeadingPattern.unlimited.accepts b.text = false) :
    revision.scope.contains n.text = true ∨ n = a ∨ n = b ↔
      HeadingPattern.upToSix.accepts n.text = true := by
  rw [Role.contains_iff_of_accepts h]
  refine or_iff_left ?_
  rintro (rfl | rfl)
  · exact Bool.false_ne_true (ha.symm.trans h)
  · exact Bool.false_ne_true (hb.symm.trans h)

theorem admitsParent_heading_iff (h : HeadingPattern.unlimited.accepts n.text = true) :
    revision.scope.admitsParent n = true ↔ HeadingPattern.upToSix.accepts n.text = true :=
  RoleScope.admitsParent_iff.trans (contains_or_iff_of_accepts h (by decide) (by decide))

theorem admitsChild_heading_iff (h : HeadingPattern.unlimited.accepts n.text = true) :
    revision.scope.admitsChild n = true ↔ HeadingPattern.upToSix.accepts n.text = true :=
  RoleScope.admitsChild_iff.trans (contains_or_iff_of_accepts h (by decide) (by decide))

/-- A relation with a numbered heading has its names in scope iff the heading is registered. -/
theorem HasSide.admits_iff (h : HasSide revision n r)
    (hn : HeadingPattern.unlimited.accepts n.text = true) :
    admits revision.scope r = true ↔ HeadingPattern.upToSix.accepts n.text = true := by
  rw [Applicability.admits_iff]
  rcases h with ⟨rfl, hchild⟩ | ⟨hparent, rfl⟩
  · rw [and_iff_left hchild, admitsParent_heading_iff hn]
  · rw [and_iff_right hparent, admitsChild_heading_iff hn]

/-- **A relation with a numbered heading is recognised iff the level is six at most.**  The headings
of the older revision are all such; one of the newer revision that is not is an unknown type. -/
theorem recognises_heading_iff (hn : revision.headingPattern.accepts n.text = true)
    (hside : HasSide revision n r) :
    (Recognises revision r ↔
      ∃ level : Nat, 1 ≤ level ∧ level ≤ 6 ∧ n.text = "H" ++ toString level) ∧
    (Recognises revision r ∨ revision = .pdf20 ∧ check revision r = some .unknownType) := by
  have hadmits := hside.admits_iff (HeadingPattern.accepts_unlimited_of_accepts hn)
  rw [← HeadingPattern.accepts_upToSix_iff, ← hadmits]
  by_cases h : admits revision.scope r = true
  · have hrec := recognises_of_admits h
    exact ⟨iff_of_true hrec h, .inl hrec⟩
  · cases revision with
    | pdf17 => exact absurd (hadmits.2 hn) h
    | pdf20 =>
      have hcheck := check_pdf20_of_not_admits h
      exact ⟨iff_of_false (fun hrec => hrec.1 hcheck) h, .inr ⟨rfl, hcheck⟩⟩

/-- The eleventh level on the side of the child. -/
theorem recognises_heading_iff_eleven :
    let r : Relation := ⟨⟨"Sect"⟩, ⟨"H11"⟩, .exactlyOne, 2, 3⟩
    Revision.pdf20.headingPattern.accepts "H11" = true ∧ HasSide .pdf20 ⟨"H11"⟩ r ∧
      (Recognises .pdf20 r ↔
        ∃ level : Nat, 1 ≤ level ∧ level ≤ 6 ∧ "H11" = "H" ++ toString level) := by
  intro r
  have hname : Revision.pdf20.headingPattern.accepts "H11" = true := by decide
  have hside : HasSide .pdf20 ⟨"H11"⟩ r := by decide
  exact ⟨hname, hside, (recognises_heading_iff (n := ⟨"H11"⟩) hname hside).1⟩

/-- The newer revision has headings of level seven, and leaves out relations with them. -/
theorem check_level_seven :
    let r : Relation := ⟨⟨"H7"⟩, ⟨"P"⟩, .forbidden, 1, 1⟩
    Revision.pdf20.headingPattern.accepts "H7" = true ∧ HasSide .pdf20 ⟨"H7"⟩ r ∧
      check .pdf20 r = some .unknownType := by
  decide

end Applicability

end NestingRules
