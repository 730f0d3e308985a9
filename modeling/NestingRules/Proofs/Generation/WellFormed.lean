import NestingRules.Proofs.Category.Tags
import NestingRules.Proofs.Generation.Order
import NestingRules.Proofs.Generation.Pairs
import Mathlib.Data.List.Infix

/-!
# Rules are well formed

A rule is well formed for a revision (`Rule.IsWellFormed`) if its tags are in the order of the
categories, it refers to the annex of the base standard and to nothing else, and its message asks
for as many arguments as there are.  The catalog is fixed, so it is looked through; a rule of a
relation puts two names between fixed words, and no name that applies has a percent sign in it.
Hence all rules of a profile are well formed (`compile_wellFormed`).
-/

namespace NestingRules

/-- The message asks for `n` arguments: for one by the placeholder `%1`, which has its only percent
sign, or for none. -/
def AsksFor (message : List Char) (n : Nat) : Prop :=
  ['%', '1'] <:+: message ∧ n = 1 ∧ message.count '%' = 1 ∨
    ¬ ['%', '1'] <:+: message ∧ n = 0 ∧ '%' ∉ message

instance (message : List Char) (n : Nat) : Decidable (AsksFor message n) :=
  inferInstanceAs (Decidable (_ ∨ _))

/-- A rule in order, for a revision. -/
structure Rule.IsWellFormed (revision : Revision) (x : Rule) : Prop where
  /-- The tags are the base tag and tags of categories, in the order of the categories. -/
  tags : ∃ tags, x.tags = "structure" :: tags ∧ tags.Sublist (Category.all.map (·.tag))
  nodup_tags : x.tags.Nodup
  references : x.references = [⟨revision.baseStandard, "Annex_L"⟩]
  asksFor : AsksFor x.error.message.toList x.error.arguments.length

variable {revision : Revision} {relations : List Relation} {r : Relation} {rule : Rule}

theorem asksFor_zero {message : List Char} (h : '%' ∉ message) : AsksFor message 0 :=
  .inr ⟨fun hin => h (hin.subset List.mem_cons_self), rfl, h⟩

/-! ### The catalog -/

namespace Catalog

theorem asksFor_of_eq {s : String} {cs : List Char} {n : Nat} (hs : s = String.ofList cs)
    (h : AsksFor cs n) : AsksFor s.toList n := by
  rwa [hs, String.toList_ofList]

theorem asksFor_of_mem_entries {e : Entry} (h : e ∈ entries) :
    AsksFor e.message.toList e.argument.toList.length := by
  simp only [entries, List.mem_cons, List.not_mem_nil, or_false] at h
  rcases h with rfl | rfl | rfl | rfl | rfl | rfl | rfl | rfl <;>
    exact asksFor_of_eq rfl (by decide +kernel)

theorem isWellFormed_of_mem_rules (h : rule ∈ rules revision) : rule.IsWellFormed revision := by
  obtain ⟨e, he, rfl⟩ := List.mem_map.1 h
  exact {
    tags := ⟨[], rfl, List.nil_sublist _⟩
    nodup_tags := List.nodup_singleton _
    references := rfl
    asksFor := by
      rw [Entry.toRule, List.length_map]
      exact asksFor_of_mem_entries (List.fst_mem_of_mem_zipIdx he) }

end Catalog

/-! ### Messages -/

theorem TypeName.percent_not_mem_display {n : TypeName} (h : '%' ∉ n.text.toList) :
    '%' ∉ n.display.toList := by
  unfold display
  split_ifs
  · exact h
  · simpa using h

theorem Phrases.percent_not_mem : ∀ p ∈ all, '%' ∉ p.failure.toList ∧ '%' ∉ p.ending.toList := by
  decide

namespace Synthesis

theorem percent_not_mem_message {p : Phrases} (h : Applicability.check revision r = none)
    (hp : r.phrases? = some p) : '%' ∉ (ruleWith revision r p).error.message.toList := by
  obtain ⟨hparent, hchild⟩ := Applicability.not_mem_of_check h (c := '%') (by decide) (by decide)
  obtain ⟨hfailure, hending⟩ := Phrases.percent_not_mem p (Relation.mem_all_of_phrases? hp)
  have hin : '%' ∉ (childIn "content item(s)" r).toList := by
    unfold childIn
    split_ifs
    · decide
    · exact TypeName.percent_not_mem_display hchild
  simp only [ruleWith, Draft.toRule, draftWith, String.toList_append, List.mem_append, not_or]
  exact ⟨⟨⟨TypeName.percent_not_mem_display hparent, hfailure⟩, hin⟩, hending⟩

theorem isWellFormed_of_rule? (h : Applicability.check revision r = none)
    (hrule : rule? revision r = .ok (some rule)) : rule.IsWellFormed revision := by
  obtain ⟨p, hp, rfl⟩ := rule?_eq_some_iff.1 hrule
  exact {
    tags := Category.relationTags_sublist _ _
    nodup_tags := Category.nodup_relationTags _ _
    references := rfl
    asksFor := asksFor_zero (percent_not_mem_message h hp) }

end Synthesis

theorem isWellFormed_of_mem (h : rule ∈ (RuleSet.ofList
    (Catalog.rules revision ++ produced revision relations)).toList) :
    rule.IsWellFormed revision := by
  rcases mem_ofList_produced.1 h with h | ⟨p, hp⟩
  · exact Catalog.isWellFormed_of_mem_rules h
  · obtain ⟨r, hfirst, hrule⟩ := ruleAbout_eq_some_iff.1 hp
    exact Synthesis.isWellFormed_of_rule?
      (check_of_asksForRule (pair_and_asks_of_firstAbout hfirst).2) hrule

/-- **Every rule of a profile is well formed** for the revision that gives the profile its
flavour. -/
theorem compile_wellFormed (o : CompileOptions) (relations : List Relation) :
    ∃ c, compile o relations = .ok c ∧ c.profile.flavour = o.revision.flavour ∧
      ∀ x ∈ c.profile.rules.toList, x.IsWellFormed o.revision := by
  obtain ⟨c, hc, hprofile⟩ := compile_profile o relations
  refine ⟨c, hc, by rw [hprofile, Compilation.profileOf], fun x hx => ?_⟩
  rw [hprofile, Compilation.rules_profileOf] at hx
  exact isWellFormed_of_mem hx

end NestingRules
