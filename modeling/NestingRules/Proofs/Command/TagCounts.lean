import NestingRules.Command.Tables
import NestingRules.Proofs.Generation.WellFormed
import Mathlib.Algebra.BigOperators.Group.List.Basic
import Mathlib.Algebra.GroupWithZero.Nat

/-!
# Tags counted in the summary

The summary counts rules under each tag of a table.  If the tags of every rule are in the table, in
its order and each once, then nothing is lost and nothing is counted twice: the counts add up to the
number of tags of all rules (`sum_countsOf`).  Well-formed rules are tagged so, hence the summary of a
profile is complete (`compile_tagCounts`).
-/

namespace NestingRules

/-! ### Counts of a table -/

section

variable {α : Type} {table : List String} {rules : List Rule} {x : Rule}

theorem sum_map_ite (p : α → Bool) (l : List α) :
    (l.map fun a => if p a then 1 else 0).sum = l.countP p := by
  induction l with
  | nil => rfl
  | cons a l ih => rw [List.map_cons, List.sum_cons, ih, List.countP_cons, Nat.add_comm]

theorem sum_filter_pos (counts : List (String × Nat)) :
    ((counts.filter (0 < ·.2)).map (·.2)).sum = (counts.map (·.2)).sum := by
  induction counts with
  | nil => rfl
  | cons c counts ih =>
    rw [List.filter_cons, List.map_cons, List.sum_cons, ← ih]
    split_ifs with hc
    · rw [List.map_cons, List.sum_cons]
    · have hzero : c.2 = 0 := by simpa using hc
      rw [hzero, Nat.zero_add]

/-- How many rules carry each tag of a table; tags of no rule are left out. -/
def countsOf (table : List String) (rules : List Rule) : List (String × Nat) :=
  (table.map fun tag => (tag, rules.countP (·.hasTag tag))).filter (0 < ·.2)

theorem mem_countsOf {tag : String} {n : Nat} : (tag, n) ∈ countsOf table rules ↔
    tag ∈ table ∧ n = rules.countP (·.hasTag tag) ∧ 0 < n := by
  simp only [countsOf, List.mem_filter, List.mem_map, Prod.mk.injEq, decide_eq_true_iff]
  constructor
  · rintro ⟨⟨tag, htag, rfl, rfl⟩, hpos⟩
    exact ⟨htag, rfl, hpos⟩
  · rintro ⟨htag, rfl, hpos⟩
    exact ⟨⟨tag, htag, rfl, rfl⟩, hpos⟩

theorem countsOf_sublist (table : List String) (rules : List Rule) :
    ((countsOf table rules).map (·.1)).Sublist table := by
  have hmap : (table.map fun tag => (tag, rules.countP (·.hasTag tag))).map (·.1) = table := by
    rw [List.map_map]
    exact List.map_id table
  have hsub : ((countsOf table rules).map (·.1)).Sublist
      ((table.map fun tag => (tag, rules.countP (·.hasTag tag))).map (·.1)) :=
    List.filter_sublist.map _
  rwa [hmap] at hsub

/-- A rule whose tags are in a table is counted as often as it has tags. -/
theorem countP_hasTag (h : x.tags.Sublist table) (hn : table.Nodup) :
    table.countP x.hasTag = x.tags.length := by
  have hfilter : table.filter x.hasTag = x.tags := by
    rw [← filter_mem_eq_of_sublist h hn]
    exact List.filter_congr fun tag _ => List.contains_eq_mem ..
  rw [List.countP_eq_length_filter, hfilter]

/-- **The counts add up to the number of tags.** -/
theorem sum_countsOf (hn : table.Nodup) (h : ∀ x ∈ rules, x.tags.Sublist table) :
    ((countsOf table rules).map (·.2)).sum = (rules.map (·.tags.length)).sum := by
  rw [countsOf, sum_filter_pos, List.map_map]
  induction rules with
  | nil => simp [Function.comp_def]
  | cons x rules ih =>
    obtain ⟨hx, hrules⟩ := List.forall_mem_cons.1 h
    have hstep : ∀ tag, (x :: rules).countP (·.hasTag tag) =
        rules.countP (·.hasTag tag) + if x.hasTag tag then 1 else 0 :=
      fun tag => List.countP_cons ..
    simp only [Function.comp_def, hstep, List.sum_map_add] at ih ⊢
    rw [ih hrules, sum_map_ite, countP_hasTag hx hn, List.map_cons, List.sum_cons, Nat.add_comm]

end

/-! ### Tags of the rules of a profile -/

section

variable {revision : Revision} {x : Rule}

theorem Rule.IsWellFormed.tags_sublist (h : x.IsWellFormed revision) :
    x.tags.Sublist ("structure" :: Category.all.map (·.tag)) := by
  obtain ⟨tags, htags, hsub⟩ := h.tags
  rw [htags]
  exact hsub.cons_cons _

theorem Rule.IsWellFormed.hasTag_base (h : x.IsWellFormed revision) :
    x.hasTag "structure" = true := by
  obtain ⟨tags, htags, -⟩ := h.tags
  simp [Rule.hasTag, htags]

end

namespace Profile

/-- The counts are a complete account of the tags of the rules. -/
structure CountsTags (p : Profile) (counts : List (String × Nat)) : Prop where
  /-- The base tag comes first, and every rule has it. -/
  base : counts.head? = some ("structure", p.ruleCount)
  ordered : (counts.map (·.1)).Sublist ("structure" :: Category.all.map (·.tag))
  nodup : (counts.map (·.1)).Nodup
  count : ∀ tag n, (tag, n) ∈ counts → 0 < n ∧ n = p.rules.toList.countP fun x => tag ∈ x.tags
  complete : ∀ x ∈ p.rules.toList, ∀ tag ∈ x.tags, tag ∈ counts.map (·.1)
  sum : (counts.map (·.2)).sum = (p.rules.toList.map (·.tags.length)).sum

theorem tagCounts_eq (p : Profile) :
    p.tagCounts = countsOf ("structure" :: Category.all.map (·.tag)) p.rules.toList := by
  simp only [tagCounts, countsOf, RuleSet.withTag, List.countP_eq_length_filter]
  rfl

theorem countsTags_tagCounts {p : Profile} {revision : Revision} (hne : p.rules.toList ≠ [])
    (h : ∀ x ∈ p.rules.toList, x.IsWellFormed revision) : p.CountsTags p.tagCounts where
  base := by
    have hall : p.rules.toList.countP (·.hasTag "structure") = p.ruleCount :=
      List.countP_eq_length.2 fun x hx => (h x hx).hasTag_base
    have hpos : 0 < p.ruleCount := List.length_pos_iff.2 hne
    rw [tagCounts_eq, countsOf, List.map_cons, hall, List.filter_cons_of_pos (by simpa using hpos)]
    rfl
  ordered := by
    rw [tagCounts_eq]
    exact countsOf_sublist _ _
  nodup := by
    rw [tagCounts_eq]
    exact (countsOf_sublist _ _).nodup Category.nodup_tags
  count tag n hn := by
    rw [tagCounts_eq, mem_countsOf] at hn
    obtain ⟨-, hcount, hpos⟩ := hn
    refine ⟨hpos, hcount.trans (List.countP_congr fun x _ => ?_)⟩
    simp [Rule.hasTag]
  complete x hx tag htag := by
    have hpos : 0 < p.rules.toList.countP (·.hasTag tag) :=
      List.countP_pos_iff.2 ⟨x, hx, by simpa [Rule.hasTag] using htag⟩
    rw [tagCounts_eq]
    exact List.mem_map.2 ⟨_, mem_countsOf.2 ⟨(h x hx).tags_sublist.subset htag, rfl, hpos⟩, rfl⟩
  sum := by
    rw [tagCounts_eq]
    exact sum_countsOf Category.nodup_tags fun x hx => (h x hx).tags_sublist

end Profile

/-- **The summary accounts for every tag of every rule of a profile.** -/
theorem compile_tagCounts (o : CompileOptions) (relations : List Relation) :
    ∃ c, compile o relations = .ok c ∧ c.profile.CountsTags c.profile.tagCounts := by
  obtain ⟨c, hc, hrules⟩ := compile_spec o relations
  have hwell : ∀ x ∈ c.profile.rules.toList, x.IsWellFormed o.revision := by
    rw [hrules]
    exact fun x => isWellFormed_of_mem
  obtain ⟨x, hx⟩ := List.exists_mem_of_length_pos
    (by rw [Catalog.length_rules]; decide : 0 < (Catalog.rules o.revision).length)
  have hne : c.profile.rules.toList ≠ [] := by
    rw [hrules]
    exact List.ne_nil_of_mem (mem_ofList_produced.2 (.inl hx))
  exact ⟨c, hc, Profile.countsTags_tagCounts hne hwell⟩

end NestingRules
