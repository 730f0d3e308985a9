import NestingRules.StructureType
import NestingRules.Proofs.Heading.Numerals
import Mathlib.Data.List.Nodup

/-!
# Tags of relations

The tags of a relation are the base tag and then tags of categories, in the order of the categories
and each once (`Category.relationTags_sublist`, `Category.nodup_relationTags`).  No two categories
have one tag, so a tag is there iff one of the two names belongs to its category
(`Category.tag_mem_relationTags_iff`), and a name belongs to the headings iff it is written as one
(`IsHeading`).  This leaves no choice: a relation has the tags of its two names, whichever of them is
the parent (`Category.relationTags_exact`).
-/

namespace NestingRules

/-- A list of members of another one, in its order and each once, is known by its members. -/
theorem filter_mem_eq_of_sublist {α : Type} [DecidableEq α] {xs all : List α}
    (h : xs.Sublist all) (hall : all.Nodup) : all.filter (· ∈ xs) = xs := by
  have hsub : xs.Sublist (all.filter (· ∈ xs)) := by
    have := h.filter fun a => decide (a ∈ xs)
    rwa [List.filter_eq_self.2 fun a ha => decide_eq_true ha] at this
  have hmem : ∀ a, a ∈ all.filter (· ∈ xs) ↔ a ∈ xs := by
    intro a
    rw [List.mem_filter, decide_eq_true_iff]
    exact and_iff_right_of_imp fun ha => h.subset ha
  have hperm := (List.perm_ext_iff_of_nodup (hall.filter _) (h.nodup hall)).2 hmem
  exact (hsub.eq_of_length hperm.length_eq.symm).symm

/-- The name is that of a heading: of no level, of any level, or of a level from one on. -/
def IsHeading (name : String) : Prop :=
  name = "H" ∨ name = "Hn" ∨ ∃ n : Nat, 1 ≤ n ∧ name = "H" ++ toString n

namespace Category

variable {parent child : TypeName} {k : Category} {name : String} {tags : List String}

/-! ### Categories of names -/

theorem nodup_tags : (baseTag :: all.map (·.tag)).Nodup := by decide

theorem holds_iff (hk : k ∈ all) (hne : k.tag ≠ "heading") :
    k.holds name = true ↔ name ∈ k.types := by
  have key : ∀ k ∈ all, k.tag ≠ "heading" → k.headings = none := by decide
  rw [holds, key k hk hne]
  simp

theorem exists_heading : ∃ k ∈ all, k.tag = "heading" ∧
    ∀ name, k.holds name = true ↔ IsHeading name := by
  refine ⟨⟨"heading", ["H", "Hn"], some .unlimited⟩, by decide, rfl, fun name => ?_⟩
  rw [holds, IsHeading, ← HeadingPattern.accepts_unlimited_iff]
  simp [or_assoc]

/-! ### Tags of relations -/

theorem relationTags_comm (parent child : TypeName) :
    relationTags parent child = relationTags child parent := by
  have hholds : ∀ k : Category, (k.holds parent.text || k.holds child.text) =
      (k.holds child.text || k.holds parent.text) := fun _ => Bool.or_comm ..
  simp only [relationTags, hholds]

theorem relationTags_sublist (parent child : TypeName) : ∃ tags,
    relationTags parent child = "structure" :: tags ∧ tags.Sublist (all.map (·.tag)) :=
  ⟨_, rfl, List.filter_sublist.map _⟩

theorem nodup_relationTags (parent child : TypeName) : (relationTags parent child).Nodup := by
  obtain ⟨tags, htags, hsublist⟩ := relationTags_sublist parent child
  rw [htags]
  exact (hsublist.cons_cons _).nodup nodup_tags

/-- The tags of a relation are those of categories. -/
theorem mem_relationTags :
    ∀ tag ∈ relationTags parent child, tag = baseTag ∨ tag ∈ all.map (·.tag) := by
  obtain ⟨tags, htags, hsublist⟩ := relationTags_sublist parent child
  intro tag htag
  rw [htags] at htag
  exact (List.mem_cons.1 htag).imp_right fun h => hsublist.subset h

theorem tag_mem_relationTags_iff (hk : k ∈ all) : k.tag ∈ relationTags parent child ↔
    k.holds parent.text = true ∨ k.holds child.text = true := by
  obtain ⟨hbase, hnodup⟩ := List.nodup_cons.1 nodup_tags
  have hne : k.tag ≠ baseTag := fun h => hbase (h ▸ List.mem_map_of_mem hk)
  rw [relationTags, List.mem_cons, or_iff_right hne, List.mem_map, ← Bool.or_eq_true]
  constructor
  · rintro ⟨k', hk', htag⟩
    obtain ⟨hall, hholds⟩ := List.mem_filter.1 hk'
    rwa [← List.inj_on_of_nodup_map hnodup hall hk htag]
  · exact fun hholds => ⟨k, List.mem_filter.2 ⟨hk, hholds⟩, rfl⟩

/-- The tags say which categories the two names belong to. -/
structure AreTagsOf (parent child : String) (tags : List String) : Prop where
  /-- The base tag comes first, and then tags of categories in the order of the categories. -/
  ordered : ∃ rest, tags = "structure" :: rest ∧ rest.Sublist (all.map (·.tag))
  nodup : tags.Nodup
  /-- The tag of a category with listed types only is there iff one of the names is listed. -/
  types : ∀ k ∈ all, k.tag ≠ "heading" → (k.tag ∈ tags ↔ parent ∈ k.types ∨ child ∈ k.types)
  heading : "heading" ∈ tags ↔ IsHeading parent ∨ IsHeading child

theorem areTagsOf_relationTags (parent child : TypeName) :
    AreTagsOf parent.text child.text (relationTags parent child) where
  ordered := relationTags_sublist parent child
  nodup := nodup_relationTags parent child
  types k hk hne := by rw [tag_mem_relationTags_iff hk, holds_iff hk hne, holds_iff hk hne]
  heading := by
    obtain ⟨k, hk, htag, hholds⟩ := exists_heading
    rw [← htag, tag_mem_relationTags_iff hk, hholds, hholds]

/-- There are no two lists of tags of the same names. -/
theorem AreTagsOf.eq {p c : String} {tags' : List String} (h : AreTagsOf p c tags)
    (h' : AreTagsOf p c tags') : tags = tags' := by
  obtain ⟨rest, rfl, hsub⟩ := h.ordered
  obtain ⟨rest', rfl, hsub'⟩ := h'.ordered
  -- both are cut out of the table by the same members
  rw [← filter_mem_eq_of_sublist (hsub.cons_cons "structure") nodup_tags,
    ← filter_mem_eq_of_sublist (hsub'.cons_cons "structure") nodup_tags]
  refine List.filter_congr fun tag htag => decide_eq_decide.2 ?_
  rcases List.mem_cons.1 htag with rfl | htag
  · exact iff_of_true List.mem_cons_self List.mem_cons_self
  · obtain ⟨k, hk, rfl⟩ := List.mem_map.1 htag
    by_cases hne : k.tag = "heading"
    · rw [hne]
      exact h.heading.trans h'.heading.symm
    · exact (h.types k hk hne).trans (h'.types k hk hne).symm

/-- **The tags of a relation are exactly those of its two names**, whichever of them is the
parent. -/
theorem relationTags_exact (parent child : TypeName) :
    relationTags parent child = relationTags child parent ∧
      ∀ tags, AreTagsOf parent.text child.text tags ↔ tags = relationTags parent child := by
  refine ⟨relationTags_comm parent child, fun tags => ⟨fun h => ?_, ?_⟩⟩
  · exact h.eq (areTagsOf_relationTags parent child)
  · rintro rfl
    exact areTagsOf_relationTags parent child

end Category

end NestingRules
