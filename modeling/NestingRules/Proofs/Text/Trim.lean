import NestingRules.Text.Basic
import Mathlib.Data.List.TakeWhile

/-!
# Trimming

A list *stops* a predicate if its first element does not satisfy it: a reader that takes or drops
elements as long as they satisfy the predicate goes no further.  A list is *trimmed* if it stops the
predicate at both ends.  Trimming leaves a trimmed list (`Text.isTrimmed_trimBy`), and of a trimmed
list with any padding around it the list itself (`Text.trimBy_of_padded`).  Trimming first by a
smaller class keeps it padded (`Text.Padded.trimBy`).
-/

namespace NestingRules.Text

variable {α : Type} {p q : α → Bool} {x : α} {xs ys before after : List α}

/-! ### Where a predicate stops -/

/-- The list does not begin with an element that satisfies `p`. -/
def Stops (p : α → Bool) (xs : List α) : Prop :=
  ∀ x ∈ xs.head?, p x = false

instance : Decidable (Stops p xs) :=
  inferInstanceAs (Decidable (∀ x ∈ xs.head?, p x = false))

theorem stops_nil : Stops p [] := by
  intro x hx
  cases hx

theorem stops_cons : Stops p (x :: xs) ↔ p x = false := by
  simp [Stops]

theorem Stops.mono (h : Stops p xs) (hq : ∀ x, q x → p x) : Stops q xs := by
  intro x hx
  have hp := h x hx
  cases hqx : q x
  · rfl
  · rw [hq x hqx] at hp
    cases hp

theorem Stops.append (h : Stops p xs) (hne : xs ≠ []) : Stops p (xs ++ ys) := by
  obtain ⟨x, xs, rfl⟩ := List.exists_cons_of_ne_nil hne
  exact stops_cons.2 (stops_cons.1 h)

theorem Stops.append_stops (h : Stops p xs) (h' : Stops p ys) : Stops p (xs ++ ys) := by
  cases xs with
  | nil => exact h'
  | cons x xs => exact h

/-- The front of a list stops what the list stops. -/
theorem Stops.of_isPrefix (h : Stops p ys) (hx : xs <+: ys) : Stops p xs := by
  intro x hhead
  obtain ⟨rest, rfl⟩ := hx
  cases xs with
  | nil => cases hhead
  | cons y xs => exact h x hhead

theorem stops_dropWhile (p : α → Bool) (xs : List α) : Stops p (xs.dropWhile p) := by
  intro x hx
  have hnot := List.head?_dropWhile_not p xs
  rw [Option.mem_def.1 hx] at hnot
  exact hnot

theorem Stops.takeWhile_eq_nil (h : Stops p xs) : xs.takeWhile p = [] := by
  cases xs with
  | nil => rfl
  | cons x xs => rw [List.takeWhile_cons_of_neg (by simp [stops_cons.1 h])]

theorem Stops.dropWhile_eq_self (h : Stops p xs) : xs.dropWhile p = xs := by
  cases xs with
  | nil => rfl
  | cons x xs => rw [List.dropWhile_cons_of_neg (by simp [stops_cons.1 h])]

theorem takeWhile_append_of_stops (hx : ∀ x ∈ xs, p x) (h : Stops p ys) :
    (xs ++ ys).takeWhile p = xs := by
  rw [List.takeWhile_append_of_pos hx, h.takeWhile_eq_nil, List.append_nil]

theorem dropWhile_append_of_stops (hx : ∀ x ∈ xs, p x) (h : Stops p ys) :
    (xs ++ ys).dropWhile p = ys := by
  rw [List.dropWhile_append_of_pos hx, h.dropWhile_eq_self]

/-! ### Padding -/

/-- The list neither begins nor ends with an element that satisfies `p`. -/
structure IsTrimmed (p : α → Bool) (xs : List α) : Prop where
  head : Stops p xs
  last : Stops p xs.reverse

instance : Decidable (IsTrimmed p xs) :=
  decidable_of_iff (Stops p xs ∧ Stops p xs.reverse) ⟨fun h => ⟨h.1, h.2⟩, fun h => ⟨h.1, h.2⟩⟩

/-- The list with elements that satisfy `p` around it. -/
def Padded (p : α → Bool) (xs ys : List α) : Prop :=
  ∃ before after, (∀ x ∈ before, p x) ∧ (∀ x ∈ after, p x) ∧ ys = before ++ xs ++ after

theorem isTrimmed_of_forall (h : ∀ x ∈ xs, p x = false) : IsTrimmed p xs :=
  ⟨fun x hx => h x (List.mem_of_mem_head? hx),
    fun x hx => h x (List.mem_reverse.1 (List.mem_of_mem_head? hx))⟩

theorem IsTrimmed.reverse (h : IsTrimmed p xs) : IsTrimmed p xs.reverse :=
  ⟨h.last, xs.reverse_reverse.symm ▸ h.head⟩

/-- **What is left by trimming is trimmed.** -/
theorem isTrimmed_trimBy (p : α → Bool) (xs : List α) : IsTrimmed p (trimBy p xs) where
  head := by
    have hprefix : trimBy p xs <+: xs.dropWhile p := by
      rw [← List.reverse_suffix, trimBy, trimEndBy, List.reverse_reverse]
      exact List.dropWhile_suffix p
    exact (stops_dropWhile p xs).of_isPrefix hprefix
  last := by
    rw [trimBy, trimEndBy, List.reverse_reverse]
    exact stops_dropWhile p _

theorem IsTrimmed.stops_append (h : IsTrimmed p xs) (hne : xs ≠ []) : Stops p (xs ++ ys) :=
  h.head.append hne

theorem padded_nil_iff : Padded p [] ys ↔ ∀ x ∈ ys, p x := by
  constructor
  · rintro ⟨before, after, hb, ha, rfl⟩
    simp only [List.append_nil, List.mem_append]
    rintro x (hx | hx)
    · exact hb x hx
    · exact ha x hx
  · intro h
    exact ⟨ys, [], h, by simp, by simp⟩

theorem Padded.reverse (h : Padded p xs ys) : Padded p xs.reverse ys.reverse := by
  obtain ⟨before, after, hb, ha, rfl⟩ := h
  refine ⟨after.reverse, before.reverse, by simpa using ha, by simpa using hb, ?_⟩
  simp [List.append_assoc]

/-- Dropping elements of a smaller class from the front of a padded list takes padding only. -/
theorem Padded.dropWhile (h : Padded p xs ys) (ht : IsTrimmed p xs) (hq : ∀ x, q x → p x) :
    Padded p xs (ys.dropWhile q) := by
  -- an empty list has no end of its own, so all of `ys` is padding
  by_cases hne : xs = []
  · rw [hne] at h ⊢
    exact padded_nil_iff.2 fun x hx =>
      padded_nil_iff.1 h x (List.dropWhile_suffix q |>.subset hx)
  · obtain ⟨before, after, hb, ha, rfl⟩ := h
    have hstop : (xs ++ after).dropWhile q = xs ++ after :=
      ((ht.stops_append hne).mono hq).dropWhile_eq_self
    refine ⟨before.dropWhile q, after, ?_, ha, ?_⟩
    · exact fun x hx => hb x (List.dropWhile_suffix q |>.subset hx)
    · rw [List.append_assoc, List.dropWhile_append, hstop]
      split_ifs with hempty
      · simp [List.isEmpty_iff.1 hempty]
      · simp

theorem Padded.trimBy (h : Padded p xs ys) (ht : IsTrimmed p xs) (hq : ∀ x, q x → p x) :
    Padded p xs (trimBy q ys) := by
  have hfront := (h.dropWhile ht hq).reverse
  have hback := (hfront.dropWhile ht.reverse hq).reverse
  rwa [List.reverse_reverse] at hback

/-- **Trimming takes the padding off.** -/
theorem trimBy_of_padded (h : Padded p xs ys) (ht : IsTrimmed p xs) :
    Text.trimBy p ys = xs := by
  obtain ⟨before, after, hb, ha, rfl⟩ := h
  have hfront : (before ++ xs ++ after).dropWhile p = (xs ++ after).dropWhile p := by
    rw [List.append_assoc, List.dropWhile_append_of_pos hb]
  rw [Text.trimBy, hfront]
  by_cases hne : xs = []
  · have hafter : after.dropWhile p = [] := List.dropWhile_eq_nil_iff.2 ha
    rw [hne, List.nil_append, hafter]
    rfl
  · rw [(ht.stops_append hne).dropWhile_eq_self, trimEndBy, List.reverse_append,
      dropWhile_append_of_stops (by simpa using ha) ht.last, List.reverse_reverse]

theorem padded_trimBy (p : α → Bool) (xs : List α) : Padded p (Text.trimBy p xs) xs := by
  refine ⟨xs.takeWhile p, ((xs.dropWhile p).reverse.takeWhile p).reverse,
    fun x => List.mem_takeWhile_imp, fun x hx => ?_, ?_⟩
  · exact List.mem_takeWhile_imp (List.mem_reverse.1 hx)
  · rw [Text.trimBy, trimEndBy, List.append_assoc, ← List.reverse_append,
      List.takeWhile_append_dropWhile, List.reverse_reverse, List.takeWhile_append_dropWhile]

theorem trim_eq_self {s : String} (h : IsTrimmed isBlank s.toList) : trim s = s := by
  have hpad : Padded isBlank s.toList s.toList := ⟨[], [], by simp, by simp, by simp⟩
  rw [trim, trimBy_of_padded hpad h, String.ofList_toList]

/-! ### Trimming through a replacement -/

section FlatMap

variable {β : Type} {f : β → List α} {q : β → Bool} {bs : List β}

/-- Elements are replaced by lists, and whether such a list is to be dropped shows in each element
or at its front. -/
theorem dropWhile_flatMap (hdrop : ∀ b, q b → ∀ x ∈ f b, p x)
    (hstop : ∀ b, q b = false → f b ≠ [] ∧ Stops p (f b)) :
    (bs.flatMap f).dropWhile p = (bs.dropWhile q).flatMap f := by
  induction bs with
  | nil => rfl
  | cons b bs ih =>
    rw [List.flatMap_cons, List.dropWhile_cons]
    cases hq : q b
    · obtain ⟨hne, hb⟩ := hstop b hq
      rw [(hb.append hne).dropWhile_eq_self, if_neg Bool.false_ne_true, List.flatMap_cons]
    · rw [List.dropWhile_append_of_pos (hdrop b hq), ih, if_pos rfl]

theorem trimBy_flatMap (hdrop : ∀ b, q b → ∀ x ∈ f b, p x)
    (hstop : ∀ b, q b = false → f b ≠ [] ∧ IsTrimmed p (f b)) :
    trimBy p (bs.flatMap f) = (trimBy q bs).flatMap f := by
  have hfront : (bs.flatMap f).dropWhile p = (bs.dropWhile q).flatMap f :=
    dropWhile_flatMap hdrop fun b hb => ⟨(hstop b hb).1, (hstop b hb).2.head⟩
  -- the end of the list is the front of its reverse, with each piece reversed
  have hback : ((bs.dropWhile q).reverse.flatMap (List.reverse ∘ f)).dropWhile p =
      ((bs.dropWhile q).reverse.dropWhile q).flatMap (List.reverse ∘ f) := by
    refine dropWhile_flatMap (fun b hb x hx => ?_) fun b hb => ⟨?_, (hstop b hb).2.last⟩
    · exact hdrop b hb x (List.mem_reverse.1 hx)
    · exact fun h => (hstop b hb).1 (List.reverse_eq_nil_iff.1 h)
  rw [trimBy, hfront, trimEndBy, List.reverse_flatMap, hback, trimBy, trimEndBy]
  rw [List.reverse_flatMap]
  congr 1
  funext b
  exact List.reverse_reverse _

end FlatMap

end NestingRules.Text
