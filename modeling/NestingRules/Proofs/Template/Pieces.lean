import NestingRules.Template
import Mathlib.Data.List.Basic

/-!
# Templates in pieces

The slots of a template cut it into pieces.  There is one way only to cut a text so that no piece
has a slot in it (`Template.IsCut.eq_splitSlots`), because slots do not overlap, and it is also the
one that takes the first slot each time (`Template.isLeftmost_of_free`).  Counting the slots and
cutting at them are two walks over the text that agree (`Template.length_splitSlots`), so that
filling a template puts one argument between each two pieces, whatever stands in the arguments
(`Template.render_splices`).
-/

namespace NestingRules.Template

/-- The characters of a slot. -/
def slot : List Char := ['\x7b', '\x7d']

/-- The pieces are a text cut at its slots: with a slot between each two they are the text, and none
of them has a slot in it. -/
structure IsCut (cs : List Char) (pieces : List (List Char)) : Prop where
  ne_nil : pieces ≠ []
  intercalate : slot.intercalate pieces = cs
  free : ∀ piece ∈ pieces, ¬ slot <:+: piece

/-- A text is cut at the first slot in it, and so is what comes after that slot. -/
def IsLeftmost : List (List Char) → Prop
  | piece :: next :: pieces =>
    (∀ front back, front ++ slot ++ back = slot.intercalate (piece :: next :: pieces) →
      piece.length ≤ front.length) ∧ IsLeftmost (next :: pieces)
  | _ => True

/-- The arguments, each between two pieces. -/
def splice (first : List Char) (rest arguments : List (List Char)) : List Char :=
  first ++ (List.zipWith (· ++ ·) arguments rest).flatten

variable {c : Char} {cs front back piece : List Char} {pieces rest arguments : List (List Char)}

/-! ### The first slot -/

theorem slot_isPrefix_iff : slot <+: c :: cs ↔ c = '\x7b' ∧ cs.head? = some '\x7d' := by
  rw [slot, List.cons_prefix_cons, eq_comm]
  cases cs <;> simp [eq_comm]

theorem not_isPrefix_cons (h : ∀ cs', c = '\x7b' → cs = '\x7d' :: cs' → False) :
    ¬ slot <+: c :: cs := by
  rintro ⟨cs', hcs⟩
  cases hcs
  exact h cs' rfl rfl

/-- No slot begins inside a piece without slots, even if a slot comes next. -/
theorem not_isPrefix_append (hne : piece ≠ []) (hfree : ¬ slot <:+: piece) (cs : List Char) :
    ¬ slot <+: piece ++ slot ++ cs := by
  obtain ⟨c, piece, rfl⟩ := List.exists_cons_of_ne_nil hne
  intro h
  rw [List.cons_append, List.cons_append, slot_isPrefix_iff] at h
  obtain ⟨rfl, hnext⟩ := h
  cases piece with
  | nil =>
    -- the next character opens a slot, and so it closes none
    rw [List.nil_append, slot, List.cons_append, List.head?_cons] at hnext
    exact absurd hnext (by decide)
  | cons d piece =>
    have hopen : slot <+: '\x7b' :: d :: piece := slot_isPrefix_iff.2 ⟨rfl, hnext⟩
    exact hfree hopen.isInfix

theorem length_le_of_append_slot (hfree : ¬ slot <:+: piece)
    (h : front ++ slot ++ back = piece ++ slot ++ cs) : piece.length ≤ front.length := by
  by_contra! hlt
  rw [List.append_assoc, List.append_assoc] at h
  obtain ⟨inner, rfl, hback⟩ | ⟨inner, rfl, -⟩ := List.append_eq_append_iff.1 h
  · have hinner : inner ≠ [] := by
      rintro rfl
      simp at hlt
    rw [← List.append_assoc] at hback
    exact not_isPrefix_append hinner (fun hs => hfree (hs.trans (List.suffix_append ..).isInfix))
      cs ⟨back, hback⟩
  · simp at hlt

/-! ### Cutting -/

theorem splitSlots_ne_nil (cs : List Char) : splitSlots cs ≠ [] := by
  fun_induction splitSlots cs with
  | case1 => exact List.cons_ne_nil _ _
  | case2 => exact List.cons_ne_nil _ _
  | case3 => exact List.cons_ne_nil _ _
  | case4 => exact List.cons_ne_nil _ _

theorem splitSlots_cons (h : ¬ slot <+: c :: cs) :
    splitSlots (c :: cs) = (splitSlots cs).modifyHead (c :: ·) := by
  rw [splitSlots.eq_3]
  · obtain ⟨piece, pieces, hcs⟩ := List.exists_cons_of_ne_nil (splitSlots_ne_nil cs)
    rw [hcs]
    rfl
  · rintro cs' rfl rfl
    exact h ⟨cs', rfl⟩

/-- Counting and cutting find the same slots. -/
theorem length_splitSlots (cs : List Char) : (splitSlots cs).length = countSlots cs + 1 := by
  fun_induction countSlots cs with
  | case1 => rfl
  | case2 cs ih => rw [splitSlots, List.length_cons, ih]
  | case3 c cs h ih =>
    rw [splitSlots_cons (not_isPrefix_cons h), List.length_modifyHead, ih]

/-- A piece without slots is cut off whole at the slot behind it. -/
theorem splitSlots_append (hfree : ¬ slot <:+: piece) (cs : List Char) :
    splitSlots (piece ++ slot ++ cs) = piece :: splitSlots cs := by
  induction piece with
  | nil => rfl
  | cons c piece ih =>
    have hopen := not_isPrefix_append (List.cons_ne_nil c piece) hfree cs
    rw [List.cons_append, List.cons_append] at hopen ⊢
    rw [splitSlots_cons hopen, ih fun h => hfree (h.trans (List.suffix_cons c piece).isInfix)]
    rfl

theorem splitSlots_of_free (hfree : ¬ slot <:+: piece) : splitSlots piece = [piece] := by
  induction piece with
  | nil => rfl
  | cons c piece ih =>
    rw [splitSlots_cons fun h => hfree h.isInfix,
      ih fun h => hfree (h.trans (List.suffix_cons c piece).isInfix)]
    rfl

/-- **There is one way only to cut a text at its slots.** -/
theorem IsCut.eq_splitSlots (h : IsCut cs pieces) : pieces = splitSlots cs := by
  obtain ⟨hne, rfl, hfree⟩ := h
  induction pieces with
  | nil => exact absurd rfl hne
  | cons piece pieces ih =>
    obtain ⟨hpiece, hpieces⟩ := List.forall_mem_cons.1 hfree
    cases pieces with
    | nil => rw [List.intercalate_singleton, splitSlots_of_free hpiece]
    | cons next pieces =>
      rw [List.intercalate_cons_cons, splitSlots_append hpiece,
        ← ih (List.cons_ne_nil next pieces) hpieces]

theorem IsCut.slot_append (h : IsCut cs pieces) : IsCut (slot ++ cs) ([] :: pieces) where
  ne_nil := List.cons_ne_nil _ _
  intercalate := by
    rw [List.intercalate_cons_of_ne_nil h.ne_nil, h.intercalate, List.nil_append]
  free := List.forall_mem_cons.2 ⟨by decide, h.free⟩

theorem IsCut.cons (h : IsCut cs pieces) (hopen : ¬ slot <+: c :: cs) :
    IsCut (c :: cs) (pieces.modifyHead (c :: ·)) := by
  obtain ⟨hne, rfl, hfree⟩ := h
  obtain ⟨piece, pieces, rfl⟩ := List.exists_cons_of_ne_nil hne
  obtain ⟨hpiece, hpieces⟩ := List.forall_mem_cons.1 hfree
  have hprefix : c :: piece <+: c :: slot.intercalate (piece :: pieces) := by
    cases pieces with
    | nil =>
      simp only [List.intercalate_singleton, List.prefix_rfl]
    | cons next pieces =>
      rw [List.intercalate_cons_cons, List.append_assoc]
      exact List.prefix_append (c :: piece) _
  refine ⟨List.cons_ne_nil _ _, ?_, List.forall_mem_cons.2 ⟨fun hslot => ?_, hpieces⟩⟩
  · cases pieces with
    | nil => rw [List.modifyHead_cons, List.intercalate_singleton, List.intercalate_singleton]
    | cons next pieces =>
      rw [List.modifyHead_cons, List.intercalate_cons_cons, List.intercalate_cons_cons]
      rfl
  · -- a slot in the longer piece is there already or begins at the new character
    rcases List.infix_cons_iff.1 hslot with hfront | hinside
    · exact hopen (hfront.trans hprefix)
    · exact hpiece hinside

theorem isCut_splitSlots (cs : List Char) : IsCut cs (splitSlots cs) := by
  fun_induction countSlots cs with
  | case1 => exact ⟨List.cons_ne_nil _ _, rfl, List.forall_mem_singleton.2 (by decide)⟩
  | case2 cs ih => exact ih.slot_append
  | case3 c cs h ih =>
    have hopen := not_isPrefix_cons h
    rw [splitSlots_cons hopen]
    exact ih.cons hopen

/-- Cutting a text at all its slots is cutting it at the first one again and again. -/
theorem isLeftmost_of_free (hfree : ∀ piece ∈ pieces, ¬ slot <:+: piece) : IsLeftmost pieces := by
  fun_induction IsLeftmost pieces with
  | case1 piece next pieces ih =>
    obtain ⟨hpiece, hpieces⟩ := List.forall_mem_cons.1 hfree
    refine ⟨fun front back h => ?_, ih hpieces⟩
    rw [List.intercalate_cons_cons] at h
    exact length_le_of_append_slot hpiece h
  | case2 => trivial

/-! ### Filling -/

theorem interleave_eq_splice {first : List Char} (h : arguments.length = rest.length) :
    interleave (first :: rest) arguments = splice first rest arguments := by
  induction rest generalizing first arguments with
  | nil =>
    rw [List.eq_nil_of_length_eq_zero h]
    exact (List.append_nil first).symm
  | cons next rest ih =>
    obtain ⟨argument, arguments, rfl⟩ := List.exists_cons_of_length_eq_add_one h
    rw [interleave, ih (Nat.succ.inj h)]
    simp only [splice, List.zipWith_cons_cons, List.flatten_cons, List.append_assoc]

theorem splice_replicate_slot (first : List Char) (rest : List (List Char)) :
    splice first rest (List.replicate rest.length slot) = slot.intercalate (first :: rest) := by
  induction rest generalizing first with
  | nil =>
    rw [List.intercalate_singleton]
    exact List.append_nil first
  | cons next rest ih =>
    rw [List.intercalate_cons_cons, ← ih next]
    simp only [splice, List.length_cons, List.replicate_succ, List.zipWith_cons_cons,
      List.flatten_cons, List.append_assoc]

theorem render_eq_ok {t : Template} {first : List Char} {arguments : List String}
    (hpieces : splitSlots t.text.toList = first :: rest) (hslots : rest.length = t.slots)
    (h : arguments.length = t.slots) : t.render arguments =
      .ok (String.ofList (splice first rest (arguments.map String.toList))) := by
  have hlength : (arguments.map String.toList).length = rest.length := by
    rw [List.length_map, h, hslots]
  rw [render, if_pos h, hpieces, interleave_eq_splice hlength]

/-- **Filling a template puts each argument between two pieces as it is**, and needs one argument
for each slot.  The pieces are the only ones that the text can be cut into at its slots. -/
theorem render_splices (t : Template) (arguments : List String) : ∃ first rest,
    (IsLeftmost (first :: rest) ∧
      ∀ pieces, IsCut t.text.toList pieces ↔ pieces = first :: rest) ∧
    rest.length = t.slots ∧
    (∀ out, t.render arguments = .ok out ↔ arguments.length = t.slots ∧
      out.toList = splice first rest (arguments.map String.toList)) ∧
    (∀ e, t.render arguments = .error e ↔ arguments.length ≠ t.slots ∧
      e = ⟨t.text, t.slots, arguments.length⟩) ∧
    t.render (List.replicate t.slots "\x7b\x7d") = .ok t.text := by
  have hcut := isCut_splitSlots t.text.toList
  have hlength := length_splitSlots t.text.toList
  obtain ⟨first, rest, hpieces⟩ := List.exists_cons_of_ne_nil hcut.ne_nil
  rw [hpieces] at hcut hlength
  have hslots : rest.length = t.slots := Nat.succ.inj hlength
  refine ⟨first, rest, ⟨isLeftmost_of_free hcut.free, fun pieces => ⟨fun h => ?_, ?_⟩⟩, hslots,
    fun out => ?_, fun e => ?_, ?_⟩
  · rw [h.eq_splitSlots, hpieces]
  · rintro rfl
    exact hcut
  · by_cases h : arguments.length = t.slots
    · rw [render_eq_ok hpieces hslots h, Except.ok.injEq, and_iff_right h, ← String.toList_inj,
        String.toList_ofList, eq_comm]
    · simp [render, h]
  · by_cases h : arguments.length = t.slots
    · simp [render, h]
    · rw [render, if_neg h, Except.error.injEq, and_iff_right h, eq_comm]
  · have hslot : "\x7b\x7d".toList = slot := by decide
    rw [render_eq_ok hpieces hslots List.length_replicate, List.map_replicate, hslot, ← hslots,
      splice_replicate_slot, hcut.intercalate, String.ofList_toList]

end NestingRules.Template
