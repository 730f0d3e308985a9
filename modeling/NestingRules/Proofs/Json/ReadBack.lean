import NestingRules.Proofs.Json.StringLiteral
import NestingRules.Proofs.Text.Digits

/-!
# Reading JSON back

A value is *plain* if its strings are texts and its numbers natural numbers.  Whatever the layout,
as long as it puts nothing but blanks between tokens,

* a plain value is read back from its text, and the reader stops right after it (`Json.readsBack`);
* hence the text and any blanks after it are parsed as the value (`Json.parseChars?_write`).
-/

namespace NestingRules.Json

open Text

/-- The strings of the value are texts and its numbers natural numbers. -/
inductive IsPlain : Json → Prop where
  | null : IsPlain .null
  | bool (b : Bool) : IsPlain (.bool b)
  | nat (n : Nat) : IsPlain (.nat n)
  | text (s : String) : IsPlain (.text s)
  | array {js : List Json} (h : ∀ j ∈ js, IsPlain j) : IsPlain (.array js)
  | record {ms : List (String × Json)} (h : ∀ m ∈ ms, IsPlain m.2) : IsPlain (.record ms)

/-- The layout puts blanks between tokens. -/
structure Layout.IsBlank (l : Layout) : Prop where
  newLine : ∀ level, ∀ c ∈ l.newLine level, isSpace c
  gap : ∀ c ∈ l.gap, isSpace c

theorem Layout.isBlank_compact : compact.IsBlank :=
  ⟨fun _ _ h => absurd h List.not_mem_nil, fun _ h => absurd h List.not_mem_nil⟩

theorem Layout.isBlank_pretty : pretty.IsBlank := by
  refine ⟨fun level c hc => ?_, fun c hc => ?_⟩
  · simp only [pretty, List.mem_cons, List.mem_replicate] at hc
    rcases hc with rfl | ⟨-, rfl⟩ <;> rfl
  · rw [List.mem_singleton.1 hc]
    rfl

/-- The character may continue a number. -/
def isNumberPart (c : Char) : Bool := c.isDigit || c == '.' || c == 'e' || c == 'E'

/-- The value is read back from its text if no number goes on after it, and the reader stops right
after the text. -/
def ReadsBack (l : Layout) (j : Json) : Prop :=
  ∀ {level fuel : Nat} {rest : List Char}, 2 * (write l level j).length ≤ fuel →
    Stops isNumberPart rest → value? (fuel + 1) (write l level j ++ rest) = some (j, rest)

variable {l : Layout} {level fuel : Nat} {ws cs rest : List Char} {j : Json} {js : List Json}

/-! ### Blanks -/

theorem isSpace_nil : ∀ c ∈ ([] : List Char), isSpace c := by simp

theorem stops_of_blank {p : Char → Bool} (hws : ∀ c ∈ ws, isSpace c)
    (hp : ∀ c, isSpace c → p c = false) (h : Stops p cs) : Stops p (ws ++ cs) := by
  cases ws with
  | nil => exact h
  | cons c ws => exact stops_cons.2 (hp c (hws c List.mem_cons_self))

theorem isNumberPart_eq_false {c : Char} (h : isSpace c) : isNumberPart c = false := by
  simp only [isSpace, Bool.or_eq_true, beq_iff_eq] at h
  rcases h with ((rfl | rfl) | rfl) | rfl <;> rfl

theorem skipSpace_append (hws : ∀ c ∈ ws, isSpace c) : skipSpace (ws ++ cs) = skipSpace cs :=
  List.dropWhile_append_of_pos hws

theorem skipSpace_cons {c : Char} (h : isSpace c = false) : skipSpace (c :: cs) = c :: cs :=
  (stops_cons.2 h).dropWhile_eq_self

theorem value?_skipSpace (hws : ∀ c ∈ ws, isSpace c) : value? fuel (ws ++ cs) = value? fuel cs := by
  cases fuel with
  | zero => rw [value?, value?]
  | succ fuel => rw [value?, value?, skipSpace_append hws]

theorem stops_newLine (hl : l.IsBlank) {c : Char} (hc : isNumberPart c = false) :
    Stops isNumberPart (l.newLine level ++ [c] ++ rest) := by
  rw [List.append_assoc]
  exact stops_of_blank (hl.newLine level) (fun c => isNumberPart_eq_false) (stops_cons.2 hc)

/-! ### Numbers -/

theorem integer?_toDigits (n : Nat) (h : Stops Char.isDigit rest) :
    integer? (Nat.toDigits 10 n ++ rest) = some (Nat.toDigits 10 n, rest) := by
  have hdigits : ∀ c ∈ Nat.toDigits 10 n, c.isDigit := fun c => isDigit_of_mem_toDigits
  have htake : takeDigits (Nat.toDigits 10 n ++ rest) = (Nat.toDigits 10 n, rest) := by
    rw [takeDigits, takeWhile_append_of_stops hdigits h, dropWhile_append_of_stops hdigits h]
  rw [integer?, htake]
  -- the reader refuses a zero in front of other digits, which only zero itself could have
  rcases n.eq_zero_or_pos with rfl | hn
  · rfl
  · have hhead := head?_toDigits_ne hn
    split <;> simp_all

theorem unsigned?_toDigits (n : Nat) (h : Stops isNumberPart rest) :
    unsigned? (Nat.toDigits 10 n ++ rest) = some (.nat n, rest) := by
  have hdigit : Stops Char.isDigit rest := h.mono fun c hc => by simp [isNumberPart, hc]
  have hfraction : fraction? rest = some ([], rest) := by
    cases rest with
    | nil => rfl
    | cons c rest =>
      have hc := stops_cons.1 h
      rw [fraction?]
      intro cs hcs
      rw [(List.cons.inj hcs).1] at hc
      exact absurd hc (by decide)
  have hexponent : exponent? rest = some ([], rest) := by
    cases rest with
    | nil => rfl
    | cons c rest =>
      have hc := stops_cons.1 h
      simp only [isNumberPart, Bool.or_eq_false_iff] at hc
      simp [exponent?, hc]
  rw [unsigned?, integer?_toDigits n hdigit]
  simp [hfraction, hexponent, Nat.ofDigitChars_ten_toDigits]

/-! ### Values that open with a character of their own -/

theorem isSpace_eq_false {d : Char} (h : d.isDigit) : isSpace d = false := by
  cases hd : isSpace d
  · rfl
  · have hpart := isNumberPart_eq_false hd
    simp [isNumberPart, h] at hpart

theorem value?_digit {d : Char} (h : d.isDigit) :
    value? (fuel + 1) (d :: cs) = unsigned? (d :: cs) := by
  rw [value?, skipSpace_cons (isSpace_eq_false h)]
  split <;> simp_all

theorem value?_text (s : String) :
    value? (fuel + 1) (writeText s ++ rest) = some (.text s, rest) := by
  obtain ⟨cs, htext, hread⟩ := string?_writeText s rest
  rw [htext, value?, skipSpace_cons rfl]
  simp [hread, text]

/-- The text of a plain value opens with a character that is neither a blank nor closes a list. -/
theorem write_eq_cons (h : j.IsPlain) (level : Nat) :
    ∃ c cs, write l level j = c :: cs ∧ isSpace c = false ∧ c ≠ ']' := by
  cases h with
  | null => exact ⟨_, _, rfl, rfl, by decide⟩
  | bool b => cases b <;> exact ⟨_, _, rfl, rfl, by decide⟩
  | nat n =>
    obtain ⟨d, ds, hds, hd⟩ := exists_toDigits_eq_cons n
    refine ⟨d, ds, by rw [write, hds], isSpace_eq_false hd, ?_⟩
    rintro rfl
    cases hd
  | text s => exact ⟨_, _, rfl, rfl, by decide⟩
  | array h => cases ‹List Json› <;> exact ⟨_, _, rfl, rfl, by decide⟩
  | record h => cases ‹List (String × Json)› <;> exact ⟨_, _, rfl, rfl, by decide⟩

/-! ### Lists -/

theorem value?_bracket {c : Char} (h : skipSpace cs = c :: rest) (hc : c ≠ ']') :
    value? (fuel + 1) ('[' :: cs) =
      (items? fuel (c :: rest)).map fun r => (.array r.1, r.2) := by
  rw [value?, skipSpace_cons rfl]
  simp only [h]
  split
  · rename_i heq
    exact absurd (List.cons.inj heq).1 hc
  · rfl

theorem items?_last {after : List Char} (h : value? fuel cs = some (j, after))
    (hafter : skipSpace after = ']' :: rest) : items? (fuel + 1) cs = some ([j], rest) := by
  rw [items?, h]
  simp [hafter]

theorem items?_cons {more : List Char} (h : value? fuel cs = some (j, ',' :: more))
    (hmore : items? fuel more = some (js, rest)) : items? (fuel + 1) cs = some (j :: js, rest) := by
  have hskip : skipSpace (',' :: more) = ',' :: more := skipSpace_cons rfl
  rw [items?, h]
  simp [hskip, hmore]

theorem stops_writeItems (hl : l.IsBlank) :
    Stops isNumberPart (writeItems l level js ++ rest) := by
  cases js with
  | nil =>
    rw [writeItems]
    exact stops_newLine hl rfl
  | cons j js =>
    rw [writeItems]
    exact stops_cons.2 rfl

theorem items?_write (hl : l.IsBlank) (hws : ∀ c ∈ ws, isSpace c) (hj : ReadsBack l j)
    (hjs : ∀ i ∈ js, ReadsBack l i)
    (hfuel : 2 * ((write l (level + 1) j).length + (writeItems l level js).length) ≤ fuel) :
    items? fuel (ws ++ (write l (level + 1) j ++ (writeItems l level js ++ rest))) =
      some (j :: js, rest) := by
  induction js generalizing j ws fuel with
  | nil =>
    simp only [writeItems, List.length_append, List.length_singleton] at hfuel
    -- the closing bracket pays for two steps, one into the list and one into its first value
    obtain ⟨fuel, rfl⟩ := Nat.exists_eq_add_of_le' (show 2 ≤ fuel by omega)
    have hclose : skipSpace (writeItems l level [] ++ rest) = ']' :: rest := by
      rw [writeItems, List.append_assoc, skipSpace_append (hl.newLine level)]
      exact skipSpace_cons rfl
    refine items?_last ?_ hclose
    rw [value?_skipSpace hws, hj (by omega) (stops_writeItems hl)]
  | cons i js ih =>
    obtain ⟨hi, hjs⟩ := List.forall_mem_cons.1 hjs
    simp only [writeItems, List.length_cons, List.length_append] at hfuel
    obtain ⟨fuel, rfl⟩ := Nat.exists_eq_add_of_le' (show 2 ≤ fuel by omega)
    refine items?_cons ?_ (ih (hl.newLine (level + 1)) hi hjs (by omega))
    rw [value?_skipSpace hws, hj (by omega) (stops_writeItems hl)]
    simp [writeItems]

/-! ### Objects -/

theorem value?_brace (h : skipSpace cs = '"' :: rest) :
    value? (fuel + 1) ('\x7b' :: cs) =
      (members? fuel ('"' :: rest)).map fun r => (.object r.1, r.2) := by
  rw [value?, skipSpace_cons rfl]
  simp [h]

variable {k : String} {ms : List (String × Json)}

/-- The first member of a list of members, up to the end of its value. -/
theorem members?_member {after : List Char} (hws : ∀ c ∈ ws, isSpace c)
    (h : value? fuel cs = some (j, after)) :
    members? (fuel + 1) (ws ++ (writeText k ++ ':' :: cs)) =
      match skipSpace after with
      | '\x7d' :: cs => some ([(some k, j)], cs)
      | ',' :: cs => do
        let (ms, cs) ← members? fuel cs
        return ((some k, j) :: ms, cs)
      | _ => none := by
  obtain ⟨ds, htext, hread⟩ := string?_writeText k (':' :: cs)
  have hcolon : skipSpace (':' :: cs) = ':' :: cs := skipSpace_cons rfl
  rw [htext, members?, skipSpace_append hws, skipSpace_cons rfl]
  simp only [hread, hcolon, h, Option.bind_eq_bind, Option.bind_some]
  rfl

theorem members?_last {after : List Char} (hws : ∀ c ∈ ws, isSpace c)
    (h : value? fuel cs = some (j, after)) (hafter : skipSpace after = '\x7d' :: rest) :
    members? (fuel + 1) (ws ++ (writeText k ++ ':' :: cs)) = some ([(some k, j)], rest) := by
  rw [members?_member hws h, hafter]
  rfl

theorem members?_cons {more : List Char} {ms : List (Option String × Json)}
    (hws : ∀ c ∈ ws, isSpace c) (h : value? fuel cs = some (j, ',' :: more))
    (hmore : members? fuel more = some (ms, rest)) :
    members? (fuel + 1) (ws ++ (writeText k ++ ':' :: cs)) = some ((some k, j) :: ms, rest) := by
  have hskip : skipSpace (',' :: more) = ',' :: more := skipSpace_cons rfl
  rw [members?_member hws h, hskip]
  simp [hmore]

theorem stops_writeMembers (hl : l.IsBlank) {ms : List (Option String × Json)} :
    Stops isNumberPart (writeMembers l level ms ++ rest) := by
  cases ms with
  | nil =>
    rw [writeMembers]
    exact stops_newLine hl rfl
  | cons m ms =>
    rw [writeMembers]
    exact stops_cons.2 rfl

theorem members?_write (hl : l.IsBlank) (hws : ∀ c ∈ ws, isSpace c) {m : String × Json}
    (hm : ReadsBack l m.2) (hms : ∀ n ∈ ms, ReadsBack l n.2)
    (hfuel : 2 * ((write l (level + 1) m.2).length +
      (writeMembers l level (ms.map fun n => (some n.1, n.2))).length) ≤ fuel) :
    members? fuel (ws ++ (writeText m.1 ++ ':' :: (l.gap ++ (write l (level + 1) m.2 ++
      (writeMembers l level (ms.map fun n => (some n.1, n.2)) ++ rest))))) =
      some ((m :: ms).map fun n => (some n.1, n.2), rest) := by
  induction ms generalizing m ws fuel with
  | nil =>
    simp only [List.map_nil, writeMembers, List.length_append, List.length_singleton] at hfuel
    obtain ⟨fuel, rfl⟩ := Nat.exists_eq_add_of_le' (show 2 ≤ fuel by omega)
    have hclose : skipSpace (writeMembers l level [] ++ rest) = '\x7d' :: rest := by
      rw [writeMembers, List.append_assoc, skipSpace_append (hl.newLine level)]
      exact skipSpace_cons rfl
    refine members?_last hws ?_ hclose
    rw [value?_skipSpace hl.gap, hm (by omega) (stops_writeMembers hl), List.map_nil]
  | cons n ms ih =>
    obtain ⟨hn, hms⟩ := List.forall_mem_cons.1 hms
    simp only [List.map_cons, writeMembers, List.length_cons, List.length_append] at hfuel
    obtain ⟨fuel, rfl⟩ := Nat.exists_eq_add_of_le' (show 2 ≤ fuel by omega)
    refine members?_cons hws ?_ (ih (hl.newLine (level + 1)) hn hms (by omega))
    rw [value?_skipSpace hl.gap, hm (by omega) (stops_writeMembers hl)]
    simp [writeMembers, writeString]

/-! ### Whole values -/

theorem readsBack_array (hl : l.IsBlank) (hplain : ∀ j ∈ js, j.IsPlain)
    (h : ∀ j ∈ js, ReadsBack l j) : ReadsBack l (.array js) := by
  intro level fuel rest hfuel _
  cases js with
  | nil => rfl
  | cons j js =>
    obtain ⟨hj, hjs⟩ := List.forall_mem_cons.1 h
    -- the first item does not open with `]`, so the list is not taken for the empty one
    obtain ⟨c, cs, hcs, hspace, hclose⟩ :=
      write_eq_cons (l := l) (hplain j List.mem_cons_self) (level + 1)
    simp only [write, List.length_cons, List.length_append] at hfuel
    have hitems : items? fuel (write l (level + 1) j ++ (writeItems l level js ++ rest)) =
        some (j :: js, rest) := items?_write hl isSpace_nil hj hjs (by omega)
    have hskip : skipSpace (l.newLine (level + 1) ++
        (write l (level + 1) j ++ (writeItems l level js ++ rest))) =
          c :: (cs ++ (writeItems l level js ++ rest)) := by
      rw [skipSpace_append (hl.newLine _), hcs, List.cons_append, skipSpace_cons hspace]
    rw [hcs, List.cons_append] at hitems
    simp only [write, List.cons_append, List.append_assoc]
    rw [value?_bracket hskip hclose, hitems]
    rfl

theorem readsBack_record (hl : l.IsBlank) (h : ∀ m ∈ ms, ReadsBack l m.2) :
    ReadsBack l (.record ms) := by
  intro level fuel rest hfuel _
  cases ms with
  | nil => rfl
  | cons m ms =>
    obtain ⟨hm, hms⟩ := List.forall_mem_cons.1 h
    simp only [record, List.map_cons, write, List.length_cons, List.length_append] at hfuel
    obtain ⟨cs, hcs⟩ : ∃ cs, writeText m.1 ++ ':' :: (l.gap ++ (write l (level + 1) m.2 ++
      (writeMembers l level (ms.map fun n => (some n.1, n.2)) ++ rest))) = '"' :: cs := ⟨_, rfl⟩
    have hmembers : members? fuel ('"' :: cs) =
        some ((m :: ms).map fun n => (some n.1, n.2), rest) := by
      rw [← hcs]
      exact members?_write hl isSpace_nil hm hms (by omega)
    have hskip : skipSpace (l.newLine (level + 1) ++ '"' :: cs) = '"' :: cs := by
      rw [skipSpace_append (hl.newLine _), skipSpace_cons rfl]
    simp only [record, List.map_cons, write, writeString, Option.getD_some, List.cons_append,
      List.append_assoc]
    rw [hcs, value?_brace hskip, hmembers]
    rfl

/-- **A plain value is read back from its text** in any layout that puts blanks between tokens. -/
theorem readsBack (hl : l.IsBlank) (h : j.IsPlain) : ReadsBack l j := by
  -- by induction on the value; the induction hypotheses are about its items and members
  induction h with
  | null =>
    intro level fuel rest _ _
    rfl
  | bool b =>
    intro level fuel rest _ _
    cases b <;> rfl
  | nat n =>
    intro level fuel rest _ hrest
    obtain ⟨d, ds, hds, hd⟩ := exists_toDigits_eq_cons n
    have hread := unsigned?_toDigits n hrest
    rw [hds, List.cons_append] at hread
    rw [write, hds, List.cons_append, value?_digit hd, hread]
  | text s =>
    intro level fuel rest _ _
    exact value?_text s
  | array hplain ih => exact readsBack_array hl hplain ih
  | record _ ih => exact readsBack_record hl ih

theorem parseChars?_write (hl : l.IsBlank) (h : j.IsPlain) (hws : ∀ c ∈ ws, isSpace c)
    (level : Nat) : parseChars? (write l level j ++ ws) = some j := by
  have hrest : Stops isNumberPart ws := by
    rw [← List.append_nil ws]
    exact stops_of_blank hws (fun c => isNumberPart_eq_false) stops_nil
  have hread : value? (2 * (write l level j ++ ws).length + 2) (write l level j ++ ws) =
      some (j, ws) := readsBack hl h (by rw [List.length_append]; omega) hrest
  have hskip : skipSpace ws = [] := List.dropWhile_eq_nil_iff.2 hws
  rw [parseChars?, hread]
  simp [hskip]

theorem parse?_compact (h : j.IsPlain) : parse? j.compact = some j := by
  rw [parse?, compact, String.toList_ofList, writeCompact, ← List.append_nil (write _ _ _)]
  exact parseChars?_write Layout.isBlank_compact h isSpace_nil 0

theorem writeCompact_inj {i : Json} (hi : i.IsPlain) (hj : j.IsPlain)
    (h : i.writeCompact = j.writeCompact) : i = j := by
  have hparse := parse?_compact hi
  rw [compact, h, ← compact, parse?_compact hj] at hparse
  exact (Option.some.inj hparse).symm

theorem parse?_pretty (h : j.IsPlain) : parse? (j.pretty ++ "\n") = some j := by
  rw [parse?, String.toList_append, pretty, String.toList_ofList, writePretty]
  exact parseChars?_write Layout.isBlank_pretty h (List.all_eq_true.1 rfl) 0

end NestingRules.Json
