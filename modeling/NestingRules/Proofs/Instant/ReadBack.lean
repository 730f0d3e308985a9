import NestingRules.Proofs.Text.Digits

/-!
# Reading instants back

Each part of the written form of an instant is read back by the reader of that part, whatever
follows it, and so the whole form is read back (`Instant.parse?_text`): with any year, with a fraction
of any precision, and with a leap second at the end of a minute.  A leap second after any other second
is written as the second that comes next, and is read as that (`Instant.settled`).
-/

namespace NestingRules.Instant

open Calendar Text

variable {width n : Nat} {rest : List Char}

/-! ### Numbers -/

theorem exists_padded_eq_cons (width n : Nat) : ∃ d ds, padded width n = d :: ds ∧ d.isDigit := by
  obtain ⟨d, ds, hds⟩ := List.exists_cons_of_ne_nil (padded_ne_nil width n)
  exact ⟨d, ds, hds, isDigit_of_mem_padded (hds ▸ List.mem_cons_self)⟩

theorem isBlank_eq_false {c : Char} (h : c.isDigit) : isBlank c = false := by
  have h48 : 48 ≤ c.toNat ∧ c.toNat ≤ 57 := by simpa [Char.isDigit, UInt32.le_iff_toNat_le] using h
  simp [isBlank]
  omega

theorem skipBlanks_padded (width n : Nat) (rest : List Char) :
    skipBlanks (padded width n ++ rest) = padded width n ++ rest := by
  obtain ⟨d, ds, hds, hd⟩ := exists_padded_eq_cons width n
  rw [hds, List.cons_append]
  exact (stops_cons.2 (isBlank_eq_false hd)).dropWhile_eq_self

theorem digits?_padded (hw : 0 < width) (h : n < 10 ^ width) :
    digits? width (padded width n ++ rest) = some (n, rest) := by
  have hlen := length_padded hw h
  have htake : ((padded width n ++ rest).take width).takeWhile Char.isDigit = padded width n := by
    rw [List.take_left' hlen, List.takeWhile_eq_self_iff]
    exact fun c => isDigit_of_mem_padded
  rw [digits?, htake]
  simp [padded_ne_nil, ofDigitChars_padded]

theorem pair?_padded (h : n < 100) : pair? (padded 2 n ++ rest) = some (n, rest) := by
  rw [pair?, skipBlanks_padded]
  exact digits?_padded (by omega) h

theorem longNumber?_padded (h : n < 0x8000000000000000) (hrest : Stops Char.isDigit rest) :
    longNumber? (padded width n ++ rest) = some (n, rest) := by
  have htake : (padded width n ++ rest).takeWhile Char.isDigit = padded width n :=
    takeWhile_append_of_stops (fun c => isDigit_of_mem_padded) hrest
  rw [longNumber?, htake]
  simp [padded_ne_nil, ofDigitChars_padded, h]

theorem separator?_self {c : Char} (h : isBlank c = false) :
    separator? c (c :: rest) = some rest := by
  have hskip : skipBlanks (c :: rest) = c :: rest := (stops_cons.2 h).dropWhile_eq_self
  rw [separator?, hskip]
  simp

/-! ### Years -/

theorem year?_digit {d : Char} {cs : List Char} (h : d.isDigit) :
    year? (d :: cs) = (digits? 4 (d :: cs)).map fun r => ((r.1 : Int), r.2) := by
  have hskip : skipBlanks (d :: cs) = d :: cs :=
    (stops_cons.2 (isBlank_eq_false h)).dropWhile_eq_self
  rw [year?, hskip]
  split <;> simp_all

theorem year?_yearChars {year : Int} (hlow : -262143 ≤ year) (hhigh : year ≤ 262142)
    (hrest : Stops Char.isDigit rest) : year? (yearChars year ++ rest) = some (year, rest) := by
  have habs : year.natAbs < 0x8000000000000000 := by omega
  unfold yearChars
  split_ifs with hplain hneg
  · have hread : digits? 4 (padded 4 year.toNat ++ rest) = some (year.toNat, rest) :=
      digits?_padded (by omega) (by omega)
    obtain ⟨d, ds, hds, hd⟩ := exists_padded_eq_cons 4 year.toNat
    rw [hds, List.cons_append] at hread ⊢
    rw [year?_digit hd, hread]
    simp only [Option.map_some, Int.toNat_of_nonneg hplain.1]
  · have hskip : skipBlanks ('-' :: (padded 4 year.natAbs ++ rest)) =
        '-' :: (padded 4 year.natAbs ++ rest) := rfl
    rw [List.cons_append, year?, hskip]
    simp only [longNumber?_padded habs hrest, Option.map_some, Option.some.injEq,
      Prod.mk.injEq, and_true]
    omega
  · have hskip : skipBlanks ('+' :: (padded 4 year.natAbs ++ rest)) =
        '+' :: (padded 4 year.natAbs ++ rest) := rfl
    rw [List.cons_append, year?, hskip]
    simp only [longNumber?_padded habs hrest, Option.map_some, Option.some.injEq,
      Prod.mk.injEq, and_true]
    omega

/-! ### Fractions -/

theorem stops_take {p : Char → Bool} {cs : List Char} (h : Stops p cs) (n : Nat) :
    Stops p (cs.take n) := by
  cases n with
  | zero => exact stops_nil
  | succ n => cases cs <;> exact h

/-- The digits of a fraction count for as many places as there are. -/
theorem fraction?_padded (zeros : Nat) (hw : 0 < width) (hsum : width + zeros = 9)
    (h : n < 10 ^ width) (hrest : Stops Char.isDigit rest) :
    fraction? ('.' :: (padded width n ++ rest)) = some (10 ^ zeros * n, rest) := by
  have hlen := length_padded hw h
  have htake : ((padded width n ++ rest).take 9).takeWhile Char.isDigit = padded width n := by
    rw [List.take_append, List.take_of_length_le (by omega)]
    exact takeWhile_append_of_stops (fun c => isDigit_of_mem_padded) (stops_take hrest _)
  have hzeros : 9 - (padded width n).length = zeros := by omega
  rw [fraction?, htake]
  simp [padded_ne_nil, hzeros, ofDigitChars_padded_append, hrest.dropWhile_eq_self]

theorem fraction?_fractionChars (h : n < 1000000000) (cs : List Char) :
    fraction? (fractionChars n ++ 'Z' :: cs) = some (n, 'Z' :: cs) := by
  have hrest : Stops Char.isDigit ('Z' :: cs) := stops_cons.2 rfl
  unfold fractionChars
  split_ifs with h0 h6 h3
  · rw [h0]
    rfl
  · have hvalue : 10 ^ 6 * (n / 1000000) = n := by omega
    rw [List.cons_append, fraction?_padded 6 (by omega) rfl (by omega) hrest, hvalue]
  · have hvalue : 10 ^ 3 * (n / 1000) = n := by omega
    rw [List.cons_append, fraction?_padded 3 (by omega) rfl (by omega) hrest, hvalue]
  · rw [List.cons_append, fraction?_padded 0 (by omega) rfl (by omega) hrest, Nat.pow_zero,
      Nat.one_mul]

/-! ### Dates and times -/

theorem day_le_of_isValid {d : Date} (h : d.isValid = true) : d.month ≤ 12 ∧ d.day ≤ 31 := by
  have hmonth : daysInMonth d.year d.month ≤ 31 := by
    unfold daysInMonth
    split_ifs <;> omega
  simp only [Date.isValid, Bool.and_eq_true, decide_eq_true_eq] at h
  omega

theorem year_mem_of_isValid {d : Date} (h : d.isValid = true) :
    -262143 ≤ d.year ∧ d.year ≤ 262142 := by
  simp only [Date.isValid, Bool.and_eq_true, decide_eq_true_eq] at h
  omega

theorem shift_zero (date : Date) {minute : Nat} (h : minute < 1440) :
    shift date minute 0 = (date, minute) := by
  simp only [shift, Int.sub_zero]
  rw [if_neg (by omega), if_neg (by omega), Int.toNat_natCast]

/-! ### Leap seconds -/

/-- The instant is in a leap second at the end of a minute only. -/
def LeapsAtMinuteEnd (t : Instant) : Prop := 1000000000 ≤ t.nanosecond → t.second = 59

instance (t : Instant) : Decidable t.LeapsAtMinuteEnd :=
  inferInstanceAs (Decidable (_ → _))

/-- The instant, where a leap second before the end of a minute is the second that comes next. -/
def settled (t : Instant) : Instant :=
  if h : t.LeapsAtMinuteEnd then t
  else
    { t with
      second := t.second + 1
      nanosecond := t.nanosecond - 1000000000
      second_lt := by
        have hsecond := t.second_lt
        unfold LeapsAtMinuteEnd at h
        omega
      nanosecond_lt := by
        have hnanosecond := t.nanosecond_lt
        omega }

theorem settled_eq_self_iff {t : Instant} : t.settled = t ↔ t.LeapsAtMinuteEnd := by
  unfold settled
  split_ifs with h
  · exact iff_of_true rfl h
  · refine iff_of_false (fun heq => ?_) h
    have hsecond := congrArg Instant.second heq
    dsimp only at hsecond
    omega

theorem writtenSecond_le (t : Instant) : t.writtenSecond ≤ 60 := by
  have hsecond := t.second_lt
  have hnanosecond := t.nanosecond_lt
  unfold writtenSecond
  omega

theorem writtenNanosecond_lt (t : Instant) : t.writtenNanosecond < 1000000000 :=
  Nat.mod_lt _ (by decide)

theorem ofFields?_self {t : Instant} (h : t.LeapsAtMinuteEnd) :
    ofFields? t.date t.hour t.minute t.second t.nanosecond = some t :=
  dif_pos ⟨t.date_valid, t.hour_lt, t.minute_lt, t.second_lt, t.nanosecond_lt, h⟩

theorem ofWritten?_written (t : Instant) :
    ofWritten? t.date t.hour t.minute t.writtenSecond t.writtenNanosecond = some t.settled := by
  have hsecond := t.second_lt
  have hnanosecond := t.nanosecond_lt
  unfold ofWritten? writtenSecond writtenNanosecond
  by_cases hleap : 1000000000 ≤ t.nanosecond
  · have hdiv : t.nanosecond / 1000000000 = 1 := by omega
    have hmod : t.nanosecond % 1000000000 = t.nanosecond - 1000000000 := by omega
    rw [hdiv, hmod]
    by_cases hend : t.second = 59
    · have h : t.LeapsAtMinuteEnd := fun _ => hend
      rw [hend, if_pos rfl, Nat.sub_add_cancel hleap, settled_eq_self_iff.2 h, ← hend]
      exact ofFields?_self h
    · have h : ¬ t.LeapsAtMinuteEnd := fun h => hend (h hleap)
      have hlow : t.settled.nanosecond < 1000000000 := by
        simp only [settled, h, ↓reduceDIte]
        omega
      have hself : t.settled.LeapsAtMinuteEnd := fun hge => absurd hge (Nat.not_le.2 hlow)
      rw [if_neg (by omega), ← ofFields?_self hself]
      simp only [settled, h, ↓reduceDIte]
  · have hdiv : t.nanosecond / 1000000000 = 0 := by omega
    have hmod : t.nanosecond % 1000000000 = t.nanosecond := by omega
    have h : t.LeapsAtMinuteEnd := fun hge => absurd hge hleap
    rw [hdiv, hmod, Nat.add_zero, if_neg (by omega), settled_eq_self_iff.2 h]
    exact ofFields?_self h

/-! ### Texts -/

/-- A step of the reader that takes one part. -/
theorem read_part {α β : Type} {x : Option α} {a : α} {f : α → Option β} {b : β}
    (h : x = some a) (hf : f a = some b) : (x >>= f) = some b := by
  rw [h]
  exact hf

theorem parseChars?_toChars (t : Instant) : parseChars? t.toChars = some t.settled := by
  obtain ⟨hlow, hhigh⟩ := year_mem_of_isValid t.date_valid
  obtain ⟨hmonth, hday⟩ := day_le_of_isValid t.date_valid
  have hhour := t.hour_lt
  have hminute := t.minute_lt
  have hsecond := t.writtenSecond_le
  have htime : 60 * t.hour + t.minute < 1440 := by omega
  have hdiv : (60 * t.hour + t.minute) / 60 = t.hour := by omega
  have hmod : (60 * t.hour + t.minute) % 60 = t.minute := by omega
  simp only [toChars, List.append_assoc, List.cons_append]
  -- the parts in the order in which they are written
  refine read_part (year?_yearChars hlow hhigh (stops_cons.2 rfl)) ?_
  refine read_part (separator?_self rfl) (read_part (pair?_padded (by omega)) ?_)
  refine read_part (separator?_self rfl) (read_part (pair?_padded (by omega)) ?_)
  refine read_part rfl (read_part (pair?_padded (by omega)) ?_)
  refine read_part (separator?_self rfl) (read_part (pair?_padded (by omega)) ?_)
  refine read_part (separator?_self rfl) (read_part (pair?_padded (by omega)) ?_)
  refine read_part (fraction?_fractionChars t.writtenNanosecond_lt []) (read_part rfl ?_)
  simp [skipBlanks, t.date_valid, hhour, hminute, shift_zero t.date htime, hdiv, hmod,
    ofWritten?_written]

/-- **An instant is read back from its text**, with its leap second settled. -/
theorem parse?_text (t : Instant) : parse? t.text = some t.settled := by
  rw [parse?, text, String.toList_ofList, parseChars?_toChars]

end NestingRules.Instant
