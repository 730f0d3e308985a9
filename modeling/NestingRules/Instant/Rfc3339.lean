import NestingRules.Instant.Basic
import NestingRules.Text.Basic

/-!
# Instants as text

`text` writes an instant in the profile of RFC 3339 with `Z` for UTC and no, three, six or nine
digits of a fraction, as few as tell it.  In a leap second the second is written that comes next, 60
at the end of a minute.  Years outside 0 to 9999 have a sign.  `parse?` is more
lenient: blanks may stand before numbers and separators, month, day, hour, minute and second may have
one digit, the separator between date and time may be `T`, `t` or a space, and any offset below one
day is accepted and removed.
-/

namespace NestingRules.Instant

open Calendar

/-! ### Writing -/

/-- A number with at least `width` digits. -/
def padded (width n : Nat) : List Char :=
  let ds := Nat.toDigits 10 n
  List.replicate (width - ds.length) '0' ++ ds

/-- The year with four digits, or with a sign if it has no such form. -/
def yearChars (year : Int) : List Char :=
  if 0 ≤ year ∧ year ≤ 9999 then padded 4 year.toNat
  else (if year < 0 then '-' else '+') :: padded 4 year.natAbs

/-- The fraction of a second with no, three, six or nine digits. -/
def fractionChars (nanosecond : Nat) : List Char :=
  if nanosecond = 0 then []
  else if nanosecond % 1000000 = 0 then '.' :: padded 3 (nanosecond / 1000000)
  else if nanosecond % 1000 = 0 then '.' :: padded 6 (nanosecond / 1000)
  else '.' :: padded 9 nanosecond

/-- The second as it is written: in a leap second, the one that comes next. -/
def writtenSecond (t : Instant) : Nat := t.second + t.nanosecond / 1000000000

/-- The nanosecond as it is written. -/
def writtenNanosecond (t : Instant) : Nat := t.nanosecond % 1000000000

/-- The characters of an instant. -/
def toChars (t : Instant) : List Char :=
  yearChars t.date.year ++ '-' :: padded 2 t.date.month ++ '-' :: padded 2 t.date.day ++
    'T' :: padded 2 t.hour ++ ':' :: padded 2 t.minute ++ ':' :: padded 2 t.writtenSecond ++
    fractionChars t.writtenNanosecond ++ ['Z']

/-- The instant as text. -/
def text (t : Instant) : String := String.ofList t.toChars

/-! ### Reading -/

/-- `cs` without the blanks at its front. -/
def skipBlanks (cs : List Char) : List Char := cs.dropWhile Text.isBlank

/-- A number of one to `most` digits, and what follows. -/
def digits? (most : Nat) (cs : List Char) : Option (Nat × List Char) :=
  let ds := (cs.take most).takeWhile Char.isDigit
  if ds.isEmpty then none else some (Nat.ofDigitChars 10 ds 0, cs.drop ds.length)

/-- A number with any number of digits, below 2^63, and what follows. -/
def longNumber? (cs : List Char) : Option (Nat × List Char) :=
  let ds := cs.takeWhile Char.isDigit
  if ds.isEmpty || 0x8000000000000000 ≤ Nat.ofDigitChars 10 ds 0 then none
  else some (Nat.ofDigitChars 10 ds 0, cs.drop ds.length)

/-- A year after blanks: up to four digits, or any number of digits after a sign. -/
def year? (cs : List Char) : Option (Int × List Char) :=
  match skipBlanks cs with
  | '-' :: cs => (longNumber? cs).map fun r => (-(r.1 : Int), r.2)
  | '+' :: cs => (longNumber? cs).map fun r => ((r.1 : Int), r.2)
  | cs => (digits? 4 cs).map fun r => ((r.1 : Int), r.2)

/-- A number of one or two digits after blanks, and what follows. -/
def pair? (cs : List Char) : Option (Nat × List Char) :=
  digits? 2 (skipBlanks cs)

/-- What follows the separator `c`, which blanks may precede. -/
def separator? (c : Char) (cs : List Char) : Option (List Char) :=
  match skipBlanks cs with
  | d :: cs => if d == c then some cs else none
  | [] => none

/-- What follows the separator between date and time. -/
def dateTimeSeparator? : List Char → Option (List Char)
  | c :: cs => if c == 'T' || c == 't' || c == ' ' then some cs else none
  | [] => none

/-- The nanoseconds of a fraction, of which the digits after the ninth do not count; no fraction is
zero. -/
def fraction? : List Char → Option (Nat × List Char)
  | '.' :: cs =>
    let ds := (cs.take 9).takeWhile Char.isDigit
    if ds.isEmpty then none
    else
      let zeros := List.replicate (9 - ds.length) '0'
      some (Nat.ofDigitChars 10 (ds ++ zeros) 0, (cs.drop ds.length).dropWhile Char.isDigit)
  | cs => some (0, cs)

/-- Two digits, of which the first is at most `high`, and what follows. -/
def twoDigits? (high : Char) : List Char → Option (Nat × List Char)
  | a :: b :: cs =>
    if '0' ≤ a && a ≤ high && b.isDigit then some (Nat.ofDigitChars 10 [a, b] 0, cs) else none
  | _ => none

/-- The sign of an offset, and what follows. -/
def sign? : List Char → Option (Int × List Char)
  | '+' :: cs => some (1, cs)
  | '-' :: cs => some (-1, cs)
  | '\u2212' :: cs => some (-1, cs)
  | _ => none

/-- An offset in minutes after blanks, below one day, and what follows. -/
def offset? (cs : List Char) : Option (Int × List Char) :=
  match skipBlanks cs with
  | 'Z' :: cs => some (0, cs)
  | 'z' :: cs => some (0, cs)
  | cs =>
    if (cs.take 3).map Char.toUpper = ['U', 'T', 'C'] then some (0, cs.drop 3)
    else do
      let (sign, cs) ← sign? cs
      let (hours, cs) ← twoDigits? '9' cs
      let (minutes, cs) ← twoDigits? '5' (cs.dropWhile fun c => c == ':' || Text.isBlank c)
      if hours < 24 then some (sign * (60 * hours + minutes : Nat), cs) else none

/-- The UTC date and minute of the day of a local date and minute of the day. -/
def shift (date : Date) (minute : Nat) (offset : Int) : Date × Nat :=
  let m : Int := minute - offset
  if m < 0 then (date.previous, (m + 1440).toNat)
  else if 1440 ≤ m then (date.next, (m - 1440).toNat)
  else (date, m.toNat)

/-- The instant of a date and a time of day as they are written, where the second 60 is a leap second
after the second 59. -/
def ofWritten? (date : Date) (hour minute second nanosecond : Nat) : Option Instant :=
  if second = 60 then ofFields? date hour minute 59 (nanosecond + 1000000000)
  else ofFields? date hour minute second nanosecond

/-- The instant that a list of characters writes. -/
def parseChars? (cs : List Char) : Option Instant := do
  let (year, cs) ← year? cs
  let (month, cs) ← pair? (← separator? '-' cs)
  let (day, cs) ← pair? (← separator? '-' cs)
  let (hour, cs) ← pair? (← dateTimeSeparator? cs)
  let (minute, cs) ← pair? (← separator? ':' cs)
  let (second, cs) ← pair? (← separator? ':' cs)
  let (nanosecond, cs) ← fraction? cs
  let (offset, cs) ← offset? cs
  if !(skipBlanks cs).isEmpty then none
  else
    let date : Date := ⟨year, month, day⟩
    if date.isValid && hour < 24 && minute < 60 then
      let (date, m) := shift date (60 * hour + minute) offset
      ofWritten? date (m / 60) (m % 60) second nanosecond
    else none

/-- The instant that a text writes. -/
def parse? (s : String) : Option Instant := parseChars? s.toList

end NestingRules.Instant
