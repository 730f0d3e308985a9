/-!
# Characters and bytes

A character is blank if it has the Unicode property White_Space.  `trimBy` cuts from both ends of a
list what satisfies a predicate, and `trim` cuts blanks from both ends of a text.  Bytes have a
smaller class of blanks, `isBlankByte`: the five white space bytes of ASCII without the vertical
tab.  Other classes of characters are given by closed ranges of code points.

`Utf8.encode` writes a text as bytes and `Utf8.decode` reads bytes as a text.  Where the bytes are no
text, `decode` answers the offset at which the first ill-formed sequence begins.
-/

namespace NestingRules.Text

/-! ### Blanks -/

/-- The Unicode property White_Space. -/
def isBlank (c : Char) : Bool :=
  let n := c.toNat
  (9 ≤ n && n ≤ 13) || n == 0x20 || n == 0x85 || n == 0xa0 || n == 0x1680 ||
    (0x2000 ≤ n && n ≤ 0x200a) || n == 0x2028 || n == 0x2029 || n == 0x202f || n == 0x205f ||
    n == 0x3000

/-- The bytes tab, line feed, form feed, carriage return and space. -/
def isBlankByte (b : UInt8) : Bool :=
  b == 9 || b == 10 || b == 12 || b == 13 || b == 32

/-- `xs` without the elements at its end that satisfy `p`. -/
def trimEndBy {α : Type} (p : α → Bool) (xs : List α) : List α :=
  (xs.reverse.dropWhile p).reverse

/-- `xs` without the elements at either end that satisfy `p`. -/
def trimBy {α : Type} (p : α → Bool) (xs : List α) : List α :=
  trimEndBy p (xs.dropWhile p)

/-- The text without blanks at either end. -/
def trim (s : String) : String :=
  String.ofList (trimBy isBlank s.toList)

/-! ### Classes of characters -/

/-- Some range of the list holds `n`. -/
def inRanges (ranges : List (Nat × Nat)) (n : Nat) : Bool :=
  ranges.any fun r => r.1 ≤ n && n ≤ r.2

/-- The value of a hexadecimal digit. -/
def hexDigit? (c : Char) : Option Nat :=
  if c.isDigit then some (c.toNat - 48)
  else if 'a' ≤ c && c ≤ 'f' then some (c.toNat - 87)
  else if 'A' ≤ c && c ≤ 'F' then some (c.toNat - 55)
  else none

/-! ### UTF-8 -/

namespace Utf8

/-- The bytes of a list of characters. -/
def encode (cs : List Char) : List UInt8 :=
  cs.flatMap String.utf8EncodeChar

/-- The character whose encoding begins the list. -/
def first? (bs : List UInt8) : Option Char :=
  (bs.take 4).toByteArray.utf8DecodeChar? 0

/-- Decode from offset `i`, where the first `skip` bytes belong to a character already read. -/
def decodeFrom : (i skip : Nat) → List UInt8 → Except Nat (List Char)
  | _, _, [] => .ok []
  | i, skip + 1, _ :: bs => decodeFrom (i + 1) skip bs
  | i, 0, b :: bs =>
    match first? (b :: bs) with
    | none => .error i
    | some c => (decodeFrom (i + 1) (c.utf8Size - 1) bs).map (c :: ·)

/-- The characters of a list of bytes, or the offset of the first ill-formed sequence. -/
def decode (bs : List UInt8) : Except Nat (List Char) :=
  decodeFrom 0 0 bs

end Utf8

end NestingRules.Text
