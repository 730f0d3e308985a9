import NestingRules.Json.Basic
import NestingRules.Text.Basic

/-!
# Reading JSON

`parse?` reads a whole text as one JSON value.  The grammar is that of the standard: no leading
zeros, no control characters inside strings, and nothing but blanks after the value.  Depth and
size of numbers are not limited.  The fuel of the recursive functions bounds the number of values
and separators still to come, for which twice the number of characters is enough.
-/

namespace NestingRules.Json

/-- A blank between tokens. -/
def isSpace (c : Char) : Bool := c == ' ' || c == '\n' || c == '\t' || c == '\r'

/-- `cs` without the blanks at its front. -/
def skipSpace (cs : List Char) : List Char := cs.dropWhile isSpace

/-! ### Strings -/

export Text (hexDigit?)

/-- The code unit of four hexadecimal digits. -/
def codeUnit? (a b c d : Char) : Option Nat := do
  return 4096 * (← hexDigit? a) + 256 * (← hexDigit? b) + 16 * (← hexDigit? c) + (← hexDigit? d)

/-- The character of a short escape. -/
def shortEscape? : Char → Option Char
  | '"' => some '"'
  | '\\' => some '\\'
  | '/' => some '/'
  | 'b' => some '\x08'
  | 'f' => some '\x0c'
  | 'n' => some '\n'
  | 'r' => some '\r'
  | 't' => some '\t'
  | _ => none

/-- A piece of a string literal. -/
inductive Piece where
  /-- A character, written as itself or by a short escape. -/
  | char (c : Char)
  /-- A code unit, written in hexadecimal. -/
  | unit (n : Nat)
  deriving DecidableEq

/-- The pieces of a string literal up to its closing quotation mark, and what follows. -/
def pieces? : List Char → Option (List Piece × List Char)
  | [] => none
  | '"' :: cs => some ([], cs)
  | '\\' :: 'u' :: a :: b :: c :: d :: cs => do
    let n ← codeUnit? a b c d
    let (ps, rest) ← pieces? cs
    return (.unit n :: ps, rest)
  | '\\' :: e :: cs => do
    let c ← shortEscape? e
    let (ps, rest) ← pieces? cs
    return (.char c :: ps, rest)
  | c :: cs =>
    if c.toNat < 32 || c == '\\' then none
    else do
      let (ps, rest) ← pieces? cs
      return (.char c :: ps, rest)

/-- The first half of a surrogate pair. -/
def isHighUnit (n : Nat) : Bool := 0xd800 ≤ n && n ≤ 0xdbff

/-- The second half of a surrogate pair. -/
def isLowUnit (n : Nat) : Bool := 0xdc00 ≤ n && n ≤ 0xdfff

/-- The characters of a string literal; none if it names half of a surrogate pair. -/
def joinPieces? : List Piece → Option (List Char)
  | [] => some []
  | .char c :: ps => (joinPieces? ps).map (c :: ·)
  | .unit n :: ps =>
    if isHighUnit n then
      match ps with
      | .unit m :: ps =>
        if isLowUnit m then
          (joinPieces? ps).map (Char.ofNat (0x10000 + (n - 0xd800) * 0x400 + (m - 0xdc00)) :: ·)
        else none
      | _ => none
    else if isLowUnit n then none
    else (joinPieces? ps).map (Char.ofNat n :: ·)

/-- A string after its opening quotation mark. -/
def string? (cs : List Char) : Option (Option String × List Char) := do
  let (ps, rest) ← pieces? cs
  return ((joinPieces? ps).map String.ofList, rest)

/-! ### Numbers -/

/-- The digits at the front of `cs`, and what follows. -/
def takeDigits (cs : List Char) : List Char × List Char :=
  (cs.takeWhile Char.isDigit, cs.dropWhile Char.isDigit)

/-- A fraction, which may be absent, and what follows. -/
def fraction? : List Char → Option (List Char × List Char)
  | '.' :: cs =>
    match takeDigits cs with
    | ([], _) => none
    | (ds, rest) => some ('.' :: ds, rest)
  | cs => some ([], cs)

/-- An exponent, which may be absent, and what follows. -/
def exponent? : List Char → Option (List Char × List Char)
  | [] => some ([], [])
  | e :: cs =>
    if e == 'e' || e == 'E' then
      let (sign, digits) :=
        match cs with
        | '+' :: ds => (['+'], ds)
        | '-' :: ds => (['-'], ds)
        | ds => ([], ds)
      match takeDigits digits with
      | ([], _) => none
      | (ds, rest) => some (e :: (sign ++ ds), rest)
    else some ([], e :: cs)

/-- An integer part without leading zeros, and what follows. -/
def integer? (cs : List Char) : Option (List Char × List Char) :=
  match takeDigits cs with
  | ([], _) => none
  | (['0'], rest) => some (['0'], rest)
  | ('0' :: _, _) => none
  | (ds, rest) => some (ds, rest)

/-- A number without sign, and what follows. -/
def unsigned? (cs : List Char) : Option (Json × List Char) := do
  let (ds, cs) ← integer? cs
  let (f, cs) ← fraction? cs
  let (e, cs) ← exponent? cs
  if f.isEmpty && e.isEmpty then return (.nat (Nat.ofDigitChars 10 ds 0), cs)
  else return (.number (String.ofList (ds ++ f ++ e)), cs)

/-- A number after a minus sign, and what follows. -/
def negative? (cs : List Char) : Option (Json × List Char) := do
  let (ds, cs) ← integer? cs
  let (f, cs) ← fraction? cs
  let (e, cs) ← exponent? cs
  return (.number (String.ofList ('-' :: (ds ++ f ++ e))), cs)

/-! ### Values -/

/-- What follows a word at the front of `cs`. -/
def afterWord? : (word cs : List Char) → Option (List Char)
  | [], cs => some cs
  | w :: ws, c :: cs => if w == c then afterWord? ws cs else none
  | _ :: _, [] => none

mutual

/-- A value at the front of a text, and what follows. -/
def value? : (fuel : Nat) → List Char → Option (Json × List Char)
  | 0, _ => none
  | fuel + 1, cs =>
    match skipSpace cs with
    | '"' :: cs => (string? cs).map fun r => (.string r.1, r.2)
    | '[' :: cs =>
      match skipSpace cs with
      | ']' :: cs => some (.array [], cs)
      | cs => (items? fuel cs).map fun r => (.array r.1, r.2)
    | '\x7b' :: cs =>
      match skipSpace cs with
      | '\x7d' :: cs => some (.object [], cs)
      | cs => (members? fuel cs).map fun r => (.object r.1, r.2)
    | '-' :: cs => negative? cs
    | 'n' :: cs => (afterWord? ['u', 'l', 'l'] cs).map fun r => (.null, r)
    | 't' :: cs => (afterWord? ['r', 'u', 'e'] cs).map fun r => (.bool true, r)
    | 'f' :: cs => (afterWord? ['a', 'l', 's', 'e'] cs).map fun r => (.bool false, r)
    | cs => unsigned? cs

/-- The items up to the closing bracket, at least one, and what follows. -/
def items? : (fuel : Nat) → List Char → Option (List Json × List Char)
  | 0, _ => none
  | fuel + 1, cs => do
    let (j, cs) ← value? fuel cs
    match skipSpace cs with
    | ']' :: cs => return ([j], cs)
    | ',' :: cs =>
      let (js, cs) ← items? fuel cs
      return (j :: js, cs)
    | _ => none

/-- The members up to the closing brace, at least one, and what follows. -/
def members? : (fuel : Nat) → List Char → Option (List (Option String × Json) × List Char)
  | 0, _ => none
  | fuel + 1, cs =>
    match skipSpace cs with
    | '"' :: cs => do
      let (k, cs) ← string? cs
      match skipSpace cs with
      | ':' :: cs =>
        let (j, cs) ← value? fuel cs
        match skipSpace cs with
        | '\x7d' :: cs => return ([(k, j)], cs)
        | ',' :: cs =>
          let (ms, cs) ← members? fuel cs
          return ((k, j) :: ms, cs)
        | _ => none
      | _ => none
    | _ => none

end

/-- The value that a list of characters writes. -/
def parseChars? (cs : List Char) : Option Json := do
  let (j, rest) ← value? (2 * cs.length + 2) cs
  if (skipSpace rest).isEmpty then some j else none

/-- The value that a text writes. -/
def parse? (s : String) : Option Json := parseChars? s.toList

end NestingRules.Json
