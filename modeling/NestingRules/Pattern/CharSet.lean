import NestingRules.Text.CaseFolding
import NestingRules.Text.Category

/-!
# Sets of characters

The sets that patterns are made of, as expressions.  `CharSet.contains` says what they mean.
-/

namespace NestingRules

/-- A set of characters. -/
inductive CharSet where
  | range (first last : Char)
  /-- The decimal digits of all scripts. -/
  | digit
  /-- The characters of words of all scripts. -/
  | word
  /-- The blanks of all scripts. -/
  | blank
  | category (c : Text.GeneralCategory)
  | union (a b : CharSet)
  | inter (a b : CharSet)
  | diff (a b : CharSet)
  /-- What is in one of two sets but not in both. -/
  | symmDiff (a b : CharSet)
  | compl (a : CharSet)
  /-- What differs from a character of the set only in case. -/
  | folded (a : CharSet)
  deriving DecidableEq, Repr

namespace CharSet

/-- The set holds a character. -/
def contains : CharSet → Char → Bool
  | range first last, c => first ≤ c && c ≤ last
  | digit, c => Text.isDecimalDigit c
  | word, c => Text.isWordChar c
  | blank, c => Text.isBlank c
  | category k, c => Text.GeneralCategory.of c == k
  | union a b, c => a.contains c || b.contains c
  | inter a b, c => a.contains c && b.contains c
  | diff a b, c => a.contains c && !b.contains c
  | symmDiff a b, c => a.contains c != b.contains c
  | compl a, c => !a.contains c
  | folded a, c => (Text.caseVariants c).any a.contains

/-- The set of one character. -/
def single (c : Char) : CharSet := range c c

/-- The set of no character. -/
def empty : CharSet := range '\x01' '\x00'

/-- The set of all characters. -/
def all : CharSet := compl empty

/-- The union of sets. -/
def ofList : List CharSet → CharSet
  | [] => empty
  | [a] => a
  | a :: as => union a (ofList as)

/-- The set with its complement taken or not. -/
def complIf (negated : Bool) (a : CharSet) : CharSet := if negated then compl a else a

/-- The set closed under changes of case or not. -/
def foldedIf (ignoreCase : Bool) (a : CharSet) : CharSet := if ignoreCase then folded a else a

/-! ### ASCII -/

/-- The digits of ASCII. -/
def asciiDigit : CharSet := range '0' '9'

/-- The letters of ASCII. -/
def asciiAlpha : CharSet := union (range 'A' 'Z') (range 'a' 'z')

/-- The letters and digits of ASCII. -/
def asciiAlnum : CharSet := union asciiDigit asciiAlpha

/-- The characters of words in ASCII. -/
def asciiWord : CharSet := union asciiAlnum (single '_')

/-- The blanks of ASCII. -/
def asciiSpace : CharSet := union (range '\t' '\r') (single ' ')

/-- The sets of ASCII that have names. -/
def named : List (String × CharSet) :=
  [("alnum", asciiAlnum), ("alpha", asciiAlpha), ("ascii", range '\x00' '\x7f'),
    ("blank", union (single '\t') (single ' ')),
    ("cntrl", union (range '\x00' '\x1f') (single '\x7f')), ("digit", asciiDigit),
    ("graph", range '!' '~'), ("lower", range 'a' 'z'), ("print", range ' ' '~'),
    ("punct", ofList [range '!' '/', range ':' '@', range '[' '\x60', range '\x7b' '~']),
    ("space", asciiSpace), ("upper", range 'A' 'Z'), ("word", asciiWord),
    ("xdigit", ofList [asciiDigit, range 'A' 'F', range 'a' 'f'])]

/-- The set holds only characters of ASCII, as far as single bytes go. -/
def isAscii (a : CharSet) : Bool :=
  (List.range 128).all fun i => !a.contains (Char.ofNat (128 + i))

end CharSet

end NestingRules
