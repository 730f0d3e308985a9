import NestingRules.Proofs.Expression.Basic

/-!
# Reading expressions

An expression is read in two passes.  `scan` cuts the characters into tokens, each as long as can
be, and `read` puts the tokens together, with a stack of what has been opened and not closed.
Whatever the two do not know is refused, and so is what would need the precedence of operators: a
comparison is of two operands, and only parentheses of calls go around a comparison.
-/

namespace NestingRules

namespace Expression

/-! ### Tokens -/

/-- A character or two that are no operand. -/
inductive Mark where
  | dot
  | opening
  | closing
  | arrow
  | compare (op : Comparison)
  deriving DecidableEq, Repr

/-- What characters are cut into. -/
inductive Token where
  | atom (a : Atom)
  | mark (m : Mark)
  deriving DecidableEq, Repr

/-- The operator. -/
def Comparison.print : Comparison → List Char
  | equal => ['=', '=']
  | differ => ['!', '=']
  | greater => ['>']
  | atMost => ['<', '=']

/-- The mark, with a space on both sides of an operator. -/
def Mark.print : Mark → List Char
  | dot => ['.']
  | opening => ['(']
  | closing => [')']
  | arrow => [' ', '=', '>', ' ']
  | compare op => ' ' :: (op.print ++ [' '])

/-- The two kinds of literals that stand between two characters of a kind. -/
inductive Enclosed where
  | text
  | pattern
  deriving DecidableEq, Repr

namespace Enclosed

/-- The character on both sides. -/
def bound : Enclosed → Char
  | text => '\''
  | pattern => '/'

/-- The character stands for itself in the literal. -/
def admits (k : Enclosed) (c : Char) : Bool :=
  c != k.bound && !(['\\', '\n', '\r', '\u2028', '\u2029'].contains c)

/-- The literal with these characters. -/
def atom? : Enclosed → List Char → Option Atom
  | text, cs => some (.text (String.ofList cs))
  | pattern, [] => none
  | pattern, cs => (Regex.parse? cs).map .pattern

end Enclosed

/-- The characters of names, numbers and Boolean values. -/
def isWordChar (c : Char) : Bool := c.isAlphanum || c == '_' || c == '$'

/-- The characters of operators. -/
def isOperatorChar (c : Char) : Bool := ['=', '!', '<', '>'].contains c

/-- Words that are no names. -/
def reserved : List String :=
  ["await", "break", "case", "catch", "class", "const", "continue", "debugger", "default", "delete",
   "do", "else", "enum", "export", "extends", "finally", "for", "function", "if", "implements",
   "import", "in", "instanceof", "interface", "let", "new", "null", "package", "private",
   "protected", "public", "return", "static", "super", "switch", "this", "throw", "try", "typeof",
   "var", "void", "while", "with", "yield"]

namespace Atom

/-- The written form. -/
def print : Atom → List Char
  | name n => n.toList
  | text s => '\'' :: (s.toList ++ ['\''])
  | number n => Nat.toDigits 10 n
  | boolean b => (if b then "true" else "false").toList
  | pattern r => '/' :: (r.print ++ ['/'])

/-- The name, number or Boolean value that is written with these characters.  A number is written
without zeros in front. -/
def ofWord? : List Char → Option Atom
  | [] => none
  | c :: cs =>
    if c.isDigit then
      let n := Nat.ofDigitChars 10 (c :: cs) 0
      if Nat.toDigits 10 n = c :: cs then some (.number n) else none
    else
      match String.ofList (c :: cs) with
      | "true" => some (.boolean true)
      | "false" => some (.boolean false)
      | n => if reserved.contains n then none else some (.name n)

end Atom

/-- The operator that is written with these characters. -/
def Mark.ofOperator? : List Char → Option Mark
  | ['=', '='] => some (.compare .equal)
  | ['!', '='] => some (.compare .differ)
  | ['>'] => some (.compare .greater)
  | ['<', '='] => some (.compare .atMost)
  | ['=', '>'] => some .arrow
  | _ => none

/-! ### From characters to tokens -/

/-- What has been read of a token. -/
inductive Pending where
  | nothing
  | word (cs : List Char)
  | operator (cs : List Char)
  /-- The characters of a literal behind the one it begins with. -/
  | enclosed (k : Enclosed) (cs : List Char)
  deriving DecidableEq, Repr

namespace Pending

/-- The token that has been read, if there is one. -/
def finish? : Pending → Option (List Token)
  | nothing => some []
  | word cs => (Atom.ofWord? cs).map fun a => [.atom a]
  | operator cs => (Mark.ofOperator? cs).map fun m => [.mark m]
  | enclosed .. => none

/-- Begin with a character. -/
def begin? (c : Char) : Option (List Token × Pending) :=
  if isWordChar c then some ([], word [c])
  else if isOperatorChar c then some ([], operator [c])
  else
    match c with
    | ' ' => some ([], nothing)
    | '.' => some ([.mark .dot], nothing)
    | '(' => some ([.mark .opening], nothing)
    | ')' => some ([.mark .closing], nothing)
    | '\'' => some ([], enclosed .text [])
    | '/' => some ([], enclosed .pattern [])
    | _ => none

/-- Finish what has been read and begin with a character. -/
def restart? (p : Pending) (c : Char) : Option (List Token × Pending) :=
  match p.finish?, begin? c with
  | some ts, some (us, q) => some (ts ++ us, q)
  | _, _ => none

/-- Go on with a character. -/
def next? : Pending → Char → Option (List Token × Pending)
  | enclosed k cs, c =>
    if c = k.bound then (k.atom? cs).map fun a => ([.atom a], nothing)
    else if k.admits c then some ([], enclosed k (cs ++ [c]))
    else none
  | word cs, c => if isWordChar c then some ([], word (cs ++ [c])) else restart? (word cs) c
  | operator cs, c =>
    if isOperatorChar c then some ([], operator (cs ++ [c])) else restart? (operator cs) c
  | nothing, c => begin? c

end Pending

/-- The tokens of characters, behind what has been read. -/
def scan : Pending → List Char → Option (List Token)
  | p, [] => p.finish?
  | p, c :: cs =>
    match p.next? c with
    | some (ts, q) => (scan q cs).map (ts ++ ·)
    | none => none

/-! ### From tokens to an expression -/

/-- The name of a method. -/
def Method.name : Method → String
  | split => "split"
  | test => "test"

/-- What can stand behind a dot. -/
inductive Access where
  | length
  | call (m : Method)
  | filter
  deriving DecidableEq, Repr

namespace Access

/-- The word behind the dot. -/
def name : Access → String
  | length => "length"
  | call m => m.name
  | filter => "filter"

/-- What a word behind a dot is. -/
def ofName? (n : String) : Option Access :=
  [length, call .split, call .test, filter].find? (·.name == n)

end Access

/-- Something opened that waits for an expression to close it. -/
inductive Frame where
  | call (m : Method) (e : Expr)
  | filter (e : Expr) (x : String)
  | compare (op : Comparison) (a : Expr)
  deriving DecidableEq, Repr

namespace Frame

/-- The expression it makes. -/
def close : Frame → Expr → Expr
  | call m e, a => .call m e a
  | filter e x, body => .filter e x body
  | compare op a, b => .compare op a b

/-- It is a comparison, which ends without a mark. -/
def isComparison : Frame → Bool
  | compare .. => true
  | _ => false

end Frame

namespace Expr

/-- The expression is an operand: no comparison. -/
def isOperand : Expr → Bool
  | compare .. => false
  | _ => true

/-- A dot can stand behind the expression: it is an operand and no number, whose dot would be that
of a fraction. -/
def isReceiver : Expr → Bool
  | atom (.number _) => false
  | e => e.isOperand

end Expr

/-- Close the comparison on top of the stack, if there is one. -/
def settle : List Frame → Expr → List Frame × Expr
  | .compare op a :: stack, b => (stack, .compare op a b)
  | stack, e => (stack, e)

/-- The expression that tokens make, behind what has been opened and behind an operand, if there is
one. -/
def read : List Frame → Option Expr → List Token → Option Expr
  | stack, none, .atom a :: ts => read stack (some (.atom a)) ts
  | stack, some e, [] =>
    match settle stack e with
    | ([], e) => some e
    | _ => none
  | stack, some e, .mark .closing :: ts =>
    match settle stack e with
    | (f :: stack, e) => if f.isComparison then none else read stack (some (f.close e)) ts
    | ([], _) => none
  | stack, some e, .mark (.compare op) :: ts =>
    if stack.head?.any Frame.isComparison then none else read (.compare op e :: stack) none ts
  | stack, some e, .mark .dot :: .atom (.name n) :: ts =>
    if e.isReceiver then
      match Access.ofName? n, ts with
      | some .length, ts => read stack (some (.length e)) ts
      | some (.call m), .mark .opening :: ts => read (.call m e :: stack) none ts
      | some .filter, .mark .opening :: .atom (.name x) :: .mark .arrow :: ts =>
        read (.filter e x :: stack) none ts
      | _, _ => none
    else none
  | _, _, _ => none

/-- Read an expression. -/
def Expr.parse? (s : String) : Option Expr := (scan .nothing s.toList).bind (read [] none)

end Expression

end NestingRules
