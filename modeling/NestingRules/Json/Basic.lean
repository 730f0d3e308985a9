/-!
# JSON values

A JSON document as a value.  Members of an object keep their order and may repeat.  A string
literal may name half of a surrogate pair, and then it is well-formed but no text: such a literal
is `none` where a text is `some`.  A number that is written as plain digits is a natural number;
any other is kept as written.

A structure with named fields is read from an object, whose members may come in any order and among
unknown ones but at most once each, or from an array with the fields in their order, of which the
last ones may be absent.  A choice without data is read from its name, or from an object with the
name as its only member and null as its value.

`compact` prints a value without any space, `pretty` with a line for each member and item and two
spaces for each level.  The two differ in their `Layout` only, the space they put between tokens,
and write the same strings: the quotation mark, the backslash and the control characters are escaped
and everything else stands for itself.
-/

namespace NestingRules

/-- A JSON value. -/
inductive Json where
  | null
  | bool (b : Bool)
  /-- A natural number in plain digits. -/
  | nat (n : Nat)
  /-- Any other number, as written. -/
  | number (literal : String)
  /-- A string; `none` if the literal names half of a surrogate pair. -/
  | string (s : Option String)
  | array (items : List Json)
  | object (members : List (Option String × Json))
  deriving Inhabited

namespace Json

/-- The string of a text. -/
def text (s : String) : Json := string (some s)

/-- The array of texts. -/
def texts (ss : List String) : Json := array (ss.map text)

/-- The object with these members. -/
def record (members : List (String × Json)) : Json :=
  object (members.map fun m => (some m.1, m.2))

end Json

/-! ### Taking values apart -/

namespace Json

/-- The text of a string. -/
def text? : Json → Option String
  | .string s => s
  | _ => none

/-- A natural number below a bound. -/
def natBelow? (bound : Nat) : Json → Option Nat
  | .nat n => if n < bound then some n else none
  | _ => none

/-- The items of an array. -/
def items : Json → Option (List Json)
  | .array js => some js
  | _ => none

/-- A list whose items `f` reads. -/
def list? {α : Type} (f : Json → Option α) : Json → Option (List α)
  | .array js => js.mapM f
  | _ => none

/-- A value that `f` reads, or null. -/
def nullable? {α : Type} (f : Json → Option α) : Json → Option (Option α)
  | .null => some none
  | j => (f j).map some

/-- A field that may be absent, with the value it has then. -/
def orDefault? {α : Type} (default : α) (f : Json → Option α) : Option Json → Option α
  | none => some default
  | some j => f j

/-- The value of the member `name`; refused if there are several. -/
def member? (members : List (Option String × Json)) (name : String) : Option (Option Json) :=
  match members.filter fun m => m.1 == some name with
  | [] => some none
  | [m] => some (some m.2)
  | _ => none

/-- The fields of a structure in their order, each `none` if it is absent. -/
def fields? (names : List String) : Json → Option (List (Option Json))
  | .object ms =>
    if ms.any fun m => m.1.isNone then none else names.mapM (member? ms)
  | .array js =>
    if js.length ≤ names.length then
      some (js.map some ++ List.replicate (names.length - js.length) none)
    else none
  | _ => none

/-- The name of a choice without data. -/
def choice? : Json → Option String
  | .string s => s
  | .object [(some name, .null)] => some name
  | _ => none

end Json

/-! ### Printing -/

namespace Json

/-- A control character as a code unit in hexadecimal. -/
def unitEscape (c : Char) : List Char :=
  ['\\', 'u', '0', '0', Nat.digitChar (c.toNat / 16), Nat.digitChar (c.toNat % 16)]

/-- A character as it stands in a string. -/
def escapeChar (c : Char) : List Char :=
  if c == '"' then ['\\', '"']
  else if c == '\\' then ['\\', '\\']
  else if c == '\n' then ['\\', 'n']
  else if c == '\r' then ['\\', 'r']
  else if c == '\t' then ['\\', 't']
  else if c == '\x08' then ['\\', 'b']
  else if c == '\x0c' then ['\\', 'f']
  else if c.toNat < 32 then unitEscape c
  else [c]

/-- A text between quotation marks. -/
def writeText (s : String) : List Char :=
  '"' :: (s.toList.flatMap escapeChar ++ ['"'])

/-- A string; one that is no text is written as the replacement character. -/
def writeString (s : Option String) : List Char :=
  writeText (s.getD "\ufffd")

/-- The space between the tokens of a value. -/
structure Layout where
  /-- What stands in front of an item, a member or a closing bracket of a level. -/
  newLine : (level : Nat) → List Char
  /-- What stands after a colon. -/
  gap : List Char

namespace Layout

/-- No space. -/
def compact : Layout := ⟨fun _ => [], []⟩

/-- A line break and two spaces for each level, and a space after a colon. -/
def pretty : Layout := ⟨fun level => '\n' :: List.replicate (2 * level) ' ', [' ']⟩

end Layout

mutual

/-- A value at a level. -/
def write (l : Layout) (level : Nat) : Json → List Char
  | .null => "null".toList
  | .bool true => "true".toList
  | .bool false => "false".toList
  | .nat n => Nat.toDigits 10 n
  | .number literal => literal.toList
  | .string s => writeString s
  | .array [] => ['[', ']']
  | .array (j :: js) =>
    '[' :: (l.newLine (level + 1) ++ (write l (level + 1) j ++ writeItems l level js))
  | .object [] => ['\x7b', '\x7d']
  | .object ((k, j) :: ms) =>
    '\x7b' :: (l.newLine (level + 1) ++ (writeString k ++ ':' :: (l.gap ++
      (write l (level + 1) j ++ writeMembers l level ms))))

/-- The items after the first, and the closing bracket. -/
def writeItems (l : Layout) (level : Nat) : List Json → List Char
  | [] => l.newLine level ++ [']']
  | j :: js =>
    ',' :: (l.newLine (level + 1) ++ (write l (level + 1) j ++ writeItems l level js))

/-- The members after the first, and the closing brace. -/
def writeMembers (l : Layout) (level : Nat) : List (Option String × Json) → List Char
  | [] => l.newLine level ++ ['\x7d']
  | (k, j) :: ms =>
    ',' :: (l.newLine (level + 1) ++ (writeString k ++ ':' :: (l.gap ++
      (write l (level + 1) j ++ writeMembers l level ms))))

end

/-- A value without any space. -/
def writeCompact (j : Json) : List Char := write .compact 0 j

/-- A value with a line for each member and item. -/
def writePretty (j : Json) : List Char := write .pretty 0 j

/-- The value as text, without any space. -/
def compact (j : Json) : String := String.ofList (writeCompact j)

/-- The value as text, with a line for each member and item. -/
def pretty (j : Json) : String := String.ofList (writePretty j)

end Json

end NestingRules
