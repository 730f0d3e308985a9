import NestingRules.Text.Quoted

/-!
# Text templates

A template is a text with slots, written as a pair of braces with nothing between.  `render` fills
the slots from left to right, one argument each, and refuses any other number of arguments.  What is
filled in is not searched for slots again.
-/

namespace NestingRules

/-- A text with slots. -/
structure Template where
  text : String
  deriving DecidableEq, Repr

/-- A template was given the wrong number of arguments. -/
structure ArityError where
  template : String
  expected : Nat
  found : Nat
  deriving DecidableEq, Repr

/-- The message for a wrong number of arguments. -/
def ArityError.message (e : ArityError) : String :=
  "template " ++ Text.quoted e.template ++ " expects " ++ toString e.expected ++
    " arguments, got " ++ toString e.found

namespace Template

/-- The number of slots in a list of characters, found from left to right without overlap. -/
def countSlots : List Char → Nat
  | [] => 0
  | '\x7b' :: '\x7d' :: cs => countSlots cs + 1
  | _ :: cs => countSlots cs

/-- The pieces between the slots, one more than there are slots. -/
def splitSlots : List Char → List (List Char)
  | [] => [[]]
  | '\x7b' :: '\x7d' :: cs => [] :: splitSlots cs
  | c :: cs =>
    match splitSlots cs with
    | [] => [[c]]
    | piece :: pieces => (c :: piece) :: pieces

/-- Put the arguments between the pieces. -/
def interleave : (pieces arguments : List (List Char)) → List Char
  | [], _ => []
  | piece :: _, [] => piece
  | piece :: pieces, argument :: arguments =>
    piece ++ argument ++ interleave pieces arguments

/-- The number of slots. -/
def slots (t : Template) : Nat := countSlots t.text.toList

/-- The text with its slots filled. -/
def render (t : Template) (arguments : List String) : Except ArityError String :=
  if arguments.length = t.slots then
    .ok (String.ofList (interleave (splitSlots t.text.toList) (arguments.map String.toList)))
  else .error ⟨t.text, t.slots, arguments.length⟩

end Template

end NestingRules
