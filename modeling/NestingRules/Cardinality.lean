import NestingRules.Text.Basic
import NestingRules.Text.Quoted

/-!
# Cardinalities

A cell of a relation table holds one of eleven symbols, each of which says how many children of one
type are allowed under a parent of another.  `Cardinality.parse` reads a symbol between blanks and
refuses everything else.
-/

namespace NestingRules

/-- How many children of one type a parent of another may have. -/
inductive Cardinality where
  /-- The child shall not appear under the parent. -/
  | forbidden
  /-- Forbidden unless the child is a grouping element. -/
  | forbiddenForNonGroupingChild
  /-- No constraint. -/
  | anyAmount
  /-- No constraint when the parent is a grouping element. -/
  | anyAmountIfParentGrouping
  /-- At least one child. -/
  | atLeastOne
  /-- At most one child. -/
  | zeroOrOne
  /-- At most one child when the parent is a grouping element. -/
  | zeroOrOneIfParentGrouping
  /-- Exactly one child. -/
  | exactlyOne
  /-- Depends on the surrounding structure. -/
  | dependsOnStructure
  /-- Governed by the sequencing rule of ruby text. -/
  | ruby
  /-- Governed by the sequencing rule of warichu text. -/
  | warichu
  deriving DecidableEq, Hashable, Repr

/-- A text that is none of the symbols. -/
structure UnknownSymbol where
  /-- The text as it was given, blanks included. -/
  text : String
  deriving DecidableEq, Repr

/-- The message for an unknown symbol. -/
def UnknownSymbol.message (e : UnknownSymbol) : String :=
  "unknown relation cardinality symbol: " ++ Text.quoted e.text

namespace Cardinality

/-- Every cardinality, in the order of declaration. -/
def all : List Cardinality :=
  [forbidden, forbiddenForNonGroupingChild, anyAmount, anyAmountIfParentGrouping, atLeastOne,
   zeroOrOne, zeroOrOneIfParentGrouping, exactlyOne, dependsOnStructure, ruby, warichu]

/-- The symbol in a table. -/
def symbol : Cardinality → String
  | forbidden => "∅"
  | forbiddenForNonGroupingChild => "∅*"
  | anyAmount => "0..n"
  | anyAmountIfParentGrouping => "0..n*"
  | atLeastOne => "1..n"
  | zeroOrOne => "0..1"
  | zeroOrOneIfParentGrouping => "0..1*"
  | exactlyOne => "1"
  | dependsOnStructure => "‡"
  | ruby => "[a]"
  | warichu => "[b]"

/-- The name in exchanged data. -/
def name : Cardinality → String
  | forbidden => "Forbidden"
  | forbiddenForNonGroupingChild => "ForbiddenForNonGroupingChild"
  | anyAmount => "AnyAmount"
  | anyAmountIfParentGrouping => "AnyAmountIfParentGrouping"
  | atLeastOne => "AtLeastOne"
  | zeroOrOne => "ZeroOrOne"
  | zeroOrOneIfParentGrouping => "ZeroOrOneIfParentGrouping"
  | exactlyOne => "ExactlyOne"
  | dependsOnStructure => "DependsOnStructure"
  | ruby => "Ruby"
  | warichu => "Warichu"

/-- The cardinality with this symbol. -/
def ofSymbol? (s : String) : Option Cardinality :=
  all.find? (·.symbol == s)

/-- The cardinality with this name in exchanged data. -/
def ofName? (s : String) : Option Cardinality :=
  all.find? (·.name == s)

/-- Read a symbol, with or without blanks around it. -/
def parse (s : String) : Except UnknownSymbol Cardinality :=
  match ofSymbol? (Text.trim s) with
  | some c => .ok c
  | none => .error ⟨s⟩

/-- The cardinality places no constraint on the number of children. -/
def isUnconstrained (c : Cardinality) : Bool := c == anyAmount

end Cardinality

end NestingRules
