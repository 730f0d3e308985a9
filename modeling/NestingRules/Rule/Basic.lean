/-!
# Rules

A rule is one machine-checkable statement of a profile.  Its id consists of the specification that
owns the rule, a clause and a test number; ids are ordered by clause and then by number.
-/

namespace NestingRules

/-- The specification that owns generated clauses. -/
inductive Specification where
  /-- The standard on the inclusion of structure namespaces. -/
  | iso32005
  deriving DecidableEq, Repr

namespace Specification

/-- The identifier of the specification. -/
def label : Specification → String
  | iso32005 => "ISO_32005"

/-- The specification with this identifier. -/
def ofLabel? (s : String) : Option Specification :=
  if s == iso32005.label then some iso32005 else none

end Specification

/-- What identifies a rule. -/
structure RuleId where
  specification : Specification
  clause : String
  testNumber : UInt32
  deriving DecidableEq, Repr

namespace RuleId

/-- The id in messages and listings, such as `ISO_32005 6.2-1`. -/
def text (id : RuleId) : String :=
  id.specification.label ++ " " ++ id.clause ++ "-" ++ toString id.testNumber.toNat

/-- Ids are ordered by clause, character by character, and then by number; there is one
specification only. -/
instance : LT RuleId :=
  ⟨fun a b => a.clause < b.clause ∨ a.clause = b.clause ∧ a.testNumber < b.testNumber⟩

instance (a b : RuleId) : Decidable (a < b) :=
  inferInstanceAs (Decidable
    (a.clause < b.clause ∨ a.clause = b.clause ∧ a.testNumber < b.testNumber))

end RuleId

/-- An expression whose value is put into an error message. -/
structure ErrorArgument where
  argument : String
  format : Option String
  defaultValue : Option String
  deriving DecidableEq, Repr

/-- The message of a failed rule, with the expressions for its placeholders `%1`, `%2`, … -/
structure ErrorDetails where
  message : String
  arguments : List ErrorArgument
  deriving DecidableEq, Repr

/-- A place in a published standard. -/
structure Reference where
  specification : String
  clause : String
  deriving DecidableEq, Repr

/-- A machine-checkable rule. -/
structure Rule where
  id : RuleId
  /-- The kind of object that the test is evaluated on. -/
  object : String
  /-- The category tags, the base tag first. -/
  tags : List String
  description : String
  /-- The expression that holds of an object in order. -/
  test : String
  error : ErrorDetails
  references : List Reference
  deriving DecidableEq, Repr

namespace Rule

/-- The rule carries the tag. -/
def hasTag (r : Rule) (tag : String) : Bool := r.tags.contains tag

/-- The tags as a list with commas. -/
def tagsJoined (r : Rule) : String := ",".intercalate r.tags

end Rule

end NestingRules
