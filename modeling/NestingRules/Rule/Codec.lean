import NestingRules.Json.Basic
import NestingRules.Rule.Set

/-!
# Rules as JSON

Rules are exchanged as objects with their fields in the order of declaration; the optional fields
of an error argument are left out when they have no value.  A rule set is the array of its rules.
Reading takes every field by name, or all of them by position.
-/

namespace NestingRules

/-- The specification as its identifier. -/
def Specification.toJson (s : Specification) : Json := .text s.label

/-- Read a specification. -/
def Specification.ofJson? (j : Json) : Option Specification :=
  j.choice?.bind ofLabel?

/-- The id as an object. -/
def RuleId.toJson (id : RuleId) : Json :=
  .record [("specification", id.specification.toJson), ("clause", .text id.clause),
    ("test_number", .nat id.testNumber.toNat)]

/-- Read an id. -/
def RuleId.ofJson? (j : Json) : Option RuleId := do
  match ← j.fields? ["specification", "clause", "test_number"] with
  | [some specification, some clause, some number] =>
    return ⟨← Specification.ofJson? specification, ← clause.text?,
      UInt32.ofNat (← number.natBelow? UInt32.size)⟩
  | _ => none

/-- A member for an optional text; none if there is no text. -/
def optionalMember (name : String) : Option String → List (String × Json)
  | none => []
  | some s => [(name, .text s)]

/-- The argument as an object. -/
def ErrorArgument.toJson (a : ErrorArgument) : Json :=
  .record (("argument", .text a.argument) ::
    (optionalMember "format" a.format ++ optionalMember "default_value" a.defaultValue))

/-- Read an argument. -/
def ErrorArgument.ofJson? (j : Json) : Option ErrorArgument := do
  match ← j.fields? ["argument", "format", "default_value"] with
  | [some argument, format, defaultValue] =>
    return ⟨← argument.text?, ← Json.orDefault? none (Json.nullable? Json.text?) format,
      ← Json.orDefault? none (Json.nullable? Json.text?) defaultValue⟩
  | _ => none

/-- The details as an object. -/
def ErrorDetails.toJson (e : ErrorDetails) : Json :=
  .record [("message", .text e.message), ("arguments", .array (e.arguments.map (·.toJson)))]

/-- Read the details; without arguments there are none. -/
def ErrorDetails.ofJson? (j : Json) : Option ErrorDetails := do
  match ← j.fields? ["message", "arguments"] with
  | [some message, arguments] =>
    return ⟨← message.text?, ← Json.orDefault? [] (Json.list? ErrorArgument.ofJson?) arguments⟩
  | _ => none

/-- The reference as an object. -/
def Reference.toJson (r : Reference) : Json :=
  .record [("specification", .text r.specification), ("clause", .text r.clause)]

/-- Read a reference. -/
def Reference.ofJson? (j : Json) : Option Reference := do
  match ← j.fields? ["specification", "clause"] with
  | [some specification, some clause] => return ⟨← specification.text?, ← clause.text?⟩
  | _ => none

/-- The rule as an object. -/
def Rule.toJson (r : Rule) : Json :=
  .record [("id", r.id.toJson), ("object", .text r.object), ("tags", .texts r.tags),
    ("description", .text r.description), ("test", .text r.test), ("error", r.error.toJson),
    ("references", .array (r.references.map (·.toJson)))]

/-- Read a rule. -/
def Rule.ofJson? (j : Json) : Option Rule := do
  match ← j.fields? ["id", "object", "tags", "description", "test", "error", "references"] with
  | [some id, some object, some tags, some description, some test, some error, some references] =>
    return {
      id := ← RuleId.ofJson? id
      object := ← object.text?
      tags := ← tags.list? Json.text?
      description := ← description.text?
      test := ← test.text?
      error := ← ErrorDetails.ofJson? error
      references := ← references.list? Reference.ofJson? }
  | _ => none

/-- The set as the array of its rules in ascending order of ids. -/
def RuleSet.toJson (s : RuleSet) : Json := .array (s.toList.map (·.toJson))

/-- Read a set from an array of rules in any order, of which the first for each id counts. -/
def RuleSet.ofJson? (j : Json) : Option RuleSet :=
  (j.list? Rule.ofJson?).map ofList

end NestingRules
