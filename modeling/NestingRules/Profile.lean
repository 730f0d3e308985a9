import NestingRules.Instant.Basic
import NestingRules.Instant.Rfc3339
import NestingRules.Json.Reader
import NestingRules.Relation
import NestingRules.Revision
import NestingRules.Rule.Codec
import NestingRules.Rule.Set

/-!
# Validation profiles

A profile is a rule set with its flavour, descriptive details and fingerprint.  A profile file is the
pretty form of the profile's JSON value and a line feed; `Profile.parse?` reads it back.
-/

namespace NestingRules

/-- The descriptive part of a profile. -/
structure ProfileDetails where
  name : String
  description : String
  creator : String
  created : Instant
  deriving DecidableEq

/-- A named value that a validator computes once for each document. -/
structure Variable where
  name : String
  object : String
  defaultValue : String
  value : String
  deriving DecidableEq, Repr

/-- A validation profile. -/
structure Profile where
  flavour : Flavour
  details : ProfileDetails
  /-- The fingerprint of the rules. -/
  hash : String
  rules : RuleSet
  /-- Values for the tests of the rules. -/
  values : List Variable
  deriving DecidableEq

namespace Profile

/-- The number of rules. -/
def ruleCount (p : Profile) : Nat := p.rules.size

end Profile

/-! ### Profile files -/

/-- The details as an object. -/
def ProfileDetails.toJson (d : ProfileDetails) : Json :=
  .record [("name", .text d.name), ("description", .text d.description),
    ("creator", .text d.creator), ("created", .text d.created.text)]

/-- Read the details. -/
def ProfileDetails.ofJson? (j : Json) : Option ProfileDetails := do
  match ← j.fields? ["name", "description", "creator", "created"] with
  | [some name, some description, some creator, some created] =>
    return ⟨← name.text?, ← description.text?, ← creator.text?,
      ← Instant.parse? (← created.text?)⟩
  | _ => none

/-- The variable as an object. -/
def Variable.toJson (v : Variable) : Json :=
  .record [("name", .text v.name), ("object", .text v.object),
    ("default_value", .text v.defaultValue), ("value", .text v.value)]

/-- Read a variable. -/
def Variable.ofJson? (j : Json) : Option Variable := do
  match ← j.fields? ["name", "object", "default_value", "value"] with
  | [some name, some object, some defaultValue, some value] =>
    return ⟨← name.text?, ← object.text?, ← defaultValue.text?, ← value.text?⟩
  | _ => none

namespace Profile

/-- The profile as an object. -/
def toJson (p : Profile) : Json :=
  .record [("flavour", p.flavour.toJson), ("details", p.details.toJson), ("hash", .text p.hash),
    ("rules", p.rules.toJson), ("variables", .array (p.values.map (·.toJson)))]

/-- Read a profile from a JSON value. -/
def ofJson? (j : Json) : Option Profile := do
  match ← j.fields? ["flavour", "details", "hash", "rules", "variables"] with
  | [some flavour, some details, some hash, some rules, some values] =>
    return {
      flavour := ← Flavour.ofJson? flavour
      details := ← ProfileDetails.ofJson? details
      hash := ← hash.text?
      rules := ← RuleSet.ofJson? rules
      values := ← values.list? Variable.ofJson? }
  | _ => none

/-- The text of a profile file. -/
def serialize (p : Profile) : String := p.toJson.pretty ++ "\n"

/-- Read the text of a profile file. -/
def parse? (s : String) : Option Profile := (Json.parse? s).bind ofJson?

end Profile

end NestingRules
