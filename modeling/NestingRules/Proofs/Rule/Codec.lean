import NestingRules.Proofs.Json.Fields
import NestingRules.Proofs.Rule.FirstWins
import NestingRules.Rule.Codec

/-!
# Reading rules back

Rules and their parts are read back from their JSON values, whether or not the optional fields of
an error argument have a value, and a rule set is read back from the array of its rules
(`RuleSet.ofJson?_toJson`): the ids are distinct, so that each rule is the first for its id.  All
these values are plain, so they are read back from their texts too.
-/

namespace NestingRules

/-! ### Ids -/

theorem Specification.ofJson?_toJson (s : Specification) : ofJson? s.toJson = some s := by
  cases s
  decide

theorem RuleId.ofJson?_toJson (id : RuleId) : ofJson? id.toJson = some id := by
  have hfields : id.toJson.fields? ["specification", "clause", "test_number"] =
      some [some id.specification.toJson, some (.text id.clause),
        some (.nat id.testNumber.toNat)] := by
    rw [toJson, Json.fields?_record (by simp)]
    rfl
  have hnumber : Json.natBelow? UInt32.size (.nat id.testNumber.toNat) =
      some id.testNumber.toNat := Json.natBelow?_nat id.testNumber.toNat_lt
  rw [ofJson?, hfields]
  simp [Specification.ofJson?_toJson, Json.text, Json.text?, hnumber]

theorem RuleId.isPlain_toJson (id : RuleId) : id.toJson.IsPlain := by
  refine .record ?_
  simp [Specification.toJson, Json.IsPlain.text, Json.IsPlain.nat]

/-! ### Errors and references -/

/-- An optional text is read back, whether it was written or left out. -/
theorem orDefault?_lookup_optionalMember (name : String) (s : Option String) :
    Json.orDefault? none (Json.nullable? Json.text?) ((optionalMember name s).lookup name) =
      some s := by
  cases s with
  | none => rfl
  | some s =>
    rw [optionalMember, List.lookup_cons_self]
    rfl

theorem ErrorArgument.ofJson?_toJson (a : ErrorArgument) : ofJson? a.toJson = some a := by
  have hfields : a.toJson.fields? ["argument", "format", "default_value"] =
      some [some (.text a.argument), (optionalMember "format" a.format).lookup "format",
        (optionalMember "default_value" a.defaultValue).lookup "default_value"] := by
    obtain ⟨argument, format, defaultValue⟩ := a
    -- which members there are depends on which of the two texts there are
    cases format <;> cases defaultValue <;>
      · rw [toJson, Json.fields?_record (by simp [optionalMember])]
        rfl
  rw [ofJson?, hfields]
  simp [Json.text, Json.text?, orDefault?_lookup_optionalMember]

theorem ErrorArgument.isPlain_toJson (a : ErrorArgument) : a.toJson.IsPlain := by
  obtain ⟨argument, format, defaultValue⟩ := a
  refine .record ?_
  cases format <;> cases defaultValue <;> simp [optionalMember, Json.IsPlain.text]

theorem ErrorDetails.ofJson?_toJson (e : ErrorDetails) : ofJson? e.toJson = some e := by
  have hfields : e.toJson.fields? ["message", "arguments"] =
      some [some (.text e.message), some (.array (e.arguments.map (·.toJson)))] := by
    rw [toJson, Json.fields?_record (by simp)]
    rfl
  have harguments : Json.list? ErrorArgument.ofJson? (.array (e.arguments.map (·.toJson))) =
      some e.arguments := Json.list?_map fun a _ => a.ofJson?_toJson
  rw [ofJson?, hfields]
  simp [Json.text, Json.text?, Json.orDefault?, harguments]

theorem ErrorDetails.isPlain_toJson (e : ErrorDetails) : e.toJson.IsPlain := by
  refine .record ?_
  simp [Json.IsPlain.text, Json.isPlain_map ErrorArgument.isPlain_toJson]

theorem Reference.ofJson?_toJson (r : Reference) : ofJson? r.toJson = some r := by
  have hfields : r.toJson.fields? ["specification", "clause"] =
      some [some (.text r.specification), some (.text r.clause)] := by
    rw [toJson, Json.fields?_record (by simp)]
    rfl
  rw [ofJson?, hfields]
  rfl

theorem Reference.isPlain_toJson (r : Reference) : r.toJson.IsPlain := by
  refine .record ?_
  simp [Json.IsPlain.text]

/-! ### Rules and rule sets -/

theorem Rule.ofJson?_toJson (r : Rule) : ofJson? r.toJson = some r := by
  have hfields : r.toJson.fields?
      ["id", "object", "tags", "description", "test", "error", "references"] =
        some [some r.id.toJson, some (.text r.object), some (.texts r.tags),
          some (.text r.description), some (.text r.test), some r.error.toJson,
          some (.array (r.references.map (·.toJson)))] := by
    rw [toJson, Json.fields?_record (by simp)]
    rfl
  have hreferences : Json.list? Reference.ofJson? (.array (r.references.map (·.toJson))) =
      some r.references := Json.list?_map fun a _ => a.ofJson?_toJson
  rw [ofJson?, hfields]
  simp [Json.text, Json.text?, r.id.ofJson?_toJson, r.error.ofJson?_toJson, Json.list?_texts,
    hreferences]

theorem Rule.isPlain_toJson (r : Rule) : r.toJson.IsPlain := by
  refine .record ?_
  simp [Json.IsPlain.text, Json.isPlain_texts, r.id.isPlain_toJson, r.error.isPlain_toJson,
    Json.isPlain_map Reference.isPlain_toJson]

theorem RuleSet.ofJson?_array (rules : List Rule) :
    ofJson? (.array (rules.map (·.toJson))) = some (ofList rules) := by
  rw [ofJson?, Json.list?_map fun r _ => r.ofJson?_toJson, Option.map_some]

/-- **A rule set is read back from the array of its rules.** -/
theorem RuleSet.ofJson?_toJson (s : RuleSet) : ofJson? s.toJson = some s := by
  rw [toJson, ofJson?_array, ofList_toList]

theorem RuleSet.isPlain_toJson (s : RuleSet) : s.toJson.IsPlain :=
  Json.isPlain_map Rule.isPlain_toJson

end NestingRules
