import NestingRules.Proofs.Generation.Order
import NestingRules.Proofs.Instant.ReadBack
import NestingRules.Proofs.Rule.Codec

/-!
# Reading profiles back

A profile file is read back as the profile it was written from, up to the instant of the profile,
whose leap second may have become the second after (`Profile.settled`).  For a profile made by
`compile` the fingerprint of the rules in the file is the one that the file states
(`Profile.parse?_serialize`).
-/

namespace NestingRules

theorem Flavour.ofJson?_toJson (f : Flavour) : ofJson? f.toJson = some f := by
  cases f <;> decide

/-- The details as they are read back. -/
def ProfileDetails.settled (d : ProfileDetails) : ProfileDetails :=
  { d with created := d.created.settled }

theorem ProfileDetails.settled_eq_self_iff {d : ProfileDetails} :
    d.settled = d ↔ d.created.LeapsAtMinuteEnd := by
  rw [← Instant.settled_eq_self_iff]
  refine ⟨congrArg ProfileDetails.created, fun h => ?_⟩
  rw [settled, h]

theorem ProfileDetails.ofJson?_toJson (d : ProfileDetails) :
    ofJson? d.toJson = some d.settled := by
  have hfields : d.toJson.fields? ["name", "description", "creator", "created"] =
      some [some (.text d.name), some (.text d.description), some (.text d.creator),
        some (.text d.created.text)] := by
    rw [toJson, Json.fields?_record (by simp)]
    rfl
  rw [ofJson?, hfields]
  simp [Json.text, Json.text?, d.created.parse?_text, settled]

theorem ProfileDetails.isPlain_toJson (d : ProfileDetails) : d.toJson.IsPlain := by
  refine .record ?_
  simp [Json.IsPlain.text]

theorem Variable.ofJson?_toJson (v : Variable) : ofJson? v.toJson = some v := by
  have hfields : v.toJson.fields? ["name", "object", "default_value", "value"] =
      some [some (.text v.name), some (.text v.object), some (.text v.defaultValue),
        some (.text v.value)] := by
    rw [toJson, Json.fields?_record (by simp)]
    rfl
  rw [ofJson?, hfields]
  rfl

theorem Variable.isPlain_toJson (v : Variable) : v.toJson.IsPlain := by
  refine .record ?_
  simp [Json.IsPlain.text]

namespace Profile

/-- The profile as it is read back. -/
def settled (p : Profile) : Profile := { p with details := p.details.settled }

theorem settled_eq_self_iff {p : Profile} :
    p.settled = p ↔ p.details.created.LeapsAtMinuteEnd := by
  rw [← ProfileDetails.settled_eq_self_iff]
  refine ⟨congrArg Profile.details, fun h => ?_⟩
  rw [settled, h]

theorem ofJson?_toJson (p : Profile) : ofJson? p.toJson = some p.settled := by
  have hfields : p.toJson.fields? ["flavour", "details", "hash", "rules", "variables"] =
      some [some p.flavour.toJson, some p.details.toJson, some (.text p.hash),
        some p.rules.toJson, some (.array (p.values.map (·.toJson)))] := by
    rw [toJson, Json.fields?_record (by simp)]
    rfl
  have hvalues : Json.list? Variable.ofJson? (.array (p.values.map (·.toJson))) =
      some p.values := Json.list?_map fun v _ => v.ofJson?_toJson
  rw [ofJson?, hfields]
  simp [Json.text, Json.text?, p.flavour.ofJson?_toJson, p.details.ofJson?_toJson,
    p.rules.ofJson?_toJson, hvalues, settled]

theorem isPlain_toJson (p : Profile) : p.toJson.IsPlain := by
  refine .record ?_
  simp [Json.IsPlain.text, Flavour.toJson, p.details.isPlain_toJson, p.rules.isPlain_toJson,
    Json.isPlain_map Variable.isPlain_toJson]

/-- Reading takes the text of a profile file to the profile, with its instant settled. -/
theorem parse?_serialize_self (p : Profile) : parse? p.serialize = some p.settled := by
  rw [parse?, serialize, Json.parse?_pretty p.isPlain_toJson, Option.bind_some, ofJson?_toJson]

/-- **A written profile is read back as the same profile**, whatever texts and rules it holds, iff it
was not made in a leap second before the end of a minute; such an instant is read back as the second
that comes next, and everything else as it was.  Compiling any relations succeeds, and recomputing
the fingerprint of the rules read back from the file gives the hash stored in it. -/
theorem parse?_serialize :
    (∀ p : Profile, (parse? p.serialize = some p ↔ p.details.created.LeapsAtMinuteEnd) ∧
      parse? p.serialize = some { p with details := { p.details with
        created := p.details.created.settled } }) ∧
    ∀ (o : CompileOptions) (relations : List Relation), ∃ c q, compile o relations = .ok c ∧
      parse? c.profile.serialize = some q ∧ q.hash = c.profile.hash ∧
        q.rules.fingerprint = q.hash := by
  refine ⟨fun p => ⟨?_, p.parse?_serialize_self⟩, fun o relations => ?_⟩
  · rw [parse?_serialize_self, Option.some.injEq]
    exact settled_eq_self_iff
  · obtain ⟨g, -, hrun, -⟩ := generate_spec o.revision {} relations
    obtain ⟨c, hc, hprofile, -⟩ := compile_of_generate hrun
    refine ⟨c, c.profile.settled, hc, c.profile.parse?_serialize_self, rfl, ?_⟩
    rw [hprofile]
    rfl

/-- The leap second after 03:04:05 is read back as 03:04:06. -/
theorem serialize_leap_before_minute_end :
    let created : Instant :=
      ⟨⟨2024, 1, 2⟩, 3, 4, 5, 1333333333, by decide, by decide, by decide, by decide, by decide⟩
    let p : Profile := ⟨.pdfUa2, ⟨"N", "D", "C", created⟩, "h", ∅, []⟩
    parse? p.serialize ≠ some p ∧
      ∃ q, parse? p.serialize = some q ∧ q.details.created.second = 6 ∧
        q.details.created.nanosecond = 333333333 := by
  intro created p
  have hleaps : ¬ created.LeapsAtMinuteEnd := by decide
  refine ⟨?_, p.settled, p.parse?_serialize_self, by decide, by decide⟩
  rw [parse?_serialize_self, Ne, Option.some.injEq, settled_eq_self_iff]
  exact hleaps

end Profile

end NestingRules
