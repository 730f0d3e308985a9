import NestingRules.Compilation
import NestingRules.Proofs.Rule.Codec
import NestingRules.Proofs.Sha256.Hex
import NestingRules.Proofs.Text.Utf8

/-!
# Fingerprints

The fingerprint of a rule set is the hash of its compact JSON text.  That text is read back, so sets
with the same bytes are equal (`RuleSet.fingerprintBytes_injective`): every field of every rule is
in the bytes, and nothing else is.  Two different sets have one fingerprint only if their bytes
collide.
-/

namespace NestingRules

namespace RuleSet

variable {s t : RuleSet}

theorem toJson_injective : Function.Injective toJson := by
  intro s t h
  have hread := s.ofJson?_toJson
  rw [h, ofJson?_toJson] at hread
  exact (Option.some.inj hread).symm

/-- **The bytes that are hashed tell the rules.** -/
theorem fingerprintBytes_injective : Function.Injective fingerprintBytes := by
  intro s t h
  have hchars : s.toJson.writeCompact = t.toJson.writeCompact := Text.Utf8.encode_injective h
  exact toJson_injective (Json.writeCompact_inj s.isPlain_toJson t.isPlain_toJson hchars)

theorem fingerprintBytes_inj : s.fingerprintBytes = t.fingerprintBytes ↔ s = t :=
  fingerprintBytes_injective.eq_iff

/-- Two sets have one fingerprint iff they are equal or their bytes collide. -/
theorem fingerprint_eq_iff : s.fingerprint = t.fingerprint ↔
    s = t ∨ Sha256.IsCollision s.fingerprintBytes t.fingerprintBytes := by
  rw [fingerprint, fingerprint, Sha256.hex_eq_hex_iff]
  constructor
  · intro h
    by_cases hst : s = t
    · exact .inl hst
    · exact .inr ⟨fingerprintBytes_injective.ne hst, h⟩
  · rintro (rfl | h)
    · rfl
    · exact h.digest_eq

/-- **The bytes that are hashed are canonical.**  Two lists of rules have the same bytes iff their
sets have the same rules in every field, which is iff they have the same first rule for each id.  So
neither the order of rules with distinct ids nor a rule whose id occurs before it changes the
fingerprint, another rule in place of a rule of the set always changes the bytes, and fingerprints
of different sets are equal only if their bytes collide. -/
theorem fingerprint_canonical (rules rules' : List Rule) :
    ((ofList rules).fingerprintBytes = (ofList rules').fingerprintBytes ↔
      (ofList rules).toList = (ofList rules').toList) ∧
    ((ofList rules).fingerprintBytes = (ofList rules').fingerprintBytes ↔
      ∀ id, rules.find? (·.id == id) = rules'.find? (·.id == id)) ∧
    ((rules.map (·.id)).Nodup → rules.Perm rules' →
      (ofList rules).fingerprint = (ofList rules').fingerprint) ∧
    (∀ before r after, (∃ x ∈ before, x.id = r.id) →
      (ofList (before ++ r :: after)).fingerprint = (ofList (before ++ after)).fingerprint) ∧
    (∀ before x after y, (ofList rules).toList = before ++ x :: after → y ≠ x →
      (ofList (before ++ y :: after)).fingerprintBytes ≠ (ofList rules).fingerprintBytes) ∧
    ((ofList rules).fingerprint = (ofList rules').fingerprint ↔
      (ofList rules).toList = (ofList rules').toList ∨
        Sha256.IsCollision (ofList rules).fingerprintBytes (ofList rules').fingerprintBytes) := by
  have htoList : (ofList rules).toList = (ofList rules').toList ↔ ofList rules = ofList rules' :=
    ⟨toList_injective, congrArg toList⟩
  refine ⟨?_, ?_, fun hids hperm => ?_, fun before r after h => ?_, fun before x after y h hne => ?_,
    ?_⟩
  · rw [fingerprintBytes_inj, htoList]
  · rw [fingerprintBytes_inj, ofList_eq_ofList_iff]
  · rw [ofList_eq_of_perm hids hperm]
  · rw [ofList_append_cons h]
  · exact fingerprintBytes_injective.ne (ofList_ne_of_ne h hne)
  · rw [fingerprint_eq_iff, htoList]

/-- A rule, a second one with its id and a third one with another. -/
theorem fingerprint_canonical_three :
    let x : Rule := ⟨⟨.iso32005, "L-LI", 1⟩, "SEL", ["structure"], "first", "true", ⟨"", []⟩, []⟩
    let y : Rule := { x with description := "second" }
    let z : Rule := { x with id := ⟨.iso32005, "6.2", 1⟩ }
    (([x, z].map (·.id)).Nodup ∧ [x, z].Perm [z, x] ∧
      (ofList [x, z]).fingerprint = (ofList [z, x]).fingerprint) ∧
    ((∃ w ∈ [x], w.id = y.id) ∧
      (ofList ([x] ++ y :: [z])).fingerprint = (ofList ([x] ++ [z])).fingerprint) ∧
    (ofList [x]).toList = [] ++ x :: [] ∧ y ≠ x ∧
      (ofList ([] ++ y :: [])).fingerprintBytes ≠ (ofList [x]).fingerprintBytes := by
  intro x y z
  have hids : ([x, z].map (·.id)).Nodup := by decide
  have hperm : [x, z].Perm [z, x] := .swap z x []
  have htaken : ∃ w ∈ [x], w.id = y.id := ⟨x, List.mem_singleton_self x, rfl⟩
  have hset : (ofList [x]).toList = [] ++ x :: [] := rfl
  have hne : y ≠ x := by decide
  obtain ⟨-, -, horder, hlater, -, -⟩ := fingerprint_canonical [x, z] [z, x]
  obtain ⟨-, -, -, -, hchanged, -⟩ := fingerprint_canonical [x] []
  exact ⟨⟨hids, hperm, horder hids hperm⟩, ⟨htaken, hlater [x] y [z] htaken⟩, hset, hne,
    hchanged [] x [] y hset hne⟩

end RuleSet

end NestingRules
