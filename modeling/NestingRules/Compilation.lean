import NestingRules.Generation
import NestingRules.Profile
import NestingRules.Sha256
import NestingRules.Text.Basic

/-!
# Compilation of profiles

A profile is compiled from relations: its rule set is generated, fingerprinted and given its
descriptive details.  The fingerprint is the SHA-256 of the compact JSON form of the rules; since
the rules stand in the order of their ids, equal sets have equal fingerprints.
-/

namespace NestingRules

/-- The bytes that the fingerprint of a rule set is taken of. -/
def RuleSet.fingerprintBytes (s : RuleSet) : List UInt8 :=
  Text.Utf8.encode s.toJson.writeCompact

/-- The fingerprint of a rule set. -/
def RuleSet.fingerprint (s : RuleSet) : String := Sha256.hex s.fingerprintBytes

/-- What a profile says about itself. -/
structure Metadata where
  name : String := "Tagged PDF profile"
  description : String := "Profile for validation of tagged PDF structure tree relations"
  creator : String := "veraPDF Consortium"
  deriving DecidableEq, Repr, Inhabited

/-- How to compile. -/
structure CompileOptions where
  revision : Revision := default
  metadata : Metadata := {}
  /-- When the profile is made. -/
  created : Instant
  /-- How long making it takes, in milliseconds. -/
  milliseconds : Nat := 0
  deriving DecidableEq

/-- A profile with the account of its making. -/
structure Compilation where
  profile : Profile
  report : Report
  trace : Trace
  deriving DecidableEq

namespace Compilation

/-- The profile of a rule set. -/
def profileOf (o : CompileOptions) (rules : RuleSet) : Profile where
  flavour := o.revision.flavour
  details := ⟨o.metadata.name, o.metadata.description, o.metadata.creator, o.created⟩
  hash := rules.fingerprint
  rules := rules
  values := []

/-- What is said about a profile. -/
def completion (o : CompileOptions) (p : Profile) (r : Report) : Event :=
  .profileCompiled p.flavour p.ruleCount r.catalog r.synthesized r.skippedTotal r.unhandled
    o.milliseconds

end Compilation

/-- The profile of a list of relations. -/
def compile (o : CompileOptions) (relations : List Relation) : Except ArityError Compilation := do
  let g ← generate o.revision {} relations
  let profile := Compilation.profileOf o g.rules
  return {
    profile
    report := g.report
    trace := Trace.within (.compilation o.revision relations.length)
      (Trace.within .generation (Trace.ofEvents g.events) ++
        [.emit (Compilation.completion o profile g.report)]) }

end NestingRules
