import NestingRules.Proofs.Command.AllOrNothing
import NestingRules.Proofs.RelationTable.Parents

/-!
# Parents counted by the command

The command counts the parents of the table that it loads.  Wherever the steps are written that it
tells, this is the table of some records, namely those in the text of the input file unless telling a
step changes that file (`Generate.exists_table_of_run`).  So the count is the number of names in front
of rows that have a filled cell (`RelationTable.parents_listed`).
-/

namespace NestingRules

open FileTree

namespace Generate

variable {σ : Type} {say : TraceStep → StateT σ (StateM FileTree) Unit} {args : GenerateArgs}
  {clock : Clock} {o : GenerateOutcome} {own : σ} {t : FileTree} {path : String}

/-- Telling a step does not change what is read from a path. -/
def Spares (say : TraceStep → StateT σ (StateM FileTree) Unit) (path : String) : Prop :=
  ∀ step own t, (((say step).run own).run t).2.read path = t.read path

theorem Spares.keeps (h : Spares say path) (opened : Opened) (step : TraceStep) :
    Keeps (fun t => t.read path = opened) (say step) () :=
  fun own t ht => ⟨_, _, rfl, (h step own t).trans ht⟩

theorem exists_table_of_make (h : answer (make access.lift say args clock) own t = .ok o) :
    ∃ delimiter table, delimiterByte args.delimiter = .ok delimiter ∧
      answer (RelationTable.load access.lift (fun e => say (.emit e)) delimiter args.input) own t =
        .ok table ∧ (ofTable args clock table).2 = .ok o := by
  unfold make at h
  cases hdelimiter : delimiterByte args.delimiter with
  | error e =>
    rw [hdelimiter] at h
    cases h
  | ok delimiter =>
    simp only [hdelimiter] at h
    obtain ⟨table, own₁, t₁, htable, h⟩ := exists_of_answer_bind_eq_ok h fun _ => rfl
    refine ⟨delimiter, table, rfl, htable, ?_⟩
    cases hmade : ofTable args clock table with
    | mk trace result =>
      simp only [hmade] at h
      obtain ⟨own₂, t₂, htrace⟩ := answer_bind (trace.forM say) _ own₁ t₁
      rw [htrace] at h
      cases result with
      | error e => cases h
      | ok made =>
        -- delivering an outcome does not change it
        dsimp only at h
        obtain ⟨_, own₃, t₃, -, h⟩ := exists_of_answer_bind_eq_ok h fun _ => rfl
        obtain ⟨own₄, t₄, hsaid⟩ := answer_bind (say _) _ own₃ t₃
        rw [hsaid] at h
        exact h

/-- The outcome of a run is that of a table of records, which are those of the input file as long as
telling a step does not change it. -/
theorem exists_table_of_run (h : answer (run access.lift say args clock) own t = .ok o) :
    ∃ s table, (RelationTable.ofRecords s).2 = .ok table ∧ o.parents = table.parents.length ∧
      (Spares say args.input → ∃ delimiter bytes, delimiterByte args.delimiter = .ok delimiter ∧
        t.read args.input = .file bytes ∧ s = Delimited.read delimiter bytes) := by
  -- entering the span comes first, and leaving it does not change the answer
  have hmake : answer (make access.lift say args clock)
      (((say (.enter (.run args.input))).run own).run t).1.2
      (((say (.enter (.run args.input))).run own).run t).2 = .ok o := h
  obtain ⟨delimiter, table, hdelimiter, hload, hmade⟩ := exists_table_of_make hmake
  obtain ⟨c, -, rfl⟩ := eq_of_ofTable hmade
  by_cases hspares : Spares say args.input
  · have hkeeps : Keeps (fun u => u.read args.input = t.read args.input)
        (RelationTable.load access.lift (fun e => say (.emit e)) delimiter args.input)
        (RelationTable.ofOpened delimiter args.input (t.read args.input)) :=
      RelationTable.keeps_load (fun event => hspares.keeps _ (.emit event)) fun _ hu => hu
    rw [hkeeps.answer_eq (hspares _ own t)] at hload
    cases hopened : t.read args.input with
    | refused e =>
      rw [hopened] at hload
      cases hload
    | unreadable e =>
      rw [hopened] at hload
      cases hload
    | file bytes =>
      rw [hopened] at hload
      exact ⟨Delimited.read delimiter bytes, table, hload, rfl,
        fun _ => ⟨delimiter, bytes, hdelimiter, rfl, rfl⟩⟩
  · obtain ⟨s, hs⟩ := RelationTable.exists_stream_of_load hload
    exact ⟨s, table, hs, rfl, fun h => absurd h hspares⟩

end Generate

namespace RelationTable

/-- **The parents of a table** are listed each once and in the order in which they are first met.  In
a table that was read they are the names in front of the rows that have a filled cell, and the
command counts these names.  The records are those of the input file, unless telling what happens
writes to it. -/
theorem parents_listed :
    (∀ t : RelationTable, ListsParents t.relations t.parents) ∧
    (∀ (s : Delimited.Stream) (t : RelationTable), (ofRecords s).2 = .ok t →
      ∀ p, p ∈ t.parents ↔ NamesParent s.records p) ∧
    ∀ {σ : Type} (say : TraceStep → StateT σ (StateM FileTree) Unit) (args : GenerateArgs)
      (clock : Clock) (own : σ) (tree : FileTree) (o : GenerateOutcome),
      answer (Generate.run access.lift say args clock) own tree = .ok o →
      ∃ s : Delimited.Stream, (∃ t, (ofRecords s).2 = .ok t) ∧
        {p | NamesParent s.records p}.encard = o.parents ∧
        (Generate.Spares say args.input → ∃ delimiter bytes,
          Generate.delimiterByte args.delimiter = .ok delimiter ∧
          tree.read args.input = .file bytes ∧ s = Delimited.read delimiter bytes) := by
  refine ⟨listsParents_parents, fun s t ht p => mem_parents_iff ht, ?_⟩
  intro σ say args clock own tree o ho
  obtain ⟨s, t, ht, hparents, hfile⟩ := Generate.exists_table_of_run ho
  exact ⟨s, ⟨t, ht⟩, by rw [hparents, encard_namesParent ht], hfile⟩

/-- Of five rows one is ignored and one is blank, and two of the others have the same parent. -/
theorem parents_listed_five_rows :
    let bytes := Text.Utf8.encode ",LI,P\nL,1..n,\nTR,,\nP,,∅\nL,,∅\nTH,∅\n".toList
    let tree : FileTree := ⟨[(["t.csv"], .file bytes)], []⟩
    let say : TraceStep → StateT Unit (StateM FileTree) Unit := fun _ => pure ()
    (∃ t, (ofRecords (Delimited.read 44 bytes)).2 = .ok t ∧ ListsParents t.relations t.parents ∧
      NamesParent (Delimited.read 44 bytes).records ⟨"L"⟩) ∧
    Generate.Spares say "t.csv" ∧
    ∃ o, answer (Generate.run access.lift say { input := "t.csv" } ⟨.epoch, 0⟩) () tree = .ok o ∧
      o.parents = 2 := by
  intro bytes tree say
  obtain ⟨hlists, hnames, hcounts⟩ := parents_listed
  have hrecords : Delimited.read 44 bytes = ⟨[["", "LI", "P"], ["L", "1..n", ""], ["TR", "", ""],
      ["P", "", "∅"], ["L", "", "∅"], ["TH", "∅"]], none⟩ := by
    decide +kernel
  obtain ⟨t, ht⟩ : ∃ t, (ofRecords (Delimited.read 44 bytes)).2 = .ok t := by
    rw [hrecords]
    exact (ofRecords_isOk_iff (by decide)).2 (by unfold AreReadable; decide)
  have hparents : t.parents = [⟨"L"⟩, ⟨"P"⟩] := by
    rw [parents, relations_of_ofRecords_eq_ok ht, hrecords]
    decide
  have hset : {p | NamesParent (Delimited.read 44 bytes).records p} = {⟨"L"⟩, ⟨"P"⟩} := by
    ext p
    rw [Set.mem_ofPred_eq, ← hnames _ t ht, hparents]
    simp
  have hL : NamesParent (Delimited.read 44 bytes).records ⟨"L"⟩ :=
    (hnames _ t ht ⟨"L"⟩).1 (by rw [hparents]; decide)
  have hspares : Generate.Spares say "t.csv" := fun _ _ _ => rfl
  refine ⟨⟨t, ht, hlists t, hL⟩, hspares, ?_⟩
  -- the run makes the profile of the table and delivers it to no file
  have hread : tree.read "t.csv" = .file bytes := by decide
  obtain ⟨o, ho⟩ : ∃ o, Generate.outcome { input := "t.csv" } ⟨.epoch, 0⟩ (.file bytes) = .ok o :=
    Generate.exists_outcome (by decide) ht
  have hsay : ∀ t step, Runs (say step) t () t := fun t _ => Runs.pure () t
  obtain ⟨result, t', hruns, hdelivers⟩ :=
    Generate.runs_run hsay tree { input := "t.csv" } ⟨.epoch, 0⟩
  rw [hread, ho] at hdelivers
  have hout := Generate.output_of_outcome ho
  obtain ⟨rfl, rfl⟩ : result = .ok o ∧ t' = tree := by
    cases hdelivers with
    | unwritten _ path e hpath => cases hpath.symm.trans hout
    | written _ path hpath => cases hpath.symm.trans hout
    | kept _ _ htree => exact ⟨rfl, htree⟩
  have hanswer : answer (Generate.run access.lift say { input := "t.csv" } ⟨.epoch, 0⟩) () tree =
      .ok o := hruns.keeps.answer_eq rfl
  obtain ⟨s, -, hcount, hfile⟩ := hcounts _ _ _ _ _ _ hanswer
  obtain ⟨delimiter, bytes', hdelimiter, hbytes, rfl⟩ := hfile hspares
  obtain rfl : (44 : UInt8) = delimiter := Except.ok.inj hdelimiter
  obtain rfl : bytes = bytes' := Opened.file.inj (hread.symm.trans hbytes)
  have htwo : (o.parents : ℕ∞) = 2 := by
    rw [← hcount, hset, Set.encard_pair (by decide)]
  exact ⟨o, hanswer, by exact_mod_cast htwo⟩

end RelationTable

end NestingRules
