import NestingRules.Proofs.FileTree.Action
import NestingRules.Proofs.RelationTable.Rows

/-!
# Tables in files

A file is read piece by piece, but while nothing else writes to it the pieces do not matter: reading
records and then more records is reading all of them (`RelationTable.Draft.read_append`), and so the
table in a file of a tree is the one that its whole text holds (`RelationTable.keeps_load`).  A log in
the same file makes it grow while it is read; the table is that of the records in all pieces then
(`RelationTable.exists_stream_of_load`).
-/

namespace NestingRules

/-! ### Records one after the other -/

namespace Delimited

/-- A stream that goes on with another one, unless it ends with a failure. -/
def Stream.followedBy (s u : Stream) : Stream :=
  match s.failure with
  | some _ => s
  | none => ⟨s.records ++ u.records, u.failure⟩

theorem decodeRecords_append (i : Nat) (rs ss : List RawRecord) :
    decodeRecords i (rs ++ ss) =
      (decodeRecords i rs).followedBy (decodeRecords (i + rs.length) ss) := by
  induction rs generalizing i with
  | nil => rfl
  | cons r rs ih =>
    have hi : i + 1 + rs.length = i + (r :: rs).length := by
      rw [List.length_cons]
      omega
    simp only [List.cons_append, decodeRecords]
    cases decodeFields 0 r.fields with
    | error e => rfl
    | ok fields =>
      simp only [ih (i + 1), hi, Stream.followedBy]
      generalize decodeRecords (i + 1) rs = u
      obtain ⟨records, _ | f⟩ := u <;> rfl

end Delimited

namespace RelationTable

open Delimited FileTree

namespace Draft

theorem read_followedBy (d : Draft) (s u : Stream) :
    (d.read (s.followedBy u)).2 = (d.read s).2.bind fun d => (d.read u).2 := by
  simp only [read_snd, Stream.followedBy]
  cases hs : s.failure with
  | some f =>
    simp only [hs]
    cases (d.addAll s.records).2 <;> rfl
  | none =>
    simp only [addAll_append_snd]
    cases (d.addAll s.records).2 <;> rfl

theorem read_append (d : Draft) (i : Nat) (rs ss : List RawRecord) :
    (d.read (decodeRecords i (rs ++ ss))).2 =
      (d.read (decodeRecords i rs)).2.bind fun d =>
        (d.read (decodeRecords (i + rs.length) ss)).2 := by
  rw [decodeRecords_append, read_followedBy]

end Draft

/-! ### Pieces of a file -/

section Load

variable {σ : Type} {say : Event → StateT σ (StateM FileTree) Unit} {P : FileTree → Prop}
  {t : FileTree} {delimiter : UInt8} {path : String} {bytes : List UInt8} {r r' : Reader}
  {pieces offset : Nat} {events : List Event} {e : TableError}
  {table : Except TableError RelationTable}

theorem keeps_readOn_end (hread : ∀ t, P t → t.read path = .file bytes)
    (hnext : r.next? delimiter (bytes.drop offset) = none) :
    Keeps P (readOn access.lift say delimiter path (pieces + 1) r offset) (.ok r.draft.table) := by
  rw [readOn]
  refine (keeps_read hread).bind ?_
  simp only [hnext]
  exact .pure _

theorem keeps_readOn_error (hsay : ∀ event, Keeps P (say event) ())
    (hread : ∀ t, P t → t.read path = .file bytes)
    (hnext : r.next? delimiter (bytes.drop offset) = some (events, .error e)) :
    Keeps P (readOn access.lift say delimiter path (pieces + 1) r offset) (.error e) := by
  rw [readOn]
  refine (keeps_read hread).bind ?_
  simp only [hnext]
  exact (Keeps.forM hsay events).bind (.pure _)

theorem keeps_readOn_next (hsay : ∀ event, Keeps P (say event) ())
    (hread : ∀ t, P t → t.read path = .file bytes)
    (hnext : r.next? delimiter (bytes.drop offset) = some (events, .ok r'))
    (hrest : Keeps P (readOn access.lift say delimiter path pieces r'
      (offset + (bytes.drop offset).length)) table) :
    Keeps P (readOn access.lift say delimiter path (pieces + 1) r offset) table := by
  rw [readOn]
  refine (keeps_read hread).bind ?_
  simp only [hnext]
  exact (Keeps.forM hsay events).bind hrest

theorem keeps_readOn_finish (hsay : ∀ event, Keeps P (say event) ())
    (hread : ∀ t, P t → t.read path = .file bytes) (hend : bytes.drop offset = []) :
    Keeps P (readOn access.lift say delimiter path (pieces + 2) r offset)
      ((r.draft.read (decodeRecords r.records (r.scanner.finish?.map (·.1)).toList)).2.map
        (·.table)) := by
  cases hfinish : r.scanner.finish? with
  | none =>
    refine keeps_readOn_end hread ?_
    simp only [Reader.next?, hend, List.isEmpty_nil, ↓reduceIte, hfinish, Option.map_none]
  | some u =>
    have hnext : r.next? delimiter (bytes.drop offset) = some (r.take ([u.1], u.2)) := by
      simp only [Reader.next?, hend, List.isEmpty_nil, ↓reduceIte, hfinish, Option.map_some]
    -- behind a record there is nothing left to finish
    have hu : u.2.finish? = none := by
      unfold Scanner.finish? at hfinish
      split_ifs at hfinish
      cases hfinish
      rfl
    simp only [Option.map_some, Option.toList_some]
    cases hresult : r.draft.read (decodeRecords r.records [u.1]) with
    | mk events result =>
      rw [Reader.take, hresult] at hnext
      cases result with
      | error e => exact keeps_readOn_error hsay hread hnext
      | ok d =>
        refine keeps_readOn_next hsay hread hnext (keeps_readOn_end hread ?_)
        simp only [Reader.next?, hend, List.length_nil, Nat.add_zero, List.isEmpty_nil, ↓reduceIte,
          hu, Option.map_none]

/-- The table in what comes of opening a file. -/
def ofOpened (delimiter : UInt8) (path : String) : Opened → Except TableError RelationTable
  | .refused e => .error (.unopened path e)
  | .unreadable e => .error (.unread (.file e))
  | .file bytes => (parse delimiter bytes).2

/-- A text is read up to its last complete record, and then the record that its end completes. -/
theorem parse_snd (delimiter : UInt8) (bytes : List UInt8) :
    (parse delimiter bytes).2 =
      ((Draft.read {} (decodeRecords 0 (Scanner.feed delimiter {} bytes).1)).2.bind fun d =>
        (d.read (decodeRecords (0 + (Scanner.feed delimiter {} bytes).1.length)
          ((Scanner.feed delimiter {} bytes).2.finish?.map (·.1)).toList)).2).map (·.table) := by
  rw [← Draft.read_append]
  rfl

theorem keeps_readOn {opened : Opened} (hsay : ∀ event, Keeps P (say event) ())
    (hread : ∀ t, P t → t.read path = opened) :
    Keeps P (readOn access.lift say delimiter path (pieces + 3) {} 0)
      (ofOpened delimiter path opened) := by
  cases opened with
  | refused e =>
    rw [readOn]
    exact (keeps_read hread).bind (.pure _)
  | unreadable e =>
    rw [readOn]
    exact (keeps_read hread).bind (.pure _)
  | file bytes =>
    rw [ofOpened, parse_snd]
    cases bytes with
    | nil => exact keeps_readOn_finish hsay hread rfl
    | cons b bs =>
      have hnext : Reader.next? delimiter {} ((b :: bs).drop 0) =
          some (Reader.take {} (Scanner.feed delimiter {} (b :: bs))) := rfl
      cases hresult : Draft.read {} (decodeRecords 0 (Scanner.feed delimiter {} (b :: bs)).1) with
      | mk events result =>
        rw [Reader.take, hresult] at hnext
        cases result with
        | error e => exact keeps_readOn_error hsay hread hnext
        | ok d =>
          refine keeps_readOn_next hsay hread hnext ?_
          have hend : (b :: bs).drop (0 + ((b :: bs).drop 0).length) = [] := by simp
          exact keeps_readOn_finish hsay hread hend

/-- **The table in a file is the one that its text holds**, as long as what is said while it is read
does not change the file. -/
theorem keeps_load {opened : Opened} (hsay : ∀ event, Keeps P (say event) ())
    (hread : ∀ t, P t → t.read path = opened) :
    Keeps P (load access.lift say delimiter path) (ofOpened delimiter path opened) := by
  have htable : Keeps P (readOn access.lift say delimiter path maxPieces {} 0)
      (ofOpened delimiter path opened) := keeps_readOn hsay hread
  refine htable.bind ?_
  cases ofOpened delimiter path opened with
  | error e => exact .pure _
  | ok table => exact (hsay _).bind (.pure _)

/-- If nothing that is said changes the tree, loading a table does not change it either. -/
theorem runs_load (hsay : ∀ event, Runs (say event) t () t) :
    Runs (load access.lift say delimiter path) t (ofOpened delimiter path (t.read path)) t :=
  (keeps_load (P := (· = t)) (fun event => (hsay event).keeps) fun _ h => by rw [h]).runs

/-! ### Files that grow -/

theorem Reader.read_of_take {u : List RawRecord × Scanner} (h : (r.take u).2 = .ok r') :
    (r.draft.read (decodeRecords r.records u.1)).2 = .ok r'.draft := by
  unfold Reader.take at h
  cases hresult : r.draft.read (decodeRecords r.records u.1) with
  | mk events result =>
    rw [hresult] at h
    cases result with
    | error e => cases h
    | ok d =>
      cases h
      rfl

theorem Reader.exists_read_of_next? {piece : List UInt8}
    (h : r.next? delimiter piece = some (events, .ok r')) :
    ∃ u, (r.draft.read u).2 = .ok r'.draft := by
  have htake : ∃ u, r.take u = (events, .ok r') := by
    unfold Reader.next? at h
    split_ifs at h
    · obtain ⟨u, -, hu⟩ := Option.map_eq_some_iff.1 h
      exact ⟨_, hu⟩
    · exact ⟨_, Option.some.inj h⟩
  obtain ⟨u, hu⟩ := htake
  exact ⟨_, Reader.read_of_take (congrArg Prod.snd hu)⟩

variable {u : Stream} {own : σ} {result : RelationTable}

theorem exists_stream_of_readOn (hu : (Draft.read {} u).2 = .ok r.draft)
    (h : answer (readOn access.lift say delimiter path pieces r offset) own t = .ok result) :
    ∃ u, (ofRecords u).2 = .ok result := by
  induction pieces generalizing r offset u own t with
  | zero => cases h
  | succ pieces ih =>
    rw [readOn] at h
    obtain ⟨own₁, t₁, hread⟩ := answer_bind (access.lift.read path) _ own t
    rw [hread] at h
    cases hopened : answer (access.lift.read path) own t with
    | refused e =>
      rw [hopened] at h
      cases h
    | unreadable e =>
      rw [hopened] at h
      cases h
    | file bytes =>
      simp only [hopened] at h
      cases hnext : r.next? delimiter (bytes.drop offset) with
      | none =>
        simp only [hnext] at h
        cases h
        exact ⟨u, by rw [ofRecords_snd, hu]; rfl⟩
      | some next =>
        obtain ⟨events, made⟩ := next
        simp only [hnext] at h
        obtain ⟨own₂, t₂, hsaid⟩ := answer_bind (events.forM say) _ own₁ t₁
        rw [hsaid] at h
        cases made with
        | error e => cases h
        | ok r' =>
          obtain ⟨v, hv⟩ := Reader.exists_read_of_next? hnext
          refine ih (u := u.followedBy v) ?_ h
          rw [Draft.read_followedBy, hu]
          exact hv

/-- Whatever is said while a table is loaded, it is the table of records. -/
theorem exists_stream_of_load
    (h : answer (load access.lift say delimiter path) own t = .ok result) :
    ∃ u, (ofRecords u).2 = .ok result := by
  rw [load] at h
  obtain ⟨table, own₁, t₁, htable, h⟩ := exists_of_answer_bind_eq_ok h fun _ => rfl
  cases h
  exact exists_stream_of_readOn (u := ⟨[], none⟩) rfl htable

end Load

end RelationTable

end NestingRules
