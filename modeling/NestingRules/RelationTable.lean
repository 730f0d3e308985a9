import NestingRules.Delimited
import NestingRules.Log.Event

/-!
# Relation tables

A relation table is written as records.  The first one is the header: its first cell, the corner, is
empty and the others name child types.  Each of the others is a row: its first cell names a parent
type and the others hold one cardinality symbol for each child, or nothing.  A row of another width or
without a parent is ignored; a symbol that is none is an error.
-/

namespace NestingRules

/-- Why there is no table. -/
inductive TableError where
  /-- The file cannot be opened. -/
  | unopened (path : String) (e : FileError)
  /-- The records end with a failure. -/
  | unread (f : Delimited.Failure)
  /-- The corner is not empty. -/
  | invalidHeader (found : String)
  /-- A cell holds no symbol. -/
  | unknownCardinality (row column : Nat) (parent child symbol : String)
  deriving DecidableEq, Repr

namespace TableError

/-- The error in words. -/
def message : TableError → String
  | unopened path e => "failed to read file " ++ path ++ ": " ++ e.message
  | unread f => "failed to parse relation table: " ++ f.message
  | invalidHeader found =>
    "invalid relation table header: first cell must be empty, found " ++ Text.quoted found
  | unknownCardinality row column parent child symbol =>
    "unknown cardinality symbol " ++ Text.quoted symbol ++ " at row " ++ toString row ++
      ", column " ++ toString column ++ " (" ++ parent ++ " -> " ++ child ++ ")"

/-- What is behind the error, in words. -/
def cause? : TableError → Option String
  | unopened _ e => some e.message
  | unread f => some f.message
  | invalidHeader _ | unknownCardinality .. => none

end TableError

/-- A table that was read. -/
structure RelationTable where
  /-- The child types in the order of their columns. -/
  children : List TypeName
  /-- The relations, row by row. -/
  relations : List Relation
  /-- The number of rows that were ignored. -/
  ignoredRows : Nat
  deriving DecidableEq, Repr, Inhabited

namespace RelationTable

/-- The table without rows and columns. -/
def empty : RelationTable := ⟨[], [], 0⟩

/-- The table has no relations. -/
def isEmpty (t : RelationTable) : Bool := t.relations.isEmpty

/-- The parents of the relations, in the order in which they first occur. -/
def parents (t : RelationTable) : List TypeName :=
  (t.relations.map (·.parent)).eraseDups

/-! ### Reading records -/

/-- The text without byte order marks at its front. -/
def dropMarks (s : String) : List Char := s.toList.dropWhile (· == '\ufeff')

/-- What stands in the corner, byte order marks and blanks aside. -/
def corner (header : List String) : String :=
  String.ofList (Text.trimBy Text.isBlank (dropMarks (header.headD "")))

/-- The child types that a header names. -/
def childrenOf (header : List String) : List TypeName :=
  header.tail.map fun s => ⟨String.ofList (dropMarks s)⟩

/-- The relations in the cells of a row from a column on. -/
def cellsFrom (row : Nat) (parent : String) :
    (column : Nat) → List TypeName → List String → Except TableError (List Relation)
  | column, child :: children, cell :: cells =>
    if cell.isEmpty then cellsFrom row parent (column + 1) children cells
    else
      match Cardinality.parse cell with
      | .error _ => .error (.unknownCardinality row column parent child.text cell)
      | .ok c =>
        (cellsFrom row parent (column + 1) children cells).map
          (⟨⟨parent⟩, child, c, row, column⟩ :: ·)
  | _, _, _ => .ok []

/-- The row of a record is ignored. -/
def isIgnored (width : Nat) (record : List String) : Bool :=
  record.length != width || (record.headD "").isEmpty

/-- Relations in the order of their places in the table. -/
def inLayoutOrder (rs : List Relation) : List Relation :=
  let maxCol := (rs.map (·.col)).foldl max 0
  rs.mergeSort fun a b => decide (a.layoutKey maxCol ≤ b.layoutKey maxCol)

/-- A table in the making. -/
structure Draft where
  /-- The child types, once the header has been read. -/
  children : Option (List TypeName) := none
  /-- The number of rows so far, ignored ones included. -/
  rows : Nat := 0
  /-- The relations of each row that is not ignored, the last row first. -/
  relations : List (List Relation) := []
  ignoredRows : Nat := 0
  deriving DecidableEq, Repr

namespace Draft

/-- Read a record, the header or a row; with what is said about it. -/
def add (d : Draft) (record : List String) : List Event × Except TableError Draft :=
  match d.children with
  | none =>
    let found := corner record
    ([], if found.isEmpty then .ok { d with children := some (childrenOf record) }
      else .error (.invalidHeader found))
  | some children =>
    let row := d.rows + 1
    let width := children.length + 1
    if isIgnored width record then
      ([.rowIgnored row record.length width],
        .ok { d with rows := row, ignoredRows := d.ignoredRows + 1 })
    else
      ([], (cellsFrom row (record.headD "") 1 children record.tail).map fun rs =>
        { d with rows := row, relations := rs :: d.relations })

/-- Read records up to the first one with an error. -/
def addAll : Draft → List (List String) → List Event × Except TableError Draft
  | d, [] => ([], .ok d)
  | d, record :: records =>
    match d.add record with
    | (events, .error e) => (events, .error e)
    | (events, .ok d) =>
      let (later, result) := addAll d records
      (events ++ later, result)

/-- Read records and what comes after them. -/
def read (d : Draft) (s : Delimited.Stream) : List Event × Except TableError Draft :=
  match d.addAll s.records with
  | (events, .error e) => (events, .error e)
  | (events, .ok d) =>
    (events, match s.failure with
      | none => .ok d
      | some f => .error (.unread f))

/-- The table as far as it has been read. -/
def table (d : Draft) : RelationTable :=
  match d.children with
  | none => empty
  | some children => ⟨children, inLayoutOrder d.relations.reverse.flatten, d.ignoredRows⟩

end Draft

/-- The table that records hold, or why there is none; with what is said on the way. -/
def ofRecords (s : Delimited.Stream) : List Event × Except TableError RelationTable :=
  let (events, result) := Draft.read {} s
  (events, result.map (·.table))

/-- The table of a delimited text. -/
def parse (delimiter : UInt8) (bytes : List UInt8) : List Event × Except TableError RelationTable :=
  ofRecords (Delimited.read delimiter bytes)

/-! ### Reading files -/

/-- A reader in the middle of a file. -/
structure Reader where
  scanner : Delimited.Scanner := {}
  /-- The number of records so far. -/
  records : Nat := 0
  draft : Draft := {}
  deriving DecidableEq, Repr

namespace Reader

/-- Read records that have been scanned. -/
def take (r : Reader) (s : List Delimited.RawRecord × Delimited.Scanner) :
    List Event × Except TableError Reader :=
  let (events, result) := r.draft.read (Delimited.decodeRecords r.records s.1)
  (events, result.map fun draft => ⟨s.2, r.records + s.1.length, draft⟩)

/-- Read the next piece of the file.  At its end there is none, and then a record that has begun is
complete; if none has, everything has been read. -/
def next? (delimiter : UInt8) (r : Reader) (piece : List UInt8) :
    Option (List Event × Except TableError Reader) :=
  if piece.isEmpty then r.scanner.finish?.map fun s => r.take ([s.1], s.2)
  else some (r.take (r.scanner.feed delimiter piece))

end Reader

/-- How often a file is read on while it grows. -/
def maxPieces : Nat := 100000

section Load

variable {m : Type → Type} [Monad m] (files : FileAccess m) (say : Event → m Unit)

/-- Read a file on from an offset.  What is said about a piece may make the file longer, if it is the
log as well, and so the end of the file is only known when there is nothing more to say. -/
def readOn (delimiter : UInt8) (path : String) :
    (pieces : Nat) → Reader → (offset : Nat) → m (Except TableError RelationTable)
  | 0, _, _ => pure (.error (.unread (.file .tooLarge)))
  | pieces + 1, r, offset => do
    match ← files.read path with
    | .refused e => return .error (.unopened path e)
    | .unreadable e => return .error (.unread (.file e))
    | .file bytes =>
      let piece := bytes.drop offset
      match r.next? delimiter piece with
      | none => return .ok r.draft.table
      | some (events, result) =>
        events.forM say
        match result with
        | .error e => return .error e
        | .ok r => readOn delimiter path pieces r (offset + piece.length)

/-- The table in a file. -/
def load (delimiter : UInt8) (path : String) : m (Except TableError RelationTable) := do
  let result ← readOn files say delimiter path maxPieces {} 0
  if let .ok t := result then say (.tableLoaded path t.relations.length t.ignoredRows)
  return result

end Load

end RelationTable

end NestingRules
