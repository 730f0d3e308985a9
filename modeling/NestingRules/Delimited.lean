import NestingRules.FileTree.Access
import NestingRules.Text.Basic

/-!
# Delimited text

Delimited text is a sequence of records, each a sequence of fields.  A delimiter byte ends a field;
a line feed or a carriage return ends a record, and one that follows the end of a record at once
is passed over, so that blank lines are no records.  A field that begins with a quotation mark goes on
to the next quotation mark, whatever bytes stand between; a doubled quotation mark inside stands for
one, and bytes after the closing one are taken as they are.  The last record needs no terminator, and
no closing quotation mark either.  A byte order mark before the first record is passed over.

The fields of a record are cut of blanks at both ends, first as bytes and then as characters; in
between they are decoded, and a record with a field that is no text ends the reading.
-/

namespace NestingRules.Delimited

/-! ### Scanning -/

/-- Where the scanner stands. -/
inductive Mode where
  /-- Before the first byte of a record. -/
  | recordStart
  /-- Before the first byte of a field that is not the first. -/
  | fieldStart
  /-- Inside a field, outside quotation marks. -/
  | plain
  /-- Inside quotation marks. -/
  | quoted
  /-- After a quotation mark inside quotation marks. -/
  | quoteSeen
  deriving DecidableEq, Repr

/-- What the scanner does with a byte. -/
inductive Action where
  /-- Pass over it. -/
  | discard
  /-- Add it to the field. -/
  | copy
  | endField
  | endRecord
  deriving DecidableEq, Repr

/-- The quotation mark. -/
def quote : UInt8 := 34

/-- The byte ends a record. -/
def isTerminator (b : UInt8) : Bool := b == 10 || b == 13

/-- A byte outside quotation marks, inside a field. -/
def continueField (delimiter b : UInt8) : Mode × Action :=
  if b == delimiter then (.fieldStart, .endField)
  else if isTerminator b then (.recordStart, .endRecord)
  else (.plain, .copy)

/-- The first byte of a field. -/
def startField (delimiter b : UInt8) : Mode × Action :=
  if b == quote then (.quoted, .discard) else continueField delimiter b

/-- What is done with a byte, and where the scanner stands after it. -/
def Mode.next (delimiter b : UInt8) : Mode → Mode × Action
  | recordStart => if isTerminator b then (.recordStart, .discard) else startField delimiter b
  | fieldStart => startField delimiter b
  | plain => continueField delimiter b
  | quoted => if b == quote then (.quoteSeen, .discard) else (.quoted, .copy)
  | quoteSeen => if b == quote then (.quoted, .copy) else continueField delimiter b

/-- A position in a text: the bytes before it, and its line counted from one. -/
structure Position where
  byte : Nat
  line : Nat
  deriving DecidableEq, Repr

/-- The position after a byte. -/
def Position.after (p : Position) (b : UInt8) : Position :=
  ⟨p.byte + 1, if b == 10 then p.line + 1 else p.line⟩

/-- A record as it was scanned. -/
structure RawRecord where
  /-- The position behind the record before. -/
  start : Position
  fields : List (List UInt8)
  deriving DecidableEq, Repr

/-- A scanner in the middle of a text. -/
structure Scanner where
  mode : Mode := .recordStart
  pos : Position := ⟨0, 1⟩
  /-- The position behind the last record. -/
  start : Position := ⟨0, 1⟩
  /-- The complete fields of the record in the making, the last one first. -/
  fields : List (List UInt8) := []
  /-- The bytes of the field in the making, the last one first. -/
  field : List UInt8 := []
  deriving DecidableEq, Repr

namespace Scanner

/-- The record in the making. -/
def record (s : Scanner) : RawRecord := ⟨s.start, (s.field.reverse :: s.fields).reverse⟩

/-- The scanner behind a record, at a position. -/
def behind (pos : Position) : Scanner := { pos, start := pos }

/-- Scan bytes: the records that they complete, and where the scanner stands after them. -/
def scan (delimiter : UInt8) : Scanner → List UInt8 → List RawRecord × Scanner
  | s, [] => ([], s)
  | s, b :: bs =>
    let pos := s.pos.after b
    match s.mode.next delimiter b with
    | (mode, .discard) => scan delimiter { s with mode, pos } bs
    | (mode, .copy) => scan delimiter { s with mode, pos, field := b :: s.field } bs
    | (mode, .endField) =>
      scan delimiter { s with mode, pos, fields := s.field.reverse :: s.fields, field := [] } bs
    | (_, .endRecord) =>
      let (records, t) := scan delimiter (behind pos) bs
      (s.record :: records, t)

/-- Pass over a byte order mark at the beginning of a text.  It belongs to no record, but it counts
in positions. -/
def skipMark (s : Scanner) (bytes : List UInt8) : Scanner × List UInt8 :=
  match s.pos.byte, bytes with
  | 0, 0xef :: 0xbb :: 0xbf :: bs => ({ s with pos := ⟨3, 1⟩ }, bs)
  | _, bs => (s, bs)

/-- Scan the next piece of a text. -/
def feed (delimiter : UInt8) (s : Scanner) (bytes : List UInt8) : List RawRecord × Scanner :=
  let (s, bytes) := s.skipMark bytes
  s.scan delimiter bytes

/-- The record that ends with the text, if one has begun, and the scanner behind it. -/
def finish? (s : Scanner) : Option (RawRecord × Scanner) :=
  if s.mode = .recordStart then none else some (s.record, behind s.pos)

end Scanner

/-- The records of a text. -/
def scan (delimiter : UInt8) (bytes : List UInt8) : List RawRecord :=
  let (records, s) := Scanner.feed delimiter {} bytes
  records ++ (s.finish?.map (·.1)).toList

/-! ### Decoding -/

/-- Why the reading ends before the text does. -/
inductive Failure where
  /-- A field is no text: the number of the record counted from zero and its position, the number of
  the field counted from zero, and the offset in the field. -/
  | illFormed (record : Nat) (start : Position) (field offset : Nat)
  | file (e : FileError)
  deriving DecidableEq, Repr

/-- The failure in words. -/
def Failure.message : Failure → String
  | illFormed record start field offset =>
    "CSV parse error: record " ++ toString record ++ " (line " ++ toString start.line ++
      ", field: " ++ toString field ++ ", byte: " ++ toString start.byte ++
      "): invalid utf-8: invalid UTF-8 in field " ++ toString field ++ " near byte index " ++
      toString offset
  | file e => e.message

/-- A field as text, or the offset at which it is none. -/
def decodeField (bytes : List UInt8) : Except Nat String :=
  (Text.Utf8.decode (Text.trimBy Text.isBlankByte bytes)).map fun cs =>
    String.ofList (Text.trimBy Text.isBlank cs)

/-- The fields from number `i` on as texts, or the first one that is none. -/
def decodeFields (i : Nat) : List (List UInt8) → Except (Nat × Nat) (List String)
  | [] => .ok []
  | field :: fields =>
    match decodeField field with
    | .error offset => .error (i, offset)
    | .ok s => (decodeFields (i + 1) fields).map (s :: ·)

/-- Records, and why there are no more; nothing if the text has ended. -/
structure Stream where
  records : List (List String)
  failure : Option Failure
  deriving DecidableEq, Repr

/-- The records from number `i` on up to the first one that cannot be decoded. -/
def decodeRecords (i : Nat) : List RawRecord → Stream
  | [] => ⟨[], none⟩
  | r :: rs =>
    match decodeFields 0 r.fields with
    | .error (field, offset) => ⟨[], some (.illFormed i r.start field offset)⟩
    | .ok fields =>
      let rest := decodeRecords (i + 1) rs
      ⟨fields :: rest.records, rest.failure⟩

/-- The records of a text. -/
def read (delimiter : UInt8) (bytes : List UInt8) : Stream :=
  decodeRecords 0 (scan delimiter bytes)

end NestingRules.Delimited
