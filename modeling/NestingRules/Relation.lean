import NestingRules.Cardinality
import NestingRules.Json.Basic
import NestingRules.Revision
import NestingRules.StructureType
import Std.Data.HashSet

/-!
# Relations

A relation is one filled cell of a relation table: a parent, a child and a cardinality, with the
place of the cell in the table.  Two relations are the same (`==`) if parent, child and cardinality
agree; the place only serves to put relations back into the order of the table.

A relation is exchanged as an object with its cardinality by name; revisions and flavours are
exchanged by their labels.
-/

namespace NestingRules

/-- One filled cell of a relation table. -/
structure Relation where
  parent : TypeName
  child : TypeName
  cardinality : Cardinality
  /-- The row of the cell, counted from one below the header. -/
  row : Nat
  /-- The column of the cell, counted from one right of the parent names. -/
  col : Nat
  deriving DecidableEq, Repr

namespace Relation

/-- What makes two relations the same. -/
structure Identity where
  parent : TypeName
  child : TypeName
  cardinality : Cardinality
  deriving DecidableEq, Hashable, Repr

/-- The identity of a relation. -/
def identity (r : Relation) : Identity := ⟨r.parent, r.child, r.cardinality⟩

instance : BEq Relation := ⟨fun a b => a.identity == b.identity⟩

instance : Hashable Relation := ⟨fun r => hash r.identity⟩

/-- The relation in a diagnostic, such as `Table-['1..n']->TR`. -/
def description (r : Relation) : String :=
  r.parent.text ++ "-['" ++ r.cardinality.symbol ++ "']->" ++ r.child.text

/-- The position in reading order of a table whose largest column is `maxCol`. -/
def layoutKey (maxCol : Nat) (r : Relation) : Nat :=
  r.row * (maxCol + 1) + r.col

end Relation

/-- A set of relations, one for each identity. -/
abbrev RelationSet := Std.HashSet Relation

namespace RelationSet

/-- Put a relation into the set unless its identity is there, and say whether it was put. -/
def insertNew (s : RelationSet) (r : Relation) : Bool × RelationSet :=
  (!s.contains r, s.insert r)

/-- Take the relation with this identity out of the set, and say whether there was one. -/
def remove (s : RelationSet) (r : Relation) : Bool × RelationSet :=
  (s.contains r, s.erase r)

/-- Put a relation into the set in place of the one with its identity, which is the answer. -/
def replace (s : RelationSet) (r : Relation) : Option Relation × RelationSet :=
  (s.get? r, (s.erase r).insert r)

end RelationSet

/-! ### Exchanged forms -/

/-- The cardinality as its name. -/
def Cardinality.toJson (c : Cardinality) : Json := .text c.name

/-- Read a cardinality. -/
def Cardinality.ofJson? (j : Json) : Option Cardinality :=
  j.choice?.bind ofName?

/-- The revision as its label. -/
def Revision.toJson (r : Revision) : Json := .text r.label

/-- Read a revision. -/
def Revision.ofJson? (j : Json) : Option Revision :=
  j.choice?.bind ofLabel?

/-- The flavour as its label. -/
def Flavour.toJson (f : Flavour) : Json := .text f.label

/-- Read a flavour. -/
def Flavour.ofJson? (j : Json) : Option Flavour :=
  j.choice?.bind ofLabel?

/-- The relation as an object. -/
def Relation.toJson (r : Relation) : Json :=
  .record [("parent", .text r.parent.text), ("child", .text r.child.text),
    ("cardinality", r.cardinality.toJson), ("row_ordinal", .nat r.row), ("col_ordinal", .nat r.col)]

/-- Read a relation. -/
def Relation.ofJson? (j : Json) : Option Relation := do
  match ← j.fields? ["parent", "child", "cardinality", "row_ordinal", "col_ordinal"] with
  | [some parent, some child, some cardinality, some row, some col] =>
    return {
      parent := ⟨← parent.text?⟩
      child := ⟨← child.text?⟩
      cardinality := ← Cardinality.ofJson? cardinality
      row := ← row.natBelow? UInt64.size
      col := ← col.natBelow? UInt64.size }
  | _ => none

end NestingRules
