import NestingRules.Command.Generate
import NestingRules.Role
import NestingRules.StructureType

/-!
# Tables that the commands show

A `BoxTable` is drawn with box characters and rounded corners.  Every column is as wide as its
widest cell, with a blank on either side, and a double line separates the header from the rows.

The listing shows the standard structure types of a revision in ascending order, and the pseudo-types
after them, each with its categories.  The summary names a generated profile and shows two tables: how
many rules carry each tag, and what became of the relations.
-/

namespace NestingRules

/-! ### Boxed tables -/

/-- A column of a table. -/
structure BoxColumn where
  title : String
  /-- Cells stand at the right edge of the column. -/
  alignRight : Bool := false
  deriving DecidableEq, Repr

/-- A table with a header. -/
structure BoxTable where
  columns : List BoxColumn
  /-- The cells, row by row; each row has one for every column. -/
  rows : List (List String)
  /-- The line between two columns. -/
  divider : String := "│"
  /-- Rows are separated by lines. -/
  ruled : Bool := false
  deriving DecidableEq, Repr

namespace BoxTable

/-- The character so many times. -/
def times (n : Nat) (c : Char) : String := String.ofList (List.replicate n c)

/-- The widths of the columns. -/
def widths (t : BoxTable) : List Nat :=
  t.columns.mapIdx fun i c =>
    (t.rows.map fun row => (row.getD i "").length).foldl max c.title.length

/-- A line through the table. -/
def rule (ws : List Nat) (left dash cross right : Char) : String :=
  String.singleton left ++
    (String.singleton cross).intercalate (ws.map fun w => times (w + 2) dash) ++
    String.singleton right

/-- A cell in a column of some width. -/
def cell (c : BoxColumn) (w : Nat) (s : String) : String :=
  let gap := times (w - s.length) ' '
  if c.alignRight then " " ++ gap ++ s ++ " " else " " ++ s ++ gap ++ " "

/-- A row of cells. -/
def line (t : BoxTable) (cells : List String) : String :=
  "│" ++ t.divider.intercalate
    ((t.columns.zip (t.widths.zip cells)).map fun c => cell c.1 c.2.1 c.2.2) ++ "│"

/-- The lines of the table. -/
def lines (t : BoxTable) : List String :=
  let ws := t.widths
  let rows := t.rows.map t.line
  [rule ws '╭' '─' '┬' '╮', t.line (t.columns.map (·.title)), rule ws '╞' '═' '╪' '╡'] ++
    (if t.ruled then rows.intersperse (rule ws '├' '─' '┼' '┤') else rows) ++
    [rule ws '╰' '─' '┴' '╯']

/-- The table as text. -/
def text (t : BoxTable) : String := String.join (t.lines.map (· ++ "\n"))

end BoxTable

/-! ### The listing of structure types -/

namespace Role

/-- The categories of a name in one cell. -/
def categoryCell (name : String) : String := ", ".intercalate (Category.tagsOf name)

/-- Where a standard type of a revision comes from. -/
def scopeCell (revision : Revision) (name : String) : String :=
  if (specific revision).contains name then revision.label else "common"

/-- The listing for a revision as a table. -/
def listing (revision : Revision) : BoxTable where
  columns := [{ title := "Type" }, { title := "Scope" }, { title := "Categories" }]
  rows :=
    ((sortedStandard revision).map fun name =>
      [name, scopeCell revision name, categoryCell name]) ++
    ([TypeName.treeRoot, TypeName.headingWildcard, TypeName.contentItem].map fun n =>
      [n.text, "pseudo", categoryCell n.text])
  divider := "┆"

/-- The listing for a revision as text. -/
def listingText (revision : Revision) : String :=
  revision.label ++ " (" ++ revision.flavour.label ++ ")\n" ++ (listing revision).text

end Role

/-! ### The summary of a profile -/

/-- How many rules carry each tag, the base tag first and the others in the order of the categories;
tags of no rule are left out. -/
def Profile.tagCounts (p : Profile) : List (String × Nat) :=
  ((Category.baseTag :: Category.all.map (·.tag)).map fun tag =>
    (tag, (p.rules.withTag tag).length)).filter (0 < ·.2)

namespace GenerateOutcome

/-- A table of counts. -/
def countTable (title counted : String) (rows : List (String × Nat)) : BoxTable where
  columns := [{ title }, { title := counted, alignRight := true }]
  rows := rows.map fun r => [r.1, toString r.2]
  ruled := true

/-- A row of the table of relations that is left out if there is nothing to count. -/
def ifCounted (label : String) (n : Nat) : List (String × Nat) :=
  if 0 < n then [(label, n)] else []

/-- What became of the relations. -/
def stageCounts (o : GenerateOutcome) : List (String × Nat) :=
  [("Parent types", o.parents), ("Parsed", o.report.parsed)] ++
    ifCounted "Ignored rows" o.ignoredRows ++
    SkipReason.all.flatMap (fun r => ifCounted ("Skipped: " ++ r.text) (o.report.skipped.count r)) ++
    [("No rule produced", o.report.unhandled)] ++
    ifCounted "Duplicate ids" o.report.duplicates ++
    [("Synthesized", o.report.synthesized), ("Catalog", o.report.catalog),
      ("TOTAL", o.report.ruleCount)]

/-- The lines before the tables. -/
def heading (o : GenerateOutcome) : List String :=
  (o.output.toList.map ("Profile: " ++ ·)) ++
    ["Flavour: " ++ o.profile.flavour.label ++ " (" ++ toString o.profile.ruleCount ++ " rules)",
      "Hash: " ++ o.profile.hash]

/-- The summary as text. -/
def summary (o : GenerateOutcome) : String :=
  String.join (o.heading.map (· ++ "\n")) ++
    (countTable "Tag" "Rules" o.profile.tagCounts).text ++
    (countTable "Stage" "Entries" o.stageCounts).text

end GenerateOutcome

end NestingRules
