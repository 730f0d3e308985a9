import NestingRules.Revision
import NestingRules.StructureType

/-!
# Standard structure roles

Each revision defines a set of standard structure types.  Both share a common core; the older one
keeps types that the newer one dropped, and the newer one adds its own.  The list of the newer
revision is partial: numbered headings, sections and a few others are registered for the older
revision only.  A `RoleScope` says against which set a name is checked.
-/

namespace NestingRules

namespace Role

/-- Types that are standard in both revisions. -/
def common : List String :=
  ["Document", "Part", "Div", "Caption", "THead", "TBody", "TFoot", "H", "P", "L", "LI", "Lbl",
   "LBody", "Table", "TR", "TH", "TD", "Span", "Link", "Annot", "Ruby", "Warichu", "Figure",
   "Formula", "Form", "RB", "RT", "RP", "WT", "WP"]

/-- Types that a revision adds to the common core. -/
def specific : Revision → List String
  | .pdf17 =>
    ["Art", "Sect", "BlockQuote", "TOC", "TOCI", "Index", "NonStruct", "Private", "Quote", "Note",
     "Reference", "BibEntry", "Code", "H1", "H2", "H3", "H4", "H5", "H6"]
  | .pdf20 =>
    ["DocumentFragment", "Aside", "Title", "FENote", "Sub", "Em", "Strong", "Artifact"]

/-- Grouping placeholders, whose children are resolved through role mapping. -/
def transitional : List String := ["Div", "Part", "NonStruct"]

/-- The standard types of a revision. -/
def standard (r : Revision) : List String := common ++ specific r

/-- The standard types of a revision in ascending order. -/
def sortedStandard (r : Revision) : List String :=
  (standard r).mergeSort fun a b => decide (a ≤ b)

/-- The name is a standard type of the revision. -/
def isStandard (r : Revision) (name : String) : Bool := (standard r).contains name

/-- The name is a standard type of some revision. -/
def isKnown (name : String) : Bool := Revision.all.any fun r => isStandard r name

/-- The name is a grouping placeholder. -/
def isTransitional (name : String) : Bool := transitional.contains name

end Role

/-- The set of types that a name is checked against. -/
inductive RoleScope where
  /-- The types of all revisions together. -/
  | known
  /-- The types of one revision. -/
  | standard (r : Revision)
  deriving DecidableEq, Repr

namespace RoleScope

/-- The name is a type of the scope. -/
def contains : RoleScope → String → Bool
  | known, name => Role.isKnown name
  | standard r, name => Role.isStandard r name

/-- A parent is a type of the scope, the heading wildcard or the tree root. -/
def admitsParent (s : RoleScope) (n : TypeName) : Bool :=
  s.contains n.text || n.isHeadingWildcard || n.isTreeRoot

/-- A child is a type of the scope, the heading wildcard or a content item. -/
def admitsChild (s : RoleScope) (n : TypeName) : Bool :=
  s.contains n.text || n.isHeadingWildcard || n.isContentItem

end RoleScope

end NestingRules
