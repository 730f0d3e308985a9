/-!
# Structure types

A relation speaks of structure types by name.  Three names stand for something other than a type:
`Hn` for a heading of any level, `StructTreeRoot` for the root of the structure tree, and
`content item` for content that is tagged directly.

Heading types are numbered: `H1`, `H2` and so on.  The older revision stops at `H6`, the newer one
has no limit.  A `HeadingPattern` says which names count as numbered headings; `text` is its
written form and `accepts` its meaning.

A category groups structure types under a tag.  Every rule carries the base tag, and the tag of
every category that its parent or its child belongs to.
-/

namespace NestingRules

/-! ### Names -/

/-- The name of a structure type, or one of the three pseudo-types. -/
structure TypeName where
  text : String
  deriving DecidableEq, Hashable, Repr, Inhabited

namespace TypeName

/-- Stands for a heading of any level. -/
def headingWildcard : TypeName := ⟨"Hn"⟩

/-- The root of the structure tree, which is no structure element. -/
def treeRoot : TypeName := ⟨"StructTreeRoot"⟩

/-- Content that is tagged directly; it occurs as a child only. -/
def contentItem : TypeName := ⟨"content item"⟩

/-- The name is that of the heading wildcard. -/
def isHeadingWildcard (n : TypeName) : Bool := n == headingWildcard

/-- The name is that of the tree root. -/
def isTreeRoot (n : TypeName) : Bool := n == treeRoot

/-- The name is that of a content item. -/
def isContentItem (n : TypeName) : Bool := n == contentItem

/-- The name is one of the three pseudo-types. -/
def isPseudo (n : TypeName) : Bool :=
  n.isHeadingWildcard || n.isTreeRoot || n.isContentItem

/-- Names are ordered by their characters, which is also the order of their UTF-8 bytes. -/
def order (a b : TypeName) : Ordering :=
  if a.text < b.text then .lt else if a.text = b.text then .eq else .gt

/-- The name as it stands in a sentence: types in angle brackets, the root and content items
bare. -/
def display (n : TypeName) : String :=
  if n.isTreeRoot || n.isContentItem then n.text else "<" ++ n.text ++ ">"

end TypeName

/-! ### Numbered headings -/

/-- Which names are numbered headings. -/
inductive HeadingPattern where
  /-- The levels one to six. -/
  | upToSix
  /-- Every level from one on. -/
  | unlimited
  deriving DecidableEq, Repr

namespace HeadingPattern

/-- The written form of the pattern. -/
def text : HeadingPattern → String
  | upToSix => "^H[1-6]$"
  | unlimited => "^H[1-9][0-9]*$"

/-- The name, as characters, is a heading of this pattern. -/
def acceptsChars : HeadingPattern → List Char → Bool
  | upToSix, ['H', d] => '1' ≤ d && d ≤ '6'
  | unlimited, 'H' :: d :: ds => ('1' ≤ d && d ≤ '9') && ds.all fun c => '0' ≤ c && c ≤ '9'
  | _, _ => false

/-- The name is a heading of this pattern. -/
def accepts (p : HeadingPattern) (name : String) : Bool :=
  p.acceptsChars name.toList

end HeadingPattern

/-! ### Categories -/

/-- A named group of structure types. -/
structure Category where
  tag : String
  types : List String
  /-- Numbered headings belong to the category too. -/
  headings : Option HeadingPattern
  deriving DecidableEq, Repr

namespace Category

/-- The tag that every rule carries. -/
def baseTag : String := "structure"

/-- The categories, in the order in which their tags are listed. -/
def all : List Category :=
  [⟨"table", ["Table", "TD", "TH", "THead", "TBody", "TFoot"], none⟩,
   ⟨"list", ["L", "LI", "LBody"], none⟩,
   ⟨"span", ["Span"], none⟩,
   ⟨"heading", ["H", "Hn"], some .unlimited⟩,
   ⟨"figure", ["Figure"], none⟩,
   ⟨"caption", ["Caption"], none⟩,
   ⟨"toc", ["TOC", "TOCI"], none⟩,
   ⟨"note", ["Note", "FENote"], none⟩,
   ⟨"paragraph", ["P"], none⟩]

/-- The name belongs to the category. -/
def holds (c : Category) (name : String) : Bool :=
  c.types.contains name || c.headings.any (·.accepts name)

/-- The tags of the categories that a name belongs to. -/
def tagsOf (name : String) : List String :=
  (all.filter (·.holds name)).map (·.tag)

/-- The tags of a relation: the base tag, then the tag of every category that its parent or its
child belongs to. -/
def relationTags (parent child : TypeName) : List String :=
  baseTag :: (all.filter fun c => c.holds parent.text || c.holds child.text).map (·.tag)

end Category

end NestingRules
