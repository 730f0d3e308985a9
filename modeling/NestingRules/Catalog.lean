import NestingRules.StructureType
import NestingRules.Revision
import NestingRules.Rule.Basic

/-!
# The catalog

Eight rules on the structure tree as a whole belong to every profile, whatever the table says.  They
share one clause and are numbered from one.
-/

namespace NestingRules

/-- The annex on structure namespaces in the base standard of a revision. -/
def Reference.annexL (r : Revision) : Reference := ⟨r.baseStandard, "Annex_L"⟩

namespace Catalog

/-- The clause of the catalog rules. -/
def clause : String := "6.2"

/-- A catalog rule, without what all of them share. -/
structure Entry where
  object : String
  description : String
  test : String
  message : String
  /-- The expression for the placeholder in the message, if it has one. -/
  argument : Option String
  deriving DecidableEq, Repr

/-- The catalog rules in the order of their numbers. -/
def entries : List Entry :=
  [{ object := "SENonStandard"
     description := "Every structure type should be mapped to a standard structure type"
     test := "isNotMappedToStandardType == false"
     message := "Non-standard structure type %1 is not mapped to a standard type"
     argument := some "namespaceAndTag" },
   { object := "SENonStandard"
     description := "A circular mapping shall not exist"
     test := "circularMappingExist != true"
     message := "A circular mapping exists for %1 structure type"
     argument := some "namespaceAndTag" },
   { object := "SENonStandard"
     description := "Standard tags shall not be remapped to a non-standard type"
     test := "remappedStandardType == null"
     message := "The standard structure type %1 is remapped to a non-standard type"
     argument := some "remappedStandardType" },
   { object := "PDDocument"
     description := "The logical structure of the conforming file shall be described by a " ++
       "structure hierarchy rooted in the StructTreeRoot entry of the document catalog " ++
       "dictionary, as described in ISO 32000-2:2020, 14.7"
     test := "containsStructTreeRoot == true"
     message := "StructTreeRoot entry is not present in the document catalog"
     argument := none },
   { object := "PDStructElem"
     description := "A structure element dictionary shall contain the P (parent) entry " ++
       "according to ISO 32000-2:2020, 14.7.2, Table 323"
     test := "containsParent == true"
     message := "A structure element dictionary does not contain the P (parent) entry"
     argument := none },
   { object := "SEMathMLStructureElement"
     description := "The math structure type shall occur only as a child of a Formula structure " ++
       "element"
     test := "parentStandardType == 'Formula' || parentStandardType == 'MathML'"
     message := "The math structure type is nested within %1 tag instead of Formula"
     argument := some "parentStandardType" },
   { object := "SERuby"
     description := "A Ruby structure element shall contain a single RB structure element and a " ++
       "single RT structure element or a Ruby structure element shall consist of a " ++
       "four-element subsequence: RB, RP, RT, RP"
     test := "kidsStandardTypes == 'RB&RT' || kidsStandardTypes == 'RB&RP&RT&RP'"
     message := "The Ruby structure element has invalid sequence of children: %1"
     argument := some "kidsStandardTypes.replaceAll('&', ',')" },
   { object := "SEWarichu"
     description := "Content typeset as warichu shall be tagged in a three-element sequence " ++
       "consisting of the structure elements WP, WT and WP, grouped inside a Warichu structure " ++
       "element"
     test := "kidsStandardTypes == 'WP&WT&WP'"
     message := "The Warichu structure element has invalid sequence of children: %1"
     argument := some "kidsStandardTypes.replaceAll('&', ',')" }]

/-- The number of catalog rules. -/
def size : Nat := entries.length

/-- A catalog rule with its number, for a revision. -/
def Entry.toRule (revision : Revision) (number : Nat) (e : Entry) : Rule where
  id := ⟨.iso32005, clause, UInt32.ofNat number⟩
  object := e.object
  tags := [Category.baseTag]
  description := e.description
  test := e.test
  error := ⟨e.message, e.argument.toList.map fun a => ⟨a, none, none⟩⟩
  references := [.annexL revision]

/-- The catalog rules for a revision. -/
def rules (revision : Revision) : List Rule :=
  (entries.zipIdx 1).map fun e => e.1.toRule revision e.2

end Catalog

end NestingRules
