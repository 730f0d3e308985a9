import NestingRules.StructureType
import NestingRules.Text.Basic
import NestingRules.Text.Quoted
import NestingRules.Text.UpperCase

/-!
# Document revisions and profile flavours

A profile is generated for a revision of the document format.  The revision selects the flavour of
the profile, the base standard that rules refer to and the pattern of numbered headings.
-/

namespace NestingRules

/-- The specification variant that a profile validates against. -/
inductive Flavour where
  | pdfUa1
  | pdfUa2
  deriving DecidableEq, Repr

namespace Flavour

/-- Both flavours. -/
def all : List Flavour := [pdfUa1, pdfUa2]

/-- The identifier of the flavour. -/
def label : Flavour → String
  | pdfUa1 => "PDFUA_1"
  | pdfUa2 => "PDFUA_2"

/-- The flavour with this identifier. -/
def ofLabel? (s : String) : Option Flavour :=
  all.find? (·.label == s)

end Flavour

/-- The revision of the document format. -/
inductive Revision where
  /-- PDF 1.7, the legacy revision. -/
  | pdf17
  /-- PDF 2.0, the current revision. -/
  | pdf20
  deriving DecidableEq, Repr

/-- A text that selects no revision. -/
structure UnknownRevision where
  /-- The text as it was given, blanks included. -/
  text : String
  deriving DecidableEq, Repr

/-- The message for an unknown revision. -/
def UnknownRevision.message (e : UnknownRevision) : String :=
  "unsupported document revision: " ++ Text.quoted e.text ++ " (expected PDF-1.7 or PDF-2.0)"

namespace Revision

/-- Both revisions, older first. -/
def all : List Revision := [pdf17, pdf20]

/-- The current revision is the one meant when none is named. -/
instance : Inhabited Revision := ⟨pdf20⟩

/-- The name of the revision. -/
def label : Revision → String
  | pdf17 => "PDF-1.7"
  | pdf20 => "PDF-2.0"

/-- The revision with this name. -/
def ofLabel? (s : String) : Option Revision :=
  all.find? (·.label == s)

/-- The standard that defines the revision. -/
def baseStandard : Revision → String
  | pdf17 => "ISO-32000-1"
  | pdf20 => "ISO-32000-2"

/-- The flavour of profiles for the revision. -/
def flavour : Revision → Flavour
  | pdf17 => .pdfUa1
  | pdf20 => .pdfUa2

/-- The revision is the older one. -/
def isLegacy : Revision → Bool
  | pdf17 => true
  | pdf20 => false

/-- The numbered headings of the revision. -/
def headingPattern : Revision → HeadingPattern
  | pdf17 => .upToSix
  | pdf20 => .unlimited

/-- `cs` without the family marks `PDF-` at its front, however many there are. -/
def dropFamily : List Char → List Char
  | 'P' :: 'D' :: 'F' :: '-' :: cs => dropFamily cs
  | cs => cs

/-- Read a revision: blanks around it and the case of its letters do not matter, and the family
mark may be left out. -/
def parse (s : String) : Except UnknownRevision Revision :=
  match dropFamily ((Text.trimBy Text.isBlank s.toList).flatMap Text.upperCase) with
  | ['1', '.', '7'] => .ok pdf17
  | ['2', '.', '0'] => .ok pdf20
  | _ => .error ⟨s⟩

end Revision

end NestingRules
