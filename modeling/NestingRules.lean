import NestingRules.FileTree.Basic
import NestingRules.Main
import NestingRules.Proofs.Applicability.Headings
import NestingRules.Proofs.Command.AllOrNothing
import NestingRules.Proofs.Command.ParentCount
import NestingRules.Proofs.Command.TagCounts
import NestingRules.Proofs.Generation.Balance
import NestingRules.Proofs.Generation.CatalogFirst
import NestingRules.Proofs.Generation.Diagnostics
import NestingRules.Proofs.Generation.Revisions
import NestingRules.Proofs.Generation.Sentences
import NestingRules.Proofs.Generation.Vocabulary
import NestingRules.Proofs.Generation.WellFormed
import NestingRules.Proofs.Profile.ReadBack
import NestingRules.Proofs.Relation.Runs
import NestingRules.Proofs.RelationTable.CleanNames
import NestingRules.Proofs.RelationTable.Edited
import NestingRules.Proofs.RelationTable.ReadingOrder
import NestingRules.Proofs.RelationTable.Rearranged
import NestingRules.Proofs.RelationTable.Result
import NestingRules.Proofs.RelationTable.Written
import NestingRules.Proofs.Revision.Spellings
import NestingRules.Proofs.Rule.Fingerprint
import NestingRules.Proofs.Rule.Ids
import NestingRules.Proofs.Rule.Runs
import NestingRules.Proofs.Synthesis.Meaning
import NestingRules.Proofs.Template.Pieces
