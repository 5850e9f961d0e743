import LineLexer.Main
import LineLexer.Grammar.Serialization
import LineLexer.Proofs.Language.Acceptance
import LineLexer.Proofs.Scan.Reading
import LineLexer.Proofs.Scan.Tiling
import LineLexer.Proofs.Scan.Relexing
import LineLexer.Proofs.Scan.Events
import LineLexer.Proofs.Scan.Nesting
import LineLexer.Proofs.Scan.CaseOrder
import LineLexer.Proofs.Scan.LetterCase
import LineLexer.Proofs.Scan.LineEnds
import LineLexer.Proofs.PowerQuery.Strings
import LineLexer.Proofs.PowerQuery.Comments
import LineLexer.Proofs.Grammar.Agreement
import LineLexer.Proofs.Scan.Merging
import LineLexer.Proofs.Scan.DeclarationOrder
import LineLexer.Proofs.Language.Defects
import LineLexer.Proofs.Language.StateReferences
import LineLexer.Proofs.Language.IncludeCircles
import LineLexer.Proofs.Scan.StackReports
import LineLexer.Proofs.CommandLine.SharedOptions
import LineLexer.Proofs.Scan.WrittenAlike
import LineLexer.Proofs.Language.IncludeSubstitution
import LineLexer.Proofs.PowerQuery.Words
import LineLexer.Proofs.PowerQuery.BracketTokens
import LineLexer.Proofs.PowerQuery.Fallback
import LineLexer.Proofs.PowerQuery.QuotedIdentifiers
import LineLexer.Proofs.PowerQuery.Numbers
import LineLexer.Proofs.PowerQuery.EmptyMatches
import LineLexer.Proofs.PowerQuery.AutoClosing
import LineLexer.Proofs.Catalog.Suggestions
import LineLexer.Proofs.Report.Colors
import LineLexer.Proofs.ClassSegments
import LineLexer.Proofs.ClassInterning
import LineLexer.Proofs.Language.ExpansionRuns
