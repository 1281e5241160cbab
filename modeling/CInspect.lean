import CInspect.Check.CharInput
import CInspect.Check.Construct
import CInspect.Check.Finding
import CInspect.Check.Layout
import CInspect.Check.Level
import CInspect.Check.Mixing
import CInspect.CommandLine.Help
import CInspect.CommandLine.Options
import CInspect.Includes.Catalog
import CInspect.Includes.Compiler
import CInspect.Includes.Configuration
import CInspect.Includes.Internal
import CInspect.Includes.InternalTypes
import CInspect.Includes.Mathematics
import CInspect.Includes.Posix
import CInspect.Includes.Standard
import CInspect.Includes.WideCharacters
import CInspect.Indent.LineClass
import CInspect.Indent.LineSet
import CInspect.Inspection.Command
import CInspect.Inspection.File
import CInspect.Inspection.Toolchain
import CInspect.Language.Attributes
import CInspect.Language.Builtins
import CInspect.Language.Features
import CInspect.Language.FormatString
import CInspect.Language.Keywords
import CInspect.Language.Warnings
import CInspect.Lex.Escape
import CInspect.Lex.Literal
import CInspect.Lex.Scan
import CInspect.Lex.Token
import CInspect.Main
import CInspect.Parse.BuiltinCall
import CInspect.Parse.Cursor
import CInspect.Parse.Decl
import CInspect.Parse.Declaration
import CInspect.Parse.Expr
import CInspect.Parse.ExprChecks
import CInspect.Parse.Flow
import CInspect.Parse.Fold
import CInspect.Parse.FormatCheck
import CInspect.Parse.Jumps
import CInspect.Parse.Node
import CInspect.Parse.Sequencing
import CInspect.Parse.Stmt
import CInspect.Parse.Switch
import CInspect.Parse.Typing
import CInspect.Parse.Unit
import CInspect.Parse.Words
import CInspect.Preprocess.Condition
import CInspect.Preprocess.Expand
import CInspect.Preprocess.FeatureTest
import CInspect.Preprocess.Macro
import CInspect.Preprocess.Predefined
import CInspect.Preprocess.Token
import CInspect.Preprocess.Unit
import CInspect.Proofs.BracedLayout
import CInspect.Proofs.BreakOff
import CInspect.Proofs.CharVariable
import CInspect.Proofs.CheckLevels
import CInspect.Proofs.CodeConstants
import CInspect.Proofs.CodeTracking
import CInspect.Proofs.ExitStatus
import CInspect.Proofs.IndentRecords
import CInspect.Proofs.IndentUnit
import CInspect.Proofs.LeadingIndent
import CInspect.Proofs.LayoutVerdict
import CInspect.Proofs.ListingGaps
import CInspect.Proofs.MixingReport
import CInspect.Proofs.NodeChecks
import CInspect.Proofs.RecordedFiles
import CInspect.Proofs.Severity
import CInspect.Proofs.ShownLines
import CInspect.Proofs.SourceSpans
import CInspect.Proofs.VariableChecks
import CInspect.Proofs.WalkOrder
import CInspect.Proofs.WalkPaths
import CInspect.Source.Diagnostic
import CInspect.Source.File
import CInspect.Source.Workspace
import CInspect.Text.Blank
import CInspect.Text.Lines
import CInspect.Text.Packed
import CInspect.Text.Quoted
import CInspect.Text.Utf8
import CInspect.Tree.Basic
import CInspect.Tree.Dump
import CInspect.Tree.Walk
import CInspect.Types.Basic
import CInspect.Types.Compatible
import CInspect.Types.Convert
import CInspect.Types.Floating
import CInspect.Types.Layout
import CInspect.Types.Spelling
import CInspect.Workload.Bench
import CInspect.Workload.Session
import CInspect.Workload.Trees
