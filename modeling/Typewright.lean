import Typewright.Decimal.Binary64
import Typewright.Decimal.Shortest
import Typewright.Declaration.Basic
import Typewright.Declaration.Script
import Typewright.Declaration.Writer
import Typewright.Emitter
import Typewright.Extraction
import Typewright.Files.Path
import Typewright.Files.Tree
import Typewright.Generator
import Typewright.Json.Basic
import Typewright.Json.Misuse
import Typewright.Json.Read
import Typewright.Json.Show
import Typewright.Json.Write
import Typewright.Log.Format
import Typewright.Log.Logger
import Typewright.Log.Record
import Typewright.Settings.Basic
import Typewright.Settings.Store
import Typewright.Source.Extraction
import Typewright.Source.Grammar
import Typewright.Source.Grammar.Declarations
import Typewright.Source.Grammar.Expressions
import Typewright.Source.Grammar.Statements
import Typewright.Source.Grammar.Types
import Typewright.Source.Lexer
import Typewright.Source.Listing
import Typewright.Source.Rule
import Typewright.Source.Rule.Fuel
import Typewright.Source.Token
import Typewright.Syntax.Node
import Typewright.Template.Library
import Typewright.Template.Node
import Typewright.Template.Render
import Typewright.Template.Token
import Typewright.Text.Alphanumeric
import Typewright.Text.Blank
import Typewright.Text.Case
import Typewright.Text.Hex
import Typewright.Text.Identifier
import Typewright.Text.Printable
import Typewright.Text.Quoted
import Typewright.Text.Ranges
import Typewright.Text.Split
import Typewright.Text.Utf8
import Typewright.Proofs.MemberTemplates
import Typewright.Proofs.Basic
import Typewright.Vocabulary
import Typewright.Proofs.Layout
import Typewright.Proofs.Visibility
import Typewright.Proofs.Requirements
import Typewright.Proofs.JsonText
import Typewright.Proofs.SettingsFile
import Typewright.Proofs.TypeLines
import Typewright.Proofs.WordTexts
import Typewright.Proofs.Unambiguous
import Typewright.Proofs.Matching
import Typewright.Proofs.EnoughSteps
import Typewright.Proofs.Spelling
import Typewright.Proofs.Foresight
import Typewright.Proofs.Lexemes
import Typewright.Proofs.MemberTrees
import Typewright.Proofs.TypeTrees
import Typewright.Proofs.SpelledFile
import Typewright.Proofs.ReadBack
import Typewright.Proofs.Skeleton
import Typewright.Proofs.WellNested
import Typewright.Proofs.Braces
import Typewright.Proofs.BalancedText
import Typewright.Proofs.FileChanges
import Typewright.Proofs.Freshness
import Typewright.Proofs.Shadowing
import Typewright.Proofs.Independence
import Typewright.Proofs.Precedence
import Typewright.Proofs.Overrides
import Typewright.Proofs.Declared
import Typewright.Proofs.DeclaredText
import Typewright.Proofs.TreeShapes
import Typewright.Proofs.Places
import Typewright.Proofs.PlainMembers
import Typewright.Proofs.RenderLog
import Typewright.Proofs.InnermostNamespace
import Typewright.Proofs.Surface
import Typewright.Proofs.SetupHistory
import Typewright.Proofs.Undisturbed
