import RiddlEditor.Main
import RiddlEditor.Session
import RiddlEditor.Lexeme.Scanner
import RiddlEditor.Proofs.Revalidation.Newest
import RiddlEditor.Proofs.Revalidation.Quiescence
import RiddlEditor.Proofs.Revalidation.Requests
import RiddlEditor.Proofs.Revalidation.Isolation
import RiddlEditor.Proofs.Text.Lines
import RiddlEditor.Proofs.Text.Place
import RiddlEditor.Proofs.Lexeme.Place
import RiddlEditor.Proofs.Diagnostic.Reconcile
import RiddlEditor.Proofs.Text.ControlSequence
import RiddlEditor.Proofs.Compiler.Brackets
import RiddlEditor.Proofs.Compiler.Definitions
import RiddlEditor.Proofs.Compiler.Findings
import RiddlEditor.Proofs.Compiler.Presentation
import RiddlEditor.Proofs.Lexeme.Cover
import RiddlEditor.Proofs.Query.Names
import RiddlEditor.Proofs.Query.Colouring
import RiddlEditor.Proofs.Query.Wire
import RiddlEditor.Proofs.Query.Definition
import RiddlEditor.Proofs.Client.Lines
import RiddlEditor.Proofs.Client.Position
import RiddlEditor.Proofs.Client.Colouring
import RiddlEditor.Proofs.Lexeme.FirstLine
import RiddlEditor.Proofs.Lexeme.Below
import RiddlEditor.Proofs.Query.Above
import RiddlEditor.Proofs.Text.LineFeeds
import RiddlEditor.Proofs.Lexeme.LineFeeds
import RiddlEditor.Proofs.Query.LineFeeds
import RiddlEditor.Proofs.Revalidation.Timeline
import RiddlEditor.Proofs.Client.Publishing
import RiddlEditor.Proofs.TokenStream.Order
import RiddlEditor.Proofs.Query.Failures
import RiddlEditor.Proofs.Diagnostic.Failures
import RiddlEditor.Proofs.Compiler.Highlights
import RiddlEditor.Proofs.Compiler.Nesting
import RiddlEditor.Proofs.Lexeme.Grammar
import RiddlEditor.Proofs.Lexeme.IllFormed
import RiddlEditor.Proofs.Compiler.Unnamed
import RiddlEditor.Proofs.Diagnostic.Inside
import RiddlEditor.Proofs.Compiler.Ranges
import RiddlEditor.Proofs.Lexeme.Layout
import RiddlEditor.Proofs.Text.Cut
import RiddlEditor.Proofs.Text.Stretch
import RiddlEditor.Proofs.Lexeme.UnderCursor
import RiddlEditor.Proofs.Diagnostic.QuotedNames
import RiddlEditor.Proofs.Diagnostic.Named
import RiddlEditor.Proofs.Diagnostic.Fallback
import RiddlEditor.Proofs.Diagnostic.Wording
import RiddlEditor.Proofs.Diagnostic.Repeated
import RiddlEditor.Proofs.Diagnostic.Hidden
import RiddlEditor.Proofs.Revalidation.Clock
import RiddlEditor.Proofs.Revalidation.Deadlines
import RiddlEditor.Proofs.Revalidation.Records
import RiddlEditor.Proofs.Revalidation.Behind
import RiddlEditor.Proofs.Revalidation.Shutdown
import RiddlEditor.Proofs.StableSort
import RiddlEditor.Proofs.Query.RoundTrip
import RiddlEditor.Proofs.Query.Defining
import RiddlEditor.Proofs.Query.ExtraKeywords
import RiddlEditor.Proofs.Compiler.Reports
import RiddlEditor.Proofs.Query.Hover
import RiddlEditor.Proofs.Text.Lowercase
import RiddlEditor.Proofs.Initialization
import RiddlEditor.Proofs.Text.Splitting
import RiddlEditor.Proofs.Text.Locality
import RiddlEditor.Proofs.Diagnostic.Answers
