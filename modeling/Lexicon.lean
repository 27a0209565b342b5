import Lexicon.Catalog.Basic
import Lexicon.Catalog.Cursor
import Lexicon.Catalog.Entries
import Lexicon.Catalog.Symbols
import Lexicon.Catalog.Workspace
import Lexicon.Decimal.Shortest
import Lexicon.Definition
import Lexicon.Emission
import Lexicon.Emission.Reading
import Lexicon.Expression.Bracket
import Lexicon.Expression.Compile
import Lexicon.Expression.Encoding
import Lexicon.Expression.Escape
import Lexicon.Expression.Fault
import Lexicon.Expression.Form
import Lexicon.Expression.Meaning
import Lexicon.Expression.Program
import Lexicon.Expression.Reader
import Lexicon.Expression.Reading
import Lexicon.Expression.Recall
import Lexicon.Expression.Search
import Lexicon.Expression.Size
import Lexicon.Expression.Span
import Lexicon.Expression.Token
import Lexicon.Expression.Tree
import Lexicon.Failure
import Lexicon.Floating
import Lexicon.Handle
import Lexicon.Key
import Lexicon.Pattern
import Lexicon.Proofs.Catalog.Account
import Lexicon.Proofs.Catalog.Blame
import Lexicon.Proofs.Catalog.Changes
import Lexicon.Proofs.Catalog.Commuting
import Lexicon.Proofs.Catalog.Construction
import Lexicon.Proofs.Catalog.Cursors
import Lexicon.Proofs.Catalog.Entries
import Lexicon.Proofs.Catalog.Frame
import Lexicon.Proofs.Catalog.History
import Lexicon.Proofs.Catalog.Identity
import Lexicon.Proofs.Catalog.IntegerKeys
import Lexicon.Proofs.Catalog.Interchange
import Lexicon.Proofs.Catalog.Kinds
import Lexicon.Proofs.Catalog.Made
import Lexicon.Proofs.Catalog.NextIndex
import Lexicon.Proofs.Catalog.Priority
import Lexicon.Proofs.Catalog.Pushing
import Lexicon.Proofs.Catalog.Rebuilding
import Lexicon.Proofs.Catalog.Selection
import Lexicon.Proofs.Catalog.Undoing
import Lexicon.Proofs.Catalog.Validity
import Lexicon.Proofs.Catalog.Views
import Lexicon.Proofs.Definition
import Lexicon.Proofs.Definition.Building
import Lexicon.Proofs.Emission.Restoring
import Lexicon.Proofs.Emission.RoundTrip
import Lexicon.Proofs.Expression.Fronting
import Lexicon.Proofs.Expression.Making
import Lexicon.Proofs.Expression.Outermost
import Lexicon.Proofs.Expression.Placement
import Lexicon.Proofs.Expression.Searching
import Lexicon.Proofs.Expression.Takes
import Lexicon.Proofs.Expression.Trailing
import Lexicon.Proofs.Expression.TrailingClass
import Lexicon.Proofs.Expression.TrailingToken
import Lexicon.Proofs.Expression.Wrapping
import Lexicon.Proofs.Pattern.Agreement
import Lexicon.Proofs.Pattern.Anchored
import Lexicon.Proofs.Pattern.Plain
import Lexicon.Proofs.Pattern.Validity
import Lexicon.Proofs.Scan
import Lexicon.Proofs.Symbol.Equality
import Lexicon.Proofs.Text.Delimiting
import Lexicon.Proofs.Text.Literal
import Lexicon.Record
import Lexicon.Scalar
import Lexicon.Scan
import Lexicon.Symbol
import Lexicon.Text.Columns
import Lexicon.Text.Dump
import Lexicon.Text.Grid
import Lexicon.Text.Hex
import Lexicon.Text.Ligature
import Lexicon.Text.Lines
import Lexicon.Text.Literal
import Lexicon.Text.Quoted
import Lexicon.Text.Words
import Lexicon.Typed
import Lexicon.Unicode.Age
import Lexicon.Unicode.Binary
import Lexicon.Unicode.Category
import Lexicon.Unicode.CharSet
import Lexicon.Unicode.Folding
import Lexicon.Unicode.OtherNames
import Lexicon.Unicode.Property
import Lexicon.Unicode.Script
import Lexicon.Unicode.ScriptExtension
import Lexicon.Unicode.Segmentation
import Lexicon.Unicode.Visible
import Lexicon.Unicode.Width
import Lexicon.Validator
