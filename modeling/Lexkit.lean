import Lexkit.Buffer
import Lexkit.CommandLine
import Lexkit.Comment.Block
import Lexkit.Comment.Line
import Lexkit.Compiled
import Lexkit.Cursor
import Lexkit.Error
import Lexkit.Event
import Lexkit.ExpectedChars
import Lexkit.Fault
import Lexkit.Identifier
import Lexkit.Lexer
import Lexkit.Main
import Lexkit.Pattern
import Lexkit.Pattern.CharSet
import Lexkit.Pattern.Expr
import Lexkit.Pattern.Program
import Lexkit.Pattern.Reader
import Lexkit.Pattern.Reader.Basic
import Lexkit.Pattern.Reader.Class
import Lexkit.Pattern.Reader.Escape
import Lexkit.Position
import Lexkit.Proofs.Comment.Block
import Lexkit.Proofs.Comment.Line
import Lexkit.Proofs.Cursor
import Lexkit.Proofs.ExpectedChars
import Lexkit.Proofs.Identifier
import Lexkit.Proofs.Lexer
import Lexkit.Proofs.Pattern
import Lexkit.Proofs.Quote
import Lexkit.Proofs.Scan
import Lexkit.Proofs.Scanner
import Lexkit.Proofs.Slice.Escape
import Lexkit.Proofs.Sql.Number
import Lexkit.Proofs.Sql.Tokenizer
import Lexkit.Proofs.Text.Utf8
import Lexkit.Proofs.Whitespace
import Lexkit.Quote
import Lexkit.Rule
import Lexkit.Scan
import Lexkit.Scanner
import Lexkit.Slice
import Lexkit.Slice.Escape
import Lexkit.Sql.Token
import Lexkit.Sql.Tokenizer
import Lexkit.Strategy
import Lexkit.Text.Basic
import Lexkit.Text.Classes
import Lexkit.Text.Literal
import Lexkit.Text.Property.Alphabetic
import Lexkit.Text.Property.Blank
import Lexkit.Text.Property.CaseFold
import Lexkit.Text.Property.Decimal
import Lexkit.Text.Property.Hidden
import Lexkit.Text.Property.Joiner
import Lexkit.Text.Property.Letter
import Lexkit.Text.Property.Numeric
import Lexkit.Text.Utf8
import Lexkit.Whitespace
import Lexkit.Proofs.QuickCheck
import Lexkit.Proofs.Whitespace.Order
import Lexkit.Proofs.Sql.FlatComments
import Lexkit.Proofs.Whitespace.Start
import Lexkit.Proofs.Sql.Munch
import Lexkit.Proofs.Position
import Lexkit.Proofs.Counterpart
import Lexkit.Proofs.Scanner.Ahead
import Lexkit.Proofs.Lexer.Ahead
import Lexkit.Proofs.Lexer.Run
import Lexkit.Proofs.Sql.Resume
import Lexkit.Proofs.Whitespace.Failure
import Lexkit.Proofs.Sql.ErrorPlace
import Lexkit.Proofs.Lexer.Protocol
import Lexkit.Proofs.Comment.Nesting
import Lexkit.Proofs.Scanner.Limit
import Lexkit.Proofs.Cursor.Session
import Lexkit.Proofs.Scanner.Events
import Lexkit.Proofs.Scanner.Safety
import Lexkit.Proofs.Slice.Runs
import Lexkit.Proofs.Quote.RoundTrip
import Lexkit.Proofs.Quote.Outcome
import Lexkit.Proofs.Lexer.Selection
import Lexkit.Proofs.Whitespace.Maximal
import Lexkit.Proofs.Comment.Closing
import Lexkit.Proofs.Slice.Doubling
import Lexkit.Proofs.ExpectedChars.Canonical
import Lexkit.Proofs.Position.Order
import Lexkit.Proofs.Cursor.Walk
import Lexkit.Pattern.Matcher
import Lexkit.Proofs.Scan.Loop
import Lexkit.Proofs.Scanner.Contract
import Lexkit.Scan.Loop
