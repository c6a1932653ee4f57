import Lexkit.Position

/-!
# Errors

Scanning ends in one of three ways: a match, no match, or malformed input. Malformed input is a
construct that was opened and cannot be completed; the error says where that was found out. A
configuration error is raised before anything is scanned.
-/

namespace Lexkit

/-- Malformed input. -/
inductive ScanError where
  /-- A block comment is open and its end mark does not come. -/
  | missingEndComment (mark : Text) (position : Position)
  /-- A quoted identifier is open and its end character does not come. -/
  | unclosedQuote (quote : Char) (position : Position)
  /-- A quoted identifier is empty. -/
  | zeroLengthIdentifier (position : Position)
  deriving DecidableEq, Repr

namespace ScanError

def position : ScanError → Position
  | missingEndComment _ position => position
  | unclosedQuote _ position => position
  | zeroLengthIdentifier position => position

def message : ScanError → String
  | missingEndComment mark _ => "Missing end comment mark '" ++ String.ofList mark ++ "'."
  | unclosedQuote quote _ => "Unclosed quotation mark '" ++ quote.toString ++ "'."
  | zeroLengthIdentifier _ => "Invalid zero length identifier."

end ScanError

/-- A scanner that cannot be built as asked. -/
inductive ConfigError where
  | emptyQuoteSet
  | emptyCommentMark
  | invalidPattern
  | unknownStrategy (name : String)
  deriving DecidableEq, Repr

namespace ConfigError

def message : ConfigError → String
  | emptyQuoteSet => "At least one start/end symbol pair must be provided!"
  | emptyCommentMark => "Comment start and end marks must not be empty."
  | invalidPattern => "invalid pattern"
  | unknownStrategy name => "unknown strategy `" ++ name ++ "`"

end ConfigError

end Lexkit
