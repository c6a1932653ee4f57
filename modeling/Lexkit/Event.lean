import Lexkit.Error
import Lexkit.Strategy
import Lexkit.Text.Literal

/-!
# Events

What scanners and lexers tell about their work while they run. An event has a level, a message and
named fields; the constructors carry the values and the functions below write them out.
-/

namespace Lexkit

/-- How much an event matters. -/
inductive Level where
  | trace
  | debug
  | warn
  deriving DecidableEq, Repr

def Level.name : Level → String
  | .trace => "TRACE"
  | .debug => "DEBUG"
  | .warn => "WARN"

/-- Something that happened during a scan. -/
inductive Event where
  /-- A quoted identifier that starts at an offset is not closed. -/
  | unclosedQuote (start : Nat) (quote : Char)
  /-- A block comment lacks its end mark at a position. -/
  | unterminatedComment (position : Position) (mark : Text)
  /-- An identifier was found at an offset. -/
  | identifier (start size : Nat)
  /-- A named scanner starts. -/
  | entered (name : Text) (position : Position)
  /-- A named scanner matched a text. -/
  | matched (name : Text) (text : Text)
  /-- A named scanner did not match at the start of the remaining text. -/
  | noMatch (name : Text) (remaining : Text)
  /-- A named scanner met malformed input. -/
  | malformed (name : Text) (error : ScanError)
  /-- A lexing rule matched and consumed nothing. -/
  | idleRule (offset : Nat)
  /-- No lexing rule matched at an offset, before the given character. -/
  | noRule (offset : Nat) (current : Option Char)
  | tokenized (count : Nat) (stuckAt : Option Position) (strategy : Strategy) (flatComments : Bool)
  deriving DecidableEq, Repr

namespace Event

def level : Event → Level
  | unclosedQuote .. | unterminatedComment .. | identifier .. => .trace
  | entered .. | matched .. | noMatch .. | malformed .. | tokenized .. => .debug
  | idleRule .. | noRule .. => .warn

def message : Event → String
  | unclosedQuote .. => "unclosed quoted identifier"
  | unterminatedComment .. => "unterminated block comment"
  | identifier .. => "custom identifier"
  | entered .. => "scan"
  | matched .. => "matched"
  | noMatch .. => "no match"
  | malformed .. => "malformed"
  | idleRule .. => "rule matched without consuming input"
  | noRule .. => "no rule matched"
  | tokenized .. => "tokenized"

def positionRecord (position : Position) : String :=
  Literal.record "Position" [("offset", toString position.offset), ("line", toString position.line),
    ("column", toString position.column)]

/-- The named fields, in order. -/
def fields : Event → List (String × String)
  | unclosedQuote start quote => [("start", toString start), ("quote", quote.toString)]
  | unterminatedComment position mark =>
    [("position", position.display), ("mark", String.ofList mark)]
  | identifier start size => [("start", toString start), ("len", toString size)]
  | entered name position => [("scanner", String.ofList name), ("position", position.display)]
  | matched name text => [("scanner", String.ofList name), ("matched", String.ofList text)]
  | noMatch name remaining =>
    [("scanner", String.ofList name), ("remaining", String.ofList remaining)]
  | malformed name error =>
    [("scanner", String.ofList name), ("position", error.position.display),
      ("error", error.message)]
  | idleRule offset => [("offset", toString offset)]
  | noRule offset current =>
    [("offset", toString offset), ("current", Literal.option (current.map Literal.char))]
  | tokenized count stuckAt strategy flatComments =>
    [("count", toString count), ("stuck_at", Literal.option (stuckAt.map positionRecord)),
      ("options", Literal.record "Options"
        [("strategy", strategy.describe), ("flat_comments", toString flatComments)])]

end Event

end Lexkit
