import Lexkit.Lexer
import Lexkit.Sql.Token

/-!
# The SQL tokenizer

Cuts a script into tokens. Whitespace and comments come before everything else, so that a hyphen or
a slash that starts a comment is no symbol.
-/

namespace Lexkit.Sql

/-- How a script is cut. -/
structure Options where
  strategy : Strategy
  /-- Whether a comment inside a comment is an error. -/
  flatComments : Bool
  deriving DecidableEq, Repr

namespace Options

def initial : Options := ⟨.interpreted, false⟩

end Options

/-- The characters that are tokens by themselves. -/
def symbols : List Char := [',', ';', '.', '(', ')', '*', '=', '<', '>', '+', '-', '/']

def isSymbol (ch : Char) : Bool := symbols.contains ch

def whitespace (options : Options) : Whitespace :=
  ⟨[.blanks, .line .sql, .block (if options.flatComments then .cStyle else .sql)]⟩

/-- Digits, and a fraction if digits follow the point. -/
def numberExpr : Pattern.Expr :=
  let digits := Pattern.Expr.plus (.set (.range '0' '9')) true
  .concat digits (.optional (.concat (.set (.singleton '.')) digits) true)

def numberProgram : Pattern.Program := .ofExpr (.concat (.look .textStart) numberExpr)

def number : Pattern where
  source := "[0-9]+(\\.[0-9]+)?".toList
  matcher := numberProgram.matcher

/-- The program for numbers is the one that its source writes. -/
theorem make_number_source : Pattern.make number.source = .ok number := rfl

def symbolRule : Rule Token where
  priority := 0
  quickCheck := fun next => some (next.any isSymbol)
  tryMatch := do
    let cursor ← Scan.here
    match cursor.peek with
    | none => return none
    | some ch =>
      if isSymbol ch then
        Scan.goTo cursor.advance
        return some ⟨.symbol ch, cursor.position⟩
      else return none

/-- A rule that makes tokens of one kind. -/
def rule (options : Options) (scanner : Scanner) (priority : Int) (kind : Text → Lexeme) :
    Rule Token :=
  .ofScanner scanner options.strategy priority fun slice position => ⟨kind slice.text, position⟩

def rules (options : Options) : List (Rule Token) :=
  [rule options (.whitespace (whitespace options)) 40 .trivia,
    rule options (.quoted .sql) 30 .quoted,
    rule options (.pattern number) 20 .number,
    rule options (.identifier .simpleSql) 10 .identifier,
    symbolRule]

/-- The rules are given in the order in which they are tried. -/
theorem make_rules (options : Options) : Lexer.make (rules options) = ⟨rules options⟩ := by
  apply Lexer.make_of_pairwise
  simp [rules, rule, symbolRule]

/-- The tokens of a script, and the place before a character that no rule accepts. -/
structure Tokenized where
  tokens : List Token
  stuckAt : Option Position
  deriving DecidableEq, Repr

/-- Cuts a script into tokens, and tells how many there are. -/
def tokenizeScan (options : Options) : Scan Tokenized := do
  let tokens ← (Lexer.make (rules options)).tokenize
  let cursor ← Scan.here
  let stuckAt := if cursor.atEnd then none else some cursor.position
  Scan.tell (.tokenized tokens.length stuckAt options.strategy options.flatComments)
  return ⟨tokens, stuckAt⟩

def tokenize (source : Text) (options : Options) : Except Halt Tokenized :=
  (tokenizeScan options (.ofText source)).outcome

def errorMessage (error : ScanError) : String :=
  error.message ++ " at " ++ error.position.display

end Lexkit.Sql
