import Lexkit.Position
import Lexkit.Text.Literal

/-!
# SQL tokens

The pieces of a script: what stands between the others (trivia), names, quoted names, numbers and
symbols, each with the position of its first character.
-/

namespace Lexkit.Sql

/-- What a token stands for. -/
inductive Lexeme where
  /-- Whitespace and comments. -/
  | trivia (text : Text)
  | identifier (name : Text)
  /-- A quoted name without its quotes. -/
  | quoted (name : Text)
  | number (text : Text)
  | symbol (ch : Char)
  deriving DecidableEq, Repr

namespace Lexeme

def kind : Lexeme → String
  | trivia _ => "Trivia"
  | identifier _ => "Identifier"
  | quoted _ => "Quoted"
  | number _ => "Number"
  | symbol _ => "Symbol"

def text : Lexeme → Text
  | trivia text => text
  | identifier name => name
  | quoted name => name
  | number text => text
  | symbol ch => [ch]

def isTrivia : Lexeme → Bool
  | trivia _ => true
  | _ => false

end Lexeme

/-- A lexeme and the position of its first character. -/
structure Token where
  lexeme : Lexeme
  position : Position
  deriving DecidableEq, Repr

namespace Token

/-- Fills a column with spaces up to a width. -/
def pad (width : Nat) (column : String) : String :=
  column ++ String.ofList (List.replicate (width - column.length) ' ')

/-- A line of a listing: position, kind and text in columns. Trivia is quoted. -/
def display (token : Token) : String :=
  let text :=
    match token.lexeme with
    | .trivia text => Literal.text text
    | lexeme => String.ofList lexeme.text
  pad 24 token.position.display ++ " " ++ pad 10 token.lexeme.kind.toLower ++ " " ++ text

end Token

end Lexkit.Sql
