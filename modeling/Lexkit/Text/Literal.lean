import Lexkit.Text.Basic
import Lexkit.Text.Classes

/-!
# Quoted forms

A text or character written between quotes so that every character of it can be seen: the usual
escapes for tab, line ends, NUL, backslash and the quote itself, and a number in braces for a
character without a glyph.
-/

namespace Lexkit.Literal

/-- One character inside a form delimited by `quote`. -/
def escape (quote ch : Char) : Text :=
  if ch == '\x00' then ['\\', '0']
  else if ch == '\t' then ['\\', 't']
  else if ch == '\r' then ['\\', 'r']
  else if ch == '\n' then ['\\', 'n']
  else if ch == '\\' || ch == quote then ['\\', ch]
  else if Text.isHidden ch then ['\\', 'u', '\x7b'] ++ Nat.toDigits 16 ch.toNat ++ ['\x7d']
  else [ch]

def text (content : Text) : String :=
  String.ofList ('"' :: content.flatMap (escape '"') ++ ['"'])

def char (ch : Char) : String :=
  String.ofList ('\x27' :: escape '\x27' ch ++ ['\x27'])

def option (value : Option String) : String :=
  match value with
  | some value => "Some(" ++ value ++ ")"
  | none => "None"

def list (values : List String) : String :=
  "[" ++ ", ".intercalate values ++ "]"

/-- A name with the parts it holds between braces. -/
def braces (name : String) (parts : List String) : String :=
  name ++ " \x7b " ++ ", ".intercalate parts ++ " \x7d"

def record (name : String) (fields : List (String × String)) : String :=
  braces name (fields.map fun field => field.1 ++ ": " ++ field.2)

/-- A record that has further fields than the ones written. -/
def openRecord (name : String) (fields : List (String × String)) : String :=
  braces name (fields.map (fun field => field.1 ++ ": " ++ field.2) ++ [".."])

end Lexkit.Literal
