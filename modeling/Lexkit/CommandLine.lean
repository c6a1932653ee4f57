import Lexkit.Sql.Tokenizer

/-!
# The command line

The command lists the tokens of a script. Arguments are handled in order, and the first one that is
wrong or asks for help ends the run. Nothing here reads or prints: a run is what is written to the
two streams and the exit code.
-/

namespace Lexkit.CommandLine

open Sql

/-- What a run writes and how it ends. -/
structure Report where
  stdout : String
  stderr : String
  code : UInt32
  deriving DecidableEq, Repr

structure Request where
  options : Options
  showTrivia : Bool
  /-- The script; standard input when there is none. -/
  file : Option String
  deriving DecidableEq, Repr

def Request.initial : Request := ⟨.initial, false, none⟩

/-- Why a script cannot be read. -/
inductive ReadError where
  | missing
  | notUtf8
  deriving DecidableEq, Repr

def ReadError.message : ReadError → String
  | missing => "No such file or directory (os error 2)"
  | notUtf8 => "stream did not contain valid UTF-8"

/-- The text of a script that is given as bytes. -/
def decode (bytes : ByteArray) : Except ReadError Text :=
  match String.fromUTF8? bytes with
  | some source => .ok source.toList
  | none => .error .notUtf8

def lines (all : List String) : String := String.join (all.map (· ++ "\n"))

def usage : String :=
  lines
    ["Usage: sql-tokens [options] [file]",
      "",
      "Options:",
      "  --strategy=<name>   interpreted (default) or compiled",
      "  --flat-comments     Reject nested /* */ comments",
      "  --trivia            Also print whitespace and comments",
      "  -h, --help          Show this help"]

def failure (message : String) : Report := ⟨"", lines ["error: " ++ message], 1⟩

/-- The text after the name of an option, if it is that option. -/
def optionValue? (option arg : String) : Option String :=
  if option.toList.isPrefixOf arg.toList then
    some (String.ofList (arg.toList.drop option.toList.length))
  else none

/-- Handles one argument; a report ends the run. -/
def Request.add (request : Request) (arg : String) : Except Report Request :=
  match optionValue? "--strategy=" arg with
  | some name =>
    match Strategy.ofName name with
    | .ok strategy => .ok { request with options := { request.options with strategy } }
    | .error error => .error (failure error.message)
  | none =>
    if arg = "--flat-comments" then
      .ok { request with options := { request.options with flatComments := true } }
    else if arg = "--trivia" then .ok { request with showTrivia := true }
    else if arg = "-h" ∨ arg = "--help" then .error ⟨"", usage, 0⟩
    else if ['-'].isPrefixOf arg.toList then
      let report := failure ("unknown option `" ++ arg ++ "`")
      .error { report with stderr := report.stderr ++ usage }
    else
      match request.file with
      | none => .ok { request with file := some arg }
      | some _ => .ok request

def parse (args : List String) : Except Report Request := args.foldlM Request.add .initial

/-- Lists the tokens of a script. -/
def Request.list (request : Request) (source : Text) : Report :=
  match tokenize source request.options with
  | .ok result =>
    let shown := result.tokens.filter fun token => request.showTrivia || !token.lexeme.isTrivia
    let stdout := lines (shown.map Token.display)
    match result.stuckAt with
    | some position =>
      { failure ("unexpected character at " ++ position.display) with stdout }
    | none => ⟨stdout, "", 0⟩
  | .error (.malformed error) => failure (errorMessage error)
  | .error (.fault _) => failure "internal error"

/-- The run on what was read from the file or from standard input. -/
def Request.report (request : Request) (source : Except ReadError Text) : Report :=
  match source with
  | .ok text => request.list text
  | .error error =>
    failure ("cannot read " ++ request.file.getD "<stdin>" ++ ": " ++ error.message)

end Lexkit.CommandLine
