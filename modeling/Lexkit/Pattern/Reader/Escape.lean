import Lexkit.Pattern.Reader.Basic

/-!
# Reading patterns: escapes

What a backslash and the characters after it stand for: a character, a class or a condition.
-/

namespace Lexkit.Pattern

/-- What one place of a pattern can be. -/
inductive Primitive where
  | literal (ch : Char)
  | set (chars : CharSet)
  | look (condition : Look)
  deriving DecidableEq, Repr

namespace Escape

def hexValue (ch : Char) : Option Nat :=
  if '0' ≤ ch ∧ ch ≤ '9' then some (ch.toNat - '0'.toNat)
  else if 'a' ≤ ch ∧ ch ≤ 'f' then some (ch.toNat - 'a'.toNat + 10)
  else if 'A' ≤ ch ∧ ch ≤ 'F' then some (ch.toNat - 'A'.toNat + 10)
  else none

def hexNumber (digits : Text) : Option Nat :=
  digits.foldlM (fun number digit => (hexValue digit).map (number * 16 + ·)) 0

def scalar (number : Nat) : Except PatternError Char :=
  if number.isValidChar then .ok (Char.ofNat number) else .error .badEscape

/-- Exactly `count` hexadecimal digits. -/
def hexDigits (flags : Flags) : (count number : Nat) → Text → Except PatternError (Nat × Text)
  | 0, number, text => .ok (number, text)
  | count + 1, number, text =>
    match text with
    | [] => .error .badEscape
    | ch :: rest =>
      match hexValue ch with
      | some digit => hexDigits flags count (number * 16 + digit) (flags.skipSpace rest)
      | none => .error .badEscape

/-- A character by its number: digits in braces, or as many as the escape takes. -/
def hex (flags : Flags) (count : Nat) (text : Text) : Except PatternError (Char × Text) := do
  match flags.skipSpace text with
  | '\x7b' :: rest =>
    match flags.braced rest with
    | none => throw .badEscape
    | some (digits, rest) =>
      if digits.isEmpty then throw .badEscape
      match hexNumber digits with
      | none => throw .badEscape
      | some number => return (← scalar number, rest)
  | rest =>
    let (number, rest) ← hexDigits flags count 0 rest
    return (← scalar number, rest)

def asciiWord : CharSet := .ofRanges [('0', '9'), ('A', 'Z'), ('_', '_'), ('a', 'z')]

def wordChars (flags : Flags) : CharSet := if flags.unicode then .named .word else asciiWord

/-- The classes written with one letter; an upper case letter takes what the lower case one
leaves. -/
def letterClass (flags : Flags) (letter : Char) : CharSet :=
  let set : CharSet :=
    match letter.toLower with
    | 'd' => if flags.unicode then .named .decimal else .range '0' '9'
    | 's' => if flags.unicode then .named .blank else .ofRanges [('\t', '\r'), (' ', ' ')]
    | _ => wordChars flags
  if letter.isUpper then .compl set else set

/-- The name of a class without the characters that do not matter in it. -/
def plainName (name : Text) : Text :=
  (name.filter fun ch => ch != ' ' && ch != '_' && ch != '-').map Char.toLower

def classNamed? (name : Text) : Option CharSet :=
  match String.ofList (plainName name) with
  | "alphabetic" | "alpha" => some (.named .alphabetic)
  | "l" | "letter" => some (.named .letter)
  | "n" | "number" => some (.named .numeric)
  | "nd" | "decimalnumber" | "digit" => some (.named .decimal)
  | "whitespace" | "space" | "wspace" => some (.named .blank)
  | "any" => some (.compl .none)
  | "ascii" => some .ascii
  | _ => none

def namedClass (flags : Flags) (negated : Bool) (text : Text) :
    Except PatternError (CharSet × Text) := do
  let (name, rest) ←
    match flags.skipSpace text with
    | [] => throw .badEscape
    | '\x7b' :: rest =>
      match flags.braced rest with
      | some (name, rest) => pure (name, rest)
      | none => throw .badEscape
    | ch :: rest => pure ([ch], rest)
  if !flags.unicode then throw .notText
  match classNamed? name with
  | some set => return (flags.foldAndNegate negated set, rest)
  | none => throw .unknownClass

def metaChars : List Char :=
  ['\\', '.', '+', '*', '?', '(', ')', '|', '[', ']', '\x7b', '\x7d', '^', '$', '#', '&', '-', '~']

/-- Whether a backslash before a character makes it stand for itself. -/
def isEscapable (ch : Char) : Bool :=
  metaChars.contains ch || (ch.toNat < 0x80 && !ch.isAlphanum && ch != '<' && ch != '>')

def edgeNamed? (name : Text) : Option WordEdge :=
  match String.ofList name with
  | "start" => some .start
  | "end" => some .stop
  | "start-half" => some .startHalf
  | "end-half" => some .stopHalf
  | _ => none

/-- A boundary of words. Braces after it name an edge, unless they hold the count of a
repetition. -/
def wordEdge (flags : Flags) (text : Text) : Except PatternError (WordEdge × Text) :=
  match text with
  | '\x7b' :: inside =>
    match flags.skipSpace inside with
    | [] => .error .badEscape
    | ch :: _ =>
      if ch.isAlpha || ch == '-' then
        match flags.braced inside with
        | none => .error .badEscape
        | some (name, rest) =>
          match edgeNamed? name with
          | some edge => .ok (edge, rest)
          | none => .error .badEscape
      else .ok (.boundary, text)
  | _ => .ok (.boundary, text)

def read (flags : Flags) (text : Text) : Except PatternError (Primitive × Text) :=
  match text with
  | [] => .error .badEscape
  | ch :: rest =>
    if ch.isDigit then .error .backReference
    else if isEscapable ch then .ok (.literal ch, rest)
    else
      match ch with
      | 'x' => (hex flags 2 rest).map fun (code, rest) => (.literal code, rest)
      | 'u' => (hex flags 4 rest).map fun (code, rest) => (.literal code, rest)
      | 'U' => (hex flags 8 rest).map fun (code, rest) => (.literal code, rest)
      | 'p' => (namedClass flags false rest).map fun (set, rest) => (.set set, rest)
      | 'P' => (namedClass flags true rest).map fun (set, rest) => (.set set, rest)
      | 'd' | 's' | 'w' | 'D' | 'S' | 'W' => .ok (.set (letterClass flags ch), rest)
      | 'a' => .ok (.literal '\x07', rest)
      | 'f' => .ok (.literal '\x0c', rest)
      | 't' => .ok (.literal '\t', rest)
      | 'n' => .ok (.literal '\n', rest)
      | 'r' => .ok (.literal '\r', rest)
      | 'v' => .ok (.literal '\x0b', rest)
      | 'A' => .ok (.look .textStart, rest)
      | 'z' => .ok (.look .textEnd, rest)
      | 'b' =>
        (wordEdge flags rest).map fun (edge, rest) => (.look (.word edge (wordChars flags)), rest)
      | 'B' => .ok (.look (.word .interior (wordChars flags)), rest)
      | '<' => .ok (.look (.word .start (wordChars flags)), rest)
      | '>' => .ok (.look (.word .stop (wordChars flags)), rest)
      | _ => .error .badEscape

end Escape

end Lexkit.Pattern
