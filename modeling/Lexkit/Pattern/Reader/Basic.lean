import Lexkit.Pattern.Expr
import Lexkit.Text.Basic

/-!
# Reading patterns: errors, flags and spaces

What can be wrong with a pattern, the flags that change how the text after them is read, and the
spaces and comments that verbose patterns may hold between their parts.
-/

namespace Lexkit.Pattern

inductive PatternError where
  | nothingToRepeat
  | badCount
  | unopenedGroup
  | unclosedGroup
  | lookAround
  | badGroupName
  | repeatedGroupName
  | badFlags
  | badEscape
  | backReference
  | unknownClass
  | unclosedClass
  | badClassItem
  | reversedRange
  /-- The pattern asks for bytes that are no characters. -/
  | notText
  | tooDeep
  | tooLarge
  deriving DecidableEq, Repr

/-- How the text that follows is read. -/
structure Flags where
  ignoreCase : Bool
  /-- `^` and `$` stand at line ends. -/
  multiLine : Bool
  /-- `.` takes line feeds. -/
  dotAll : Bool
  /-- Repetitions are lazy, and a `?` after them makes them greedy. -/
  swapGreed : Bool
  /-- Carriage returns end lines. -/
  crlf : Bool
  /-- Spaces and comments are skipped. -/
  verbose : Bool
  /-- Classes and case variants are those of Unicode. -/
  unicode : Bool
  deriving DecidableEq, Repr

namespace Flags

def initial : Flags := ⟨false, false, false, false, false, false, true⟩

def set? (flags : Flags) (letter : Char) (value : Bool) : Option Flags :=
  match letter with
  | 'i' => some { flags with ignoreCase := value }
  | 'm' => some { flags with multiLine := value }
  | 's' => some { flags with dotAll := value }
  | 'U' => some { flags with swapGreed := value }
  | 'R' => some { flags with crlf := value }
  | 'x' => some { flags with verbose := value }
  | 'u' => some { flags with unicode := value }
  | _ => none

/-- The text after spaces and comments; a comment runs to the end of its line. -/
def skipComments : (inComment : Bool) → Text → Text
  | _, [] => []
  | true, ch :: text => skipComments (ch != '\n') text
  | false, ch :: text =>
    if Text.isBlank ch then skipComments false text
    else if ch == '#' then skipComments true text
    else ch :: text

def skipSpace (flags : Flags) (text : Text) : Text :=
  if flags.verbose then skipComments false text else text

/-- The characters up to a closing brace without what is skipped, and the text after the brace. -/
def upToBrace (flags : Flags) : (fuel : Nat) → Text → Option (Text × Text)
  | 0, _ => none
  | fuel + 1, text =>
    match flags.skipSpace text with
    | [] => none
    | '\x7d' :: rest => some ([], rest)
    | ch :: rest => (flags.upToBrace fuel rest).map fun (inside, rest) => (ch :: inside, rest)

def braced (flags : Flags) (text : Text) : Option (Text × Text) :=
  flags.upToBrace (text.length + 1) text

/-- The case variants of a set when case is ignored, and the set itself otherwise. -/
def fold (flags : Flags) (set : CharSet) : CharSet :=
  if flags.ignoreCase then .folded (if flags.unicode then .full else .ascii) set else set

/-- A set as it is used: case variants are added before the set is negated. -/
def foldAndNegate (flags : Flags) (negated : Bool) (set : CharSet) : CharSet :=
  if negated then .compl (flags.fold set) else flags.fold set

def literal (flags : Flags) (ch : Char) : Except PatternError CharSet :=
  if flags.unicode || ch.toNat < 0x80 then .ok (flags.fold (.singleton ch)) else .error .notText

/-- Without Unicode a set must not hold bytes that are no characters by themselves. -/
def checkSet (flags : Flags) (set : CharSet) : Except PatternError CharSet :=
  if flags.unicode then .ok set
  else if (List.range 128).any fun code => set.contains (Char.ofNat (code + 128)) then
    .error .notText
  else .ok (.inter .ascii set)

end Flags

end Lexkit.Pattern
