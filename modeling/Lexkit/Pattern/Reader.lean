import Lexkit.Pattern.Reader.Class

/-!
# Reading patterns

A pattern is read from left to right with a stack of the groups that are open. Flags set inside a
group hold to its end, across its alternatives.
-/

namespace Lexkit.Pattern

/-- A part of an alternative that is being read. -/
inductive Piece where
  /-- Flags for the text after them, which cannot be repeated. -/
  | directive
  | expr (nested : Nested Expr)

def Piece.depth : Piece → Nat
  | directive => 0
  | expr nested => nested.depth

structure Branches where
  /-- The alternatives that are complete, latest first. -/
  complete : List (Nested Expr)
  /-- The parts of the alternative that is being read, latest first. -/
  current : List Piece

namespace Branches

def empty : Branches := ⟨[], []⟩

def branch (branches : Branches) : Nested Expr :=
  let pieces := branches.current.reverse
  let exprs := pieces.filterMap fun
    | .directive => none
    | .expr nested => some nested.part
  ⟨.sequence exprs, Nested.sideBySide (pieces.map Piece.depth)⟩

/-- Ends an alternative and starts another one. -/
def nextBranch (branches : Branches) : Branches := ⟨branches.branch :: branches.complete, []⟩

def whole (branches : Branches) : Nested Expr :=
  let all := (branches.branch :: branches.complete).reverse
  ⟨.choice (all.map (·.part)), Nested.sideBySide (all.map (·.depth))⟩

def push (branches : Branches) (expr : Expr) (depth : Nat) : Branches :=
  { branches with current := .expr ⟨expr, depth⟩ :: branches.current }

def pushDirective (branches : Branches) : Branches :=
  { branches with current := .directive :: branches.current }

/-- Takes back the last part, which is about to be repeated. -/
def pop (branches : Branches) : Except PatternError (Nested Expr × Branches) :=
  match branches.current with
  | .expr nested :: current => .ok (nested, { branches with current })
  | _ => .error .nothingToRepeat

end Branches

/-- What is known between two parts of a pattern. -/
structure Reader where
  flags : Flags
  branches : Branches
  /-- For each open group, innermost first, what surrounds it and the flags to go back to. -/
  outer : List (Branches × Flags)
  names : List Text

namespace Reader

def maxDepth : Nat := 250

def maxSize : Nat := 300000

def initial : Reader := ⟨.initial, .empty, [], []⟩

def push (reader : Reader) (expr : Expr) : Reader :=
  { reader with branches := reader.branches.push expr 0 }

def openGroup (reader : Reader) (flags : Flags) : Reader :=
  { reader with
    flags
    branches := .empty
    outer := (reader.branches, reader.flags) :: reader.outer }

def closeGroup (reader : Reader) : Except PatternError Reader :=
  match reader.outer with
  | [] => .error .unopenedGroup
  | (branches, flags) :: outer =>
    let group := reader.branches.whole
    .ok { reader with flags, branches := branches.push group.part (group.depth + 1), outer }

/-- Repeats the last part, unless that takes too many instructions. -/
def repeatLast (reader : Reader) (least : Nat) (most : Option Nat) (isLazy : Bool) :
    Except PatternError Reader := do
  let (body, branches) ← reader.branches.pop
  if maxSize < max (most.getD least) 1 * body.part.size then throw .tooLarge
  let greedy := isLazy == reader.flags.swapGreed
  let expr := body.part.repeated least most greedy
  return { reader with branches := branches.push expr (body.depth + 1) }

/-- A question mark after a repetition, which makes it lazy. -/
def lazyMark (text : Text) : Bool × Text :=
  match text with
  | '?' :: rest => (true, rest)
  | _ => (false, text)

def count? (text : Text) : Option Nat := do
  let trimmed := text.dropWhile Text.isBlank
  let digits := trimmed.takeWhile Char.isDigit
  if digits.isEmpty || !(trimmed.dropWhile Char.isDigit).all Text.isBlank then none
  let number := digits.foldl (fun number digit => number * 10 + (digit.toNat - '0'.toNat)) 0
  if number < 0x100000000 then some number else none

/-- The bounds of a repetition, as they stand between braces. -/
def bounds? (inside : Text) : Option (Nat × Option Nat) := do
  let least ← count? (inside.takeWhile (· != ','))
  match inside.dropWhile (· != ',') with
  | [] => some (least, some least)
  | [_] => some (least, none)
  | _ :: upper =>
    let most ← count? upper
    if least ≤ most then some (least, some most) else none

/-- A counted repetition, after its opening brace. -/
def counted (reader : Reader) (text : Text) : Except PatternError (Reader × Text) := do
  match reader.flags.braced text with
  | none => throw .badCount
  | some (inside, rest) =>
    match bounds? inside with
    | none => throw .badCount
    | some (least, most) =>
      let (isLazy, rest) := lazyMark (reader.flags.skipSpace rest)
      return (← reader.repeatLast least most isLazy, rest)

/-- Letters of flags up to a colon or a closing parenthesis; `seen` holds those already read. -/
def flagLetters (flags : Flags) (value : Bool) (seen : List Char) :
    Text → Except PatternError (Flags × List Char × Text)
  | [] => .error .badFlags
  | ch :: rest =>
    if ch == ':' || ch == ')' then
      if seen.head? == some '-' then .error .badFlags else .ok (flags, seen, ch :: rest)
    else if seen.contains ch then .error .badFlags
    else if ch == '-' then flagLetters flags false (ch :: seen) rest
    else
      match flags.set? ch value with
      | some flags => flagLetters flags value (ch :: seen) rest
      | none => .error .badFlags

/-- Flags after a question mark, for the group that they open or for the text that follows. -/
def flagged (reader : Reader) (text : Text) : Except PatternError (Reader × Text) := do
  let (flags, seen, rest) ← flagLetters reader.flags true [] text
  match rest with
  | ')' :: rest =>
    if seen.isEmpty then throw .nothingToRepeat
    return ({ reader with flags, branches := reader.branches.pushDirective }, rest)
  | rest => return (reader.openGroup flags, rest.tail)

def isGroupName (name : Text) : Bool :=
  match name with
  | [] => false
  | first :: others =>
    (first == '_' || Text.isAlphabetic first) &&
      others.all fun ch =>
        ch == '_' || ch == '.' || ch == '[' || ch == ']' || Text.isAlphanumeric ch

/-- A group with a name, after its opening angle bracket. -/
def named (reader : Reader) (text : Text) : Except PatternError (Reader × Text) := do
  let name := text.takeWhile (· != '>')
  match text.dropWhile (· != '>') with
  | [] => throw .badGroupName
  | _ :: rest =>
    if !isGroupName name then throw .badGroupName
    if reader.names.contains name then throw .repeatedGroupName
    let reader := { reader with names := name :: reader.names }
    return (reader.openGroup reader.flags, rest)

def group (reader : Reader) (text : Text) : Except PatternError (Reader × Text) :=
  match reader.flags.skipSpace text with
  | '?' :: '=' :: _ | '?' :: '!' :: _ | '?' :: '<' :: '=' :: _ | '?' :: '<' :: '!' :: _ =>
    .error .lookAround
  | '?' :: 'P' :: '<' :: rest => reader.named rest
  | '?' :: '<' :: rest => reader.named rest
  | '?' :: rest => reader.flagged rest
  | rest => .ok (reader.openGroup reader.flags, rest)

def dot (flags : Flags) : Except PatternError CharSet :=
  if !flags.unicode then .error .notText
  else if flags.dotAll then .ok (.compl .none)
  else if flags.crlf then .ok (.compl (.ofRanges [('\n', '\n'), ('\r', '\r')]))
  else .ok (.compl (.singleton '\n'))

def caret (flags : Flags) : Look :=
  if !flags.multiLine then .textStart else if flags.crlf then .lineStartCrlf else .lineStart

def dollar (flags : Flags) : Look :=
  if !flags.multiLine then .textEnd else if flags.crlf then .lineEndCrlf else .lineEnd

def escaped (reader : Reader) (text : Text) : Except PatternError (Reader × Text) := do
  let (place, rest) ← Escape.read reader.flags text
  match place with
  | .literal ch => return (reader.push (.set (← reader.flags.literal ch)), rest)
  | .set set => return (reader.push (.set (← reader.flags.checkSet set)), rest)
  | .look condition => return (reader.push (.look condition), rest)

/-- Reads the part of a pattern that starts with `ch`. -/
def part (reader : Reader) (ch : Char) (text : Text) : Except PatternError (Reader × Text) := do
  match ch with
  | '(' => reader.group text
  | ')' => return (← reader.closeGroup, text)
  | '|' => return ({ reader with branches := reader.branches.nextBranch }, text)
  | '[' =>
    let (cls, rest) ← Class.read reader.flags text
    return ({ reader with branches := reader.branches.push (.set cls.part) cls.depth }, rest)
  | '?' =>
    let (isLazy, rest) := lazyMark text
    return (← reader.repeatLast 0 (some 1) isLazy, rest)
  | '*' =>
    let (isLazy, rest) := lazyMark text
    return (← reader.repeatLast 0 none isLazy, rest)
  | '+' =>
    let (isLazy, rest) := lazyMark text
    return (← reader.repeatLast 1 none isLazy, rest)
  | '\x7b' => reader.counted text
  | '\\' => reader.escaped text
  | '.' => return (reader.push (.set (← dot reader.flags)), text)
  | '^' => return (reader.push (.look (caret reader.flags)), text)
  | '$' => return (reader.push (.look (dollar reader.flags)), text)
  | ch => return (reader.push (.set (← reader.flags.literal ch)), text)

def finish (reader : Reader) : Except PatternError Expr := do
  if !reader.outer.isEmpty then throw .unclosedGroup
  let whole := reader.branches.whole
  if maxDepth < whole.depth then throw .tooDeep
  if maxSize < whole.part.size then throw .tooLarge
  return whole.part

/-- Reads part after part; every part takes at least one character, so `fuel` does not run out when
it exceeds the length of the text. -/
def loop : (fuel : Nat) → Reader → Text → Except PatternError Expr
  | 0, _, _ => .error .tooLarge
  | fuel + 1, reader, text =>
    match reader.flags.skipSpace text with
    | [] => reader.finish
    | ch :: rest =>
      match reader.part ch rest with
      | .ok (reader, rest) => loop fuel reader rest
      | .error error => .error error

def read (text : Text) : Except PatternError Expr := loop (text.length + 1) initial text

end Reader

end Lexkit.Pattern
