import Lexkit.Pattern.Reader.Escape

/-!
# Reading patterns: classes in brackets

A class lists characters, ranges and other classes, and may combine lists by set operations. The
operations have no precedence over each other and apply from left to right.
-/

namespace Lexkit.Pattern

inductive SetOp where
  | inter
  | diff
  | symmDiff
  deriving DecidableEq, Repr

def SetOp.apply : SetOp → CharSet → CharSet → CharSet
  | inter => .inter
  | diff => .diff
  | symmDiff => .symmDiff

/-- A part of a pattern and how deeply parts are nested in it. -/
structure Nested (α : Type) where
  part : α
  depth : Nat
  deriving Repr

/-- The depth of parts that stand side by side: one part adds nothing, several make a level. -/
def Nested.sideBySide (depths : List Nat) : Nat :=
  match depths with
  | [] => 0
  | [depth] => depth
  | depths => depths.foldl max 0 + 1

/-- A class whose closing bracket is still to come. -/
structure OpenClass where
  negated : Bool
  /-- The left side of an operation whose right side is being read. -/
  pending : Option (SetOp × Nested CharSet)
  /-- The items read so far, latest first. -/
  items : List (Nested CharSet)

namespace OpenClass

def push (cls : OpenClass) (set : CharSet) (depth : Nat) : OpenClass :=
  { cls with items := ⟨set, depth⟩ :: cls.items }

/-- The set of the items read so far, joined with the left side of a pending operation. -/
def operand (flags : Flags) (cls : OpenClass) : Nested CharSet :=
  let items := cls.items.reverse
  let set : CharSet :=
    match items.map (·.part) with
    | [] => .none
    | first :: others => others.foldl .union first
  let right : Nested CharSet := ⟨set, Nested.sideBySide (items.map (·.depth))⟩
  match cls.pending with
  | none => right
  | some (op, left) =>
    ⟨op.apply (flags.fold left.part) (flags.fold right.part), max left.depth right.depth + 1⟩

def combine (flags : Flags) (cls : OpenClass) (op : SetOp) : OpenClass :=
  { cls with pending := some (op, cls.operand flags), items := [] }

def close (flags : Flags) (cls : OpenClass) : Nested CharSet :=
  let inside := cls.operand flags
  ⟨flags.foldAndNegate cls.negated inside.part, inside.depth + 1⟩

end OpenClass

namespace Class

def posix? (name : Text) : Option CharSet :=
  match String.ofList name with
  | "alnum" => some (.ofRanges [('0', '9'), ('A', 'Z'), ('a', 'z')])
  | "alpha" => some (.ofRanges [('A', 'Z'), ('a', 'z')])
  | "ascii" => some .ascii
  | "blank" => some (.ofRanges [('\t', '\t'), (' ', ' ')])
  | "cntrl" => some (.ofRanges [('\x00', '\x1f'), ('\x7f', '\x7f')])
  | "digit" => some (.range '0' '9')
  | "graph" => some (.range '!' '~')
  | "lower" => some (.range 'a' 'z')
  | "print" => some (.range ' ' '~')
  | "punct" => some (.ofRanges [('!', '/'), (':', '@'), ('[', '\x60'), ('\x7b', '~')])
  | "space" => some (.ofRanges [('\t', '\r'), (' ', ' ')])
  | "upper" => some (.range 'A' 'Z')
  | "word" => some Escape.asciiWord
  | "xdigit" => some (.ofRanges [('0', '9'), ('A', 'F'), ('a', 'f')])
  | _ => none

/-- A class between colons, after its opening bracket; anything else there is no error. -/
def posixItem? (flags : Flags) (text : Text) : Option (CharSet × Text) :=
  match text with
  | ':' :: text =>
    let (negated, text) :=
      match text with
      | '^' :: text => (true, text)
      | _ => (false, text)
    let name := text.takeWhile (· != ':')
    match text.dropWhile (· != ':') with
    | ':' :: ']' :: rest => (posix? name).map fun set => (flags.foldAndNegate negated set, rest)
    | _ => none
  | _ => none

/-- The hyphens at the front of a class, which stand for themselves. -/
def hyphens (flags : Flags) :
    (fuel : Nat) → OpenClass → Text → Except PatternError (OpenClass × Text)
  | 0, _, _ => .error .unclosedClass
  | fuel + 1, cls, text =>
    match text with
    | [] => .error .unclosedClass
    | '-' :: rest => hyphens flags fuel (cls.push (.singleton '-') 0) (flags.skipSpace rest)
    | _ => .ok (cls, text)

/-- The front of a class after its opening bracket: a negation, hyphens, and a bracket that closes
nothing because it comes first. -/
def opening (flags : Flags) (text : Text) : Except PatternError (OpenClass × Text) := do
  let text := flags.skipSpace text
  let (negated, text) :=
    match text with
    | '^' :: rest => (true, flags.skipSpace rest)
    | _ => (false, text)
  let (cls, text) ← hyphens flags (text.length + 1) ⟨negated, none, []⟩ text
  match text with
  | ']' :: rest =>
    if cls.items.isEmpty then
      let rest := flags.skipSpace rest
      if rest.isEmpty then throw .unclosedClass
      return (cls.push (.singleton ']') 0, rest)
    else return (cls, text)
  | _ => return (cls, text)

def item (flags : Flags) (text : Text) : Except PatternError (Primitive × Text) :=
  match text with
  | [] => .error .unclosedClass
  | '\\' :: rest => Escape.read flags rest
  | ch :: rest => .ok (.literal ch, rest)

/-- The character after the next one, where a verbose pattern skips spaces. -/
def peekSpace (flags : Flags) (text : Text) : Option Char :=
  if flags.verbose then
    match text.dropWhile Text.isBlank with
    | '#' :: comment => (comment.dropWhile Text.isBlank).head?
    | rest => rest.head?
  else text.head?

def literal (flags : Flags) (place : Primitive) : Except PatternError Char :=
  match place with
  | .literal ch => if flags.unicode || ch.toNat < 0x80 then .ok ch else .error .notText
  | _ => .error .badClassItem

def range (flags : Flags) (text : Text) : Except PatternError (CharSet × Text) := do
  let (first, rest) ← item flags text
  let rest := flags.skipSpace rest
  let single : Except PatternError (CharSet × Text) := do
    match first with
    | .set set => return (set, rest)
    | _ => return (.singleton (← literal flags first), rest)
  match rest with
  | [] => throw .unclosedClass
  | '-' :: after =>
    let following := peekSpace flags after
    if following == some ']' || following == some '-' then single
    else
      let (last, rest) ← item flags (flags.skipSpace after)
      let first ← literal flags first
      let last ← literal flags last
      if last < first then throw .reversedRange
      return (.range first last, rest)
  | _ => single

/-- Reads to the bracket that closes the outermost of the open classes. -/
def loop (flags : Flags) : (fuel : Nat) → (current : OpenClass) → (outer : List OpenClass) → Text →
    Except PatternError (Nested CharSet × Text)
  | 0, _, _, _ => .error .unclosedClass
  | fuel + 1, current, outer, text =>
    match flags.skipSpace text with
    | [] => .error .unclosedClass
    | '[' :: rest =>
      match posixItem? flags rest with
      | some (set, rest) => loop flags fuel (current.push set 0) outer rest
      | none => do
        let (nested, rest) ← opening flags rest
        loop flags fuel nested (current :: outer) rest
    | ']' :: rest =>
      let closed := current.close flags
      match outer with
      | [] => .ok (closed, rest)
      | parent :: outer => loop flags fuel (parent.push closed.part closed.depth) outer rest
    | '&' :: '&' :: rest => loop flags fuel (current.combine flags .inter) outer rest
    | '-' :: '-' :: rest => loop flags fuel (current.combine flags .diff) outer rest
    | '~' :: '~' :: rest => loop flags fuel (current.combine flags .symmDiff) outer rest
    | text => do
      let (set, rest) ← range flags text
      loop flags fuel (current.push set 0) outer rest

def read (flags : Flags) (text : Text) : Except PatternError (Nested CharSet × Text) := do
  let (first, rest) ← opening flags text
  let (cls, rest) ← loop flags (rest.length + 1) first [] rest
  return (⟨← flags.checkSet cls.part, cls.depth⟩, rest)

end Class

end Lexkit.Pattern
