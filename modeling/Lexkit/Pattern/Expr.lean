import Lexkit.Pattern.CharSet

/-!
# Pattern expressions

The tree of a pattern. Where several matches are possible the order of the choices decides: the left
side of an alternation comes before the right one, and another round of a greedy repetition before
its end.
-/

namespace Lexkit.Pattern

/-- How a place lies to the words around it. -/
inductive WordEdge where
  /-- Between a word character and none. -/
  | boundary
  /-- Between two word characters or between none. -/
  | interior
  /-- Between none and a word character. -/
  | start
  /-- Between a word character and none, in that order. -/
  | stop
  /-- After no word character. -/
  | startHalf
  /-- Before no word character. -/
  | stopHalf
  deriving DecidableEq, Repr

inductive Look where
  | textStart
  | textEnd
  /-- At the start or after a line feed. -/
  | lineStart
  /-- At the end or before a line feed. -/
  | lineEnd
  /-- As `lineStart`, where a carriage return ends a line too, alone or with its line feed. -/
  | lineStartCrlf
  /-- As `lineEnd`, where a carriage return ends a line too, alone or with its line feed. -/
  | lineEndCrlf
  | word (edge : WordEdge) (chars : CharSet)
  deriving DecidableEq, Repr

/-- Whether the condition holds between two characters, of which either may be missing. -/
def Look.holds (look : Look) (before after : Option Char) : Bool :=
  match look with
  | textStart => before.isNone
  | textEnd => after.isNone
  | lineStart => before.isNone || before == some '\n'
  | lineEnd => after.isNone || after == some '\n'
  | lineStartCrlf =>
    before.isNone || before == some '\n' || (before == some '\r' && after != some '\n')
  | lineEndCrlf =>
    after.isNone || after == some '\r' || (after == some '\n' && before != some '\r')
  | word edge chars =>
    let left := before.any chars.contains
    let right := after.any chars.contains
    match edge with
    | .boundary => left != right
    | .interior => left == right
    | .start => !left && right
    | .stop => left && !right
    | .startHalf => !left
    | .stopHalf => !right

inductive Expr where
  | empty
  | set (chars : CharSet)
  /-- The empty text where a condition holds. -/
  | look (condition : Look)
  | concat (first second : Expr)
  | alternate (left right : Expr)
  | star (body : Expr) (greedy : Bool)
  | plus (body : Expr) (greedy : Bool)
  deriving DecidableEq, Repr

namespace Expr

/-- Whether an empty match cannot be ruled out. -/
def nullable : Expr → Bool
  | empty => true
  | set _ => false
  | look _ => true
  | concat first second => first.nullable && second.nullable
  | alternate left right => left.nullable || right.nullable
  | star _ _ => true
  | plus body _ => body.nullable

/-- Whether every match is known to start at the start of the text. -/
def anchored : Expr → Bool
  | look condition => condition == .textStart
  | concat first _ => first.anchored
  | alternate left right => left.anchored && right.anchored
  | plus body _ => body.anchored
  | empty | set _ | star .. => false

/-- The number of instructions that the expression takes. -/
def size : Expr → Nat
  | empty => 0
  | set _ => 1
  | look _ => 1
  | concat first second => first.size + second.size
  | alternate left right => left.size + right.size + 1
  | star body _ => body.size + if body.nullable then 2 else 1
  | plus body _ => body.size + 1

def sequence : List Expr → Expr
  | [] => empty
  | [expr] => expr
  | expr :: exprs => concat expr (sequence exprs)

/-- The first of the expressions that matches. -/
def choice : List Expr → Expr
  | [] => empty
  | [expr] => expr
  | expr :: exprs => alternate expr (choice exprs)

/-- One round or none; a lazy option prefers none. -/
def optional (body : Expr) (greedy : Bool) : Expr :=
  if greedy then alternate body empty else alternate empty body

def copies (body : Expr) (count : Nat) : Expr := sequence (List.replicate count body)

/-- At most `count` rounds: each further one is an option inside the one before it. -/
def atMost (body : Expr) (greedy : Bool) : Nat → Expr
  | 0 => empty
  | 1 => optional body greedy
  | count + 1 => optional (concat body (atMost body greedy count)) greedy

def atLeast (body : Expr) (greedy : Bool) : Nat → Expr
  | 0 => star body greedy
  | 1 => plus body greedy
  | least + 1 => concat (copies body least) (plus body greedy)

/-- Between `least` and `most` rounds, or any number from `least` on. -/
def repeated (body : Expr) (least : Nat) (most : Option Nat) (greedy : Bool) : Expr :=
  match most with
  | none => atLeast body greedy least
  | some most =>
    if most ≤ least then copies body least
    else if least = 0 then atMost body greedy most
    else concat (copies body least) (atMost body greedy (most - least))

end Expr

end Lexkit.Pattern
