import Lexkit.Scanner

/-!
# Lexing rules

A rule makes tokens. A look at the next character may show that it cannot match, so that it need not
be tried.

Rules may be written for any context that holds a cursor. The context here is the cursor alone: a
rule has no other state to read or to change, so what it does is a function of the cursor.
-/

namespace Lexkit

/-- A way to make a token at a cursor. -/
structure Rule (τ : Type) where
  /-- Rules of higher priority are tried first. -/
  priority : Int
  /-- Whether the rule can match before the given character or at the end: yes, no, or unknown. -/
  quickCheck : Option Char → Option Bool
  tryMatch : Scan (Option τ)

namespace Rule

variable {τ : Type}

/-- What a set of starting characters says about the next character. A set made from a predicate
knows the probed characters only, so above them nothing is said. -/
def checkExpected (expected : Option ExpectedChars) (next : Option Char) : Option Bool :=
  match expected, next with
  | none, _ => none
  | some _, none => some false
  | some set, some ch => if ch.toNat < ExpectedChars.probed then some (set.contains ch) else none

/-- The rule that makes a token of the text that a scan matches and the position where it starts. -/
def ofScan (expected : Option ExpectedChars) (scan : Scan (Option Slice)) (priority : Int)
    (make : Slice → Position → τ) : Rule τ where
  priority := priority
  quickCheck := checkExpected expected
  tryMatch := do
    let start ← Scan.here
    return (← scan).map (make · start.position)

/-- The rule of a scanner that is run by the given strategy. -/
def ofScanner (scanner : Scanner) (strategy : Strategy) (priority : Int)
    (make : Slice → Position → τ) : Rule τ :=
  match strategy with
  | .interpreted => ofScan scanner.expected scanner.scan priority make
  | .compiled =>
    let compiled := scanner.compile
    ofScan compiled.expected compiled.run priority make

@[simp] theorem priority_ofScanner (scanner : Scanner) (strategy : Strategy) (priority : Int)
    (make : Slice → Position → τ) :
    (ofScanner scanner strategy priority make).priority = priority := by
  cases strategy <;> rfl

/-- The rule that takes one character that satisfies `p`. -/
def single (p : Char → Bool) (make : Slice → Position → τ) : Rule τ where
  priority := 0
  quickCheck := fun _ => none
  tryMatch := do
    let cursor ← Scan.here
    if cursor.peek.any p then
      Scan.goTo cursor.advance
      return some (make (cursor.peekSlice 1) cursor.position)
    else return none

/-- The rule that matches the empty text everywhere. -/
def emptyMatch (make : Slice → Position → τ) : Rule τ where
  priority := 0
  quickCheck := fun _ => none
  tryMatch := do
    let cursor ← Scan.here
    return some (make (cursor.peekSlice 0) cursor.position)

/-- The rule that passes up to `n` characters and then does not match. -/
def lookahead (n : Nat) : Rule τ where
  priority := 0
  quickCheck := fun _ => none
  tryMatch := do
    let cursor ← Scan.here
    Scan.goTo (cursor.skip n)
    return none

end Rule

end Lexkit
