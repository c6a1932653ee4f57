import Lexkit.Rule

/-!
# Lexers

A lexer cuts a text into tokens with a list of rules. At each place the first rule that matches
makes the token, by descending priority and, among equals, in the order in which the rules were
given. It stops where the text ends, where no rule matches, where a rule matches the empty text, and
where the input is malformed.

A lexer keeps its context from call to call. The context is the cursor, as it is for the rules, so
each call starts at the cursor that the call before it has left.
-/

namespace Lexkit

structure Lexer (τ : Type) where
  /-- The rules in the order in which they are tried. -/
  rules : List (Rule τ)

namespace Lexer

variable {τ : Type}

/-- The lexer with the given rules, which are put in order. -/
def make (rules : List (Rule τ)) : Lexer τ :=
  ⟨rules.mergeSort fun first second => decide (second.priority ≤ first.priority)⟩

/-- Rules that are in order stay as they are. -/
theorem make_of_pairwise {rules : List (Rule τ)}
    (hrules : rules.Pairwise fun first second => second.priority ≤ first.priority) :
    make rules = ⟨rules⟩ := by
  rw [make, List.mergeSort_of_pairwise]
  simpa using hrules

/-- The token of the first rule that matches, where `next` is the next character. -/
def tryRules (next : Option Char) : List (Rule τ) → Scan (Option τ)
  | [] => return none
  | rule :: rules =>
    if rule.quickCheck next = some false then tryRules next rules
    else do
      match ← Scan.orReturn rule.tryMatch with
      | some token => return some token
      | none => tryRules next rules

/-- The token at the cursor, without any regard to whether it takes something. -/
def nextToken (lexer : Lexer τ) : Scan (Option τ) := do
  let cursor ← Scan.here
  tryRules cursor.peek lexer.rules

/-- The next token or error. Nothing comes at the end, where no rule matches, and where a rule
matches the empty text; after an error the cursor stands at the end. -/
def next (lexer : Lexer τ) : Scan (Option (Except ScanError τ)) := fun cursor =>
  if cursor.atEnd then .done none cursor
  else
    let step := lexer.nextToken cursor
    match step.outcome with
    | .ok (some token) =>
      if step.cursor.offset = cursor.offset then
        ⟨.ok none, step.cursor, step.events ++ [.idleRule cursor.offset]⟩
      else ⟨.ok (some (.ok token)), step.cursor, step.events⟩
    | .ok none =>
      ⟨.ok none, step.cursor, step.events ++ [.noRule cursor.offset step.cursor.peek]⟩
    | .error (.malformed error) => ⟨.ok (some (.error error)), step.cursor.toEnd, step.events⟩
    | .error (.fault fault) => ⟨.error (.fault fault), step.cursor, step.events⟩

/-- One call. A token is put in front of those that follow it. -/
def gather (lexer : Lexer τ) : Scan (Round (List τ)) := do
  match ← lexer.next with
  | none => return .last []
  | some (.error error) => Scan.malformed error
  | some (.ok token) => return .again (token :: ·)

/-- All tokens up to the place where nothing comes any more, or the first error. -/
def tokenize (lexer : Lexer τ) : Scan (List τ) := Scan.loop lexer.gather

end Lexer

end Lexkit
