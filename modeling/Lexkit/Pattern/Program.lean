import Lexkit.Pattern.Expr
import Lexkit.Pattern.Matcher

/-!
# Pattern programs

An expression laid out as numbered instructions, and the machine that runs them on a text. The
machine keeps its threads in order of preference and moves all of them over one character at a time.
At each place an instruction is entered once, by the most preferred thread that reaches it; this is
what ends a repetition whose rounds are empty.

Whatever the instructions are, the machine counts the bytes of whole characters, so a program is a
matcher.
-/

namespace Lexkit.Pattern

inductive Instr where
  | take (chars : CharSet) (next : Nat)
  /-- Goes on where a condition holds. -/
  | test (condition : Look) (next : Nat)
  /-- Goes on at both addresses and prefers the first. -/
  | split (first second : Nat)
  | accept
  deriving DecidableEq, Repr

namespace Expr

def fork (greedy : Bool) (round next : Nat) : Instr :=
  if greedy then .split round next else .split next round

/-- Lays an expression out from the address `base`, when `next` follows it, and gives the address at
which it is entered and its instructions. -/
def layout : Expr → (base next : Nat) → Nat × List Instr
  | empty, _, next => (next, [])
  | set chars, base, next => (base, [.take chars next])
  | look condition, base, next => (base, [.test condition next])
  | concat first second, base, next =>
    let (middle, after) := second.layout (base + first.size) next
    let (entry, before) := first.layout base middle
    (entry, before ++ after)
  | alternate left right, base, next =>
    let (leftEntry, leftCode) := left.layout (base + 1) next
    let (rightEntry, rightCode) := right.layout (base + 1 + left.size) next
    (base, .split leftEntry rightEntry :: (leftCode ++ rightCode))
  | star body greedy, base, next =>
    -- A body that may be empty is laid out as an option around at least one round: the way on from
    -- an empty round must not be the fork that is already entered.
    if body.nullable then
      let (round, code) := body.layout (base + 2) (base + 1)
      (base, fork greedy round next :: fork greedy round next :: code)
    else
      let (round, code) := body.layout (base + 1) base
      (base, fork greedy round next :: code)
  | plus body greedy, base, next =>
    let (round, code) := body.layout (base + 1) base
    (round, fork greedy round next :: code)

end Expr

structure Program where
  instrs : Array Instr
  start : Nat
  /-- Whether a match can start nowhere but at the start of the text. -/
  anchored : Bool
  deriving DecidableEq, Repr

namespace Program

def ofExpr (expr : Expr) : Program :=
  let (start, code) := expr.layout 0 expr.size
  ⟨(code ++ [Instr.accept]).toArray, start, expr.anchored⟩

def fetch (program : Program) (address : Nat) : Option Instr := program.instrs[address]?

/-- The threads at one place, latest first, and the instructions entered there, as a set of bits. -/
structure Threads where
  entered : Nat
  waiting : List Nat

/-- Enters an instruction and those that follow from it without taking a character. -/
def enter (program : Program) (before after : Option Char) : Nat → Nat → Threads → Threads
  | 0, _, threads => threads
  | fuel + 1, address, threads =>
    if threads.entered.testBit address then threads
    else
      let threads := { threads with entered := threads.entered ||| (1 <<< address) }
      match program.fetch address with
      | some (.test condition next) =>
        if condition.holds before after then program.enter before after fuel next threads
        else threads
      | some (.split first second) =>
        program.enter before after fuel second (program.enter before after fuel first threads)
      | some (.take ..) | some .accept => { threads with waiting := address :: threads.waiting }
      | none => threads

def threadsAt (program : Program) (before after : Option Char) (addresses : List Nat) : List Nat :=
  let threads := addresses.foldl
    (fun threads address => program.enter before after (program.instrs.size + 1) address threads)
    ⟨0, []⟩
  threads.waiting.reverse

/-- The addresses behind the threads that take `ch`, down to the first thread that accepts. -/
def stepOver (program : Program) (ch : Char) (threads : List Nat) : List Nat :=
  threads.filterMap fun address =>
    match program.fetch address with
    | some (.take chars next) => if chars.contains ch then some next else none
    | _ => none

def accepts (program : Program) (address : Nat) : Bool :=
  program.fetch address == some .accept

/-- Runs threads to the end of the preferred match and gives its size in bytes, counted from
`passed` on; `found` is a less preferred match that is already there. -/
def run (program : Program) (threads : List Nat) (found : Option Nat) (passed : Nat) :
    Text → Option Nat
  | [] => if threads.any program.accepts then some passed else found
  | ch :: text =>
    let found := if threads.any program.accepts then some passed else found
    let next := program.stepOver ch (threads.takeWhile fun address => !program.accepts address)
    if next.isEmpty then found
    else
      program.run (program.threadsAt (some ch) text.head? next) found (passed + ch.utf8Size) text

def matchAt (program : Program) (before : Option Char) (passed : Nat) (text : Text) : Option Nat :=
  program.run (program.threadsAt before text.head? [program.start]) none passed text

/-- The end of the preferred match among those that start first. -/
def searchFrom (program : Program) (before : Option Char) (passed : Nat) : Text → Option Nat
  | [] => program.matchAt before passed []
  | ch :: text =>
    match program.matchAt before passed (ch :: text) with
    | some stop => some stop
    | none => program.searchFrom (some ch) (passed + ch.utf8Size) text

def search (program : Program) (text : Text) : Option Nat :=
  if program.anchored then program.matchAt none 0 text else program.searchFrom none 0 text

/-! ### The end of a match -/

section

variable {program : Program} {found before : Option Char} {text : Text} {passed stop : Nat}

/-- The machine ends where it had a match already, or after some characters that it has taken. -/
theorem run_boundary {threads : List Nat} {found : Option Nat}
    (hrun : program.run threads found passed text = some stop) :
    found = some stop ∨ ∃ taken, taken <+: text ∧ passed + Text.size taken = stop := by
  induction text generalizing threads found passed with
  | nil =>
    rw [run] at hrun
    split at hrun
    · exact .inr ⟨[], List.nil_prefix, Option.some.inj hrun⟩
    · exact .inl hrun
  | cons ch text ih =>
    have hfound (hstop : (if threads.any program.accepts then some passed else found) = some stop) :
        found = some stop ∨ ∃ taken, taken <+: ch :: text ∧ passed + Text.size taken = stop := by
      split at hstop
      · exact .inr ⟨[], List.nil_prefix, Option.some.inj hstop⟩
      · exact .inl hstop
    rw [run] at hrun
    split at hrun
    · exact hfound hrun
    · rcases ih hrun with hearlier | ⟨taken, htaken, hsize⟩
      · exact hfound hearlier
      · refine .inr ⟨ch :: taken, (List.prefix_cons_inj ch).2 htaken, ?_⟩
        rw [Text.size_cons, ← hsize, Nat.add_assoc]

theorem matchAt_boundary (hmatch : program.matchAt before passed text = some stop) :
    ∃ taken, taken <+: text ∧ passed + Text.size taken = stop := by
  rcases run_boundary hmatch with hnone | htaken
  · simp at hnone
  · exact htaken

theorem searchFrom_boundary (hsearch : program.searchFrom before passed text = some stop) :
    ∃ taken, taken <+: text ∧ passed + Text.size taken = stop := by
  induction text generalizing before passed with
  | nil => exact matchAt_boundary hsearch
  | cons ch text ih =>
    rw [searchFrom] at hsearch
    split at hsearch
    · rename_i found hmatch
      obtain rfl : found = stop := Option.some.inj hsearch
      exact matchAt_boundary hmatch
    · obtain ⟨taken, htaken, hsize⟩ := ih hsearch
      refine ⟨ch :: taken, (List.prefix_cons_inj ch).2 htaken, ?_⟩
      rw [Text.size_cons, ← hsize, Nat.add_assoc]

theorem search_boundary (hsearch : program.search text = some stop) :
    ∃ taken, taken <+: text ∧ Text.size taken = stop := by
  unfold search at hsearch
  split at hsearch
  · obtain ⟨taken, htaken, hsize⟩ := matchAt_boundary hsearch
    exact ⟨taken, htaken, by omega⟩
  · obtain ⟨taken, htaken, hsize⟩ := searchFrom_boundary hsearch
    exact ⟨taken, htaken, by omega⟩

end

def matcher (program : Program) : Matcher := ⟨program.search, search_boundary⟩

end Program

end Lexkit.Pattern
