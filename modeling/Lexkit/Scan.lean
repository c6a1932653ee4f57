import Lexkit.Cursor
import Lexkit.Error
import Lexkit.Event

/-!
# Scans

A scan reads at a cursor. Its step holds what came of it, the cursor it leaves behind, and the
events it told. The cursor and the events are there however the scan ends: a scan that meets
malformed input has still moved, and a scan that does not match says so by its value and may have
moved as well.
-/

namespace Lexkit

/-- Why a scan ends without a value. -/
inductive Halt where
  /-- The input is malformed. -/
  | malformed (error : ScanError)
  /-- An operation on offsets was refused. -/
  | fault (fault : Fault)
  deriving DecidableEq, Repr

instance decidableEqExcept {ε α : Type} [DecidableEq ε] [DecidableEq α] :
    DecidableEq (Except ε α)
  | .error left, .error right =>
    decidable_of_iff (left = right) ⟨congrArg Except.error, Except.error.inj⟩
  | .ok left, .ok right => decidable_of_iff (left = right) ⟨congrArg Except.ok, Except.ok.inj⟩
  | .error _, .ok _ | .ok _, .error _ => isFalse nofun

/-- What a scan comes to. -/
structure Step (α : Type) where
  outcome : Except Halt α
  cursor : Cursor
  events : List Event

/-- A computation that reads at a cursor. -/
def Scan (α : Type) : Type := Cursor → Step α

namespace Step

def done {α : Type} (value : α) (cursor : Cursor) : Step α := ⟨.ok value, cursor, []⟩

def malformed {α : Type} (error : ScanError) (cursor : Cursor) : Step α :=
  ⟨.error (.malformed error), cursor, []⟩

/-- A scan in which an operation was refused. -/
def fault {α : Type} (fault : Fault) (cursor : Cursor) : Step α :=
  ⟨.error (.fault fault), cursor, []⟩

/-- The step with events told before its own. -/
def after {α : Type} (events : List Event) (step : Step α) : Step α :=
  { step with events := events ++ step.events }

/-- Goes on from where a step ended, unless it halted. -/
def bind {α β : Type} (step : Step α) (next : α → Scan β) : Step β :=
  match step.outcome with
  | .ok value => (next value step.cursor).after step.events
  | .error halt => ⟨.error halt, step.cursor, step.events⟩

def map {α β : Type} (f : α → β) (step : Step α) : Step β :=
  ⟨step.outcome.map f, step.cursor, step.events⟩

@[simp] theorem after_nil {α : Type} (step : Step α) : step.after [] = step := rfl

@[simp] theorem after_after {α : Type} (first second : List Event) (step : Step α) :
    (step.after second).after first = step.after (first ++ second) := by
  simp [after]

@[simp] theorem bind_done {α β : Type} (value : α) (cursor : Cursor) (next : α → Scan β) :
    (done value cursor).bind next = next value cursor := rfl

@[simp] theorem bind_malformed {α β : Type} (error : ScanError) (cursor : Cursor)
    (next : α → Scan β) : (malformed error cursor).bind next = malformed error cursor := rfl

@[simp] theorem bind_fault {α β : Type} (reason : Fault) (cursor : Cursor) (next : α → Scan β) :
    (fault reason cursor).bind next = fault reason cursor := rfl

/-- Events told before do not change how a step goes on. -/
theorem bind_after {α β : Type} (events : List Event) (step : Step α) (next : α → Scan β) :
    (step.after events).bind next = (step.bind next).after events := by
  unfold bind after
  cases step.outcome <;> simp

theorem bind_right_done {α : Type} (step : Step α) : step.bind done = step := by
  obtain ⟨outcome, cursor, events⟩ := step
  cases outcome <;> simp [bind, done, after]

theorem bind_bind {α β γ : Type} (step : Step α) (f : α → Scan β) (g : β → Scan γ) :
    (step.bind f).bind g = step.bind fun value cursor => (f value cursor).bind g := by
  obtain ⟨outcome, cursor, events⟩ := step
  cases outcome with
  | error halt => rfl
  | ok value => exact bind_after events (f value cursor) g

end Step

namespace Scan

instance : Monad Scan where
  pure value := fun cursor => .done value cursor
  bind scan next := fun cursor => (scan cursor).bind next

@[simp] theorem pure_apply {α : Type} (value : α) (cursor : Cursor) :
    (pure value : Scan α) cursor = .done value cursor := rfl

@[simp] theorem bind_apply {α β : Type} (scan : Scan α) (next : α → Scan β) (cursor : Cursor) :
    (scan >>= next) cursor = (scan cursor).bind next := rfl

instance : LawfulMonad Scan := LawfulMonad.mk' Scan
  (fun scan => funext fun cursor => Step.bind_right_done (scan cursor))
  (fun value next => funext fun cursor => Step.bind_done value cursor next)
  (fun scan f g => funext fun cursor => Step.bind_bind (scan cursor) f g)

/-- The cursor, without moving it. -/
def here : Scan Cursor := fun cursor => .done cursor cursor

def goTo (cursor : Cursor) : Scan Unit := fun _ => .done () cursor

def tell (event : Event) : Scan Unit := fun cursor => ⟨.ok (), cursor, [event]⟩

def malformed {α : Type} (error : ScanError) : Scan α := fun cursor => .malformed error cursor

/-- The value of an operation that may be refused. -/
def attempt {α : Type} (result : Except Fault α) : Scan α := fun cursor =>
  match result with
  | .ok value => .done value cursor
  | .error fault => .fault fault cursor

@[simp] theorem here_apply (cursor : Cursor) : here cursor = .done cursor cursor := rfl

@[simp] theorem goTo_apply (target cursor : Cursor) : goTo target cursor = .done () target := rfl

@[simp] theorem tell_apply (event : Event) (cursor : Cursor) :
    tell event cursor = (Step.done () cursor).after [event] := rfl

@[simp] theorem malformed_apply {α : Type} (error : ScanError) (cursor : Cursor) :
    (malformed error : Scan α) cursor = .malformed error cursor := rfl

@[simp] theorem attempt_ok {α : Type} (value : α) (cursor : Cursor) :
    attempt (.ok value) cursor = .done value cursor := rfl

@[simp] theorem attempt_error {α : Type} (reason : Fault) (cursor : Cursor) :
    (attempt (.error reason) : Scan α) cursor = .fault reason cursor := rfl

/-- The text from an offset to the cursor. -/
def sliceFrom (start : Nat) : Scan Slice := do
  let cursor ← here
  attempt (cursor.sliceFrom start)

/-- Moves the cursor forward to an offset. -/
def seek (offset : Nat) : Scan Unit := do
  let cursor ← here
  let target ← attempt (cursor.seek offset)
  goTo target

/-- Moves the cursor forward to an offset and gives the text from `start` to there. -/
def commit (start offset : Nat) : Scan Slice := do
  seek offset
  sliceFrom start

/-- Moves the cursor forward to an offset and halts there on malformed input. -/
def failAt {α : Type} (offset : Nat) (error : Position → ScanError) : Scan α := do
  seek offset
  let cursor ← here
  malformed (error cursor.position)

/-- Comes back to where a scan started when it does not match. -/
def orReturn {α : Type} (scan : Scan (Option α)) : Scan (Option α) := do
  let start ← here
  match ← scan with
  | some value => return some value
  | none =>
    goTo start
    return none

end Scan

end Lexkit
