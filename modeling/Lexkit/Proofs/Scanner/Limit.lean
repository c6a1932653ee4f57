import Lexkit.Proofs.Scanner

/-!
# When skipping is given up

A custom rule that claims to have skipped something where it did not can keep the loop of passes
going for ever. Such a run comes to nothing, but on its way it stands somewhere and has told
something. So the loop is also given up after a number of passes here: what is shown for every limit
holds of every run that ends, and of all that a run does that never ends.
-/

namespace Lexkit

/-- When the loop of passes is given up. -/
inductive Limit where
  /-- Never. -/
  | unlimited
  /-- After so many passes. -/
  | passes (count : Nat)
  deriving DecidableEq, Repr

namespace Whitespace

/-- Makes passes until one skips nothing, but not more than so many. -/
def passesWithin (units : List (Scan Bool)) : Nat → Scan Bool
  | 0 => Scan.attempt (.error .stalled)
  | count + 1 => do
    if ← pass units then
      let _ ← passesWithin units count
      return true
    else return false

def passesUnder (limit : Limit) (units : List (Scan Bool)) : Scan Bool :=
  match limit with
  | .unlimited => passes units
  | .passes count => passesWithin units count

variable (limit : Limit) (strategy : Strategy) (whitespace : Whitespace)

def skipUnder : Scan Bool := passesUnder limit (whitespace.units.map (SkipUnit.form strategy))

/-- The skipped text, as the strategy takes it. -/
def readUnder : Scan (Option Slice) := do
  let start ← Scan.here
  if ← whitespace.skipUnder limit strategy then
    match strategy with
    | .interpreted => return some (← Scan.sliceFrom start.offset)
    | .compiled =>
      let stop ← Scan.here
      return some (← Scan.commit start.offset stop.offset)
  else return none

end Whitespace

namespace Scanner

/-- Runs a scanner by the given strategy, with a limit for every loop of passes. -/
def runUnder (limit : Limit) (strategy : Strategy) : Scanner → Scan (Option Slice)
  | whitespace skipper => skipper.readUnder limit strategy
  | skipThen skipper inner =>
    scanAfter (skipper.skipUnder limit strategy) (inner.runUnder limit strategy)
  | traced name inner => scanTraced name (inner.runUnder limit strategy)
  | scanner => scanner.run strategy

end Scanner

/-! ### The loop and its limits -/

namespace Whitespace

variable {limit : Limit} {strategy : Strategy} {units : List (Scan Bool)} {cursor : Cursor}

theorem passesWithin_of_true {count : Nat} (hyes : (pass units cursor).outcome = .ok true) :
    passesWithin units (count + 1) cursor =
      ((passesWithin units count (pass units cursor).cursor).map fun _ => true).after
        (pass units cursor).events := by
  rw [passesWithin, Scan.bind_apply, Step.bind_of_ok _ hyes, if_pos rfl, Scan.bind_apply]
  exact congrArg _ (Step.bind_pure _ fun _ => true)

theorem passesWithin_of_not_true {count : Nat} (hno : (pass units cursor).outcome ≠ .ok true) :
    passesWithin units (count + 1) cursor = pass units cursor := by
  rw [passesWithin, Scan.bind_apply]
  generalize pass units cursor = step at hno
  obtain ⟨outcome, after, events⟩ := step
  cases outcome with
  | error halt => rfl
  | ok skipped =>
    cases skipped with
    | false => exact congrArg (Step.mk (.ok false) after) (List.append_nil events)
    | true => exact absurd rfl hno

/-- Where the loop ends the number of passes is no limit, if it is large enough. -/
theorem exists_passesWithin_eq {step : Step Bool}
    (hloops : Scan.Loops (pass units).answered cursor step) :
    ∃ enough, ∀ count, enough ≤ count → passesWithin units count cursor = step := by
  refine hloops.answered_induction (P := fun cursor step =>
    ∃ enough, ∀ count, enough ≤ count → passesWithin units count cursor = step) ?_ ?_
  · intro cursor hno
    refine ⟨1, fun count hcount => ?_⟩
    obtain ⟨others, rfl⟩ := Nat.exists_eq_add_of_le' hcount
    exact passesWithin_of_not_true hno
  · rintro cursor step hyes ⟨enough, henough⟩
    refine ⟨enough + 1, fun count hcount => ?_⟩
    obtain ⟨others, rfl⟩ := Nat.exists_eq_add_of_le' hcount
    rw [← Nat.add_assoc, passesWithin_of_true hyes, henough _ (Nat.le_add_left _ _)]

/-- Where each pass that goes on leaves less to read, there is no more than one pass for each
character, and the last one. -/
theorem passesWithin_eq_passes (hadvances : (pass units).answered.Advances) {count : Nat}
    (hcount : cursor.rest.length < count) :
    passesWithin units count cursor = passes units cursor := by
  induction count generalizing cursor with
  | zero => omega
  | succ count ih =>
    by_cases hyes : (pass units cursor).outcome = .ok true
    · have hless := hadvances cursor _ (Scan.outcome_answered_of_true hyes)
      rw [Scan.answered_apply] at hless
      have hothers : (pass units cursor).cursor.rest.length < count :=
        Nat.lt_of_lt_of_le hless (Nat.le_of_lt_succ hcount)
      rw [passesWithin_of_true hyes, ih hothers]
      exact (Scan.untilNo_of_true hadvances hyes).symm
    · rw [passesWithin_of_not_true hyes, passes_of_not_true hyes]

/-- What the loop comes to under any limit, pass by pass: it is given up, or a pass is the last one,
or the loop goes on after it. -/
theorem passesUnder_induction {P : Cursor → Step Bool → Prop}
    (given_up : ∀ cursor, P cursor (.fault .stalled cursor))
    (last : ∀ cursor, (pass units cursor).outcome ≠ .ok true → P cursor (pass units cursor))
    (again : ∀ cursor step, (pass units cursor).outcome = .ok true →
      P (pass units cursor).cursor step →
      P cursor ((step.map fun _ => true).after (pass units cursor).events))
    (limit : Limit) (cursor : Cursor) : P cursor (passesUnder limit units cursor) := by
  cases limit with
  | unlimited => exact Scan.untilNo_induction given_up last again cursor
  | passes count =>
    rw [passesUnder]
    induction count generalizing cursor with
    | zero => exact given_up cursor
    | succ count ih =>
      by_cases hyes : (pass units cursor).outcome = .ok true
      · rw [passesWithin_of_true hyes]
        exact again cursor _ hyes (ih _)
      · rw [passesWithin_of_not_true hyes]
        exact last cursor hyes

theorem quiet_passesWithin {compiled walked : List (Scan Bool)}
    (hpass : ∀ cursor, pass compiled cursor = (pass walked cursor).quiet) (count : Nat)
    (cursor : Cursor) :
    passesWithin compiled count cursor = (passesWithin walked count cursor).quiet := by
  have hsame (cursor : Cursor) : (pass compiled cursor).outcome = (pass walked cursor).outcome := by
    rw [hpass, Step.outcome_quiet]
  induction count generalizing cursor with
  | zero => rfl
  | succ count ih =>
    by_cases hyes : (pass walked cursor).outcome = .ok true
    · rw [passesWithin_of_true hyes, passesWithin_of_true ((hsame cursor).trans hyes), hpass,
        Step.quiet_after, Step.quiet_map, ← ih]
      rfl
    · have hno : (pass compiled cursor).outcome ≠ .ok true := hsame cursor ▸ hyes
      rw [passesWithin_of_not_true hyes, passesWithin_of_not_true hno, hpass]

theorem quiet_passesUnder {compiled walked : List (Scan Bool)}
    (hpass : ∀ cursor, pass compiled cursor = (pass walked cursor).quiet) (limit : Limit)
    (cursor : Cursor) :
    passesUnder limit compiled cursor = (passesUnder limit walked cursor).quiet := by
  cases limit with
  | unlimited => exact Scan.quiet_untilNo hpass cursor
  | passes count => exact quiet_passesWithin hpass count cursor

theorem quiet_skipUnder (limit : Limit) (whitespace : Whitespace) (cursor : Cursor) :
    whitespace.skipUnder limit .compiled cursor =
      (whitespace.skipUnder limit .interpreted cursor).quiet :=
  quiet_passesUnder (quiet_pass whitespace.units) limit cursor

/-- What a read does after the loop: it slices the text up to where the loop has stopped. -/
def sliceSkipped (start : Nat) (skipped : Bool) : Scan (Option Slice) :=
  if skipped then do return some (← Scan.sliceFrom start) else return none

theorem readUnder_apply (limit : Limit) (strategy : Strategy) (whitespace : Whitespace)
    (cursor : Cursor) : whitespace.readUnder limit strategy cursor =
      (whitespace.skipUnder limit strategy cursor).bind (sliceSkipped cursor.offset) := by
  rw [readUnder, Scan.bind_apply, Scan.here_apply, Step.bind_done, Scan.bind_apply]
  apply congrArg
  funext skipped after
  cases skipped with
  | false => rfl
  | true =>
    cases strategy with
    | interpreted => rfl
    | compiled =>
      exact congrArg (fun step => step.bind fun slice => pure (some slice))
        (commit_here cursor.offset after)

theorem cursor_sliceSkipped (start : Nat) (skipped : Bool) (cursor : Cursor) :
    (sliceSkipped start skipped cursor).cursor = cursor := by
  cases skipped with
  | false => rfl
  | true =>
    change ((Scan.sliceFrom start cursor).bind fun slice => pure (some slice)).cursor = cursor
    rw [Step.bind_pure]
    exact Scan.cursor_sliceFrom start cursor

theorem quiet_sliceSkipped (start : Nat) (skipped : Bool) (cursor : Cursor) :
    (sliceSkipped start skipped cursor).quiet = sliceSkipped start skipped cursor := by
  cases skipped with
  | false => rfl
  | true =>
    change ((Scan.sliceFrom start cursor).bind fun slice => pure (some slice)).quiet =
      (Scan.sliceFrom start cursor).bind fun slice => pure (some slice)
    rw [Step.quiet_bind, Scan.quiet_sliceFrom]
    rfl

theorem quiet_readUnder (limit : Limit) (whitespace : Whitespace) (cursor : Cursor) :
    whitespace.readUnder limit .compiled cursor =
      (whitespace.readUnder limit .interpreted cursor).quiet := by
  rw [readUnder_apply, readUnder_apply, Step.quiet_bind, quiet_skipUnder]
  apply congrArg
  funext skipped after
  exact (quiet_sliceSkipped cursor.offset skipped after).symm

end Whitespace

/-! ### Trees under a limit -/

namespace Scanner

variable {limit : Limit} {strategy : Strategy} {scanner : Scanner} {cursor : Cursor}

/-- Without a limit a tree is run as it is. -/
theorem runUnder_unlimited (strategy : Strategy) (scanner : Scanner) :
    scanner.runUnder .unlimited strategy = scanner.run strategy := by
  induction scanner with
  | whitespace skipper => cases strategy <;> rfl
  | skipThen skipper inner ih =>
    rw [runUnder, ih]
    cases strategy <;> rfl
  | traced name inner ih =>
    rw [runUnder, ih]
    cases strategy <;> rfl
  | _ => rfl

/-- Under every limit a compiled tree does what the tree does, and tells the events above the trace
level. -/
theorem runUnder_compiled (limit : Limit) (scanner : Scanner) (cursor : Cursor) :
    scanner.runUnder limit .compiled cursor =
      (scanner.runUnder limit .interpreted cursor).quiet := by
  induction scanner generalizing cursor with
  | whitespace skipper => exact skipper.quiet_readUnder limit cursor
  | skipThen skipper inner ih =>
    have hskip : skipper.skipUnder limit .compiled = (skipper.skipUnder limit .interpreted).quiet :=
      funext (skipper.quiet_skipUnder limit)
    have hinner : inner.runUnder limit .compiled = (inner.runUnder limit .interpreted).quiet :=
      funext ih
    rw [runUnder, runUnder, quiet_scanAfter, hskip, hinner]
  | traced name inner ih =>
    have hinner : inner.runUnder limit .compiled = (inner.runUnder limit .interpreted).quiet :=
      funext ih
    rw [runUnder, runUnder, quiet_scanTraced, hinner]
  | _ => exact run_compile _ cursor

theorem scanTraced_congr {name : Text} {scan other : Scan (Option Slice)}
    (hsame : scan cursor = other cursor) :
    scanTraced name scan cursor = scanTraced name other cursor := by
  simp only [scanTraced, hsame]

theorem scanAfter_congr {skip pass : Scan Bool} {scan other : Scan (Option Slice)}
    (hskip : skip cursor = pass cursor)
    (hscan : ∀ skipped, (pass cursor).outcome = .ok skipped →
      scan (pass cursor).cursor = other (pass cursor).cursor) :
    scanAfter skip scan cursor = scanAfter pass other cursor := by
  have hboth : (skip cursor).bind (fun _ => scan) = (pass cursor).bind fun _ => other := by
    rw [hskip]
    generalize pass cursor = step at hscan ⊢
    obtain ⟨outcome, after, events⟩ := step
    cases outcome with
    | error halt => rfl
    | ok skipped => exact congrArg (Step.after events) (hscan skipped rfl)
  rw [scanAfter, scanAfter, Scan.orReturn_apply, Scan.orReturn_apply, Scan.bind_apply,
    Scan.bind_apply, hboth]

theorem outcome_scanAfter (skip : Scan Bool) (scan : Scan (Option Slice)) (cursor : Cursor) :
    (scanAfter skip scan cursor).outcome = ((skip cursor).bind fun _ => scan).outcome := by
  rw [scanAfter, Scan.orReturn_apply]
  rfl

theorem cursor_scanTraced (name : Text) (scan : Scan (Option Slice)) (cursor : Cursor) :
    (scanTraced name scan cursor).cursor = cursor ∨
      (scanTraced name scan cursor).cursor = (scan cursor).cursor := by
  unfold scanTraced
  dsimp only
  split
  · exact .inr rfl
  · exact .inl rfl
  · exact .inr rfl
  · exact .inr rfl

/-- A run that ends is the run under every large enough number of passes. -/
theorem exists_runUnder_eq_run
    (hends : (scanner.run strategy cursor).outcome ≠ .error (.fault .stalled)) :
    ∃ enough, ∀ count, enough ≤ count →
      scanner.runUnder (.passes count) strategy cursor = scanner.run strategy cursor := by
  have hskips {skipper : Whitespace} {cursor : Cursor}
      (hends : (skipper.skipUnder .unlimited strategy cursor).outcome ≠ .error (.fault .stalled)) :
      ∃ enough, ∀ count, enough ≤ count → skipper.skipUnder (.passes count) strategy cursor =
        skipper.skipUnder .unlimited strategy cursor :=
    Whitespace.exists_passesWithin_eq (Scan.loops_of_not_stalled hends)
  have hstalled {α β : Type} {step : Step α} (next : α → Scan β)
      (hbind : (step.bind next).outcome ≠ .error (.fault .stalled)) :
      step.outcome ≠ .error (.fault .stalled) := fun hstep =>
    hbind (by rw [step.bind_of_error hstep])
  rw [← runUnder_unlimited] at hends ⊢
  induction scanner generalizing cursor with
  | whitespace skipper =>
    simp only [runUnder, Whitespace.readUnder, Scan.bind_apply, Scan.here_apply,
      Step.bind_done] at hends ⊢
    obtain ⟨enough, henough⟩ := hskips (hstalled _ hends)
    exact ⟨enough, fun count hcount => by rw [henough count hcount]⟩
  | skipThen skipper inner ih =>
    rw [runUnder, outcome_scanAfter] at hends
    obtain ⟨enough, henough⟩ := hskips (hstalled _ hends)
    cases houtcome : (skipper.skipUnder .unlimited strategy cursor).outcome with
    | error halt =>
      refine ⟨enough, fun count hcount => ?_⟩
      apply scanAfter_congr (henough count hcount)
      intro skipped hskipped
      rw [houtcome] at hskipped
      cases hskipped
    | ok skipped =>
      rw [Step.bind_of_ok _ houtcome] at hends
      obtain ⟨enough', henough'⟩ := ih hends
      refine ⟨max enough enough', fun count hcount => ?_⟩
      apply scanAfter_congr (henough count (Nat.max_le.1 hcount).1)
      exact fun _ _ => henough' count (Nat.max_le.1 hcount).2
  | traced name inner ih =>
    rw [runUnder, outcome_scanTraced] at hends
    obtain ⟨enough, henough⟩ := ih hends
    exact ⟨enough, fun count hcount => scanTraced_congr (henough count hcount)⟩
  | _ => exact ⟨0, fun _ _ => rfl⟩

end Scanner

/-! ### Where the cursor goes -/

/-- A relation that holds between two cursors if the second has passed some text, and that holds of
two moves, one after the other, if it holds of each. -/
structure Route (R : Cursor → Cursor → Prop) : Prop where
  of_passes : ∀ {cursor taken after}, cursor.Passes taken after → R cursor after
  trans : ∀ {cursor middle after}, R cursor middle → R middle after → R cursor after

theorem SkipRule.cursor_scan (rule : SkipRule) (cursor : Cursor) :
    (rule.scan cursor).cursor = (rule.apply cursor).2 := by
  unfold scan
  split <;> simp_all [Step.done, Step.malformed]

namespace Route

variable {R : Cursor → Cursor → Prop} {limit : Limit} {strategy : Strategy}

section

variable (hroute : Route R)
include hroute

theorem refl (cursor : Cursor) : R cursor cursor := hroute.of_passes (.refl cursor)

/-- A scan that is bound as the built-in ones passes some text, however it ends. -/
theorem of_ends {α : Type} {step : Step α} {cursor : Cursor} {skipped : α → Bool}
    (hends : step.Ends (fun value => cursor.Skipped (skipped value)) cursor.Stops) :
    R cursor step.cursor := by
  obtain ⟨outcome, after, events⟩ := step
  cases outcome with
  | ok value =>
    obtain ⟨taken, hpasses, -⟩ := hends.steps
    exact hroute.of_passes hpasses
  | error halt =>
    cases halt with
    | malformed error =>
      obtain ⟨-, taken, hpasses⟩ := hends
      exact hroute.of_passes hpasses
    | fault reason => exact hends.elim

theorem bind {α β : Type} {cursor : Cursor} {step : Step α} {next : α → Scan β}
    (hstep : R cursor step.cursor)
    (hnext : ∀ value, R step.cursor (next value step.cursor).cursor) :
    R cursor (step.bind next).cursor := by
  obtain ⟨outcome, after, events⟩ := step
  cases outcome with
  | ok value => exact hroute.trans hstep (hnext value)
  | error halt => exact hstep

theorem form {unit : SkipUnit}
    (hrule : unit.AllRules fun rule => ∀ cursor, R cursor (rule.apply cursor).2)
    (cursor : Cursor) : R cursor (unit.form strategy cursor).cursor := by
  rw [(unit.form_agrees strategy cursor).2]
  rcases unit.custom_or_skip_ends with ⟨rule, rfl⟩ | hends
  · rw [SkipUnit.skip, rule.cursor_scan]
    exact hrule cursor
  · exact hroute.of_ends (hends cursor)

theorem pass {units : List (Scan Bool)}
    (hunits : ∀ unit ∈ units, ∀ cursor, R cursor (unit cursor).cursor)
    (cursor : Cursor) : R cursor (Whitespace.pass units cursor).cursor := by
  induction units generalizing cursor with
  | nil => exact hroute.refl cursor
  | cons unit units ih =>
    rw [Whitespace.pass, Scan.bind_apply]
    apply hroute.bind (hunits unit List.mem_cons_self cursor)
    intro first
    rw [Scan.bind_apply]
    apply hroute.bind (ih (fun other hother => hunits other (List.mem_cons_of_mem unit hother)) _)
    exact fun _ => hroute.refl _

theorem passesUnder {units : List (Scan Bool)}
    (hpass : ∀ cursor, R cursor (Whitespace.pass units cursor).cursor) (cursor : Cursor) :
    R cursor (Whitespace.passesUnder limit units cursor).cursor := by
  refine Whitespace.passesUnder_induction (P := fun cursor step => R cursor step.cursor)
    hroute.refl (fun cursor _ => hpass cursor) ?_ limit cursor
  intro cursor step _ hothers
  exact hroute.trans (hpass cursor) hothers

theorem skipUnder {whitespace : Whitespace}
    (hrules : whitespace.AllRules fun rule => ∀ cursor, R cursor (rule.apply cursor).2)
    (cursor : Cursor) : R cursor (whitespace.skipUnder limit strategy cursor).cursor := by
  refine hroute.passesUnder (hroute.pass ?_) cursor
  intro unit hunit
  obtain ⟨original, horiginal, rfl⟩ := List.mem_map.1 hunit
  exact hroute.form (hrules original horiginal)

theorem readUnder {whitespace : Whitespace}
    (hrules : whitespace.AllRules fun rule => ∀ cursor, R cursor (rule.apply cursor).2)
    (cursor : Cursor) : R cursor (whitespace.readUnder limit strategy cursor).cursor := by
  rw [whitespace.readUnder_apply]
  apply hroute.bind (hroute.skipUnder hrules cursor)
  generalize (whitespace.skipUnder limit strategy cursor).cursor = after
  intro skipped
  rw [Whitespace.cursor_sliceSkipped]
  exact hroute.refl after

/-- A run leaves the cursor where its custom rules and moves over text can bring it. -/
theorem runUnder {scanner : Scanner}
    (hrules : scanner.AllRules fun rule => ∀ cursor, R cursor (rule.apply cursor).2)
    (cursor : Cursor) : R cursor (scanner.runUnder limit strategy cursor).cursor := by
  have hleaf {leaf : Scanner} {cursor : Cursor}
      (hrules : leaf.AllRules fun rule =>
        ∀ cursor, (rule.scan cursor).Ends cursor.Skipped cursor.Stops) :
      R cursor (leaf.run strategy cursor).cursor :=
    hroute.of_ends (Scanner.run_ends .exact hrules cursor)
  induction scanner generalizing cursor with
  | whitespace skipper => exact hroute.readUnder hrules cursor
  | skipThen skipper inner ih =>
    have hskip : R cursor (skipper.skipUnder limit strategy cursor).cursor :=
      hroute.skipUnder hrules.1 cursor
    have hboth := hroute.bind hskip fun _ => ih hrules.2 _
    rw [Scanner.runUnder, Scanner.scanAfter, Scan.orReturn_apply]
    dsimp only
    split
    · exact hroute.refl cursor
    · exact hboth
  | traced name inner ih =>
    rcases Scanner.cursor_scanTraced name (inner.runUnder limit strategy) cursor with
      hstays | hleaves
    · rw [Scanner.runUnder, hstays]
      exact hroute.refl cursor
    · rw [Scanner.runUnder, hleaves]
      exact ih hrules cursor
  | _ => exact hleaf trivial

end

end Route

end Lexkit
