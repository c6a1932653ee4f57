import Lexkit.Proofs.Scanner.Limit

/-!
# What named scanners tell

A tree is a chain of nodes down to one leaf, so the named scanners in it start one inside the other
and end in the opposite order. Skipping and the leaves tell trace events only; above that level a
run tells the start of every named scanner that it comes to, outermost first, and then the ends,
innermost first, all with the one outcome of the run. A named scanner changes nothing else, except
that it comes back when there is no match; where nothing has to be taken back, it may be left out.
-/

namespace Lexkit

/-! ### Scans that tell trace events only -/

/-- The scan tells nothing above the trace level. -/
def Scan.Hushed {α : Type} (scan : Scan α) : Prop := ∀ cursor, Step.loud (scan cursor).events = []

namespace Step

variable {α β : Type}

theorem events_bind_of_ok {step : Step α} {value : α} (hok : step.outcome = .ok value)
    (next : α → Scan β) :
    (step.bind next).events = step.events ++ (next value step.cursor).events := by
  rw [step.bind_of_ok hok]
  rfl

theorem loud_bind {step : Step α} {next : α → Scan β} (hstep : loud step.events = [])
    (hnext : ∀ value, loud (next value step.cursor).events = []) :
    loud (step.bind next).events = [] := by
  obtain ⟨outcome, cursor, events⟩ := step
  cases outcome with
  | error halt => exact hstep
  | ok value =>
    rw [events_bind_of_ok rfl, loud_append, hnext]
    exact (List.append_nil _).trans hstep

end Step

theorem SkipRule.hushed_scan (rule : SkipRule) : rule.scan.Hushed := by
  intro cursor
  unfold scan
  split <;> rfl

namespace LineComment

theorem hushed_read (comment : LineComment) : comment.read.Hushed := by
  intro cursor
  rw [comment.read_eq]
  split <;> rfl

end LineComment

namespace BlockComment

theorem hushed_read (comment : BlockComment) : comment.read.Hushed := by
  intro cursor
  cases hstart : cursor.startsWith comment.startMark with
  | false =>
    rw [comment.read_of_not_startsWith hstart]
    rfl
  | true =>
    obtain ⟨taken, -, hpasses⟩ := comment.exists_passes_close hstart
    cases hclose : comment.close (comment.opened cursor) with
    | ok after =>
      rw [hclose] at hpasses
      rw [comment.read_of_closed hstart hclose hpasses]
      rfl
    | error missing =>
      rw [comment.read_of_missing hstart hclose]
      rfl

end BlockComment

theorem QuotedIdentifier.hushed_scan (quoted : QuotedIdentifier) : quoted.scan.Hushed := by
  intro cursor
  rcases quoted.opening_cases cursor with
    hopening | ⟨first, stop, hopening,
      ⟨atEnd, hclose, -⟩ | ⟨after, inner, hclose, hpasses, -⟩⟩
  · rw [scan_of_unopened hopening]
    rfl
  · rw [scan_of_unclosed hopening hclose]
    rfl
  · rw [scan_of_closed hopening hclose hpasses]
    split <;> rfl

theorem Identifier.hushed_scan (identifier : Identifier) : identifier.scan.Hushed := by
  intro cursor
  cases hrest : cursor.rest with
  | nil =>
    rw [identifier.scan_of_nil hrest]
    rfl
  | cons ch rest =>
    cases hstart : identifier.isStart ch with
    | false =>
      rw [identifier.scan_of_not_isStart hrest hstart]
      rfl
    | true =>
      rw [identifier.scan_of_isStart hrest hstart]
      rfl

theorem Pattern.hushed_scan (pattern : Pattern) : pattern.scan.Hushed := by
  intro cursor
  rcases pattern.match_cases cursor with hmatch | ⟨taken, after, -, hmatch, hpasses⟩
  · rw [pattern.scan_of_unmatched hmatch]
    rfl
  · rw [pattern.scan_of_matched hmatch hpasses]
    rfl

namespace SkipUnit

theorem hushed_isMatch {scan : Scan (Option Slice)} (hscan : scan.Hushed) :
    scan.isMatch.Hushed := by
  intro cursor
  exact Step.loud_bind (hscan cursor) fun _ => rfl

theorem hushed_skip (unit : SkipUnit) : unit.skip.Hushed := by
  cases unit with
  | blanks =>
    intro cursor
    rw [skip_blanks]
    rfl
  | line comment => exact hushed_isMatch comment.hushed_read
  | block comment => exact hushed_isMatch comment.hushed_read
  | custom rule => exact rule.hushed_scan

theorem hushed_form (strategy : Strategy) (unit : SkipUnit) : (unit.form strategy).Hushed := by
  intro cursor
  rcases unit.form_eq strategy cursor with hform | hform
  · rw [hform]
    exact unit.hushed_skip cursor
  · rw [hform, Step.events_quiet, Step.loud_loud]
    exact unit.hushed_skip cursor

end SkipUnit

namespace Whitespace

theorem hushed_pass {units : List (Scan Bool)} (hunits : ∀ unit ∈ units, unit.Hushed) :
    (pass units).Hushed := by
  induction units with
  | nil => exact fun cursor => rfl
  | cons unit units ih =>
    intro cursor
    have hothers := ih fun other hother => hunits other (List.mem_cons_of_mem unit hother)
    exact Step.loud_bind (hunits unit List.mem_cons_self cursor) fun first =>
      Step.loud_bind (hothers _) fun _ => rfl

theorem hushed_passesUnder {units : List (Scan Bool)} (hpass : (pass units).Hushed)
    (limit : Limit) : (passesUnder limit units).Hushed := by
  refine passesUnder_induction (P := fun _ step => Step.loud step.events = [])
    (fun _ => rfl) (fun cursor _ => hpass cursor) ?_ limit
  intro cursor step _ hothers
  exact (Step.loud_append _ _).trans (by rw [hpass cursor]; exact hothers)

theorem hushed_skipUnder (limit : Limit) (strategy : Strategy) (whitespace : Whitespace) :
    (whitespace.skipUnder limit strategy).Hushed := by
  refine hushed_passesUnder (hushed_pass ?_) limit
  intro unit hunit
  obtain ⟨original, -, rfl⟩ := List.mem_map.1 hunit
  exact original.hushed_form strategy

theorem hushed_sliceSkipped (start : Nat) (skipped : Bool) :
    (sliceSkipped start skipped).Hushed := by
  intro cursor
  cases skipped with
  | false => rfl
  | true =>
    have hslice : Step.loud (Scan.sliceFrom start cursor).events = [] := by
      simp only [Scan.sliceFrom, Scan.bind_apply, Scan.here_apply, Step.bind_done]
      cases cursor.sliceFrom start <;> rfl
    exact Step.loud_bind hslice fun _ => rfl

theorem hushed_readUnder (limit : Limit) (strategy : Strategy) (whitespace : Whitespace) :
    (whitespace.readUnder limit strategy).Hushed := by
  intro cursor
  rw [readUnder_apply]
  exact Step.loud_bind (whitespace.hushed_skipUnder limit strategy cursor) fun skipped =>
    hushed_sliceSkipped cursor.offset skipped _

end Whitespace

/-! ### Named scanners -/

/-- The event of a named scanner that starts at a cursor. -/
def Event.opening (start : Text × Cursor) : Event := .entered start.1 start.2.position

/-- The last event of a named scanner that has started at a cursor: one, unless an operation was
refused. -/
def Event.closing (outcome : Except Halt (Option Slice)) (start : Text × Cursor) : List Event :=
  match outcome with
  | .ok (some slice) => [.matched start.1 slice.text]
  | .ok none => [.noMatch start.1 start.2.remaining.text]
  | .error (.malformed error) => [.malformed start.1 error]
  | .error (.fault _) => []

namespace Scanner

/-- The named scanners that start in a run, outermost first, and where each one starts. What comes
after whitespace does not start if skipping it fails. -/
def starts (limit : Limit) (strategy : Strategy) : Scanner → Cursor → List (Text × Cursor)
  | skipThen skipper inner, cursor =>
    match skipper.skipUnder limit strategy cursor with
    | ⟨.ok _, after, _⟩ => inner.starts limit strategy after
    | ⟨.error _, _, _⟩ => []
  | traced name inner, cursor => (name, cursor) :: inner.starts limit strategy cursor
  | _, _ => []

/-- The names in the tree, outermost first. -/
def names : Scanner → List Text
  | skipThen _ inner => inner.names
  | traced name inner => name :: inner.names
  | _ => []

variable {limit : Limit} {strategy : Strategy}

/-- A named scanner tells its start, what the inner scanner tells, and its end. -/
theorem scanTraced_eq (name : Text) (scan : Scan (Option Slice)) (cursor : Cursor) :
    scanTraced name scan cursor =
      ⟨(scan cursor).outcome,
        match (scan cursor).outcome with
        | .ok none => cursor
        | _ => (scan cursor).cursor,
        .opening (name, cursor) :: (scan cursor).events ++
          Event.closing (scan cursor).outcome (name, cursor)⟩ := by
  unfold scanTraced
  obtain ⟨outcome, after, events⟩ := scan cursor
  cases outcome with
  | ok found => cases found <;> rfl
  | error halt =>
    cases halt with
    | malformed error => rfl
    | fault reason => exact congrArg (Step.mk _ _) (List.append_nil _).symm

theorem hushed_run (leaf : Scanner) (hleaf : leaf.scan.Hushed) :
    (leaf.run strategy).Hushed := by
  intro cursor
  cases strategy with
  | interpreted => exact hleaf cursor
  | compiled =>
    rw [run, run_compile, Step.events_quiet, Step.loud_loud]
    exact hleaf cursor

/-- The ends come last, in the opposite order of the starts; before them only the starts are told
above the trace level. -/
theorem exists_told (scanner : Scanner) (cursor : Cursor) :
    ∃ told, (scanner.runUnder limit strategy cursor).events =
        told ++ (scanner.starts limit strategy cursor).reverse.flatMap
          (Event.closing (scanner.runUnder limit strategy cursor).outcome) ∧
      Step.loud told = (scanner.starts limit strategy cursor).map Event.opening := by
  have hhushed {scan : Scan (Option Slice)} (hscan : scan.Hushed) (cursor : Cursor) :
      ∃ told, (scan cursor).events = told ++ [].flatMap (Event.closing (scan cursor).outcome) ∧
        Step.loud told = [].map Event.opening :=
    ⟨(scan cursor).events, (List.append_nil _).symm, hscan cursor⟩
  induction scanner generalizing cursor with
  | whitespace skipper => exact hhushed (skipper.hushed_readUnder limit strategy) cursor
  | line comment => exact hhushed (hushed_run (line comment) comment.hushed_read) cursor
  | block comment => exact hhushed (hushed_run (block comment) comment.hushed_read) cursor
  | quoted quotes => exact hhushed (hushed_run (quoted quotes) quotes.hushed_scan) cursor
  | identifier chars => exact hhushed (hushed_run (identifier chars) chars.hushed_scan) cursor
  | pattern expr => exact hhushed (hushed_run (pattern expr) expr.hushed_scan) cursor
  | skipThen skipper inner ih =>
    have hskip := skipper.hushed_skipUnder limit strategy cursor
    rw [runUnder, scanAfter, Scan.orReturn_apply, Scan.bind_apply, starts]
    dsimp only
    generalize skipper.skipUnder limit strategy cursor = step at hskip ⊢
    obtain ⟨outcome, after, events⟩ := step
    cases outcome with
    | error halt => exact ⟨events, (List.append_nil _).symm, hskip⟩
    | ok skipped =>
      obtain ⟨told, hevents, hloud⟩ := ih after
      refine ⟨events ++ told, ?_, ?_⟩
      · rw [List.append_assoc]
        exact congrArg (events ++ ·) hevents
      · rw [Step.loud_append, hskip, hloud]
        rfl
  | traced name inner ih =>
    obtain ⟨told, hevents, hloud⟩ := ih cursor
    rw [runUnder, scanTraced_eq, starts]
    refine ⟨.opening (name, cursor) :: told, ?_, ?_⟩
    · dsimp only
      rw [hevents, List.reverse_cons, List.flatMap_append, List.flatMap_singleton]
      simp only [List.cons_append, List.append_assoc]
    · rw [List.map_cons, ← hloud]
      exact List.filter_cons_of_pos rfl

/-- Only where skipping fails the scanners behind it do not start. -/
theorem names_starts (scanner : Scanner) (cursor : Cursor) :
    (scanner.starts limit strategy cursor).map Prod.fst <+: scanner.names ∧
      ∀ found, (scanner.runUnder limit strategy cursor).outcome = .ok found →
        (scanner.starts limit strategy cursor).map Prod.fst = scanner.names := by
  induction scanner generalizing cursor with
  | skipThen skipper inner ih =>
    rw [runUnder, outcome_scanAfter, starts, names]
    generalize skipper.skipUnder limit strategy cursor = step
    obtain ⟨outcome, after, events⟩ := step
    cases outcome with
    | error halt => exact ⟨List.nil_prefix, fun found hfound => by cases hfound⟩
    | ok skipped => exact ih after
  | traced name inner ih =>
    rw [runUnder, outcome_scanTraced, starts, names]
    obtain ⟨hpart, hall⟩ := ih cursor
    refine ⟨List.cons_prefix_cons.2 ⟨rfl, hpart⟩, fun found hfound => ?_⟩
    exact congrArg (name :: ·) (hall found hfound)
  | _ => exact ⟨List.nil_prefix, fun _ _ => rfl⟩

/-! ### Trees without names -/

/-- The tree without its named nodes. -/
def bare : Scanner → Scanner
  | skipThen skipper inner => skipThen skipper inner.bare
  | traced _ inner => inner.bare
  | scanner => scanner

end Scanner

/-- The rule leaves the cursor alone when it skips nothing. -/
def SkipRule.Still (rule : SkipRule) : Prop :=
  ∀ cursor, (rule.apply cursor).1 = .ok false → (rule.apply cursor).2 = cursor

theorem SkipRule.Still.scan {rule : SkipRule} (hrule : rule.Still) : rule.scan.Still := by
  intro cursor hno
  have hanswer : (rule.apply cursor).1 = .ok false := by
    unfold SkipRule.scan at hno
    split at hno
    · rename_i skipped after happly
      obtain rfl : skipped = false := Except.ok.inj hno
      rw [happly]
    · cases hno
  rw [rule.cursor_scan]
  exact hrule cursor hanswer

theorem SkipUnit.still_form {strategy : Strategy} {unit : SkipUnit}
    (hrule : unit.AllRules SkipRule.Still) : (unit.form strategy).Still := by
  have hskip : unit.skip.Still := by
    rcases unit.custom_or_skip_ends with ⟨rule, rfl⟩ | hends
    · exact SkipRule.Still.scan hrule
    · exact fun cursor hno => (hends cursor).of_ok hno
  intro cursor hno
  obtain ⟨houtcome, hcursor⟩ := unit.form_agrees strategy cursor
  rw [hcursor]
  exact hskip cursor (houtcome.symm.trans hno)

namespace Whitespace

theorem still_passesUnder {units : List (Scan Bool)} (hpass : (pass units).Still)
    (limit : Limit) : (passesUnder limit units).Still := by
  refine passesUnder_induction
    (P := fun cursor step => step.outcome = .ok false → step.cursor = cursor)
    ?_ (fun cursor _ => hpass cursor) ?_ limit
  · intro cursor hno
    cases hno
  · intro cursor step _ _ hno
    -- After a pass that skips something the loop cannot answer no.
    obtain ⟨others, -, hothers⟩ := Step.outcome_map_eq_ok.1 hno
    exact absurd hothers Bool.true_eq_false.mp

theorem still_skipUnder {limit : Limit} {strategy : Strategy} {whitespace : Whitespace}
    (hrules : whitespace.AllRules SkipRule.Still) :
    (whitespace.skipUnder limit strategy).Still := by
  refine still_passesUnder (still_pass ?_) limit
  intro unit hunit
  obtain ⟨original, horiginal, rfl⟩ := List.mem_map.1 hunit
  exact SkipUnit.still_form (hrules original horiginal)

end Whitespace

namespace Scanner

variable {limit : Limit} {strategy : Strategy} {scanner : Scanner}

theorem cursor_of_none (hrules : scanner.AllRules SkipRule.Still) {cursor : Cursor}
    (hnone : (scanner.runUnder limit strategy cursor).outcome = .ok none) :
    (scanner.runUnder limit strategy cursor).cursor = cursor := by
  have hleaf {leaf : Scanner}
      (hrules : leaf.AllRules fun rule =>
        ∀ cursor, (rule.scan cursor).Ends cursor.Skipped cursor.Stops)
      (hnone : (leaf.run strategy cursor).outcome = .ok none) :
      (leaf.run strategy cursor).cursor = cursor :=
    (run_ends .exact hrules cursor).of_ok hnone
  cases scanner with
  | whitespace skipper =>
    rw [runUnder, skipper.readUnder_apply] at hnone ⊢
    obtain ⟨skipped, hskipped, hslice⟩ := Step.outcome_bind_eq_ok.1 hnone
    rw [Step.bind_of_ok _ hskipped]
    change (Whitespace.sliceSkipped cursor.offset skipped _).cursor = cursor
    rw [Whitespace.cursor_sliceSkipped]
    cases skipped with
    | false => exact Whitespace.still_skipUnder hrules cursor hskipped
    | true =>
      obtain ⟨slice, -, hsome⟩ := Step.outcome_bind_eq_ok.1 hslice
      cases hsome
  | skipThen skipper inner => exact Scan.cursor_orReturn hnone
  | traced name inner =>
    rw [runUnder, scanTraced_eq] at hnone ⊢
    dsimp only at hnone ⊢
    rw [hnone]
  | _ => exact hleaf trivial hnone

/-- Naming a scanner does not change what it comes to, if there is nothing to come back from. -/
theorem bare_agrees (hrules : scanner.AllRules SkipRule.Still) (cursor : Cursor) :
    (scanner.bare.runUnder limit strategy cursor).Agrees
      (scanner.runUnder limit strategy cursor) := by
  induction scanner generalizing cursor with
  | skipThen skipper inner ih =>
    apply Scan.orReturn_agrees
    exact (Step.Agrees.refl _).bind fun _ => ih hrules.2
  | traced name inner ih =>
    have hinner : inner.AllRules SkipRule.Still := hrules
    refine (ih hinner cursor).trans ?_
    rw [runUnder, scanTraced_eq]
    refine ⟨rfl, ?_⟩
    dsimp only
    split
    · rename_i hnone
      exact cursor_of_none hinner hnone
    · rfl
  | _ => exact .refl _

/-- What is told in a run. A compiled tree tells what the tree tells above the trace level, in the
same order. For both strategies the named scanners that start, which are all unless the run halts,
are told first, then their ends in the opposite order, each with the outcome of the run; a scanner
that is given a name tells its start, what it tells otherwise, and its end. And with rules that
leave the cursor alone when they skip nothing, the names make no difference to the outcome and the
cursor. -/
theorem events_bracketed (scanner : Scanner) (limit : Limit) (cursor : Cursor) :
    (scanner.runUnder limit .compiled cursor).events =
      (scanner.runUnder limit .interpreted cursor).events.filter (·.level ≠ .trace) ∧
    ∀ strategy,
      let step := scanner.runUnder limit strategy cursor
      let starts := scanner.starts limit strategy cursor
      (∃ told, step.events = told ++ starts.reverse.flatMap (Event.closing step.outcome) ∧
        told.filter (·.level ≠ .trace) = starts.map Event.opening) ∧
      (starts.map Prod.fst <+: scanner.names ∧
        ∀ found, step.outcome = .ok found → starts.map Prod.fst = scanner.names) ∧
      (∀ name, ((traced name scanner).runUnder limit strategy cursor).outcome = step.outcome ∧
        ((traced name scanner).runUnder limit strategy cursor).events =
          .entered name cursor.position :: step.events ++
            Event.closing step.outcome (name, cursor)) ∧
      (scanner.AllRules SkipRule.Still →
        (scanner.bare.runUnder limit strategy cursor).Agrees step) := by
  refine ⟨?_, fun strategy => ⟨scanner.exists_told cursor, scanner.names_starts cursor,
    fun name => ?_, fun hrules => ?_⟩⟩
  · rw [runUnder_compiled]
    rfl
  · rw [runUnder, scanTraced_eq]
    exact ⟨rfl, rfl⟩
  · exact bare_agrees hrules cursor

/-- Where a rule refuses a character the inner scanner does not start, and its name is not told. -/
theorem events_bracketed_refused :
    let scanner := traced ['n']
      (skipThen ⟨[.custom (.refuse (· == '?'))]⟩ (traced ['q'] (quoted .sql)))
    scanner.AllRules SkipRule.Still ∧
    (scanner.bare.runUnder .unlimited .compiled (.ofText ['?'])).Agrees
      (scanner.runUnder .unlimited .compiled (.ofText ['?'])) ∧
    (scanner.runUnder .unlimited .compiled (.ofText ['?'])).events =
      [.entered ['n'] .start, .malformed ['n'] (.zeroLengthIdentifier .start)] := by
  intro scanner
  have hstill : (SkipRule.refuse (· == '?')).Still := by
    intro cursor hno
    unfold SkipRule.refuse
    dsimp only
    split <;> rfl
  have hrules : scanner.AllRules SkipRule.Still := by
    refine ⟨fun unit hunit => ?_, trivial⟩
    obtain rfl := List.mem_singleton.1 hunit
    exact hstill
  have htold := (events_bracketed scanner .unlimited (.ofText ['?'])).2 .compiled
  refine ⟨hrules, htold.2.2.2 hrules, ?_⟩
  dsimp only [scanner]
  decide +kernel

end Scanner

end Lexkit
