import Lexkit.Proofs.Identifier
import Lexkit.Proofs.Pattern
import Lexkit.Proofs.Quote
import Lexkit.Proofs.Whitespace
import Lexkit.Scanner

/-!
# Scanner trees

Both strategies of a tree come to the same value or error and leave the same cursor: each leaf has
its own equation, and the two inner nodes hide the trace events that their parts hide. And a tree
keeps every bound on moves that its custom rules keep, if the built-in units keep it as well.
-/

namespace Lexkit.Scanner

/-- Every custom rule in the tree satisfies `P`. -/
def AllRules (P : SkipRule → Prop) : Scanner → Prop
  | whitespace skipper => skipper.AllRules P
  | skipThen skipper inner => skipper.AllRules P ∧ inner.AllRules P
  | traced _ inner => inner.AllRules P
  | line _ | block _ | quoted _ | identifier _ | pattern _ => True

theorem AllRules.mono {P Q : SkipRule → Prop} (hrules : ∀ rule, P rule → Q rule)
    {scanner : Scanner} (hscanner : scanner.AllRules P) : scanner.AllRules Q := by
  have hskipper {skipper : Whitespace} (hskipper : skipper.AllRules P) : skipper.AllRules Q := by
    intro unit hunit
    have hunit := hskipper unit hunit
    cases unit with
    | custom rule => exact hrules rule hunit
    | _ => trivial
  induction scanner with
  | whitespace skipper => exact hskipper hscanner
  | skipThen skipper inner ih => exact ⟨hskipper hscanner.1, ih hscanner.2⟩
  | traced name inner ih => exact ih hscanner
  | _ => trivial

/-! ### Both strategies do the same -/

theorem quiet_scanAfter (skip : Scan Bool) (scan : Scan (Option Slice)) (cursor : Cursor) :
    (scanAfter skip scan cursor).quiet = scanAfter skip.quiet scan.quiet cursor := by
  have hboth : Scan.quiet (skip >>= fun _ => scan) = skip.quiet >>= fun _ => scan.quiet :=
    funext fun place => Step.quiet_bind (skip place) fun _ => scan
  exact (Scan.quiet_orReturn _ cursor).trans (congrArg (Scan.orReturn · cursor) hboth)

section

variable {name : Text} {scan : Scan (Option Slice)} {cursor : Cursor}

theorem scanTraced_of_some {slice : Slice} (houtcome : (scan cursor).outcome = .ok (some slice)) :
    scanTraced name scan cursor =
      ⟨.ok (some slice), (scan cursor).cursor,
        .entered name cursor.position :: (scan cursor).events ++ [.matched name slice.text]⟩ := by
  simp only [scanTraced, houtcome]

theorem scanTraced_of_none (houtcome : (scan cursor).outcome = .ok none) :
    scanTraced name scan cursor =
      ⟨.ok none, cursor,
        .entered name cursor.position :: (scan cursor).events ++ [.noMatch name cursor.rest]⟩ := by
  simp only [scanTraced, houtcome]
  rfl

theorem scanTraced_of_malformed {error : ScanError}
    (houtcome : (scan cursor).outcome = .error (.malformed error)) :
    scanTraced name scan cursor =
      ⟨.error (.malformed error), (scan cursor).cursor,
        .entered name cursor.position :: (scan cursor).events ++ [.malformed name error]⟩ := by
  simp only [scanTraced, houtcome]

theorem scanTraced_of_fault {reason : Fault}
    (houtcome : (scan cursor).outcome = .error (.fault reason)) :
    scanTraced name scan cursor =
      ⟨.error (.fault reason), (scan cursor).cursor,
        .entered name cursor.position :: (scan cursor).events⟩ := by
  simp only [scanTraced, houtcome]

theorem outcome_scanTraced : (scanTraced name scan cursor).outcome = (scan cursor).outcome := by
  cases houtcome : (scan cursor).outcome with
  | ok found =>
    cases found with
    | none => rw [scanTraced_of_none houtcome]
    | some slice => rw [scanTraced_of_some houtcome]
  | error halt =>
    cases halt with
    | malformed error => rw [scanTraced_of_malformed houtcome]
    | fault reason => rw [scanTraced_of_fault houtcome]

end

theorem quiet_scanTraced (name : Text) (scan : Scan (Option Slice)) (cursor : Cursor) :
    (scanTraced name scan cursor).quiet = scanTraced name scan.quiet cursor := by
  -- What a traced scanner tells is above the trace level, so only the inner events are thinned out.
  have hentered (events : List Event) : Step.loud (.entered name cursor.position :: events) =
      .entered name cursor.position :: Step.loud events := List.filter_cons_of_pos rfl
  have hlast (last : Event) (hlast : last.level = .debug) : Step.loud [last] = [last] :=
    List.filter_cons_of_pos (by simp [hlast])
  have hsame : (scan.quiet cursor).outcome = (scan cursor).outcome := rfl
  cases houtcome : (scan cursor).outcome with
  | ok found =>
    cases found with
    | none =>
      rw [scanTraced_of_none houtcome, scanTraced_of_none (hsame.trans houtcome), Step.quiet,
        Step.loud_append, hentered, hlast _ rfl]
      rfl
    | some slice =>
      rw [scanTraced_of_some houtcome, scanTraced_of_some (hsame.trans houtcome), Step.quiet,
        Step.loud_append, hentered, hlast _ rfl]
      rfl
  | error halt =>
    cases halt with
    | malformed error =>
      rw [scanTraced_of_malformed houtcome, scanTraced_of_malformed (hsame.trans houtcome),
        Step.quiet, Step.loud_append, hentered, hlast _ rfl]
      rfl
    | fault reason =>
      rw [scanTraced_of_fault houtcome, scanTraced_of_fault (hsame.trans houtcome), Step.quiet,
        hentered]
      rfl

/-- A compiled tree does what the tree does, and tells the events above the trace level. -/
theorem run_compile (scanner : Scanner) (cursor : Cursor) :
    scanner.compile.run cursor = (scanner.scan cursor).quiet := by
  induction scanner generalizing cursor with
  | whitespace skipper => exact skipper.run_compile cursor
  | line comment =>
    rw [compile, scan, comment.run_compile, LineComment.read_eq]
    split <;> rfl
  | block comment => exact comment.run_compile cursor
  | quoted quotes => exact quotes.run_compile cursor
  | identifier chars => exact chars.run_compile cursor
  | pattern expr =>
    rw [compile, scan, expr.run_compile]
    rcases expr.match_cases cursor with hmatch | ⟨taken, after, -, hmatch, hpasses⟩
    · rw [expr.scan_of_unmatched hmatch]
      rfl
    · rw [expr.scan_of_matched hmatch hpasses]
      rfl
  | skipThen skipper inner ih =>
    have hskip : skipper.compileSkip = skipper.skip.quiet := funext skipper.compileSkip_eq
    have hinner : inner.compile.run = inner.scan.quiet := funext ih
    rw [scan, quiet_scanAfter, compile]
    dsimp only
    rw [hskip, hinner]
  | traced name inner ih =>
    have hinner : inner.compile.run = inner.scan.quiet := funext ih
    rw [scan, quiet_scanTraced, compile]
    dsimp only
    rw [hinner]

theorem run_agrees (scanner : Scanner) (strategy : Strategy) (cursor : Cursor) :
    (scanner.run strategy cursor).Agrees (scanner.scan cursor) := by
  cases strategy with
  | interpreted => exact .refl _
  | compiled =>
    rw [run, run_compile]
    exact Step.agrees_quiet _

theorem expected_compile (scanner : Scanner) : scanner.compile.expected = scanner.expected := by
  induction scanner with
  | traced name inner ih => exact ih
  | _ => rfl

theorem ends_run {good : Option Slice → Cursor → Prop} {bad : ScanError → Cursor → Prop}
    {scanner : Scanner} {strategy : Strategy} {cursor : Cursor} :
    (scanner.run strategy cursor).Ends good bad ↔ (scanner.scan cursor).Ends good bad :=
  (scanner.run_agrees strategy cursor).ends_iff

/-! ### Where a scan stops -/

section

variable {good : Cursor → Bool → Cursor → Prop} {bad : Cursor → ScanError → Cursor → Prop}

theorem scanAfter_ends (hbound : SkipBound good bad) {skip : Scan Bool} {scan : Scan (Option Slice)}
    (hskip : ∀ cursor, (skip cursor).Ends (good cursor) (bad cursor))
    (hscan : ∀ cursor, (scan cursor).Ends (fun found => good cursor found.isSome) (bad cursor))
    (cursor : Cursor) :
    (scanAfter skip scan cursor).Ends (fun found => good cursor found.isSome) (bad cursor) := by
  have hboth : ((skip >>= fun _ => scan) cursor).Ends
      (fun found after => found.isSome = true → good cursor true after) (bad cursor) := by
    apply (hskip cursor).bind
    intro skipped middle hskipped
    refine (hscan middle).mono (fun found after hfound hsome => ?_) fun _ _ =>
      hbound.bad_trans hskipped
    have hwhole := hbound.trans hskipped hfound
    rwa [hsome, Bool.or_true] at hwhole
  rw [scanAfter, Scan.orReturn, Scan.bind_apply, Scan.here_apply, Step.bind_done, Scan.bind_apply]
  apply hboth.bind
  intro found after hfound
  cases found with
  | none => exact hbound.of_skipped rfl
  | some slice => exact hfound rfl

theorem scanTraced_ends (hbound : SkipBound good bad) (name : Text) {scan : Scan (Option Slice)}
    (cursor : Cursor)
    (hscan : (scan cursor).Ends (fun found => good cursor found.isSome) (bad cursor)) :
    (scanTraced name scan cursor).Ends (fun found => good cursor found.isSome) (bad cursor) := by
  cases houtcome : (scan cursor).outcome with
  | ok found =>
    have hgood := hscan.of_ok houtcome
    cases found with
    | none =>
      rw [scanTraced_of_none houtcome]
      exact hbound.of_skipped rfl
    | some slice =>
      rw [scanTraced_of_some houtcome]
      exact hgood
  | error halt =>
    cases halt with
    | malformed error =>
      rw [scanTraced_of_malformed houtcome]
      exact hscan.of_malformed houtcome
    | fault reason => exact absurd houtcome (hscan.faultless reason)

/-- A tree keeps every bound that its custom rules keep. -/
theorem scan_ends (hbound : SkipBound good bad) {scanner : Scanner}
    (hrules : scanner.AllRules fun rule =>
      ∀ cursor, (rule.scan cursor).Ends (good cursor) (bad cursor))
    (cursor : Cursor) :
    (scanner.scan cursor).Ends (fun found => good cursor found.isSome) (bad cursor) := by
  have hleaf {scan : Scan (Option Slice)} {cursor : Cursor}
      (hends : (scan cursor).Ends cursor.Found cursor.Stops) :
      (scan cursor).Ends (fun found => good cursor found.isSome) (bad cursor) :=
    hends.mono (fun _ _ => hbound.of_skipped) fun _ _ => hbound.of_stops
  have hreader {scan : Scan (Option Slice)} {cursor : Cursor}
      (hends : (scan cursor).Ends cursor.Reads cursor.Stops) :
      (scan cursor).Ends (fun found => good cursor found.isSome) (bad cursor) :=
    hleaf (hends.mono (fun _ _ => Cursor.Reads.found) fun _ _ hstops => hstops)
  induction scanner generalizing cursor with
  | whitespace skipper => exact skipper.read_ends hbound hrules cursor
  | line comment => exact hreader (comment.read_ends cursor)
  | block comment => exact hreader (comment.read_ends cursor)
  | quoted quotes => exact hleaf (quotes.scan_ends cursor)
  | identifier chars => exact hreader (chars.scan_ends cursor)
  | pattern expr => exact hreader (expr.scan_ends cursor)
  | skipThen skipper inner ih =>
    exact scanAfter_ends hbound (skipper.skip_ends hbound hrules.1) (ih hrules.2) cursor
  | traced name inner ih => exact scanTraced_ends hbound name cursor (ih hrules cursor)

theorem run_ends (hbound : SkipBound good bad) {scanner : Scanner} {strategy : Strategy}
    (hrules : scanner.AllRules fun rule =>
      ∀ cursor, (rule.scan cursor).Ends (good cursor) (bad cursor))
    (cursor : Cursor) :
    (scanner.run strategy cursor).Ends (fun found => good cursor found.isSome) (bad cursor) :=
  ends_run.2 (scan_ends hbound hrules cursor)

end

/-! ### Both strategies, value by value -/

/-- Both strategies of a tree come to the same value or error and leave the same cursor, and know
the same starting characters. So do the two raw forms of a quoted identifier and the two skipping
forms of whitespace. With forward rules none of these refuses an operation. -/
theorem strategies_agree (scanner : Scanner) (cursor : Cursor) :
    (scanner.compile.run cursor).Agrees (scanner.scan cursor) ∧
      scanner.compile.expected = scanner.expected ∧
      (scanner.AllRules SkipRule.Forward → (scanner.scan cursor).Faultless) ∧
      (∀ quotes : QuotedIdentifier,
        (quotes.compileRead.run cursor).Agrees (quotes.read cursor) ∧
          quotes.compileRead.expected = some quotes.expected ∧
          (quotes.read cursor).Faultless) ∧
      ∀ skipper : Whitespace,
        (skipper.compileSkip cursor).Agrees (skipper.skip cursor) ∧
          (skipper.AllRules SkipRule.Forward → (skipper.skip cursor).Faultless) := by
  refine ⟨Step.agrees_of_eq_quiet (scanner.run_compile cursor), scanner.expected_compile, ?_, ?_,
    ?_⟩
  · intro hrules
    exact (scan_ends .moving hrules cursor).faultless
  · intro quotes
    exact ⟨Step.agrees_of_eq_quiet (quotes.run_compileRead cursor), rfl,
      (quotes.read_ends cursor).faultless⟩
  · intro skipper
    refine ⟨Step.agrees_of_eq_quiet (skipper.compileSkip_eq cursor), ?_⟩
    intro hrules
    exact (skipper.skip_ends .moving hrules cursor).faultless

/-- A rule that moves silently is forward, and a scan that it misleads is still no fault. -/
theorem strategies_agree_silent :
    ((traced ['q'] (skipThen ⟨[.custom (.silent (· == '!')), .blanks]⟩ (quoted .sql))).scan
      (.ofText ['!', ' ', '[', 'a', ']'])).Faultless := by
  refine (strategies_agree _ _).2.2.1 ⟨?_, trivial⟩
  intro unit hunit
  simp only [List.mem_cons, List.not_mem_nil, or_false] at hunit
  rcases hunit with rfl | rfl
  · exact SkipRule.forward_silent _
  · exact trivial

end Lexkit.Scanner
