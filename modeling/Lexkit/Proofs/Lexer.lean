import Mathlib.Tactic.ByContra
import Lexkit.Lexer
import Lexkit.Proofs.Scanner

/-!
# Lexers

A lexer looks at its rules one by one, at the tokens one by one, and so the two questions about
scans are answered for lexers by two inductions. Rules that differ in trace events only make lexers
that differ in trace events only, from every cursor on and for any number of calls. And what every
rule keeps, a run keeps as a chain: each token is related to the cursors before and after it, and
where the chain ends nothing is left or no rule matches.
-/

namespace Lexkit

/-! ### Scanners that cannot start here -/

theorem Rule.checkExpected_eq_false {set : ExpectedChars} {ch : Char}
    (hcheck : checkExpected (some set) (some ch) = some false) :
    ch.toNat < ExpectedChars.probed ∧ set.contains ch = false := by
  rw [checkExpected] at hcheck
  split at hcheck
  · exact ⟨‹_›, Option.some.inj hcheck⟩
  · simp at hcheck

namespace QuotedIdentifier

theorem opening_of_ruled_out {quoted : QuotedIdentifier} {cursor : Cursor}
    (hcheck : Rule.checkExpected (some quoted.expected) cursor.peek = some false) :
    quoted.opening cursor = none := by
  apply opening_eq_none
  intro spec hspec hpeek
  rw [hpeek] at hcheck
  have hcontains := (Rule.checkExpected_eq_false hcheck).2
  rw [expected, ExpectedChars.contains_ofChars] at hcontains
  have hmem := List.mem_map_of_mem (f := QuoteSpec.start) hspec
  simp [hmem] at hcontains

end QuotedIdentifier

namespace Identifier

theorem scan_of_ruled_out {identifier : Identifier} {cursor : Cursor}
    (hcheck : Rule.checkExpected (some identifier.expected) cursor.peek = some false) :
    identifier.scan cursor = .done none cursor := by
  cases hrest : cursor.rest with
  | nil => exact identifier.scan_of_nil hrest
  | cons ch rest =>
    rw [Cursor.peek, hrest, List.head?_cons] at hcheck
    obtain ⟨hprobed, hcontains⟩ := Rule.checkExpected_eq_false hcheck
    rw [expected, ExpectedChars.contains_ofPredicate, decide_eq_true hprobed,
      Bool.true_and] at hcontains
    exact identifier.scan_of_not_isStart hrest hcontains

end Identifier

namespace Scanner

/-- The set that rules a character out is that of a leaf, with nothing above it but scanners that
tell events. -/
theorem scan_of_ruled_out {scanner : Scanner} {cursor : Cursor}
    (hcheck : Rule.checkExpected scanner.expected cursor.peek = some false) :
    (scanner.scan cursor).Agrees (.done none cursor) := by
  induction scanner with
  | quoted quotes =>
    rw [scan, QuotedIdentifier.scan_of_unopened (QuotedIdentifier.opening_of_ruled_out hcheck)]
    exact .refl _
  | identifier chars =>
    rw [scan, Identifier.scan_of_ruled_out hcheck]
    exact .refl _
  | traced name inner ih =>
    rw [scan, scanTraced_of_none (ih hcheck).1]
    exact ⟨rfl, rfl⟩
  | whitespace _ | line _ | block _ | pattern _ | skipThen _ _ _ =>
    simp [expected, Rule.checkExpected] at hcheck

end Scanner

/-! ### Rules of scanners -/

variable {τ : Type}

/-- A rule of a scanner, of which the strategy is left open. -/
structure ScannerRule (τ : Type) where
  scanner : Scanner
  priority : Int
  make : Slice → Position → τ

def ScannerRule.rule (spec : ScannerRule τ) (strategy : Strategy) : Rule τ :=
  .ofScanner spec.scanner strategy spec.priority spec.make

namespace Rule

/-- The rule without what it tells at the trace level. -/
def quiet (rule : Rule τ) : Rule τ := { rule with tryMatch := rule.tryMatch.quiet }

variable (scanner : Scanner) (strategy : Strategy) (priority : Int) (make : Slice → Position → τ)

theorem tryMatch_ofScanner (cursor : Cursor) :
    (ofScanner scanner strategy priority make).tryMatch cursor =
      (scanner.run strategy cursor).map (Option.map (make · cursor.position)) := by
  cases strategy with
  | interpreted => exact (scanner.scan cursor).bind_pure _
  | compiled => exact (scanner.compile.run cursor).bind_pure _

theorem quiet_ofScanner :
    (ofScanner scanner strategy priority make).quiet =
      (ofScanner scanner .interpreted priority make).quiet := by
  cases strategy with
  | interpreted => rfl
  | compiled =>
    have hmatch : Scan.quiet (ofScanner scanner .compiled priority make).tryMatch =
        Scan.quiet (ofScanner scanner .interpreted priority make).tryMatch := by
      funext cursor
      rw [Scan.quiet_apply, Scan.quiet_apply, tryMatch_ofScanner, tryMatch_ofScanner,
        Step.quiet_map, Step.quiet_map, Scanner.run, Scanner.run, Scanner.run_compile,
        Step.quiet_quiet]
    have hcheck : (ofScanner scanner .compiled priority make).quickCheck =
        (ofScanner scanner .interpreted priority make).quickCheck :=
      congrArg checkExpected scanner.expected_compile
    rw [quiet, quiet, hmatch, hcheck, priority_ofScanner, priority_ofScanner]

theorem quickCheck_ofScanner (next : Option Char) :
    (ofScanner scanner strategy priority make).quickCheck next =
      checkExpected scanner.expected next := by
  cases strategy with
  | interpreted => rfl
  | compiled => exact congrArg (checkExpected · next) scanner.expected_compile

/-- Where a rule is not tried or does not match, its scanner finds nothing. -/
theorem refuses_ofScanner {cursor : Cursor}
    (hrefuses : (ofScanner scanner strategy priority make).quickCheck cursor.peek = some false ∨
      ((ofScanner scanner strategy priority make).tryMatch cursor).outcome = .ok none) :
    (scanner.scan cursor).outcome = .ok none := by
  rw [quickCheck_ofScanner, tryMatch_ofScanner] at hrefuses
  rcases hrefuses with hcheck | hmap
  · exact (Scanner.scan_of_ruled_out hcheck).1
  · obtain ⟨found, hfound, hnone⟩ := Step.outcome_map_eq_ok.1 hmap
    rw [Option.map_eq_none_iff] at hnone
    subst hnone
    cases strategy with
    | interpreted => exact hfound
    | compiled => rwa [Scanner.run, Scanner.run_compile, Step.outcome_quiet] at hfound

/-- Every match of the rule relates the cursors before and after it by `good`, and every error by
`bad`. Without a match the rule may leave any cursor. -/
def Keeps (good : Cursor → τ → Cursor → Prop) (bad : Cursor → ScanError → Cursor → Prop)
    (rule : Rule τ) : Prop :=
  ∀ cursor,
    (rule.tryMatch cursor).Ends (fun found after => ∀ token ∈ found, good cursor token after)
    (bad cursor)

/-- The rule of a scanner keeps every bound on skips that the custom rules keep. -/
theorem keeps_ofScanner_of_bound {moves : Cursor → Bool → Cursor → Prop}
    {bad : Cursor → ScanError → Cursor → Prop} (hbound : SkipBound moves bad)
    (hrules : scanner.AllRules fun rule =>
      ∀ cursor, (rule.scan cursor).Ends (moves cursor) (bad cursor)) :
    (ofScanner scanner strategy priority make).Keeps (fun cursor _ after => moves cursor true after)
      bad := by
  intro cursor
  rw [tryMatch_ofScanner]
  have hends : (scanner.run strategy cursor).Ends (fun found => moves cursor found.isSome)
      (bad cursor) := Scanner.ends_run.2 (Scanner.scan_ends hbound hrules cursor)
  apply hends.map
  intro found after hmoves token htoken
  cases found with
  | none => simp at htoken
  | some slice => exact hmoves

theorem keeps_ofScanner (hrules : scanner.AllRules SkipRule.Forward) :
    (ofScanner scanner strategy priority make).Keeps
      (fun cursor _ after => cursor.Moves true after) fun _ _ _ => True :=
  keeps_ofScanner_of_bound scanner strategy priority make .moving hrules

end Rule

namespace Lexer

/-- The lexer without what its rules tell at the trace level. -/
def quiet (lexer : Lexer τ) : Lexer τ := ⟨lexer.rules.map Rule.quiet⟩

/-- Sorting looks at the priorities only. -/
theorem make_map_quiet (rules : List (Rule τ)) :
    make (rules.map Rule.quiet) = (make rules).quiet := by
  have hsort : (rules.mergeSort fun first second => decide (second.priority ≤ first.priority)).map
      Rule.quiet = (rules.map Rule.quiet).mergeSort fun first second =>
        decide (second.priority ≤ first.priority) :=
    List.map_mergeSort fun first _ second _ => rfl
  exact congrArg Lexer.mk hsort.symm

theorem mem_make {rules : List (Rule τ)} {rule : Rule τ} :
    rule ∈ (make rules).rules ↔ rule ∈ rules := List.mem_mergeSort

/-! ### Lexers without trace events -/

theorem tryRules_quiet (next : Option Char) (rules : List (Rule τ)) (cursor : Cursor) :
    tryRules next (rules.map Rule.quiet) cursor = (tryRules next rules cursor).quiet := by
  induction rules generalizing cursor with
  | nil => rfl
  | cons rule rules ih =>
    rw [List.map_cons, tryRules, tryRules]
    by_cases hcheck : rule.quickCheck next = some false
    · rw [if_pos hcheck]
      have hquiet : rule.quiet.quickCheck next = some false := hcheck
      rw [if_pos hquiet, ih]
    · rw [if_neg hcheck]
      have hquiet : ¬ rule.quiet.quickCheck next = some false := hcheck
      rw [if_neg hquiet, Scan.bind_apply, Scan.bind_apply, Step.quiet_bind, Scan.quiet_orReturn]
      apply congrArg
      funext found after
      cases found with
      | none => exact ih after
      | some token => rfl

section

variable {next : Option Char} {rule : Rule τ} {rules : List (Rule τ)} {cursor : Cursor}

/-- A rule that is not tried or does not match makes no difference to the rules after it. -/
theorem tryRules_cons_of_refuses (hrefuses :
      rule.quickCheck next = some false ∨ (rule.tryMatch cursor).outcome = .ok none) :
    (tryRules next (rule :: rules) cursor).Agrees (tryRules next rules cursor) := by
  rw [tryRules]
  by_cases hcheck : rule.quickCheck next = some false
  · rw [if_pos hcheck]
    exact .refl _
  · have hnone := hrefuses.resolve_left hcheck
    -- Wherever the rule has gone, the others start from the cursor.
    rw [if_neg hcheck, Scan.bind_apply, Scan.orReturn_apply, hnone]
    exact ⟨rfl, rfl⟩

/-- A rule that is tried, and matches or fails, is the last one. -/
theorem tryRules_cons_of_tried (hcheck : rule.quickCheck next ≠ some false)
    (hmatch : (rule.tryMatch cursor).outcome ≠ .ok none) :
    (tryRules next (rule :: rules) cursor).Agrees (rule.tryMatch cursor) := by
  rw [tryRules, if_neg hcheck, Scan.bind_apply, Scan.orReturn_apply]
  generalize rule.tryMatch cursor = step at hmatch ⊢
  obtain ⟨outcome, after, events⟩ := step
  cases outcome with
  | error halt => exact ⟨rfl, rfl⟩
  | ok found =>
    cases found with
    | none => exact absurd rfl hmatch
    | some token => exact ⟨rfl, rfl⟩

theorem tryRules_eq_none (hnone : (tryRules next rules cursor).outcome = .ok none) :
    ∀ rule ∈ rules,
      rule.quickCheck next = some false ∨ (rule.tryMatch cursor).outcome = .ok none := by
  induction rules with
  | nil => exact nofun
  | cons rule rules ih =>
    have hrefuses :
        rule.quickCheck next = some false ∨ (rule.tryMatch cursor).outcome = .ok none := by
      by_contra hboth
      rw [not_or] at hboth
      rw [(tryRules_cons_of_tried hboth.1 hboth.2).1] at hnone
      exact hboth.2 hnone
    rw [(tryRules_cons_of_refuses hrefuses).1] at hnone
    exact List.forall_mem_cons.2 ⟨hrefuses, ih hnone⟩

end

variable (lexer : Lexer τ)

theorem nextToken_quiet (cursor : Cursor) :
    lexer.quiet.nextToken cursor = (lexer.nextToken cursor).quiet :=
  tryRules_quiet cursor.peek lexer.rules cursor

/-- What a lexer itself tells is above the trace level. -/
theorem next_quiet (cursor : Cursor) : lexer.quiet.next cursor = (lexer.next cursor).quiet := by
  have hlast (events : List Event) (last : Event) (hlevel : last.level = .warn) :
      Step.loud (events ++ [last]) = Step.loud events ++ [last] := by
    simp [Step.loud, hlevel]
  rw [next, next]
  by_cases hend : cursor.atEnd = true
  · rw [if_pos hend, if_pos hend]
    rfl
  · rw [if_neg hend, if_neg hend, nextToken_quiet]
    dsimp only [Step.outcome_quiet, Step.cursor_quiet, Step.events_quiet]
    cases (lexer.nextToken cursor).outcome with
    | error halt =>
      cases halt with
      | malformed error => rfl
      | fault reason => rfl
    | ok found =>
      cases found with
      | none => exact congrArg (Step.mk _ _) (hlast _ _ rfl).symm
      | some token =>
        dsimp only
        by_cases hidle : (lexer.nextToken cursor).cursor.offset = cursor.offset
        · rw [if_pos hidle]
          exact (if_pos hidle).trans (congrArg (Step.mk _ _) (hlast _ _ rfl).symm)
        · rw [if_neg hidle]
          exact if_neg hidle

/-! ### Tokenizing, call by call -/

theorem gather_quiet (cursor : Cursor) :
    lexer.quiet.gather cursor = (lexer.gather cursor).quiet := by
  rw [gather, gather, Scan.bind_apply, Scan.bind_apply, Step.quiet_bind, next_quiet]
  apply congrArg
  funext item after
  rcases item with - | error | token <;> rfl

theorem tokenize_quiet (cursor : Cursor) :
    lexer.quiet.tokenize cursor = (lexer.tokenize cursor).quiet :=
  Scan.quiet_loop lexer.gather_quiet cursor

section

variable {lexer} {cursor : Cursor}

theorem outcome_gather : (lexer.gather cursor).outcome =
    match (lexer.next cursor).outcome with
    | .error halt => .error halt
    | .ok none => .ok (.last [])
    | .ok (some (.error error)) => .error (.malformed error)
    | .ok (some (.ok token)) => .ok (.again (token :: ·)) := by
  rw [gather, Scan.bind_apply]
  obtain ⟨outcome, after, events⟩ := lexer.next cursor
  rcases outcome with halt | - | error | token <;> rfl

theorem cursor_gather : (lexer.gather cursor).cursor = (lexer.next cursor).cursor := by
  rw [gather, Scan.bind_apply]
  obtain ⟨outcome, after, events⟩ := lexer.next cursor
  rcases outcome with halt | - | error | token <;> rfl

theorem events_gather : (lexer.gather cursor).events = (lexer.next cursor).events := by
  rw [gather, Scan.bind_apply]
  obtain ⟨outcome, after, events⟩ := lexer.next cursor
  rcases outcome with halt | - | error | token
  · rfl
  · exact List.append_nil events
  · exact List.append_nil events
  · exact List.append_nil events

theorem tokenize_of_none (hnone : (lexer.next cursor).outcome = .ok none) :
    lexer.tokenize cursor = ⟨.ok [], (lexer.next cursor).cursor, (lexer.next cursor).events⟩ := by
  rw [tokenize, Scan.loop_of_last (by rw [outcome_gather, hnone]), cursor_gather, events_gather]

theorem tokenize_of_error {error : ScanError}
    (herror : (lexer.next cursor).outcome = .ok (some (.error error))) :
    lexer.tokenize cursor =
      ⟨.error (.malformed error), (lexer.next cursor).cursor, (lexer.next cursor).events⟩ := by
  rw [tokenize, Scan.loop_of_halted (by rw [outcome_gather, herror]), cursor_gather, events_gather]

theorem advances_gather (hless : ∀ {cursor token},
    (lexer.next cursor).outcome = .ok (some (.ok token)) →
      (lexer.next cursor).cursor.rest.length < cursor.rest.length) : lexer.gather.Advances := by
  intro cursor change hagain
  rw [outcome_gather] at hagain
  rw [cursor_gather]
  split at hagain <;> cases hagain
  exact hless ‹_›

theorem tokenize_of_token (hadvances : lexer.gather.Advances) {token : τ}
    (htoken : (lexer.next cursor).outcome = .ok (some (.ok token))) :
    lexer.tokenize cursor =
      ((lexer.tokenize (lexer.next cursor).cursor).map (token :: ·)).after
        (lexer.next cursor).events := by
  rw [tokenize, hadvances.loop_of_again (by rw [outcome_gather, htoken]), cursor_gather,
    events_gather]

/-- How the calls lead to the end of tokenizing: one halts, gives nothing or gives an error, or one
gives a token and others follow. -/
theorem loops_induction {P : Cursor → Step (List τ) → Prop}
    (halted : ∀ cursor halt, (lexer.next cursor).outcome = .error halt →
      P cursor ⟨.error halt, (lexer.next cursor).cursor, (lexer.next cursor).events⟩)
    (nothing : ∀ cursor, (lexer.next cursor).outcome = .ok none →
      P cursor ⟨.ok [], (lexer.next cursor).cursor, (lexer.next cursor).events⟩)
    (malformed : ∀ cursor error, (lexer.next cursor).outcome = .ok (some (.error error)) →
      P cursor
        ⟨.error (.malformed error), (lexer.next cursor).cursor, (lexer.next cursor).events⟩)
    (again : ∀ cursor token step, (lexer.next cursor).outcome = .ok (some (.ok token)) →
      P (lexer.next cursor).cursor step →
      P cursor ((step.map (token :: ·)).after (lexer.next cursor).events))
    {step : Step (List τ)} (hloops : Scan.Loops lexer.gather cursor step) : P cursor step := by
  induction hloops with
  | @halted cursor halt hhalt =>
    rw [outcome_gather] at hhalt
    rw [cursor_gather, events_gather]
    split at hhalt <;> cases hhalt
    · exact halted cursor halt ‹_›
    · exact malformed cursor _ ‹_›
  | @last cursor value hlast =>
    rw [outcome_gather] at hlast
    rw [cursor_gather, events_gather]
    split at hlast <;> cases hlast
    exact nothing cursor ‹_›
  | @again cursor change step hagain _ ih =>
    rw [outcome_gather] at hagain
    rw [cursor_gather] at ih
    rw [events_gather]
    split at hagain <;> cases hagain
    exact again cursor _ step ‹_› ih

end

/-- What a number of calls give, each with the cursor after it. -/
def calls (lexer : Lexer τ) :
    Nat → Cursor → List (Except Halt (Option (Except ScanError τ)) × Cursor)
  | 0, _ => []
  | count + 1, cursor =>
    let step := lexer.next cursor
    (step.outcome, step.cursor) :: lexer.calls count step.cursor

theorem calls_quiet (count : Nat) (cursor : Cursor) :
    lexer.quiet.calls count cursor = lexer.calls count cursor := by
  induction count generalizing cursor with
  | zero => rfl
  | succ count ih =>
    rw [calls, calls, next_quiet, Step.outcome_quiet, Step.cursor_quiet, ih]

theorem quiet_make_mapIdx (specs : List (ScannerRule τ)) (pick : Nat → Strategy) :
    (make (specs.mapIdx fun index spec => spec.rule (pick index))).quiet =
      (make (specs.map fun spec => spec.rule .interpreted)).quiet := by
  rw [← make_map_quiet, ← make_map_quiet]
  apply congrArg
  apply List.ext_getElem
  · simp
  · intro index hleft hright
    simp only [List.getElem_map, List.getElem_mapIdx]
    exact Rule.quiet_ofScanner _ _ _ _

/-! ### What a run keeps -/

/-- Tokens one after the other, each related to the cursors before and after it. -/
inductive Cuts (good : Cursor → τ → Cursor → Prop) : Cursor → List τ → Cursor → Prop
  | nil (cursor : Cursor) : Cuts good cursor [] cursor
  | cons {cursor middle after : Cursor} {token : τ} {tokens : List τ}
      (hfirst : good cursor token middle) (hothers : Cuts good middle tokens after) :
      Cuts good cursor (token :: tokens) after

namespace Cuts

variable {good good' : Cursor → τ → Cursor → Prop} {cursor after : Cursor}

theorem mono {tokens : List τ}
    (hgood : ∀ {cursor token after}, good cursor token after → good' cursor token after)
    (hcuts : Cuts good cursor tokens after) : Cuts good' cursor tokens after := by
  induction hcuts with
  | nil cursor => exact .nil cursor
  | cons hfirst hothers ih => exact .cons (hgood hfirst) ih

theorem of_cons {token : τ} {tokens : List τ} (hcuts : Cuts good cursor (token :: tokens) after) :
    ∃ middle, good cursor token middle ∧ Cuts good middle tokens after := by
  cases hcuts with
  | cons hfirst hothers => exact ⟨_, hfirst, hothers⟩

theorem of_append {first second : List τ} (hcuts : Cuts good cursor (first ++ second) after) :
    ∃ middle, Cuts good cursor first middle ∧ Cuts good middle second after := by
  induction first generalizing cursor with
  | nil => exact ⟨cursor, .nil cursor, hcuts⟩
  | cons token first ih =>
    obtain ⟨next, hfirst, hothers⟩ := hcuts.of_cons
    obtain ⟨middle, hleft, hright⟩ := ih hothers
    exact ⟨middle, .cons hfirst hleft, hright⟩

/-- Tokens that follow each other in a run are a run. -/
theorem of_part {block tokens : List τ} (hcuts : Cuts good cursor tokens after)
    (hpart : block <:+: tokens) : ∃ start stop, Cuts good start block stop := by
  obtain ⟨before, behind, rfl⟩ := hpart
  obtain ⟨stop, hleft, -⟩ := hcuts.of_append
  obtain ⟨start, -, hblock⟩ := hleft.of_append
  exact ⟨start, stop, hblock⟩

end Cuts

section

variable {good : Cursor → τ → Cursor → Prop} {bad : Cursor → ScanError → Cursor → Prop}

/-- Where looking for a token may end: where it was, or after the token. -/
def Takes (good : Cursor → τ → Cursor → Prop) (cursor : Cursor) (found : Option τ)
    (after : Cursor) : Prop :=
  match found with
  | none => after = cursor
  | some token => good cursor token after

/-- Where a call may end: where it was if nothing is left or nothing matches, after a token, or at
the end of the text after an error. -/
def Gives (lexer : Lexer τ) (good : Cursor → τ → Cursor → Prop)
    (bad : Cursor → ScanError → Cursor → Prop) (cursor : Cursor)
    (item : Option (Except ScanError τ)) (after : Cursor) : Prop :=
  match item with
  | none => after = cursor ∧ (cursor.rest = [] ∨ (lexer.nextToken cursor).outcome = .ok none)
  | some (.ok token) => good cursor token after
  | some (.error error) => ∃ place, bad cursor error place ∧ after = place.toEnd

/-- A rule is tried where the rules before it have refused, and the others where it refuses. -/
theorem tryRules_cons_ends {next : Option Char} {rule : Rule τ} {rules : List (Rule τ)}
    {cursor : Cursor}
    (hrule : (rule.tryMatch cursor).Ends
      (fun found after => ∀ token ∈ found, good cursor token after) (bad cursor))
    (hothers :
      rule.quickCheck next = some false ∨ (rule.tryMatch cursor).outcome = .ok none →
        (tryRules next rules cursor).Ends (Takes good cursor) (bad cursor)) :
    (tryRules next (rule :: rules) cursor).Ends (Takes good cursor) (bad cursor) := by
  by_cases hrefuses :
      rule.quickCheck next = some false ∨ (rule.tryMatch cursor).outcome = .ok none
  · exact (tryRules_cons_of_refuses hrefuses).ends_iff.2 (hothers hrefuses)
  · rw [not_or] at hrefuses
    rw [(tryRules_cons_of_tried hrefuses.1 hrefuses.2).ends_iff]
    have hmatch := hrefuses.2
    generalize rule.tryMatch cursor = step at hrule hmatch ⊢
    obtain ⟨outcome, after, events⟩ := step
    rcases outcome with (error | reason) | (_ | token)
    · exact hrule
    · exact hrule
    · exact absurd rfl hmatch
    · exact hrule token rfl

theorem tryRules_ends (next : Option Char) {rules : List (Rule τ)}
    (hrules : ∀ rule ∈ rules, rule.Keeps good bad) (cursor : Cursor) :
    (tryRules next rules cursor).Ends (Takes good cursor) (bad cursor) := by
  induction rules with
  | nil => exact rfl
  | cons rule rules ih =>
    refine tryRules_cons_ends (hrules rule List.mem_cons_self cursor) fun _ => ?_
    exact ih fun other hother => hrules other (List.mem_cons_of_mem rule hother)

theorem nextToken_ends (hrules : ∀ rule ∈ lexer.rules, rule.Keeps good bad) (cursor : Cursor) :
    (lexer.nextToken cursor).Ends (Takes good cursor) (bad cursor) :=
  tryRules_ends cursor.peek hrules cursor

variable (hmoves : ∀ {cursor token after}, good cursor token after → cursor.Moves true after)
include hmoves

/-- A call is bounded by what a look for a token keeps. A token takes something, so no call is
idle. -/
theorem next_ends
    (htakes : ∀ cursor, (lexer.nextToken cursor).Ends (Takes good cursor) (bad cursor))
    (cursor : Cursor) :
    (lexer.next cursor).Ends (lexer.Gives good bad cursor) fun _ _ => False := by
  have hends := htakes cursor
  rw [next]
  by_cases hend : cursor.atEnd = true
  · rw [if_pos hend]
    exact ⟨rfl, .inl (List.isEmpty_iff.1 hend)⟩
  · rw [if_neg hend]
    dsimp only
    cases houtcome : (lexer.nextToken cursor).outcome with
    | ok found =>
      have hfound := hends.of_ok houtcome
      cases found with
      | none => exact ⟨hfound, .inr houtcome⟩
      | some token =>
        have hforward := (hmoves hfound).offset_lt rfl
        dsimp only
        rw [if_neg (by omega)]
        exact hfound
    | error halt =>
      cases halt with
      | malformed error => exact ⟨_, hends.of_malformed houtcome, rfl⟩
      | fault reason => exact absurd houtcome (hends.faultless reason)

/-- A run is a chain of tokens. It ends where nothing is left or nothing matches, or with the error
of a rule after the chain. -/
theorem tokenize_ends
    (htakes : ∀ cursor, (lexer.nextToken cursor).Ends (Takes good cursor) (bad cursor))
    (cursor : Cursor) :
    (lexer.tokenize cursor).Ends
      (fun tokens after => Cuts good cursor tokens after ∧
        (after.rest = [] ∨ (lexer.nextToken after).outcome = .ok none))
      (fun error after => ∃ tokens middle place,
        Cuts good cursor tokens middle ∧ bad middle error place ∧ after = place.toEnd) := by
  have hnext := lexer.next_ends hmoves htakes
  have hadvances : lexer.gather.Advances := advances_gather fun {cursor _} htoken =>
    (hmoves ((hnext cursor).of_ok htoken)).length_rest_lt
  refine loops_induction (P := fun cursor step => step.Ends
    (fun tokens after => Cuts good cursor tokens after ∧
      (after.rest = [] ∨ (lexer.nextToken after).outcome = .ok none))
    (fun error after => ∃ tokens middle place,
      Cuts good cursor tokens middle ∧ bad middle error place ∧ after = place.toEnd))
    ?_ ?_ ?_ ?_ (hadvances.loops_loop cursor)
  · intro cursor halt hhalt
    cases halt with
    | malformed error => exact absurd ((hnext cursor).of_malformed hhalt) id
    | fault reason => exact absurd hhalt ((hnext cursor).faultless reason)
  · intro cursor hnone
    obtain ⟨hstays, hstop⟩ := (hnext cursor).of_ok hnone
    rw [hstays]
    exact ⟨.nil cursor, hstop⟩
  · intro cursor error herror
    obtain ⟨place, hplace, hafter⟩ := (hnext cursor).of_ok herror
    exact ⟨[], cursor, place, .nil cursor, hplace, hafter⟩
  · intro cursor token step htoken ih
    have hfirst : good cursor token (lexer.next cursor).cursor := (hnext cursor).of_ok htoken
    rw [Step.ends_after]
    refine Step.Ends.map (ih.mono (fun _ _ hgood => hgood) ?_) ?_
    · rintro error after ⟨tokens, middle, place, hcuts, hplace, hafter⟩
      exact ⟨token :: tokens, middle, place, .cons hfirst hcuts, hplace, hafter⟩
    · rintro tokens after ⟨hcuts, hstop⟩
      exact ⟨.cons hfirst hcuts, hstop⟩

theorem calls_faultless (hrules : ∀ rule ∈ lexer.rules, rule.Keeps good bad) (count : Nat)
    (cursor : Cursor) :
    ∀ call ∈ lexer.calls count cursor, ∀ reason, call.1 ≠ .error (.fault reason) := by
  induction count generalizing cursor with
  | zero =>
    intro call hcall
    simp [calls] at hcall
  | succ count ih =>
    intro call hcall
    rw [calls, List.mem_cons] at hcall
    rcases hcall with rfl | hcall
    · exact (lexer.next_ends hmoves (lexer.nextToken_ends hrules) cursor).faultless
    · exact ih _ call hcall

end

end Lexer

end Lexkit
