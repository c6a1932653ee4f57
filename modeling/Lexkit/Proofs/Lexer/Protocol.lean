import Mathlib.Logic.Function.Iterate
import Lexkit.Proofs.Lexer.Run

/-!
# The protocol of the calls

A lexer may be called again and again. First come the tokens, each of which takes something, so that
there are no more than the bytes of the text. Then nothing comes any more, from a place that is not
left again; or an error comes once, and nothing after it, since the call that gives the error goes
to the end. Custom rules enter by what they do to the cursor: a rule may not leave the buffer or go
backward, and has to go forward when it skips. This says nothing of the line and column that a rule
leaves. Rules that move by stepping over text keep them right, and a rule that makes them up moves
them for good.
-/

namespace Lexkit

/-! ### What custom rules may do -/

namespace Cursor

variable {cursor middle after : Cursor} {first second skipped : Bool}

theorem Steps.trans (hfirst : cursor.Steps first middle) (hsecond : middle.Steps second after) :
    cursor.Steps (first || second) after := by
  obtain ⟨taken, hpasses, htaken⟩ := hfirst
  obtain ⟨further, hthrough, hfurther⟩ := hsecond
  refine ⟨taken ++ further, hpasses.trans hthrough, fun hyes hnil => ?_⟩
  obtain ⟨rfl, rfl⟩ := List.append_eq_nil_iff.1 hnil
  rcases Bool.or_eq_true_iff.1 hyes with hyes | hyes
  · exact htaken hyes rfl
  · exact hfurther hyes rfl

theorem Moves.weaken (hmoves : cursor.Moves skipped after) : cursor.Moves false after :=
  ⟨hmoves.buffer_eq, hmoves.offset_le, nofun⟩

theorem Steps.weaken (hsteps : cursor.Steps skipped after) : cursor.Steps false after := by
  obtain ⟨taken, hpasses, -⟩ := hsteps
  exact ⟨taken, hpasses, nofun⟩

theorem Stops.steps {error : ScanError} (hstops : cursor.Stops error after) :
    cursor.Steps false after := by
  obtain ⟨-, taken, hpasses⟩ := hstops
  exact ⟨taken, hpasses, nofun⟩

end Cursor

theorem SkipBound.onward :
    SkipBound Cursor.Moves fun cursor _ after => cursor.Moves false after where
  of_skipped := Cursor.Skipped.moves
  of_stops hstops := hstops.steps.moves
  moves := id
  trans := Cursor.Moves.trans
  bad_trans hfirst hsecond := hfirst.weaken.trans hsecond

theorem SkipBound.stepping :
    SkipBound Cursor.Steps fun cursor _ after => cursor.Steps false after where
  of_skipped := Cursor.Skipped.steps
  of_stops := Cursor.Stops.steps
  moves := Cursor.Steps.moves
  trans := Cursor.Steps.trans
  bad_trans hfirst hsecond := hfirst.weaken.trans hsecond

namespace SkipRule

/-- The rule stays in the buffer and does not go backward, also when it stops on an error, and goes
forward when it skips. -/
def Onward (rule : SkipRule) : Prop :=
  ∀ cursor, (rule.scan cursor).Ends cursor.Moves fun _ after => cursor.Moves false after

/-- The rule moves by stepping over text, which keeps lines and columns right. -/
def Stepping (rule : SkipRule) : Prop :=
  ∀ cursor, (rule.scan cursor).Ends cursor.Steps fun _ after => cursor.Steps false after

theorem Stepping.onward {rule : SkipRule} (hsteps : rule.Stepping) : rule.Onward := fun cursor =>
  (hsteps cursor).mono (fun _ _ => Cursor.Steps.moves) fun _ _ => Cursor.Steps.moves

variable (p : Char → Bool)

theorem stepping_run : (run p).Stepping := fun cursor =>
  (skipped_run p cursor).mono (fun _ _ => Cursor.Skipped.steps) fun _ _ hsteps => hsteps

theorem stepping_refuse : (refuse p).Stepping := fun cursor =>
  (skipped_refuse p cursor).mono (fun _ _ => Cursor.Skipped.steps) fun _ _ => Cursor.Stops.steps

end SkipRule

namespace Lexer

variable {τ : Type} {lexer : Lexer τ}

/-! ### Sequences of calls -/

/-- The cursor after a number of calls. -/
def reached (lexer : Lexer τ) (cursor : Cursor) (count : Nat) : Cursor :=
  (fun place => (lexer.next place).cursor)^[count] cursor

theorem reached_of_stays {place : Cursor} (hstays : (lexer.next place).cursor = place)
    (count : Nat) : lexer.reached place count = place :=
  Function.iterate_fixed hstays count

theorem next_toEnd (cursor : Cursor) : lexer.next cursor.toEnd = .done none cursor.toEnd :=
  if_pos rfl

theorem reached_toEnd (cursor : Cursor) (count : Nat) :
    lexer.reached cursor.toEnd count = cursor.toEnd :=
  reached_of_stays (by rw [next_toEnd, Step.done]) count

/-- After a run the calls give what they give from where the run has come to. -/
theorem Runs.outcome_next_reached {cursor place : Cursor} {tokens : List τ}
    (hruns : lexer.Runs cursor tokens place) {later : List (Except ScanError τ)}
    (hlater : ∀ count, (lexer.next (lexer.reached place count)).outcome = .ok later[count]?)
    (count : Nat) :
    (lexer.next (lexer.reached cursor count)).outcome = .ok (tokens.map .ok ++ later)[count]? := by
  induction hruns generalizing count with
  | nil place => exact hlater count
  | cons hfirst hothers ih =>
    -- The call for the first token leaves one call less to go on from there.
    obtain ⟨hitem, rfl⟩ := hfirst
    cases count with
    | zero => exact hitem
    | succ count => exact ih hlater count

/-! ### Lexers of scanner rules -/

/-- The lexer of scanner rules, each run by its own strategy. -/
def ofSpecs (specs : List (ScannerRule τ × Strategy)) : Lexer τ :=
  make (specs.map fun spec => spec.1.rule spec.2)

section

variable {specs : List (ScannerRule τ × Strategy)}

theorem keeps_ofSpecs {moves : Cursor → Bool → Cursor → Prop}
    {bad : Cursor → ScanError → Cursor → Prop} (hbound : SkipBound moves bad)
    (hrules : ∀ spec ∈ specs, spec.1.scanner.AllRules fun rule =>
      ∀ cursor, (rule.scan cursor).Ends (moves cursor) (bad cursor)) :
    ∀ rule ∈ (ofSpecs specs).rules, rule.Keeps (fun cursor _ after => moves cursor true after)
      bad := by
  intro rule hrule
  obtain ⟨spec, hspec, rfl⟩ := List.mem_map.1 (mem_make.1 hrule)
  exact Rule.keeps_ofScanner_of_bound _ _ _ _ hbound (hrules spec hspec)

theorem next_ofSpecs_ends {moves : Cursor → Bool → Cursor → Prop}
    {bad : Cursor → ScanError → Cursor → Prop} (hbound : SkipBound moves bad)
    (hrules : ∀ spec ∈ specs, spec.1.scanner.AllRules fun rule =>
      ∀ cursor, (rule.scan cursor).Ends (moves cursor) (bad cursor)) (place : Cursor) :
    ((ofSpecs specs).next place).Ends
      ((ofSpecs specs).Gives (fun cursor _ after => moves cursor true after) bad place)
      fun _ _ => False :=
  next_ends _ hbound.moves (nextToken_ends _ (keeps_ofSpecs hbound hrules)) place

/-- A call that gives a token goes forward, one that gives nothing stays, and one that gives an
error goes on to the end. -/
theorem next_ofSpecs_moves (hrules : ∀ spec ∈ specs, spec.1.scanner.AllRules SkipRule.Onward)
    (place : Cursor) :
    ((ofSpecs specs).next place).Ends
      ((ofSpecs specs).Gives (fun cursor _ after => cursor.Moves true after)
        (fun cursor _ after => cursor.Moves false after) place)
      fun _ _ => False :=
  next_ofSpecs_ends .onward hrules place

/-- Where every rule steps over text, so does every call, whatever it gives. -/
theorem next_passes (hrules : ∀ spec ∈ specs, spec.1.scanner.AllRules SkipRule.Stepping)
    (place : Cursor) : ∃ taken, place.Passes taken ((ofSpecs specs).next place).cursor := by
  have hends := next_ofSpecs_ends .stepping hrules place
  generalize (ofSpecs specs).next place = step at hends
  obtain ⟨outcome, after, events⟩ := step
  rcases outcome with (error | reason) | - | error | token
  · exact hends.elim
  · exact hends.elim
  · obtain ⟨rfl, -⟩ := hends
    exact ⟨[], .refl _⟩
  · obtain ⟨stop, ⟨taken, hpasses, -⟩, rfl⟩ := hends
    exact ⟨_, hpasses.trans stop.passes_toEnd⟩
  · obtain ⟨taken, hpasses, -⟩ := hends
    exact ⟨taken, hpasses⟩

theorem reached_passes (hrules : ∀ spec ∈ specs, spec.1.scanner.AllRules SkipRule.Stepping)
    (cursor : Cursor) (count : Nat) :
    ∃ taken, cursor.Passes taken ((ofSpecs specs).reached cursor count) := by
  induction count generalizing cursor with
  | zero => exact ⟨[], .refl cursor⟩
  | succ count ih =>
    obtain ⟨taken, hpasses⟩ := next_passes hrules cursor
    obtain ⟨further, hfurther⟩ := ih ((ofSpecs specs).next cursor).cursor
    exact ⟨_, hpasses.trans hfurther⟩

/-- Every token of a run takes at least one byte. -/
theorem Runs.length_add_size_le
    (hrules : ∀ spec ∈ specs, spec.1.scanner.AllRules SkipRule.Onward) {cursor place : Cursor}
    {tokens : List τ} (hruns : (ofSpecs specs).Runs cursor tokens place) :
    tokens.length + Text.size place.rest ≤ Text.size cursor.rest := by
  induction hruns with
  | nil place => exact Nat.le_of_eq (Nat.zero_add _)
  | @cons cursor middle after token tokens hfirst hothers ih =>
    obtain ⟨hitem, rfl⟩ := hfirst
    have hmoves := (next_ofSpecs_moves hrules cursor).of_ok hitem
    have hforward := hmoves.offset_lt rfl
    have hbefore := cursor.offset_add_size_rest
    have hafter := ((ofSpecs specs).next cursor).cursor.offset_add_size_rest
    rw [hmoves.buffer_eq] at hafter
    rw [List.length_cons]
    omega

end

/-! ### The protocol -/

/-- The tokens that come first, and the error that ends them, if there is one. -/
def items (tokens : List τ) (error : Option ScanError) : List (Except ScanError τ) :=
  tokens.map .ok ++ error.toList.map .error

section

variable {specs : List (ScannerRule τ × Strategy)}
  (hrules : ∀ spec ∈ specs, spec.1.scanner.AllRules SkipRule.Onward) {cursor : Cursor}
include hrules

theorem tokenize_ofSpecs_faultless : ((ofSpecs specs).tokenize cursor).Faultless :=
  (tokenize_ends _ SkipBound.onward.moves
    (nextToken_ends _ (keeps_ofSpecs .onward hrules)) cursor).faultless

/-- Where tokenizing gives tokens, the calls give them, and then nothing any more. -/
theorem calls_of_ok {tokens : List τ}
    (htokens : ((ofSpecs specs).tokenize cursor).outcome = .ok tokens) :
    tokens.length ≤ Text.size cursor.rest ∧
      ∀ count, ((ofSpecs specs).next ((ofSpecs specs).reached cursor count)).outcome =
        .ok (items tokens none)[count]? := by
  obtain ⟨place, hruns, hnone, -⟩ := exists_runs_of_ok htokens
  have hlength := hruns.length_add_size_le hrules
  have hstays : ((ofSpecs specs).next place).cursor = place :=
    ((next_ofSpecs_moves hrules place).of_ok hnone).1
  refine ⟨by omega, hruns.outcome_next_reached fun count => ?_⟩
  rw [reached_of_stays hstays, hnone]
  rfl

/-- Where tokenizing gives an error, the calls give some tokens, then the error, and then nothing
any more. -/
theorem calls_of_malformed {error : ScanError}
    (herror : ((ofSpecs specs).tokenize cursor).outcome = .error (.malformed error)) :
    ∃ tokens : List τ, tokens.length ≤ Text.size cursor.rest ∧
      ∀ count, ((ofSpecs specs).next ((ofSpecs specs).reached cursor count)).outcome =
        .ok (items tokens (some error))[count]? := by
  obtain ⟨tokens, place, hruns, hplace⟩ := exists_runs_of_malformed herror
  have hlength := hruns.length_add_size_le hrules
  obtain ⟨stop, -, hstop⟩ := (next_ofSpecs_moves hrules place).of_ok hplace
  refine ⟨tokens, by omega, hruns.outcome_next_reached fun count => ?_⟩
  cases count with
  | zero => exact hplace
  | succ count =>
    -- The call that gives the error goes to the end, and no call leaves the end.
    change ((ofSpecs specs).next
      ((ofSpecs specs).reached ((ofSpecs specs).next place).cursor count)).outcome = _
    rw [hstop, reached_toEnd, next_toEnd]
    rfl

end

/-- A lexer of scanner rules is an iterator. A call that gives a token goes forward, one that gives
nothing stays where it is, and one that gives an error goes to the end. So the calls give tokens, no
more than there are bytes, then perhaps one error, and then nothing, and `tokenize` gathers what
they give. Where the custom rules step over text, the end is the one with the lines and columns of
the text. -/
theorem next_protocol (specs : List (ScannerRule τ × Strategy))
    (hrules : ∀ spec ∈ specs, spec.1.scanner.AllRules SkipRule.Onward) (cursor : Cursor) :
    (∀ place, ((ofSpecs specs).next place).Ends
      ((ofSpecs specs).Gives (fun cursor _ after => cursor.Moves true after)
        (fun cursor _ after => cursor.Moves false after) place)
      fun _ _ => False) ∧
    (∃ (tokens : List τ) (error : Option ScanError),
      tokens.length ≤ Text.size cursor.rest ∧
      (∀ count, ((ofSpecs specs).next ((ofSpecs specs).reached cursor count)).outcome =
        .ok (items tokens error)[count]?) ∧
      ((ofSpecs specs).tokenize cursor).outcome =
        match error with
        | none => .ok tokens
        | some error => .error (.malformed error)) ∧
    ((∀ spec ∈ specs, spec.1.scanner.AllRules SkipRule.Stepping) → ∀ count error,
      ((ofSpecs specs).next ((ofSpecs specs).reached cursor count)).outcome =
        .ok (some (.error error)) →
      (ofSpecs specs).reached cursor (count + 1) = cursor.toEnd) := by
  refine ⟨next_ofSpecs_moves hrules, ?_, ?_⟩
  · cases houtcome : ((ofSpecs specs).tokenize cursor).outcome with
    | ok tokens =>
      obtain ⟨hlength, hcalls⟩ := calls_of_ok hrules houtcome
      exact ⟨tokens, none, hlength, hcalls, rfl⟩
    | error halt =>
      cases halt with
      | malformed error =>
        obtain ⟨tokens, hlength, hcalls⟩ := calls_of_malformed hrules houtcome
        exact ⟨tokens, some error, hlength, hcalls, rfl⟩
      | fault reason => exact absurd houtcome (tokenize_ofSpecs_faultless hrules reason)
  · intro hsteps count error herror
    obtain ⟨stop, -, hstop⟩ := (next_ofSpecs_moves hrules _).of_ok herror
    obtain ⟨taken, hpasses⟩ := reached_passes hsteps cursor (count + 1)
    rw [reached, Function.iterate_succ_apply'] at hpasses ⊢
    exact hpasses.eq_toEnd (congrArg Cursor.rest hstop)

/-- Names after what a rule skips. An exclamation mark is refused where a name could come. -/
def namesAfter (skipped : SkipRule) : List (ScannerRule Text × Strategy) :=
  [(⟨.skipThen ⟨[.custom skipped, .custom (.refuse (· == '!'))]⟩ (.identifier .simpleSql), 0,
    fun slice _ => slice.text⟩, .compiled)]

theorem allRules_namesAfter {P : SkipRule → Prop} {skipped : SkipRule} (hskipped : P skipped)
    (hrefuse : P (.refuse (· == '!'))) :
    ∀ spec ∈ namesAfter skipped, spec.1.scanner.AllRules P := by
  intro spec hspec
  obtain rfl := List.mem_singleton.1 hspec
  refine ⟨?_, trivial⟩
  intro unit hunit
  simp only [List.mem_cons, List.not_mem_nil, or_false] at hunit
  rcases hunit with rfl | rfl
  · exact hskipped
  · exact hrefuse

/-- The first call gives a name and the second an error, which goes to the end of the second line.
-/
theorem next_protocol_after_name :
    let lexer := ofSpecs (namesAfter (.run (· == '_')))
    let cursor := Cursor.ofText ['_', 'a', '!', '\n', 'b']
    (∃ tokens : List Text, ∀ count, (lexer.next (lexer.reached cursor count)).outcome =
      .ok (items tokens (some (.zeroLengthIdentifier ⟨2, 1, 3⟩)))[count]?) ∧
      (lexer.reached cursor 2).position = ⟨5, 2, 2⟩ := by
  intro lexer cursor
  have hsteps := allRules_namesAfter (SkipRule.stepping_run (· == '_'))
    (SkipRule.stepping_refuse _)
  have hrules := allRules_namesAfter (SkipRule.stepping_run (· == '_')).onward
    (SkipRule.stepping_refuse _).onward
  obtain ⟨-, ⟨tokens, error, -, hcalls, htokenize⟩, hend⟩ :=
    next_protocol (namesAfter (.run (· == '_'))) hrules cursor
  have hwhole : (lexer.tokenize cursor).outcome =
      .error (.malformed (.zeroLengthIdentifier ⟨2, 1, 3⟩)) := by decide +kernel
  have hsecond : (lexer.next (lexer.reached cursor 1)).outcome =
      .ok (some (.error (.zeroLengthIdentifier ⟨2, 1, 3⟩))) := by decide +kernel
  rw [hwhole] at htokenize
  constructor
  · cases error with
    | none => cases htokenize
    | some error =>
      obtain rfl : _ = error := Halt.malformed.inj (Except.error.inj htokenize)
      exact ⟨tokens, hcalls⟩
  · rw [hend hsteps 1 _ hsecond]
    rfl

/-- The cursor where it is, but in the ninth line. -/
def misplaced (cursor : Cursor) : Cursor :=
  { cursor with
    position := ⟨cursor.offset, 9, 9⟩
    offset_add_size := cursor.offset_add_size }

/-- The rule that passes an underscore and makes up the line in which it then stands. -/
def misplacing : SkipRule where
  apply cursor :=
    if cursor.peek = some '_' then (.ok true, misplaced cursor.advance) else (.ok false, cursor)

theorem scan_misplacing (cursor : Cursor) :
    misplacing.scan cursor =
      if cursor.peek = some '_' then .done true (misplaced cursor.advance)
      else .done false cursor := by
  by_cases hpeek : cursor.peek = some '_' <;> simp [SkipRule.scan, misplacing, hpeek]

theorem onward_misplacing : misplacing.Onward := by
  intro cursor
  rw [scan_misplacing]
  split
  · rename_i hpeek
    obtain ⟨rest, hrest⟩ := List.head?_eq_some_iff.1 hpeek
    have hsteps : cursor.Steps true cursor.advance :=
      ⟨['_'], Cursor.passes_advance hrest, fun _ => List.cons_ne_nil _ _⟩
    exact ⟨hsteps.moves.buffer_eq, hsteps.moves.offset_le, hsteps.moves.offset_lt⟩
  · exact ⟨rfl, Nat.le_refl _, nofun⟩

theorem still_misplacing : misplacing.scan.Still := by
  intro cursor hno
  rw [scan_misplacing] at hno ⊢
  split
  · rw [if_pos ‹_›] at hno
    cases hno
  · rfl

/-- Rules that go forward when they skip, and stay when they do not, are not enough for the line and
the column of the end: the call that gives the error goes to the end, but in a line that is not
there. -/
theorem next_protocol_misplaced :
    let lexer := ofSpecs (namesAfter misplacing)
    let cursor := Cursor.ofText ['_', '!', 'x']
    (∀ spec ∈ namesAfter misplacing, spec.1.scanner.AllRules fun rule =>
      rule.Onward ∧ rule.scan.Still) ∧
      (lexer.next cursor).outcome = .ok (some (.error (.zeroLengthIdentifier ⟨1, 9, 9⟩))) ∧
      (lexer.reached cursor 1).rest = cursor.toEnd.rest ∧
      (lexer.reached cursor 1).position = ⟨3, 9, 11⟩ ∧ cursor.toEnd.position = ⟨3, 1, 4⟩ := by
  refine ⟨?_, by decide +kernel, by decide +kernel, by decide +kernel, by decide +kernel⟩
  exact allRules_namesAfter ⟨onward_misplacing, still_misplacing⟩
    ⟨(SkipRule.stepping_refuse _).onward, .of_ends (SkipRule.honest_refuse _)⟩

end Lexer

end Lexkit
