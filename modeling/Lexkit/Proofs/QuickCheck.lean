import Lexkit.Proofs.Scanner.Limit
import Lexkit.Proofs.Sql.Tokenizer

/-!
# Looking at the next character

A lexer asks a rule about the next character before it tries the rule. The question is a shortcut
only: where a rule of scanners says no, its scanner does not match there and stays where it was. The
set that answers reaches a rule from a leaf of the tree, a quoted identifier or an identifier, and
nothing stands between that leaf and the rule but scanners that tell events, so that no loop runs
there either. So the lexer that tries every rule comes to the same token or error and to the same
cursor. It may tell other events, and therefore the two are compared by `Agrees`.
-/

namespace Lexkit

/-! ### Rules that answer soundly -/

namespace Scanner

theorem run_of_ruled_out {scanner : Scanner} {cursor : Cursor} (strategy : Strategy)
    (hcheck : Rule.checkExpected scanner.expected cursor.peek = some false) :
    (scanner.run strategy cursor).Agrees (.done none cursor) :=
  (scanner.run_agrees strategy cursor).trans (scan_of_ruled_out hcheck)

/-- A scanner that is ruled out skips nothing, so limits do not matter to it. -/
theorem runUnder_of_ruled_out {scanner : Scanner} {cursor : Cursor} (limit : Limit)
    (strategy : Strategy)
    (hcheck : Rule.checkExpected scanner.expected cursor.peek = some false) :
    (scanner.runUnder limit strategy cursor).Agrees (.done none cursor) := by
  induction scanner with
  | traced name inner ih =>
    rw [runUnder, scanTraced_of_none (ih hcheck).1]
    exact ⟨rfl, rfl⟩
  | quoted _ | identifier _ => exact run_of_ruled_out strategy hcheck
  | whitespace _ | line _ | block _ | pattern _ | skipThen _ _ _ =>
    simp [expected, Rule.checkExpected] at hcheck

end Scanner

/-- The rule of a scanner that is run with a limit for every loop of passes. -/
def ScannerRule.ruleUnder {τ : Type} (limit : Limit) (spec : ScannerRule τ) (strategy : Strategy) :
    Rule τ :=
  .ofScan spec.scanner.expected (spec.scanner.runUnder limit strategy) spec.priority spec.make

namespace Rule

variable {τ : Type}

/-- Where the rule says that it cannot match, it does not match and stays where it was. -/
def Sound (rule : Rule τ) : Prop :=
  ∀ cursor, rule.quickCheck cursor.peek = some false →
    (rule.tryMatch cursor).Agrees (.done none cursor)

theorem sound_ofScan {expected : Option ExpectedChars} {scan : Scan (Option Slice)} {priority : Int}
    {make : Slice → Position → τ}
    (hscan : ∀ cursor, checkExpected expected cursor.peek = some false →
      (scan cursor).Agrees (.done none cursor)) :
    (ofScan expected scan priority make).Sound := by
  intro cursor hcheck
  have htried : (ofScan expected scan priority make).tryMatch cursor =
      (scan cursor).map (Option.map (make · cursor.position)) := (scan cursor).bind_pure _
  rw [htried]
  exact (hscan cursor hcheck).map _

theorem sound_ofScanner (scanner : Scanner) (strategy : Strategy) (priority : Int)
    (make : Slice → Position → τ) : (ofScanner scanner strategy priority make).Sound := by
  cases strategy with
  | interpreted => exact sound_ofScan fun cursor => Scanner.run_of_ruled_out .interpreted
  | compiled =>
    refine sound_ofScan fun cursor hcheck => Scanner.run_of_ruled_out .compiled ?_
    rwa [scanner.expected_compile] at hcheck

theorem sound_ruleUnder (limit : Limit) (spec : ScannerRule τ) (strategy : Strategy) :
    (spec.ruleUnder limit strategy).Sound :=
  sound_ofScan fun _ => Scanner.runUnder_of_ruled_out limit strategy

end Rule

theorem Sql.sound_symbolRule : symbolRule.Sound := by
  intro cursor hcheck
  rw [tryMatch_symbolRule]
  cases hrest : cursor.rest with
  | nil => exact .refl _
  | cons ch rest =>
    rw [Cursor.peek, hrest, List.head?_cons] at hcheck
    have hsymbol : isSymbol ch = false := Option.some.inj hcheck
    dsimp only
    rw [hsymbol, if_neg Bool.false_ne_true]
    exact .refl _

/-! ### Lexers that try every rule -/

namespace Lexer

variable {τ : Type}

/-- The token of the first rule that matches, where no rule is asked beforehand. -/
def tryEvery : List (Rule τ) → Scan (Option τ)
  | [] => return none
  | rule :: rules => do
    match ← Scan.orReturn rule.tryMatch with
    | some token => return some token
    | none => tryEvery rules

/-- The token at the cursor, every rule being tried. -/
def nextTokenTried (lexer : Lexer τ) : Scan (Option τ) := tryEvery lexer.rules

theorem tryRules_agrees {rules : List (Rule τ)} (hrules : ∀ rule ∈ rules, rule.Sound)
    (cursor : Cursor) : (tryRules cursor.peek rules cursor).Agrees (tryEvery rules cursor) := by
  induction rules with
  | nil => exact .refl _
  | cons rule rules ih =>
    have hothers := ih fun other hother => hrules other (List.mem_cons_of_mem rule hother)
    rw [tryRules, tryEvery, Scan.bind_apply]
    by_cases hcheck : rule.quickCheck cursor.peek = some false
    · -- The rule is passed over on one side, and comes to nothing on the other.
      have hnothing : (Scan.orReturn rule.tryMatch cursor).Agrees (.done none cursor) :=
        Scan.orReturn_agrees (hrules rule List.mem_cons_self cursor hcheck :
          (rule.tryMatch cursor).Agrees ((pure none : Scan (Option τ)) cursor))
      rw [if_pos hcheck]
      refine hothers.trans (Step.Agrees.symm ?_)
      exact (hnothing.bind fun _ _ => .refl _).trans (.refl _)
    · rw [if_neg hcheck, Scan.bind_apply, Scan.orReturn_apply]
      generalize rule.tryMatch cursor = step
      obtain ⟨outcome, after, events⟩ := step
      cases outcome with
      | error halt => exact .refl _
      | ok found =>
        cases found with
        | none => exact hothers.after events events
        | some token => exact .refl _

theorem nextToken_agrees {rules : List (Rule τ)} (hrules : ∀ rule ∈ rules, rule.Sound)
    (cursor : Cursor) :
    ((make rules).nextToken cursor).Agrees ((make rules).nextTokenTried cursor) :=
  tryRules_agrees (fun rule hrule => hrules rule (mem_make.1 hrule)) cursor

/-- Asking a rule about the next character never hides a match. Where the rule of a scanner says no,
the scanner finds nothing, neither a match nor an error, and the cursor stays; and so it is with the
rule for symbols. Hence every lexer of such rules finds the token, or meets the error, that it would
find if it tried every rule, and leaves the same cursor. All this is so under every limit. -/
theorem quickCheck_hides_nothing :
    (∀ (τ : Type) (spec : ScannerRule τ) (strategy : Strategy) (cursor : Cursor),
      (spec.rule strategy).quickCheck cursor.peek = some false →
        (spec.scanner.run strategy cursor).Agrees (.done none cursor) ∧
        ∀ limit, (spec.scanner.runUnder limit strategy cursor).Agrees (.done none cursor)) ∧
    (∀ cursor, Sql.symbolRule.quickCheck cursor.peek = some false →
      (Sql.symbolRule.tryMatch cursor).Agrees (.done none cursor)) ∧
    (∀ (τ : Type) (specs : List (ScannerRule τ × Strategy)) (cursor : Cursor),
      ((make (specs.map fun spec => spec.1.rule spec.2)).nextToken cursor).Agrees
        ((make (specs.map fun spec => spec.1.rule spec.2)).nextTokenTried cursor) ∧
      ∀ limit,
        ((make (specs.map fun spec => spec.1.ruleUnder limit spec.2)).nextToken cursor).Agrees
          ((make (specs.map fun spec => spec.1.ruleUnder limit spec.2)).nextTokenTried cursor)) ∧
    ∀ rules : List (Rule Sql.Token),
      (∀ rule ∈ rules, rule = Sql.symbolRule ∨
        ∃ (spec : ScannerRule Sql.Token) (strategy : Strategy), rule = spec.rule strategy ∨
          ∃ limit, rule = spec.ruleUnder limit strategy) →
      ∀ cursor, ((make rules).nextToken cursor).Agrees ((make rules).nextTokenTried cursor) := by
  have hsound {τ : Type} (spec : ScannerRule τ) (strategy : Strategy) :
      (spec.rule strategy).Sound :=
    Rule.sound_ofScanner spec.scanner strategy spec.priority spec.make
  refine ⟨?_, Sql.sound_symbolRule, ?_, ?_⟩
  · intro τ spec strategy cursor hcheck
    rw [ScannerRule.rule, Rule.quickCheck_ofScanner] at hcheck
    exact ⟨Scanner.run_of_ruled_out strategy hcheck,
      fun limit => Scanner.runUnder_of_ruled_out limit strategy hcheck⟩
  · intro τ specs cursor
    refine ⟨nextToken_agrees ?_ cursor, fun limit => nextToken_agrees ?_ cursor⟩
    · intro rule hrule
      obtain ⟨spec, -, rfl⟩ := List.mem_map.1 hrule
      exact hsound spec.1 spec.2
    · intro rule hrule
      obtain ⟨spec, -, rfl⟩ := List.mem_map.1 hrule
      exact Rule.sound_ruleUnder limit spec.1 spec.2
  · intro rules hrules cursor
    apply nextToken_agrees
    intro rule hrule
    rcases hrules rule hrule with rfl | ⟨spec, strategy, rfl | ⟨limit, rfl⟩⟩
    · exact Sql.sound_symbolRule
    · exact hsound spec strategy
    · exact Rule.sound_ruleUnder limit spec strategy

/-- A traced scanner of quoted names before a letter, symbols at the end of the input, and a lexer
of both before a letter. -/
theorem quickCheck_hides_nothing_before_letter :
    ((ScannerRule.mk (.traced ['q'] (.quoted .sql)) 1 fun slice _ => slice.text).rule
        .compiled).quickCheck (Cursor.ofText ['x']).peek = some false ∧
      ((Scanner.traced ['q'] (.quoted .sql)).run .compiled (.ofText ['x'])).Agrees
        (.done none (.ofText ['x'])) ∧
      (Sql.symbolRule.tryMatch (.ofText [])).Agrees (.done none (.ofText [])) ∧
      ((make [Sql.symbolRule, Sql.rule .initial (.quoted .sql) 30 .quoted]).nextToken
        (.ofText ['x'])).Agrees
        ((make [Sql.symbolRule, Sql.rule .initial (.quoted .sql) 30 .quoted]).nextTokenTried
          (.ofText ['x'])) := by
  have hcheck : ((ScannerRule.mk (.traced ['q'] (.quoted .sql)) 1 fun slice _ => slice.text).rule
      .compiled).quickCheck (Cursor.ofText ['x']).peek = some false := by decide +kernel
  obtain ⟨hscan, hsymbol, -, hlexer⟩ := quickCheck_hides_nothing
  refine ⟨hcheck, (hscan Text _ .compiled _ hcheck).1, hsymbol _ rfl, hlexer _ ?_ _⟩
  intro rule hrule
  rw [List.mem_cons, List.mem_singleton] at hrule
  refine hrule.imp_right ?_
  rintro rfl
  exact ⟨⟨.quoted .sql, 30, fun slice position => ⟨.quoted slice.text, position⟩⟩, .interpreted,
    .inl rfl⟩

end Lexer

end Lexkit
