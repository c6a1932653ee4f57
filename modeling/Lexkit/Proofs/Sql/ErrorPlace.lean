import Lexkit.Proofs.Sql.Tokenizer
import Lexkit.Proofs.Whitespace.Failure
import Lexkit.Proofs.Whitespace.Start

/-!
# Where errors point

Two rules can find a script malformed. Whitespace fails at a comment that is left open, and a quoted
name fails at the end of the script or at a pair of quotes that holds nothing. In each case the
lexer has run through some tokens to the place where the rule is tried, and the error points to
where the rule stopped, at the position of that place in the script.
-/

namespace Lexkit.Sql

/-- What the lexer finds malformed where it tries its rules at `start`, and where this shows. -/
inductive Fails (options : Options) (start : Cursor) : ScanError → Cursor → Prop
  /-- Whitespace leads to a comment that is left open: at the end, or where comments do not nest
  before the start mark of another comment. -/
  | leftOpen {opener place : Cursor} {inside : Text}
    (hgap : Whitespace.Skips ((whitespace options).units.map SkipUnit.skip) start opener)
    (hopens : opener.Passes (['/', '*'] ++ inside) place)
    (hplace : place.rest = [] ∨ options.flatComments = true ∧ ['/', '*'] <+: place.rest)
    (hinside : options.flatComments = true → BlockComment.cStyle.Unmarked inside place.rest) :
    Fails options start (.missingEndComment ['*', '/'] place.position) place
  /-- A quote opens and the script ends. -/
  | unclosed {first stop : Char} {inside : Text} {place : Cursor} (hquotes : (first, stop) ∈ quotes)
    (hopens : start.Passes (first :: inside) place) (hplace : place.rest = []) :
    Fails options start (.unclosedQuote stop place.position) place
  /-- A quote opens and closes, and its end is not the first of two. -/
  | empty {first stop : Char} {place : Cursor} (hquotes : (first, stop) ∈ quotes)
    (hpasses : start.Passes [first, stop] place) (hplace : place.rest.head? ≠ some stop) :
    Fails options start (.zeroLengthIdentifier place.position) place

variable {options : Options} {start place : Cursor} {error : ScanError}

theorem Fails.position_eq (hfails : Fails options start error place) :
    error.position = place.position := by
  cases hfails <;> rfl

theorem Fails.exists_passes (hfails : Fails options start error place) :
    ∃ taken, start.Passes taken place := by
  cases hfails with
  | leftOpen hgap hopens hplace hinside =>
    have hunits := (whitespace options).units_end .exact (allRules_whitespace options _)
    obtain ⟨gap, hpasses⟩ := hgap.exists_passes hunits
    exact ⟨_, hpasses.trans hopens⟩
  | unclosed hquotes hopens hplace => exact ⟨_, hopens⟩
  | empty hquotes hpasses hplace => exact ⟨_, hpasses⟩

/-! ### The rules that fail -/

theorem fails_of_leftOpen {opener : Cursor} {comment : BlockComment}
    (hgap : Whitespace.Skips ((whitespace options).units.map SkipUnit.skip) start opener)
    (hcomment : .block comment ∈ (whitespace options).units)
    (hopen : comment.LeftOpen opener error place) : Fails options start error place := by
  have hkind : comment = if options.flatComments then .cStyle else .sql := by
    simpa [whitespace] using hcomment
  obtain ⟨rfl, inside, hopens, hplace, hinside⟩ := hopen
  cases hflat : options.flatComments with
  | true =>
    rw [hflat, if_pos rfl] at hkind
    subst hkind
    exact .leftOpen hgap hopens (hplace.imp_right fun hstarts => ⟨hflat, hstarts.2⟩)
      fun _ => hinside rfl
  | false =>
    rw [hflat, if_neg Bool.false_ne_true] at hkind
    subst hkind
    refine .leftOpen hgap hopens (.inl ?_) fun htrue => absurd (htrue.symm.trans hflat) (by simp)
    exact hplace.resolve_right fun hnesting => absurd hnesting.1 (by decide)

theorem fails_of_refuses (hrefuses : QuotedIdentifier.sql.Refuses start error place) :
    Fails options start error place := by
  obtain ⟨first, stop, hend, ⟨rfl, hplace, inside, hopens⟩ | ⟨rfl, hpasses, hplace⟩⟩ := hrefuses
  · exact .unclosed (mem_quotes_of_endFor hend) hopens hplace
  · exact .empty (mem_quotes_of_endFor hend) hpasses hplace

theorem rules_fail (options : Options) :
    ∀ rule ∈ (Lexer.make (rules options)).rules, rule.Keeps Lexes (Fails options) := by
  intro rule hrule
  simp only [Lexer.mem_make, rules, List.mem_cons, List.not_mem_nil, or_false] at hrule
  rcases hrule with rfl | rfl | rfl | rfl | rfl
  · refine keeps_rule_of_reads options (fun cursor => ?_) fun _ => rfl
    refine (Whitespace.read_leftOpen (allRules_whitespace options _) cursor).mono
      (fun _ _ hreads => hreads) ?_
    rintro error place ⟨opener, hgap, comment, hcomment, hopen⟩
    exact fails_of_leftOpen hgap hcomment hopen
  · exact keeps_quoted options 30 fun _ _ _ => fails_of_refuses
  · exact keeps_rule_of_reads options (fun _ => number.scan_ends _) fun _ => rfl
  · exact keeps_rule_of_reads options (fun _ => Identifier.simpleSql.scan_ends _) fun _ => rfl
  · exact keeps_symbol

theorem fails_of_next
    (herror : ((Lexer.make (rules options)).next start).outcome = .ok (some (.error error))) :
    ∃ place, Fails options start error place := by
  have hkeeps := Lexer.nextToken_ends (Lexer.make (rules options)) (rules_fail options)
  obtain ⟨place, hfails, -⟩ := (Lexer.next_ends _ Lexes.moves hkeeps start).of_ok herror
  exact ⟨place, hfails⟩

/-! ### Quotes that hold nothing -/

variable {first stop : Char} {ahead : Text}

theorem not_opens_of_mem_quotes (hquotes : (first, stop) ∈ quotes) (text : Text) :
    (whitespace options).opens (first :: text) = false := by
  obtain ⟨strategy, flatComments⟩ := options
  simp only [quotes, List.mem_cons, Prod.mk.injEq, List.not_mem_nil, or_false] at hquotes
  rcases hquotes with ⟨rfl, rfl⟩ | ⟨rfl, rfl⟩ | ⟨rfl, rfl⟩ <;> cases flatComments <;> rfl

theorem opening_of_mem_quotes (hrest : start.rest = first :: ahead)
    (hquotes : (first, stop) ∈ quotes) :
    QuotedIdentifier.sql.opening start = some (first, stop) := by
  simp only [quotes, List.mem_cons, Prod.mk.injEq, List.not_mem_nil, or_false] at hquotes
  rw [QuotedIdentifier.opening, Cursor.peek, hrest]
  rcases hquotes with ⟨rfl, rfl⟩ | ⟨rfl, rfl⟩ | ⟨rfl, rfl⟩ <;> rfl

theorem outcome_rule (scanner : Scanner) (priority : Int) (kind : Text → Lexeme) (cursor : Cursor) :
    ((rule options scanner priority kind).tryMatch cursor).outcome =
      (scanner.scan cursor).outcome.map
        (Option.map fun slice => ⟨kind slice.text, cursor.position⟩) := by
  rw [rule, Rule.tryMatch_ofScanner]
  cases options.strategy with
  | interpreted => rfl
  | compiled =>
    rw [Scanner.run, Scanner.run_compile]
    rfl

section

variable (hrest : start.rest = first :: stop :: ahead) (hquotes : (first, stop) ∈ quotes)
  (hahead : ahead.head? ≠ some stop)
include hrest hquotes hahead

theorem scan_of_empty :
    QuotedIdentifier.sql.scan start =
      .malformed (.zeroLengthIdentifier (start.position.stepOver [first, stop]))
        start.advance.advance := by
  have hadvance := Cursor.rest_advance_of_cons hrest
  have hpasses : start.Passes (QuotedIdentifier.rawText first stop []) start.advance.advance :=
    (Cursor.passes_advance hrest).trans (Cursor.passes_advance hadvance)
  have hclose : QuotedIdentifier.close stop start.advance = .ok start.advance.advance := by
    apply QuotedIdentifier.close_of_stop hadvance
    rwa [Cursor.peekNth, hadvance, List.getElem?_cons_succ, ← List.head?_eq_getElem?]
  rw [QuotedIdentifier.scan_of_closed (opening_of_mem_quotes hrest hquotes) hclose hpasses,
    if_pos rfl, hpasses.position_eq]
  rfl

/-- Whitespace does not start with a quote, and the rule for quoted names cannot be passed over. -/
theorem nextToken_of_empty :
    ((Lexer.make (rules options)).nextToken start).outcome =
      .error (.malformed (.zeroLengthIdentifier (start.position.stepOver [first, stop]))) := by
  have hwhite : (whitespace options).read start = .done none start := by
    have hskip : (whitespace options).skip start = .done false start := by
      apply Whitespace.skip_of_not_opens (Whitespace.fixed_sql options)
      rw [hrest]
      exact not_opens_of_mem_quotes hquotes _
    rw [Whitespace.read, Scan.bind_apply, Scan.here_apply, Step.bind_done, Scan.bind_apply, hskip]
    rfl
  have hquoted := scan_of_empty hrest hquotes hahead
  have hfirst : ((rule options (.whitespace (whitespace options)) 40 .trivia).tryMatch
      start).outcome = .ok none := by
    rw [outcome_rule, Scanner.scan, hwhite]
    rfl
  have hsecond : ((rule options (.quoted .sql) 30 .quoted).tryMatch start).outcome =
      .error (.malformed (.zeroLengthIdentifier (start.position.stepOver [first, stop]))) := by
    rw [outcome_rule, Scanner.scan, hquoted]
    rfl
  have hcheck : (rule options (.quoted .sql) 30 .quoted).quickCheck start.peek ≠ some false := by
    intro hcheck
    have hrefuses := Rule.refuses_ofScanner _ _ _ _ (.inl hcheck)
    rw [Scanner.scan, hquoted] at hrefuses
    simp [Step.malformed] at hrefuses
  rw [make_rules]
  have hfails : ((rule options (.quoted .sql) 30 .quoted).tryMatch start).outcome ≠ .ok none := by
    rw [hsecond]
    simp
  exact (Lexer.tryRules_cons_of_refuses (.inr hfirst)).1.trans
    ((Lexer.tryRules_cons_of_tried hcheck hfails).1.trans hsecond)

end

/-- Errors point to what is wrong. The lexer runs through some tokens to the place where it fails,
and the position of the error is that of the place where this shows. Where it comes to a pair of
quotes that holds nothing, it does fail. -/
theorem tokenize_error_place (source : Text) (options : Options) :
    (∀ error, tokenize source options = .error (.malformed error) →
      ∃ tokens start place before, (Lexer.make (rules options)).Runs (.ofText source) tokens start ∧
        Fails options start error place ∧ source = before ++ place.rest ∧
        error.position = Position.start.stepOver before) ∧
    ∀ tokens start first stop ahead,
      (Lexer.make (rules options)).Runs (.ofText source) tokens start →
      start.rest = first :: stop :: ahead → (first, stop) ∈ quotes → ahead.head? ≠ some stop →
        tokenize source options =
          .error (.malformed (.zeroLengthIdentifier (start.position.stepOver [first, stop]))) := by
  constructor
  · intro error herror
    obtain ⟨tokens, start, hruns, hnext⟩ :=
      Lexer.exists_runs_of_malformed (outcome_lexed_of_error herror)
    obtain ⟨place, hfails⟩ := fails_of_next hnext
    obtain ⟨segments, -, hbefore⟩ := exists_segments_of_runs hruns
    obtain ⟨taken, htaken⟩ := hfails.exists_passes
    have hpasses := hbefore.trans htaken
    exact ⟨tokens, start, place, segments.flatten ++ taken, hruns, hfails, hpasses.rest_eq,
      hfails.position_eq.trans hpasses.position_eq⟩
  · intro tokens start first stop ahead hruns hrest hquotes hahead
    have hnext : ((Lexer.make (rules options)).next start).outcome = .ok (some (.error
        (.zeroLengthIdentifier (start.position.stepOver [first, stop])))) := by
      have hmore : ¬ start.atEnd = true := by simp [Cursor.atEnd, hrest]
      rw [Lexer.next, if_neg hmore]
      dsimp only
      rw [nextToken_of_empty hrest hquotes hahead]
    have hruns := (tokenize_of_runs hruns).1
    rw [Lexer.tokenize_of_error hnext] at hruns
    rw [tokenize_eq, lexed, hruns]
    rfl

/-- A flat comment that a second comment shows to be open, on the line after the one on which it
starts, and a pair of brackets that holds nothing. -/
theorem tokenize_error_place_second_line :
    (∃ tokens start place before,
      (Lexer.make (rules ⟨.compiled, true⟩)).Runs
        (.ofText ['a', '/', '*', 'é', '\n', '/', '*']) tokens start ∧
      Fails ⟨.compiled, true⟩ start (.missingEndComment ['*', '/'] ⟨6, 2, 1⟩) place ∧
      ['a', '/', '*', 'é', '\n', '/', '*'] = before ++ place.rest ∧
      (⟨6, 2, 1⟩ : Position) = Position.start.stepOver before) ∧
    tokenize ['[', ']', 'x'] .initial = .error (.malformed (.zeroLengthIdentifier ⟨2, 1, 3⟩)) :=
  ⟨(tokenize_error_place ['a', '/', '*', 'é', '\n', '/', '*'] ⟨.compiled, true⟩).1
      (.missingEndComment ['*', '/'] ⟨6, 2, 1⟩) (by rw [tokenize_eq, lexed_eq]; decide +kernel),
    (tokenize_error_place ['[', ']', 'x'] .initial).2 [] (.ofText ['[', ']', 'x']) '[' ']' ['x']
      (.nil _) rfl (by decide) (by decide)⟩

end Lexkit.Sql
