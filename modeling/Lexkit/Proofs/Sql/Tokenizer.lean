import Lexkit.Proofs.Lexer.Run
import Lexkit.Proofs.Sql.Number

/-!
# The SQL tokenizer

The five rules share one bound: a token is made of a segment that it spells, at the position where
the segment starts. A run of the lexer then cuts a script into segments without gap or overlap, and
where it stops before the end each of the five rules has refused the next character. Since the bound
and the rules themselves are the same for both strategies, so are the tokens.
-/

namespace Lexkit.Sql

/-! ### What a token spells -/

/-- The quotes around names. -/
def quotes : List (Char × Char) := [('"', '"'), ('[', ']'), ('\x60', '\x60')]

/-- The text of a script that a lexeme stands for. A quoted name stands between quotes, with its end
quotes doubled. -/
def Lexeme.Spells : Lexeme → Text → Prop
  | .trivia text, segment => segment = text
  | .identifier name, segment => segment = name
  | .number text, segment => segment = text
  | .symbol ch, segment => segment = [ch]
  | .quoted name, segment => name ≠ [] ∧
      ∃ first stop, (first, stop) ∈ quotes ∧ segment = first :: (Text.escape stop name ++ [stop])

/-- The token stands for the text between two cursors, at the position of the first. -/
def Lexes (cursor : Cursor) (token : Token) (after : Cursor) : Prop :=
  ∃ segment, segment ≠ [] ∧ token.lexeme.Spells segment ∧ token.position = cursor.position ∧
    cursor.Passes segment after

theorem Lexes.moves {cursor after : Cursor} {token : Token} (hlexes : Lexes cursor token after) :
    cursor.Moves true after := by
  obtain ⟨segment, hsegment, -, -, hpasses⟩ := hlexes
  exact ⟨hpasses.buffer_eq, hpasses.offset_le, fun _ => hpasses.offset_lt hsegment⟩

theorem mem_quotes_of_endFor {first stop : Char}
    (hend : QuotedIdentifier.sql.endFor first = some stop) : (first, stop) ∈ quotes := by
  obtain ⟨spec, hfind, rfl⟩ := Option.map_eq_some_iff.1 hend
  have hspec := List.mem_of_find?_eq_some hfind
  have hstart : spec.start = first := by simpa using List.find?_some hfind
  have hquotes : ∀ spec ∈ QuotedIdentifier.sql.specs, (spec.start, spec.stop) ∈ quotes := by decide
  rw [← hstart]
  exact hquotes spec hspec

/-! ### What the rules keep -/

section

variable (options : Options) {bad : Cursor → ScanError → Cursor → Prop}

/-- A match of a rule is bounded as the token is that it makes of what its scanner gives. -/
theorem ends_rule {good : Token → Cursor → Prop} {bad : ScanError → Cursor → Prop}
    {scanner : Scanner} {priority : Int} {kind : Text → Lexeme} {cursor : Cursor}
    (hscan : (scanner.scan cursor).Ends
      (fun found after => ∀ slice ∈ found, good ⟨kind slice.text, cursor.position⟩ after) bad) :
    ((rule options scanner priority kind).tryMatch cursor).Ends
      (fun found after => ∀ token ∈ found, good token after) bad := by
  rw [rule, Rule.tryMatch_ofScanner]
  apply (Scanner.ends_run.2 hscan).map
  intro found after hgood token htoken
  obtain ⟨slice, hslice, rfl⟩ := Option.map_eq_some_iff.1 htoken
  exact hgood slice hslice

theorem keeps_rule_of_reads {scanner : Scanner} {priority : Int} {kind : Text → Lexeme}
    (hscan : ∀ cursor, (scanner.scan cursor).Ends cursor.Reads (bad cursor))
    (hkind : ∀ text, (kind text).Spells text) :
    (rule options scanner priority kind).Keeps Lexes bad := by
  intro cursor
  apply ends_rule options
  refine (hscan cursor).mono ?_ fun _ _ hbad => hbad
  rintro found after hreads slice rfl
  obtain ⟨taken, htaken, rfl, hpasses⟩ := hreads
  exact ⟨taken, htaken, hkind taken, rfl, hpasses⟩

theorem keeps_quoted (priority : Int)
    (hbad : ∀ cursor error after, QuotedIdentifier.sql.Refuses cursor error after →
      bad cursor error after) :
    (rule options (.quoted .sql) priority .quoted).Keeps Lexes bad := by
  intro cursor
  apply ends_rule options
  refine (QuotedIdentifier.sql.scan_refuses cursor).mono ?_ (hbad cursor)
  rintro found after hfound slice rfl
  obtain ⟨first, stop, hend, htext, hpasses, -⟩ := hfound
  refine ⟨_, List.cons_ne_nil _ _, ?_, rfl, hpasses⟩
  exact ⟨htext, first, stop, mem_quotes_of_endFor hend, rfl⟩

theorem tryMatch_symbolRule (cursor : Cursor) :
    symbolRule.tryMatch cursor =
      match cursor.rest with
      | [] => .done none cursor
      | ch :: _ =>
        if isSymbol ch then .done (some ⟨.symbol ch, cursor.position⟩) cursor.advance
        else .done none cursor := by
  simp only [symbolRule, Scan.bind_apply, Scan.here_apply, Step.bind_done, Cursor.peek]
  cases cursor.rest with
  | nil => rfl
  | cons ch rest =>
    dsimp only [List.head?_cons]
    by_cases hsymbol : isSymbol ch = true
    · rw [if_pos hsymbol, if_pos hsymbol]
      rfl
    · rw [if_neg hsymbol, if_neg hsymbol]
      rfl

theorem keeps_symbol : symbolRule.Keeps Lexes bad := by
  intro cursor
  rw [tryMatch_symbolRule]
  cases hrest : cursor.rest with
  | nil =>
    intro token htoken
    simp at htoken
  | cons ch rest =>
    dsimp only
    by_cases hsymbol : isSymbol ch = true
    · rw [if_pos hsymbol]
      intro token htoken
      obtain rfl : ⟨.symbol ch, cursor.position⟩ = token := by simpa using htoken
      exact ⟨[ch], List.cons_ne_nil _ _, rfl, rfl, Cursor.passes_advance hrest⟩
    · rw [if_neg hsymbol]
      intro token htoken
      simp at htoken

theorem allRules_whitespace (P : SkipRule → Prop) : (whitespace options).AllRules P := by
  intro unit hunit
  simp only [whitespace, List.mem_cons, List.not_mem_nil, or_false] at hunit
  rcases hunit with rfl | rfl | rfl <;> trivial

theorem rules_keep : ∀ rule ∈ rules options, rule.Keeps Lexes Cursor.Stops := by
  intro rule hrule
  simp only [rules, List.mem_cons, List.not_mem_nil, or_false] at hrule
  rcases hrule with rfl | rfl | rfl | rfl | rfl
  · exact keeps_rule_of_reads options
      ((whitespace options).read_reads .exact (allRules_whitespace options _)) fun _ => rfl
  · exact keeps_quoted options 30 fun _ _ _ => QuotedIdentifier.Refuses.stops
  · exact keeps_rule_of_reads options (fun _ => number.scan_ends _) fun _ => rfl
  · exact keeps_rule_of_reads options (fun _ => Identifier.simpleSql.scan_ends _) fun _ => rfl
  · exact keeps_symbol

end

/-! ### Where no rule matches -/

/-- Whether a token can start with a character: a blank character, an opening quote, a digit, the
start of a name, or a symbol. -/
def startsToken (ch : Char) : Bool :=
  Text.isBlank ch || (quotes.any fun quote => quote.1 == ch) || ch.isDigit ||
    Identifier.isSimpleSqlStart ch || isSymbol ch

section

variable {options : Options} {cursor : Cursor} {ch : Char} {rest : Text}
  (hrest : cursor.rest = ch :: rest)
include hrest

theorem not_isBlank_of_scan
    (hscan : ((whitespace options).read cursor).outcome = .ok none) : Text.isBlank ch = false := by
  have hunits :=
    (whitespace options).skip_of_read_eq_none .exact (allRules_whitespace options _) hscan
  have hblanks := hunits .blanks List.mem_cons_self
  rw [SkipUnit.skip_blanks] at hblanks
  have hempty : (cursor.rest.takeWhile Text.isBlank).isEmpty = true := by
    simpa using Except.ok.inj hblanks
  rw [hrest, List.isEmpty_iff] at hempty
  by_cases hblank : Text.isBlank ch = true
  · rw [List.takeWhile_cons_of_pos hblank] at hempty
    exact absurd hempty (List.cons_ne_nil _ _)
  · simpa using hblank

theorem not_isQuote_of_scan (hscan : (QuotedIdentifier.sql.scan cursor).outcome = .ok none) :
    (quotes.any fun quote => quote.1 == ch) = false := by
  have hstarts : quotes.any (fun quote => quote.1 == ch) =
      QuotedIdentifier.sql.specs.any fun spec => spec.start == ch := rfl
  obtain ⟨-, hopening⟩ := (QuotedIdentifier.sql.scan_unquotes cursor).of_ok hscan
  rw [QuotedIdentifier.opening, Cursor.peek, hrest] at hopening
  have hend : QuotedIdentifier.sql.endFor ch = none := by simpa using hopening
  rw [QuotedIdentifier.endFor, Option.map_eq_none_iff, List.find?_eq_none] at hend
  rw [hstarts, List.any_eq_false]
  exact hend

theorem not_isDigit_of_scan (hscan : (number.scan cursor).outcome = .ok none) :
    ch.isDigit = false := by
  rcases number.match_cases cursor with hmatch | ⟨taken, after, -, hmatch, hpasses⟩
  · rw [matchSize_number, hrest] at hmatch
    by_cases hdigit : ch.isDigit = true
    · rw [List.takeWhile_cons_of_pos hdigit, if_neg (List.cons_ne_nil _ _)] at hmatch
      simp at hmatch
    · simpa using hdigit
  · rw [number.scan_of_matched hmatch hpasses] at hscan
    simp [Step.done] at hscan

theorem not_isStart_of_scan (hscan : (Identifier.simpleSql.scan cursor).outcome = .ok none) :
    Identifier.isSimpleSqlStart ch = false := by
  by_cases hstart : Identifier.isSimpleSqlStart ch = true
  · rw [Identifier.simpleSql.scan_of_isStart hrest hstart] at hscan
    simp [Step.done, Step.after] at hscan
  · simpa using hstart

theorem not_isSymbol_of_tryMatch
    (hmatch : symbolRule.quickCheck (some ch) = some false ∨
      (symbolRule.tryMatch cursor).outcome = .ok none) : isSymbol ch = false := by
  rcases hmatch with hcheck | hmatch
  · exact Option.some.inj hcheck
  · rw [tryMatch_symbolRule, hrest] at hmatch
    dsimp only at hmatch
    by_cases hsymbol : isSymbol ch = true
    · rw [if_pos hsymbol] at hmatch
      simp [Step.done] at hmatch
    · simpa using hsymbol

/-- Where the lexer finds nothing, no token can start with the next character. -/
theorem not_startsToken
    (hnone : ((Lexer.make (rules options)).nextToken cursor).outcome = .ok none) :
    startsToken ch = false := by
  have hpeek : cursor.peek = some ch := by rw [Cursor.peek, hrest, List.head?_cons]
  rw [make_rules] at hnone
  have hrules := Lexer.tryRules_eq_none hnone
  simp only [rules, List.forall_mem_cons] at hrules
  obtain ⟨hwhitespace, hquoted, hnumber, hidentifier, hsymbol, -⟩ := hrules
  rw [hpeek] at hsymbol
  rw [startsToken, not_isBlank_of_scan hrest (Rule.refuses_ofScanner _ _ _ _ hwhitespace),
    not_isQuote_of_scan hrest (Rule.refuses_ofScanner _ _ _ _ hquoted),
    not_isDigit_of_scan hrest (Rule.refuses_ofScanner _ _ _ _ hnumber),
    not_isStart_of_scan hrest (Rule.refuses_ofScanner _ _ _ _ hidentifier),
    not_isSymbol_of_tryMatch hrest hsymbol]
  rfl

end

/-! ### Whole scripts -/

/-- Tokens for consecutive segments of a script: each spells its segment, which is not empty, and
has the position after all segments before it. -/
structure Segments (start : Position) (tokens : List Token) (segments : List Text) : Prop where
  length_eq : segments.length = tokens.length
  ne_nil : ∀ segment ∈ segments, segment ≠ []
  spells : ∀ (index : Nat) (token : Token) (segment : Text), tokens[index]? = some token →
    segments[index]? = some segment → token.lexeme.Spells segment
  position_eq : ∀ (index : Nat) (token : Token), tokens[index]? = some token →
    token.position = start.stepOver (segments.take index).flatten

theorem Segments.nil (start : Position) : Segments start [] [] where
  length_eq := rfl
  ne_nil := nofun
  spells := nofun
  position_eq := nofun

theorem Segments.cons {start : Position} {token : Token} {tokens : List Token} {segment : Text}
    {segments : List Text} (hsegment : segment ≠ []) (hspells : token.lexeme.Spells segment)
    (hposition : token.position = start)
    (hothers : Segments (start.stepOver segment) tokens segments) :
    Segments start (token :: tokens) (segment :: segments) where
  length_eq := by rw [List.length_cons, List.length_cons, hothers.length_eq]
  ne_nil := List.forall_mem_cons.2 ⟨hsegment, hothers.ne_nil⟩
  spells := by
    intro index other text hother htext
    cases index with
    | zero =>
      obtain rfl : token = other := Option.some.inj hother
      obtain rfl : segment = text := Option.some.inj htext
      exact hspells
    | succ index => exact hothers.spells index other text hother htext
  position_eq := by
    intro index other hother
    cases index with
    | zero =>
      obtain rfl : token = other := Option.some.inj hother
      exact hposition
    | succ index =>
      rw [hothers.position_eq index other hother, List.take_succ_cons, List.flatten_cons,
        Position.stepOver_append]

theorem exists_segments {cursor after : Cursor} {tokens : List Token}
    (hcuts : Lexer.Cuts Lexes cursor tokens after) :
    ∃ segments, Segments cursor.position tokens segments ∧
      cursor.Passes segments.flatten after := by
  induction hcuts with
  | nil cursor => exact ⟨[], .nil _, .refl cursor⟩
  | cons hfirst hothers ih =>
    obtain ⟨segment, hsegment, hspells, hposition, hpasses⟩ := hfirst
    obtain ⟨segments, hsegments, hfurther⟩ := ih
    rw [hpasses.position_eq] at hsegments
    exact ⟨segment :: segments, .cons hsegment hspells hposition hsegments, hpasses.trans hfurther⟩

def lexed (source : Text) (options : Options) : Step (List Token) :=
  (Lexer.make (rules options)).tokenize (.ofText source)

theorem lexed_eq (source : Text) (options : Options) :
    lexed source options = Lexer.tokenize ⟨rules options⟩ (.ofText source) := by
  rw [lexed, make_rules]

/-- Tokenizing is the run of the lexer, and a look at where it stopped. -/
theorem tokenize_eq (source : Text) (options : Options) :
    tokenize source options =
      (lexed source options).outcome.map fun tokens =>
        ⟨tokens, if (lexed source options).cursor.atEnd then none
          else some (lexed source options).cursor.position⟩ := by
  have hrun (step : Step (List Token)) (next : List Token → Scan Tokenized)
      (hnext : ∀ tokens cursor, (next tokens cursor).outcome =
        .ok ⟨tokens, if cursor.atEnd then none else some cursor.position⟩) :
      (step.bind next).outcome = step.outcome.map fun tokens =>
        ⟨tokens, if step.cursor.atEnd then none else some step.cursor.position⟩ := by
    obtain ⟨outcome, cursor, events⟩ := step
    cases outcome with
    | error halt => rfl
    | ok tokens => exact hnext tokens cursor
  exact hrun _ _ fun _ _ => rfl

theorem outcome_lexed {source : Text} {options : Options} {tokenized : Tokenized}
    (htokenize : tokenize source options = .ok tokenized) :
    (lexed source options).outcome = .ok tokenized.tokens := by
  rw [tokenize_eq] at htokenize
  obtain ⟨tokens, hlexed, rfl⟩ := Step.outcome_map_eq_ok.1 htokenize
  exact hlexed

theorem outcome_lexed_of_error {source : Text} {options : Options} {halt : Halt}
    (htokenize : tokenize source options = .error halt) :
    (lexed source options).outcome = .error halt := by
  rw [tokenize_eq] at htokenize
  exact Step.outcome_map_eq_error.1 htokenize

theorem lexed_ends (source : Text) (options : Options) :
    (lexed source options).Ends
      (fun tokens after => Lexer.Cuts Lexes (.ofText source) tokens after ∧
        (after.rest = [] ∨ ((Lexer.make (rules options)).nextToken after).outcome = .ok none))
      (fun error after => ∃ tokens middle place, Lexer.Cuts Lexes (.ofText source) tokens middle ∧
        middle.Stops error place ∧ after = place.toEnd) :=
  Lexer.tokenize_ends _ Lexes.moves
    (Lexer.nextToken_ends _ fun rule hrule => rules_keep options rule (Lexer.mem_make.1 hrule)) _

theorem lexes_of_next {options : Options} {cursor : Cursor} {token : Token}
    (htoken : ((Lexer.make (rules options)).next cursor).outcome = .ok (some (.ok token))) :
    Lexes cursor token ((Lexer.make (rules options)).next cursor).cursor := by
  have hkeeps := Lexer.nextToken_ends (Lexer.make (rules options)) fun rule hrule =>
    rules_keep options rule (Lexer.mem_make.1 hrule)
  exact (Lexer.next_ends _ Lexes.moves hkeeps cursor).of_ok htoken

/-- A run passes segments that its tokens spell. -/
theorem exists_segments_of_runs {options : Options} {cursor after : Cursor} {tokens : List Token}
    (hruns : (Lexer.make (rules options)).Runs cursor tokens after) :
    ∃ segments, Segments cursor.position tokens segments ∧
      cursor.Passes segments.flatten after :=
  exists_segments (hruns.cuts lexes_of_next)

theorem tokenize_of_runs {options : Options} {cursor after : Cursor} {tokens : List Token}
    (hruns : (Lexer.make (rules options)).Runs cursor tokens after) :
    ((Lexer.make (rules options)).tokenize cursor).Agrees
      (((Lexer.make (rules options)).tokenize after).map (tokens ++ ·)) :=
  hruns.tokenize fun hitem => (lexes_of_next hitem).moves.length_rest_lt

/-- Tokenizing loses nothing. The tokens of a script spell consecutive segments of it, from its
start on and each at its position. They reach its end, or the place that is reported, and no token
can start with the character there. -/
theorem tokenize_lossless (source : Text) (options : Options) (tokens : List Token)
    (stuckAt : Option Position) (htokenize : tokenize source options = .ok ⟨tokens, stuckAt⟩) :
    ∃ segments ahead, source = segments.flatten ++ ahead ∧ Segments .start tokens segments ∧
      match stuckAt with
      | none => ahead = []
      | some position => position = Position.start.stepOver segments.flatten ∧
        ∃ ch rest, ahead = ch :: rest ∧ startsToken ch = false := by
  have hends := lexed_ends source options
  rw [tokenize_eq] at htokenize
  generalize lexed source options = step at hends htokenize
  obtain ⟨outcome, after, events⟩ := step
  cases outcome with
  | error halt => simp [Except.map] at htokenize
  | ok found =>
    obtain ⟨hcuts, hstop⟩ := hends
    obtain ⟨segments, hsegments, hpasses⟩ := exists_segments hcuts
    simp only [Except.map, Except.ok.injEq, Tokenized.mk.injEq] at htokenize
    obtain ⟨rfl, hstuck⟩ := htokenize
    refine ⟨segments, after.rest, hpasses.rest_eq, hsegments, ?_⟩
    cases hrest : after.rest with
    | nil =>
      have hend : after.atEnd = true := by rw [Cursor.atEnd, hrest, List.isEmpty_nil]
      rw [if_pos hend] at hstuck
      subst hstuck
      rfl
    | cons ch rest =>
      have hmore : ¬ after.atEnd = true := by
        rw [Cursor.atEnd, hrest]
        exact Bool.false_ne_true
      rw [if_neg hmore] at hstuck
      subst hstuck
      have hnone := hstop.resolve_left (by rw [hrest]; exact List.cons_ne_nil _ _)
      exact ⟨hpasses.position_eq, ch, rest, rfl, not_startsToken hrest hnone⟩

/-- A number, a blank and a quoted name before a character that starts nothing. -/
theorem tokenize_lossless_arrow :
    ∃ segments ahead, ['1', ' ', '[', ']', ']', ']', '→'] = segments.flatten ++ ahead ∧
      Segments .start [⟨.number ['1'], ⟨0, 1, 1⟩⟩, ⟨.trivia [' '], ⟨1, 1, 2⟩⟩,
        ⟨.quoted [']'], ⟨2, 1, 3⟩⟩] segments ∧
      (⟨6, 1, 7⟩ : Position) = Position.start.stepOver segments.flatten ∧
      ∃ ch rest, ahead = ch :: rest ∧ startsToken ch = false :=
  tokenize_lossless ['1', ' ', '[', ']', ']', ']', '→'] .initial
    [⟨.number ['1'], ⟨0, 1, 1⟩⟩, ⟨.trivia [' '], ⟨1, 1, 2⟩⟩, ⟨.quoted [']'], ⟨2, 1, 3⟩⟩]
    (some ⟨6, 1, 7⟩) (by rw [tokenize_eq, lexed_eq]; decide +kernel)

/-! ### Strategies -/

theorem map_quiet_rules (flatComments : Bool) :
    (rules ⟨.compiled, flatComments⟩).map Rule.quiet =
      (rules ⟨.interpreted, flatComments⟩).map Rule.quiet := by
  have hwhitespace :
      whitespace ⟨.compiled, flatComments⟩ = whitespace ⟨.interpreted, flatComments⟩ :=
    rfl
  simp only [rules, rule, List.map_cons, List.map_nil, Rule.quiet_ofScanner _ Strategy.compiled,
    hwhitespace]

theorem quiet_lexed (source : Text) (flatComments : Bool) :
    (lexed source ⟨.compiled, flatComments⟩).quiet =
      (lexed source ⟨.interpreted, flatComments⟩).quiet := by
  rw [lexed, lexed, ← Lexer.tokenize_quiet, ← Lexer.tokenize_quiet, ← Lexer.make_map_quiet,
    ← Lexer.make_map_quiet, map_quiet_rules]

/-- The strategy makes no difference to lexing. A script has the same tokens, or the same error,
with both; and any lexer of scanner rules gives the same items and leaves the same cursors, whatever
strategy is picked for each rule. With forward rules no operation is refused on the way. -/
theorem strategies_lex_alike :
    (∀ (source : Text) (flatComments : Bool),
      tokenize source ⟨.interpreted, flatComments⟩ = tokenize source ⟨.compiled, flatComments⟩ ∧
        ∀ reason, tokenize source ⟨.interpreted, flatComments⟩ ≠ .error (.fault reason)) ∧
    ∀ (τ : Type) (specs : List (ScannerRule τ)) (pick other : Nat → Strategy) (count : Nat)
      (cursor : Cursor),
      (Lexer.make (specs.mapIdx fun index spec => spec.rule (pick index))).calls count cursor =
        (Lexer.make (specs.mapIdx fun index spec => spec.rule (other index))).calls count cursor ∧
      ((∀ spec ∈ specs, spec.scanner.AllRules SkipRule.Forward) →
        ∀ call ∈ (Lexer.make (specs.mapIdx fun index spec => spec.rule (pick index))).calls
          count cursor, ∀ reason, call.1 ≠ .error (.fault reason)) := by
  refine ⟨fun source flatComments => ⟨?_, ?_⟩, fun τ specs pick other count cursor => ⟨?_, ?_⟩⟩
  · obtain ⟨houtcome, hcursor⟩ := Step.agrees_of_quiet_eq (quiet_lexed source flatComments)
    rw [tokenize_eq, tokenize_eq, houtcome, hcursor]
  · intro reason hfault
    have hfaultless := (lexed_ends source ⟨.interpreted, flatComments⟩).faultless
    rw [tokenize_eq] at hfault
    cases houtcome : (lexed source ⟨.interpreted, flatComments⟩).outcome with
    | ok tokens => simp [houtcome, Except.map] at hfault
    | error halt =>
      rw [houtcome] at hfault
      exact hfaultless reason (houtcome.trans (congrArg _ (Except.error.inj hfault)))
  · rw [← Lexer.calls_quiet, Lexer.quiet_make_mapIdx, ← Lexer.quiet_make_mapIdx specs other,
      Lexer.calls_quiet]
  · intro hrules
    have hkeeps : ∀ rule ∈ (Lexer.make
        (specs.mapIdx fun index spec => spec.rule (pick index))).rules,
        rule.Keeps (fun cursor _ after => cursor.Moves true after) fun _ _ _ => True := by
      intro rule hrule
      obtain ⟨index, hindex, rfl⟩ := List.mem_mapIdx.1 (Lexer.mem_make.1 hrule)
      exact Rule.keeps_ofScanner _ _ _ _ (hrules _ (List.getElem_mem hindex))
    exact Lexer.calls_faultless _ id hkeeps count cursor

/-- A rule that passes exclamation marks silently, in front of comments, with either strategy. -/
theorem strategies_lex_alike_silent :
    ∀ call ∈
      (Lexer.make ([ScannerRule.mk (.skipThen ⟨[.custom (.silent (· == '!'))]⟩ (.line .sql)) 1
        fun slice _ => slice.text].mapIdx fun _ spec => spec.rule .compiled)).calls 2
        (.ofText ['!', '-', '-']), ∀ reason, call.1 ≠ .error (.fault reason) := by
  refine (strategies_lex_alike.2 Text _ (fun _ => .compiled) (fun _ => .interpreted) 2 _).2 ?_
  intro spec hspec
  rw [List.mem_singleton] at hspec
  subst hspec
  refine ⟨?_, trivial⟩
  intro unit hunit
  rw [List.mem_singleton] at hunit
  subst hunit
  exact SkipRule.forward_silent _

end Lexkit.Sql
