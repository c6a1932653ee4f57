import Lexkit.Proofs.Lexer.Ahead
import Lexkit.Proofs.Sql.Tokenizer

/-!
# Resuming at a token

No rule of the tokenizer looks behind or keeps anything, so the rest of a script from the start of a
token on is cut into the tokens that it was cut into before. Only the positions differ: they are
told relative to where the rest starts.
-/

namespace Lexkit.Sql

/-- The token as it is found in the part of a script that starts at `base`. -/
def Token.relativeTo (token : Token) (base : Position) : Token :=
  ⟨token.lexeme, token.position.relativeTo base⟩

/-- Tokens of the same lexeme, at positions that correspond. -/
def Token.Counterpart (origin : Cursor) (left right : Token) : Prop :=
  left.position.FromOne ∧ right = ⟨left.lexeme, left.position.rebase origin.position⟩

variable {options : Options} {origin fresh moved : Cursor}

theorem Token.Counterpart.relativeTo_eq {left right : Token}
    (htoken : Token.Counterpart origin left right) (hone : origin.position.FromOne) :
    right.relativeTo origin.position = left := by
  obtain ⟨hleft, rfl⟩ := htoken
  rw [relativeTo, Position.relativeTo_rebase hleft hone]

/-! ### The rules -/

theorem seesAhead_whitespace (options : Options) : (whitespace options).SeesAhead := by
  intro unit hunit
  simp only [whitespace, List.mem_cons, List.not_mem_nil, or_false] at hunit
  rcases hunit with rfl | rfl | rfl <;> trivial

theorem rule_tracks (scanner : Scanner) (hparts : scanner.PartsSeeAhead) (priority : Int)
    (kind : Text → Lexeme) :
    (rule options scanner priority kind).tryMatch.Tracks fun origin =>
      Option.Rel (Token.Counterpart origin) := by
  apply Rule.ofScanner_tracks hparts
  intro origin fresh moved left right hcursor hslice
  exact ⟨hcursor.fromOne, by rw [hslice.text_eq, hcursor.position_eq]⟩

theorem symbolRule_tracks :
    symbolRule.tryMatch.Tracks fun origin => Option.Rel (Token.Counterpart origin) := by
  intro origin fresh moved hcursor
  rw [tryMatch_symbolRule, tryMatch_symbolRule, hcursor.rest_eq]
  cases fresh.rest with
  | nil => exact .ok hcursor .none
  | cons ch rest =>
    dsimp only
    split
    · exact .ok hcursor.advance (.some ⟨hcursor.fromOne, by rw [hcursor.position_eq]⟩)
    · exact .ok hcursor .none

theorem rules_track (options : Options) : ∀ rule ∈ (Lexer.make (rules options)).rules,
    rule.tryMatch.Tracks fun origin => Option.Rel (Token.Counterpart origin) := by
  intro rule hrule
  simp only [Lexer.mem_make, rules, List.mem_cons, List.not_mem_nil, or_false] at hrule
  rcases hrule with rfl | rfl | rfl | rfl | rfl
  · exact rule_tracks (.whitespace (whitespace options)) (seesAhead_whitespace options) 40 .trivia
  · exact rule_tracks (.quoted .sql) trivial 30 .quoted
  · exact rule_tracks (.pattern number) trivial 20 .number
  · exact rule_tracks (.identifier .simpleSql) trivial 10 .identifier
  · exact symbolRule_tracks

/-! ### Whole scripts -/

theorem eq_map_relativeTo (hone : origin.position.FromOne) {tokens others : List Token}
    (htokens : List.Forall₂ (Token.Counterpart origin) tokens others) :
    tokens = others.map (·.relativeTo origin.position) := by
  induction htokens with
  | nil => rfl
  | cons htoken hothers ih => rw [List.map_cons, htoken.relativeTo_eq hone, ← ih]

/-- Where a run has stopped, if that is before the end. -/
def stuckAt (cursor : Cursor) : Option Position :=
  if cursor.atEnd then none else some cursor.position

theorem stuckAt_relativeTo (hone : origin.position.FromOne)
    (hcursor : origin.Counterpart fresh moved) :
    (stuckAt moved).map (·.relativeTo origin.position) = stuckAt fresh := by
  have hend : moved.atEnd = fresh.atEnd := congrArg List.isEmpty hcursor.rest_eq
  rw [stuckAt, stuckAt, hend]
  split
  · rfl
  · rw [Option.map_some, hcursor.position_eq, Position.relativeTo_rebase hcursor.fromOne hone]

/-- The rest of a script is tokenized as the lexer goes on, relative to where it starts. -/
theorem tokenize_rest (hone : origin.position.FromOne) {tokens : List Token}
    (htokens : ((Lexer.make (rules options)).tokenize origin).outcome = .ok tokens) :
    tokenize origin.rest options =
      .ok ⟨tokens.map (·.relativeTo origin.position),
        (stuckAt ((Lexer.make (rules options)).tokenize origin).cursor).map
          (·.relativeTo origin.position)⟩ := by
  have hruns : (lexed origin.rest options).Counterpart origin
      (List.Forall₂ (Token.Counterpart origin)) ((Lexer.make (rules options)).tokenize origin) :=
    (Lexer.tokenize_tracks (rules_track options)).seesAhead origin
  rw [tokenize_eq]
  generalize lexed origin.rest options = left at hruns ⊢
  generalize (Lexer.make (rules options)).tokenize origin = right at hruns htokens ⊢
  cases hruns with
  | ok hafter hsame =>
    obtain rfl := Except.ok.inj htokens
    rw [← eq_map_relativeTo hone hsame, stuckAt_relativeTo hone hafter]
    rfl
  | malformed hafter herror => simp at htokens
  | fault hafter => simp at htokens

/-- Tokenizing can be resumed at any token: from its start on, the rest of the script has the token
and those after it, and stops at the same place. -/
theorem tokenize_resumes (source : Text) (options : Options) (tokens : List Token)
    (stuck : Option Position) (htokenize : tokenize source options = .ok ⟨tokens, stuck⟩)
    (index : Nat) (token : Token) (htoken : tokens[index]? = some token) :
    ∃ ahead, Text.dropTo source token.position.offset = .ok ahead ∧
      tokenize ahead options =
        .ok ⟨(tokens.drop index).map (·.relativeTo token.position),
          stuck.map (·.relativeTo token.position)⟩ := by
  have htokens : (lexed source options).outcome = .ok tokens := outcome_lexed htokenize
  obtain ⟨hindex, hget⟩ := List.getElem?_eq_some_iff.1 htoken
  obtain ⟨place, hruns, hnone, hstop⟩ := Lexer.exists_runs_of_ok htokens
  rw [← List.take_append_drop index tokens] at hruns
  obtain ⟨middle, hbefore, hafter⟩ := hruns.of_append
  obtain ⟨segments, -, hpasses⟩ := exists_segments_of_runs hbefore
  have hone : middle.position.FromOne := by
    rw [hpasses.position_eq]
    exact Position.fromOne_start.stepOver _
  have hgoes := tokenize_of_runs hafter
  rw [Lexer.tokenize_of_none hnone] at hgoes
  have hend : ((Lexer.make (rules options)).tokenize middle).cursor =
      (lexed source options).cursor := hgoes.2.trans hstop.symm
  have hdrop : ((Lexer.make (rules options)).tokenize middle).outcome = .ok (tokens.drop index) :=
    hgoes.1.trans (congrArg Except.ok (List.append_nil _))
  -- The token comes first in what is left, so it starts where the run goes on.
  rw [List.drop_eq_getElem_cons hindex, hget] at hafter
  obtain ⟨-, ⟨hitem, -⟩, -⟩ := hafter.of_cons
  obtain ⟨-, -, -, hplace, -⟩ := lexes_of_next hitem
  have hrest := middle.dropTo_text
  rw [hpasses.buffer_eq] at hrest
  rw [hplace]
  refine ⟨middle.rest, hrest, ?_⟩
  rw [tokenize_eq, htokens] at htokenize
  obtain ⟨-, hstuck⟩ := Tokenized.mk.inj (Except.ok.inj htokenize)
  rw [tokenize_rest hone hdrop, hend, ← hstuck]
  rfl

/-- Resumed at the name on the second line, before a character that starts nothing. -/
theorem tokenize_resumes_second_line :
    tokenize ['b', '\n', ';', '→'] .initial =
      .ok ⟨[⟨.identifier ['b'], ⟨0, 1, 1⟩⟩, ⟨.trivia ['\n'], ⟨1, 1, 2⟩⟩,
        ⟨.symbol ';', ⟨2, 2, 1⟩⟩], some ⟨3, 2, 2⟩⟩ := by
  obtain ⟨ahead, hahead, hresumed⟩ :=
    tokenize_resumes ['a', '\n', ' ', 'b', '\n', ';', '→'] .initial
      [⟨.identifier ['a'], ⟨0, 1, 1⟩⟩, ⟨.trivia ['\n', ' '], ⟨1, 1, 2⟩⟩,
        ⟨.identifier ['b'], ⟨3, 2, 2⟩⟩, ⟨.trivia ['\n'], ⟨4, 2, 3⟩⟩, ⟨.symbol ';', ⟨5, 3, 1⟩⟩]
      (some ⟨6, 3, 2⟩) (by rw [tokenize_eq, lexed_eq]; decide +kernel)
      2 ⟨.identifier ['b'], ⟨3, 2, 2⟩⟩ rfl
  obtain rfl : ['b', '\n', ';', '→'] = ahead := Except.ok.inj hahead
  exact hresumed

end Lexkit.Sql
