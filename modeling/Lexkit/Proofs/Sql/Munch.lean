import Lexkit.Proofs.Sql.Tokenizer
import Lexkit.Proofs.Whitespace.Start

/-!
# Maximal munch

Every scanner stops only where nothing ahead could belong to its token, and the next token starts
exactly there. `Munch` says this of one token and the text around it, by a condition on the text
before which a lexeme starts and one on the text before which it ends. A run keeps both for all its
tokens; so what the end of a token rules out, the start of the next one cannot be, and that two
tokens do not run into each other is read off the two conditions.
-/

namespace Lexkit.Sql

/-! ### Where a lexeme starts and ends -/

/-- Whether blank characters or a comment start in front of a text. -/
def startsTrivia (text : Text) : Bool :=
  text.head?.any Text.isBlank || ['-', '-'].isPrefixOf text || ['/', '*'].isPrefixOf text

/-- An underscore or a letter, and then underscores, letters and digits, all of ASCII. -/
def IsName (text : Text) : Prop :=
  ∃ first others, text = first :: others ∧ (first = '_' ∨ first.isAlpha = true) ∧
    ∀ ch ∈ others, ch = '_' ∨ ch.isAlphanum = true

namespace Lexeme

def HasShape : Lexeme → Prop
  | .number text => IsNumber text
  | .identifier name => IsName name
  | _ => True

/-- The text starts with what a lexeme of this kind starts with. -/
def StartsAt : Lexeme → Text → Prop
  | .trivia _, text => startsTrivia text = true
  | .identifier _, text => text.head?.any Identifier.isSimpleSqlStart = true
  | .quoted _, text => ∃ quote ∈ quotes, text.head? = some quote.1
  | .number _, text => text.head?.any Char.isDigit = true
  | .symbol ch, text => text.head? = some ch

/-- Nothing at the start of the text ahead could belong to the lexeme that stands for the segment
before it. -/
def EndsBefore : Lexeme → Text → Text → Prop
  | .trivia _, _, ahead => startsTrivia ahead = false
  | .identifier _, _, ahead => ahead.head?.any Identifier.isSimpleSqlPart = false
  | .quoted _, segment, ahead => ahead.head? ≠ segment.getLast?
  | .number text, _, ahead => ahead.head?.any Char.isDigit = false ∧
      ('.' ∉ text → ∀ after, ahead = '.' :: after → after.head?.any Char.isDigit = false)
  | .symbol ch, _, ahead =>
      (ch = '-' → ahead.head? ≠ some '-') ∧ (ch = '/' → ahead.head? ≠ some '*')

/-- Two lexemes that would be read as one if they stood next to each other. -/
def merges : Lexeme → Lexeme → Bool
  | .trivia _, .trivia _ | .identifier _, .identifier _ | .identifier _, .number _
  | .number _, .number _ => true
  | _, _ => false

end Lexeme

/-- A lexeme is cut out of the text around it where it should be. -/
structure Munch (lexeme : Lexeme) (segment ahead : Text) : Prop where
  shape : lexeme.HasShape
  starts : lexeme.StartsAt (segment ++ ahead)
  ends : lexeme.EndsBefore segment ahead

/-- The token stands for the text between two cursors and is cut out of it where it should be. -/
def Munches (cursor : Cursor) (token : Token) (after : Cursor) : Prop :=
  ∃ segment, segment ≠ [] ∧ token.lexeme.Spells segment ∧ token.position = cursor.position ∧
    cursor.Passes segment after ∧ Munch token.lexeme segment after.rest

theorem Munches.lexes {cursor after : Cursor} {token : Token}
    (hmunches : Munches cursor token after) : Lexes cursor token after := by
  obtain ⟨segment, hsegment, hspells, hposition, hpasses, -⟩ := hmunches
  exact ⟨segment, hsegment, hspells, hposition, hpasses⟩

/-! ### One token -/

theorem opens_whitespace (options : Options) (text : Text) :
    (whitespace options).opens text = startsTrivia text := by
  obtain ⟨strategy, flatComments⟩ := options
  cases flatComments <;>
    simp [Whitespace.opens, whitespace, SkipUnit.opens, SkipUnit.opening, startsTrivia,
      LineComment.sql, BlockComment.sql, BlockComment.cStyle, Bool.or_assoc]

section

variable (options : Options) (cursor : Cursor) (priority : Int)

theorem munches_trivia :
    ((rule options (.whitespace (whitespace options)) priority .trivia).tryMatch cursor).Ends
      (fun found after => ∀ token ∈ found, Munches cursor token after) cursor.Stops := by
  apply ends_rule options
  have hread := Whitespace.read_starts_and_stops (Whitespace.fixed_sql options) cursor
  refine hread.mono ?_ fun _ _ hstops => hstops
  rintro found after ⟨hreads, hstarts, hstops⟩ slice rfl
  obtain ⟨taken, htaken, rfl, hpasses⟩ := hreads
  rw [opens_whitespace, hpasses.rest_eq] at hstarts
  rw [opens_whitespace] at hstops
  exact ⟨taken, htaken, rfl, rfl, hpasses, trivial, hstarts.symm, hstops⟩

theorem not_startsTrivia_of_scan
    (hnone : ((whitespace options).read cursor).outcome = .ok none) :
    startsTrivia cursor.rest = false := by
  have hread := Whitespace.read_starts_and_stops (Whitespace.fixed_sql options) cursor
  rw [← opens_whitespace options]
  exact (hread.of_ok hnone).2.1.symm

theorem munches_quoted :
    ((rule options (.quoted .sql) priority .quoted).tryMatch cursor).Ends
      (fun found after => ∀ token ∈ found, Munches cursor token after) cursor.Stops := by
  apply ends_rule options
  refine (QuotedIdentifier.sql.scan_unquotes cursor).mono ?_ fun _ _ hstops => hstops
  rintro found after hfound slice rfl
  obtain ⟨first, stop, hend, htext, hpasses, hlast⟩ := hfound
  have hquote := mem_quotes_of_endFor hend
  refine ⟨_, List.cons_ne_nil _ _, ⟨htext, first, stop, hquote, rfl⟩, rfl, hpasses, trivial, ?_, ?_⟩
  · exact ⟨_, hquote, rfl⟩
  · rw [Lexeme.EndsBefore, ← List.cons_append, List.getLast?_concat]
    exact hlast

theorem munches_number :
    ((rule options (.pattern number) priority .number).tryMatch cursor).Ends
      (fun found after => ∀ token ∈ found, Munches cursor token after) cursor.Stops := by
  apply ends_rule options
  have hmatch := matchSize_number cursor.rest
  change (number.scan cursor).Ends _ _
  by_cases hdigits : cursor.rest.takeWhile Char.isDigit = []
  · rw [if_pos hdigits] at hmatch
    rw [number.scan_of_unmatched hmatch]
    exact fun slice hslice => by simp at hslice
  · obtain ⟨ahead, hrest, hdigit, hfraction⟩ := exists_after_numeral cursor.rest
    have hpasses := cursor.passes_pass _ ahead hrest
    rw [if_neg hdigits] at hmatch
    rw [number.scan_of_matched hmatch hpasses]
    have hnumber := isNumber_numeral hdigits
    have hstarts : cursor.rest.head?.any Char.isDigit = true := by
      rwa [Text.takeWhile_eq_nil, Bool.not_eq_false] at hdigits
    rw [hpasses.rest_eq] at hstarts
    intro slice hslice
    obtain rfl := Option.some.inj hslice
    exact ⟨_, hnumber.ne_nil, rfl, rfl, hpasses, hnumber, hstarts, hdigit, hfraction⟩

theorem isName_name {ch : Char} (hstart : Identifier.isSimpleSqlStart ch = true) (rest : Text) :
    IsName (Identifier.simpleSql.name ch rest) := by
  refine ⟨ch, _, rfl, by simpa [Identifier.isSimpleSqlStart] using hstart, ?_⟩
  intro other hother
  have hpart : Identifier.isSimpleSqlPart other = true :=
    List.all_eq_true.1 List.all_takeWhile other hother
  simpa [Identifier.isSimpleSqlPart, Identifier.isSimpleSqlStart, Char.isAlphanum, or_assoc]
    using hpart

theorem munches_identifier :
    ((rule options (.identifier .simpleSql) priority .identifier).tryMatch cursor).Ends
      (fun found after => ∀ token ∈ found, Munches cursor token after) cursor.Stops := by
  apply ends_rule options
  change (Identifier.simpleSql.scan cursor).Ends _ _
  cases hrest : cursor.rest with
  | nil =>
    rw [Identifier.simpleSql.scan_of_nil hrest]
    exact fun slice hslice => by simp at hslice
  | cons ch rest =>
    cases hstart : Identifier.simpleSql.isStart ch with
    | false =>
      rw [Identifier.simpleSql.scan_of_not_isStart hrest hstart]
      exact fun slice hslice => by simp at hslice
    | true =>
      have hpasses := Identifier.simpleSql.passes_after hrest
      have hahead := Text.any_head?_dropWhile Identifier.isSimpleSqlPart cursor.advance.rest
      rw [Identifier.simpleSql.scan_of_isStart hrest hstart]
      intro slice hslice
      obtain rfl := Option.some.inj hslice
      exact ⟨_, List.cons_ne_nil _ _, rfl, rfl, hpasses, isName_name hstart rest, hstart, hahead⟩

theorem endsBefore_symbol {ch : Char} {ahead : Text}
    (htrivia : startsTrivia (ch :: ahead) = false) : Lexeme.EndsBefore (.symbol ch) [ch] ahead := by
  refine ⟨?_, ?_⟩
  · rintro rfl hnext
    obtain ⟨others, rfl⟩ := List.head?_eq_some_iff.1 hnext
    simp [startsTrivia] at htrivia
  · rintro rfl hnext
    obtain ⟨others, rfl⟩ := List.head?_eq_some_iff.1 hnext
    simp [startsTrivia] at htrivia

theorem munches_symbol (htrivia : startsTrivia cursor.rest = false) :
    (symbolRule.tryMatch cursor).Ends
      (fun found after => ∀ token ∈ found, Munches cursor token after) cursor.Stops := by
  rw [tryMatch_symbolRule]
  cases hrest : cursor.rest with
  | nil => exact fun token htoken => by simp at htoken
  | cons ch rest =>
    have hpasses := Cursor.passes_advance hrest
    have hahead : cursor.advance.rest = rest := Cursor.rest_advance_of_cons hrest
    dsimp only
    by_cases hsymbol : isSymbol ch = true
    · rw [if_pos hsymbol]
      intro token htoken
      obtain rfl := Option.some.inj htoken
      have hends := endsBefore_symbol (hrest ▸ htrivia)
      exact ⟨[ch], List.cons_ne_nil _ _, rfl, rfl, hpasses, trivial, rfl, hahead ▸ hends⟩
    · rw [if_neg hsymbol]
      exact fun token htoken => by simp at htoken

theorem nextToken_munches :
    ((Lexer.make (rules options)).nextToken cursor).Ends (Lexer.Takes Munches cursor)
      cursor.Stops := by
  rw [make_rules]
  refine Lexer.tryRules_cons_ends (munches_trivia options cursor 40) fun hrefuses => ?_
  -- Symbols come last, and that no comment starts there is known from the first refusal.
  have htrivia := not_startsTrivia_of_scan options cursor (Rule.refuses_ofScanner _ _ _ _ hrefuses)
  refine Lexer.tryRules_cons_ends (munches_quoted options cursor 30) fun _ => ?_
  refine Lexer.tryRules_cons_ends (munches_number options cursor 20) fun _ => ?_
  refine Lexer.tryRules_cons_ends (munches_identifier options cursor 10) fun _ => ?_
  exact Lexer.tryRules_cons_ends (munches_symbol cursor htrivia) fun _ => rfl

end

/-! ### Tokens next to each other -/

section

variable {segment text : Text}

theorem not_any_head? {p q : Char → Bool} (hq : text.head?.any q = false)
    (hp : text.head?.any p = true) (himp : ∀ ch, p ch = true → q ch = true) : False := by
  obtain ⟨ch, hhead, hch⟩ := (Option.any_eq_true p text.head?).1 hp
  rw [hhead, Option.any_some, himp ch hch] at hq
  exact Bool.false_ne_true hq.symm

/-- What may start where a lexeme ends does not merge with it. -/
theorem Lexeme.not_merges {first second : Lexeme} (hends : first.EndsBefore segment text)
    (hstarts : second.StartsAt text) : first.merges second = false := by
  have hstart (ch : Char) (hch : Identifier.isSimpleSqlStart ch = true) :
      Identifier.isSimpleSqlPart ch = true := by rw [Identifier.isSimpleSqlPart, hch, Bool.true_or]
  have hdigit (ch : Char) (hch : ch.isDigit = true) : Identifier.isSimpleSqlPart ch = true := by
    rw [Identifier.isSimpleSqlPart, hch, Bool.or_true]
  cases first with
  | trivia =>
    cases second with
    | trivia => exact absurd (hstarts.symm.trans hends) Bool.true_eq_false.mp
    | _ => rfl
  | identifier =>
    cases second with
    | identifier => exact (not_any_head? hends hstarts hstart).elim
    | number => exact (not_any_head? hends hstarts hdigit).elim
    | _ => rfl
  | number =>
    cases second with
    | number => exact (not_any_head? hends.1 hstarts fun _ hch => hch).elim
    | _ => rfl
  | quoted => rfl
  | symbol => rfl

end

section

variable {cursor after : Cursor} {tokens : List Token}
  (hcuts : Lexer.Cuts Munches cursor tokens after)
include hcuts

theorem not_merges_of_cuts {first second : Token} (hnear : [first, second] <:+: tokens) :
    first.lexeme.merges second.lexeme = false := by
  obtain ⟨start, stop, hblock⟩ := hcuts.of_part hnear
  obtain ⟨middle, ⟨text, -, -, -, -, hfirst⟩, hothers⟩ := hblock.of_cons
  obtain ⟨last, ⟨segment, -, -, -, hpasses, hsecond⟩, -⟩ := hothers.of_cons
  exact Lexeme.not_merges hfirst.ends (hpasses.rest_eq ▸ hsecond.starts)

theorem point_mem_of_cuts {first second third : Token}
    (hnear : [first, second, third] <:+: tokens) {number fraction : Text}
    (hnumber : first.lexeme = .number number) (hpoint : second.lexeme = .symbol '.')
    (hfraction : third.lexeme = .number fraction) : '.' ∈ number := by
  obtain ⟨start, stop, hblock⟩ := hcuts.of_part hnear
  obtain ⟨middle, ⟨text, -, -, -, -, hfirst⟩, hothers⟩ := hblock.of_cons
  obtain ⟨next, ⟨segment, -, hspells, -, hpasses, -⟩, hlast⟩ := hothers.of_cons
  obtain ⟨last, ⟨further, -, -, -, hpasses', hthird⟩, -⟩ := hlast.of_cons
  rw [hpoint] at hspells
  obtain rfl : segment = ['.'] := hspells
  have hends := hfirst.ends
  have hstarts := hthird.starts
  rw [hnumber] at hends
  rw [hfraction, ← hpasses'.rest_eq] at hstarts
  -- A number without a point would have gone on over the point and the digit behind it.
  refine Decidable.by_contra fun hno => ?_
  exact Bool.false_ne_true ((hends.2 hno next.rest hpasses.rest_eq).symm.trans hstarts)

theorem munch_of_cuts {token : Token} (htoken : token ∈ tokens) :
    ∃ passed segment ahead, cursor.rest = passed ++ (segment ++ ahead) ∧
      token.position = cursor.position.stepOver passed ∧ token.lexeme.Spells segment ∧
      Munch token.lexeme segment ahead := by
  obtain ⟨before, behind, rfl⟩ := List.append_of_mem htoken
  obtain ⟨start, hbefore, hrest⟩ := hcuts.of_append
  obtain ⟨segments, -, hpassed⟩ := exists_segments (hbefore.mono Munches.lexes)
  obtain ⟨stop, ⟨segment, -, hspells, hposition, hpasses, hmunch⟩, -⟩ := hrest.of_cons
  refine ⟨segments.flatten, segment, stop.rest, ?_, ?_, hspells, hmunch⟩
  · rw [hpassed.rest_eq, hpasses.rest_eq]
  · rw [hposition, hpassed.position_eq]

end

/-! ### Whole scripts -/

/-- Maximal munch. In the tokens of a script numbers and names look like numbers and names, and no
token could have been longer: behind its text in the script stands nothing that belongs to it. So no
trivia follows trivia, no name or number follows a name, no number follows a number, and where a
number, a point and a number follow each other the first one has a point already. -/
theorem tokenize_munches (source : Text) (options : Options) (tokens : List Token)
    (stuckAt : Option Position) (htokenize : tokenize source options = .ok ⟨tokens, stuckAt⟩) :
    (∀ token ∈ tokens, token.lexeme.HasShape ∧
      ∃ passed segment ahead, source = passed ++ (segment ++ ahead) ∧
        token.position = Position.start.stepOver passed ∧ token.lexeme.Spells segment ∧
        token.lexeme.EndsBefore segment ahead) ∧
    (∀ first second, [first, second] <:+: tokens →
      first.lexeme.merges second.lexeme = false) ∧
    ∀ first second third, [first, second, third] <:+: tokens → ∀ number fraction,
      first.lexeme = .number number → second.lexeme = .symbol '.' →
        third.lexeme = .number fraction → '.' ∈ number := by
  have hends : (lexed source options).Ends _ _ :=
    Lexer.tokenize_ends _ (fun hmunches => hmunches.lexes.moves) (nextToken_munches options) _
  obtain ⟨hcuts, -⟩ := hends.of_ok (outcome_lexed htokenize)
  refine ⟨fun token htoken => ?_, fun _ _ => not_merges_of_cuts hcuts,
    fun _ _ _ hnear _ _ => point_mem_of_cuts hcuts hnear⟩
  obtain ⟨passed, segment, ahead, hsource, hposition, hspells, hmunch⟩ :=
    munch_of_cuts hcuts htoken
  exact ⟨hmunch.shape, passed, segment, ahead, hsource, hposition, hspells, hmunch.ends⟩

/-- A number with a point before another point and a number, a hyphen that starts no comment, and a
quoted name. -/
theorem tokenize_munches_points :
    (∀ token ∈ [(⟨.number ['1', '.', '5'], ⟨0, 1, 1⟩⟩ : Token), ⟨.symbol '.', ⟨3, 1, 4⟩⟩,
        ⟨.number ['6'], ⟨4, 1, 5⟩⟩, ⟨.symbol '-', ⟨5, 1, 6⟩⟩, ⟨.quoted ['b'], ⟨6, 1, 7⟩⟩],
      token.lexeme.HasShape ∧ ∃ passed segment ahead,
        ['1', '.', '5', '.', '6', '-', '[', 'b', ']'] = passed ++ (segment ++ ahead) ∧
        token.position = Position.start.stepOver passed ∧ token.lexeme.Spells segment ∧
        token.lexeme.EndsBefore segment ahead) ∧
      '.' ∈ ['1', '.', '5'] := by
  obtain ⟨htokens, -, hpoints⟩ := tokenize_munches ['1', '.', '5', '.', '6', '-', '[', 'b', ']']
    .initial [⟨.number ['1', '.', '5'], ⟨0, 1, 1⟩⟩, ⟨.symbol '.', ⟨3, 1, 4⟩⟩,
      ⟨.number ['6'], ⟨4, 1, 5⟩⟩, ⟨.symbol '-', ⟨5, 1, 6⟩⟩, ⟨.quoted ['b'], ⟨6, 1, 7⟩⟩]
    none (by rw [tokenize_eq, lexed_eq]; decide +kernel)
  exact ⟨htokens, hpoints _ _ _ (List.prefix_append [_, _, _] _).isInfix _ ['6'] rfl rfl rfl⟩

end Lexkit.Sql
