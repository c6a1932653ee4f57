import Lexkit.Proofs.Sql.Tokenizer

/-!
# Flat comments

Where comments do not nest, a start mark inside a comment is an error. Nothing else changes: a flat
comment that is closed is a nested comment that is closed at the same place, so the two tokenizers
do the same up to the first comment that the flat one leaves open. `Stricter` says this of two
steps. It goes through everything that a lexer is built of, and at the top it reads: the flat run is
the nested run, or it ends with an open comment.
-/

namespace Lexkit

/-! ### Steps that agree up to an open comment -/

namespace Step

variable {α β : Type}

/-- The step ends because the end of a comment is missing. -/
def LeavesOpen (step : Step α) : Prop :=
  ∃ mark position, step.outcome = .error (.malformed (.missingEndComment mark position))

/-- The left step does what the right one does, unless it finds a comment open. -/
def Stricter (left right : Step α) : Prop := left.Agrees right ∨ left.LeavesOpen

variable {left right : Step α}

theorem LeavesOpen.bind (hopen : left.LeavesOpen) (next : α → Scan β) :
    (left.bind next).LeavesOpen := by
  obtain ⟨mark, position, herror⟩ := hopen
  exact ⟨mark, position, congrArg outcome (left.bind_of_error herror next)⟩

theorem LeavesOpen.map (hopen : left.LeavesOpen) (f : α → β) : (left.map f).LeavesOpen := by
  obtain ⟨mark, position, herror⟩ := hopen
  exact ⟨mark, position, congrArg (Except.map f) herror⟩

namespace Stricter

theorem refl (step : Step α) : step.Stricter step := .inl (.refl step)

theorem congr {left' right' : Step α} (hleft : left.Agrees left') (hright : right.Agrees right')
    (hstricter : left'.Stricter right') : left.Stricter right := by
  rcases hstricter with hagrees | ⟨mark, position, herror⟩
  · exact .inl (hleft.trans (hagrees.trans hright.symm))
  · exact .inr ⟨mark, position, hleft.1.trans herror⟩

theorem after (events others : List Event) (hstricter : left.Stricter right) :
    (left.after events).Stricter (right.after others) := hstricter

theorem map (f : α → β) (hstricter : left.Stricter right) : (left.map f).Stricter (right.map f) :=
  hstricter.imp (·.map f) (·.map f)

theorem bind {next other : α → Scan β} (hstricter : left.Stricter right)
    (hnext : ∀ value cursor, (next value cursor).Stricter (other value cursor)) :
    (left.bind next).Stricter (right.bind other) := by
  rcases hstricter with hagrees | hopen
  · obtain ⟨outcome, cursor, events⟩ := left
    obtain ⟨outcome', cursor', events'⟩ := right
    obtain ⟨rfl, rfl⟩ : outcome = outcome' ∧ cursor = cursor' := hagrees
    cases outcome with
    | ok value => exact (hnext value cursor).after events events'
    | error halt => exact .inl ⟨rfl, rfl⟩
  · exact .inr (hopen.bind next)

theorem orReturn {scan other : Scan (Option α)} {cursor : Cursor}
    (hstricter : (scan cursor).Stricter (other cursor)) :
    (scan.orReturn cursor).Stricter (other.orReturn cursor) := by
  rcases hstricter with hagrees | ⟨mark, position, herror⟩
  · exact .inl (Scan.orReturn_agrees hagrees)
  · rw [Scan.orReturn_apply]
    exact .inr ⟨mark, position, herror⟩

end Stricter

end Step

/-- Of two loops that go on alike up to an open comment, the first ends where the second does or
finds the comment open. -/
theorem Scan.loop_stricter {α : Type} {strict lax : Scan (Round α)} (hadvances : strict.Advances)
    (hround : ∀ cursor, (strict cursor).Stricter (lax cursor)) (cursor : Cursor) :
    (loop strict cursor).Stricter (loop lax cursor) := by
  have hloops := hadvances.loops_loop cursor
  generalize loop strict cursor = step at hloops ⊢
  suffices hwhole : (∃ other, Loops lax cursor other ∧ step.Agrees other) ∨ step.LeavesOpen by
    refine hwhole.imp_left ?_
    rintro ⟨other, hothers, hagrees⟩
    rwa [hothers.loop_eq]
  induction hloops with
  | @halted cursor halt hhalt =>
    rcases hround cursor with hagrees | ⟨mark, position, hopen⟩
    · exact .inl ⟨_, .halted (hagrees.1 ▸ hhalt), rfl, hagrees.2⟩
    · exact .inr ⟨mark, position, congrArg _ (Except.error.inj (hhalt.symm.trans hopen))⟩
  | @last cursor value hlast =>
    rcases hround cursor with hagrees | ⟨mark, position, hopen⟩
    · exact .inl ⟨_, .last (hagrees.1 ▸ hlast), rfl, hagrees.2⟩
    · cases hlast.symm.trans hopen
  | @again cursor change step hagain _ ih =>
    rcases hround cursor with hagrees | ⟨mark, position, hopen⟩
    · rw [hagrees.2] at ih
      rcases ih with ⟨other, hothers, hstep⟩ | hopen
      · exact .inl ⟨_, .again (hagrees.1 ▸ hagain) hothers, (hstep.map change).after _ _⟩
      · exact .inr (hopen.map change)
    · cases hagain.symm.trans hopen

/-! ### Comments -/

namespace BlockComment

variable {flat nested : BlockComment} (hstart : nested.startMark = flat.startMark)
  (hend : nested.endMark = flat.endMark)
include hstart hend

/-- Before the first start mark inside, the first end mark is the one that balances. -/
theorem closeNested_of_closeFlat {cursor after : Cursor}
    (hclose : flat.closeFlat cursor = .ok after) : nested.closeNested 1 cursor = .ok after := by
  fun_induction closeFlat flat cursor with
  | case1 cursor hrest => simp at hclose
  | case2 cursor hrest hstarts => simp at hclose
  | case3 cursor hrest hstarts hends =>
    rw [closeNested, if_neg hrest, hstart, if_neg hstarts, hend, if_pos hends]
    exact hclose
  | case4 cursor hrest hstarts hends ih =>
    rw [closeNested, if_neg hrest, hstart, if_neg hstarts, hend, if_neg hends]
    exact ih hclose

theorem read_stricter (hflat : flat.nesting = false) (hnested : nested.nesting = true)
    (cursor : Cursor) : (flat.read cursor).Stricter (nested.read cursor) := by
  cases hstarts : cursor.startsWith flat.startMark with
  | false =>
    rw [flat.read_of_not_startsWith hstarts, nested.read_of_not_startsWith (hstart ▸ hstarts)]
    exact .refl _
  | true =>
    cases hclose : flat.close (flat.opened cursor) with
    | error missing =>
      rw [flat.read_of_missing hstarts hclose]
      exact .inr ⟨_, _, rfl⟩
    | ok after =>
      obtain ⟨taken, -, hpasses⟩ := flat.exists_passes_close hstarts
      have hclose' : nested.close (nested.opened cursor) = .ok after := by
        rw [close_eq, if_neg (by simp [hflat])] at hclose
        rw [close_eq, if_pos hnested, opened, hstart]
        exact closeNested_of_closeFlat hstart hend hclose
      rw [hclose] at hpasses
      rw [flat.read_of_closed hstarts hclose hpasses,
        nested.read_of_closed (hstart ▸ hstarts) hclose' hpasses]
      exact .refl _

end BlockComment

/-! ### Whitespace -/

namespace Whitespace

theorem pass_cons_stricter {unit other : Scan Bool} {units others : List (Scan Bool)}
    (hunit : ∀ cursor, (unit cursor).Stricter (other cursor))
    (hunits : ∀ cursor, (pass units cursor).Stricter (pass others cursor)) (cursor : Cursor) :
    (pass (unit :: units) cursor).Stricter (pass (other :: others) cursor) :=
  (hunit cursor).bind fun _ middle => (hunits middle).bind fun _ _ => .refl _

theorem passes_stricter {units others : List (Scan Bool)}
    (hadvances : (pass units).answered.Advances)
    (hpass : ∀ cursor, (pass units cursor).Stricter (pass others cursor)) (cursor : Cursor) :
    (passes units cursor).Stricter (passes others cursor) := by
  refine Scan.loop_stricter hadvances (fun place => ?_) cursor
  rw [Scan.answered_apply, Scan.answered_apply]
  exact (hpass place).map _

end Whitespace

/-! ### Lexers -/

namespace Lexer

variable {τ : Type}

theorem tryRules_cons_stricter {next : Option Char} {rule other : Rule τ} {rules : List (Rule τ)}
    (hcheck : rule.quickCheck = other.quickCheck)
    (hmatch : ∀ cursor, (rule.tryMatch cursor).Stricter (other.tryMatch cursor)) (cursor : Cursor) :
    (tryRules next (rule :: rules) cursor).Stricter (tryRules next (other :: rules) cursor) := by
  rw [tryRules, tryRules, hcheck]
  by_cases hno : other.quickCheck next = some false
  · rw [if_pos hno, if_pos hno]
    exact .refl _
  · rw [if_neg hno, if_neg hno]
    exact (hmatch cursor).orReturn.bind fun _ _ => .refl _

variable {strict lax : Lexer τ}
  (hnext : ∀ cursor, (strict.nextToken cursor).Stricter (lax.nextToken cursor))
include hnext

theorem next_stricter (cursor : Cursor) : (strict.next cursor).Agrees (lax.next cursor) ∨
    ∃ mark position,
      (strict.next cursor).outcome = .ok (some (.error (.missingEndComment mark position))) := by
  rw [next, next]
  by_cases hend : cursor.atEnd = true
  · rw [if_pos hend, if_pos hend]
    exact .inl (.refl _)
  · rw [if_neg hend, if_neg hend]
    dsimp only
    rcases hnext cursor with hagrees | ⟨mark, position, herror⟩
    · left
      rw [hagrees.1, hagrees.2]
      cases (lax.nextToken cursor).outcome with
      | error halt => cases halt <;> exact ⟨rfl, rfl⟩
      | ok found =>
        cases found with
        | none => exact ⟨rfl, rfl⟩
        | some token =>
          dsimp only
          split <;> exact ⟨rfl, rfl⟩
    · rw [herror]
      exact .inr ⟨mark, position, rfl⟩

theorem gather_stricter (cursor : Cursor) :
    (strict.gather cursor).Stricter (lax.gather cursor) := by
  rw [gather, gather, Scan.bind_apply, Scan.bind_apply]
  rcases next_stricter hnext cursor with hagrees | ⟨mark, position, herror⟩
  · exact .inl (hagrees.bind fun _ _ => .refl _)
  · rw [Step.bind_of_ok _ herror]
    exact .inr ⟨mark, position, rfl⟩

theorem tokenize_stricter (hadvances : strict.gather.Advances) (cursor : Cursor) :
    (strict.tokenize cursor).Stricter (lax.tokenize cursor) :=
  Scan.loop_stricter hadvances (gather_stricter hnext) cursor

end Lexer

/-! ### The tokenizer -/

namespace Sql

theorem whitespace_stricter (strategy : Strategy) (cursor : Cursor) :
    ((Scanner.whitespace (whitespace ⟨strategy, true⟩)).run strategy cursor).Stricter
      ((Scanner.whitespace (whitespace ⟨strategy, false⟩)).run strategy cursor) := by
  have hstart : BlockComment.sql.startMark = BlockComment.cStyle.startMark := rfl
  have hend : BlockComment.sql.endMark = BlockComment.cStyle.endMark := rfl
  have hread (place : Cursor) :
      (BlockComment.cStyle.read place).Stricter (BlockComment.sql.read place) :=
    BlockComment.read_stricter hstart hend rfl rfl place
  have hblock (place : Cursor) : (SkipUnit.skip (.block .cStyle) place).Stricter
      (SkipUnit.skip (.block .sql) place) := (hread place).bind fun _ _ => .refl _
  have hskip (place : Cursor) : ((whitespace ⟨strategy, true⟩).skip place).Stricter
      ((whitespace ⟨strategy, false⟩).skip place) := by
    have hpass := Whitespace.pass_ends SkipBound.exact.chain
      ((whitespace ⟨strategy, true⟩).units_end .exact (allRules_whitespace _ _))
    refine Whitespace.passes_stricter (Whitespace.advances_pass SkipBound.exact.chain hpass)
      (fun middle => ?_) place
    refine Whitespace.pass_cons_stricter (fun _ => .refl _) (fun middle => ?_) middle
    refine Whitespace.pass_cons_stricter (fun _ => .refl _) (fun middle => ?_) middle
    exact Whitespace.pass_cons_stricter hblock (fun _ => .refl _) middle
  have hwhole : ((whitespace ⟨strategy, true⟩).read cursor).Stricter
      ((whitespace ⟨strategy, false⟩).read cursor) := (hskip cursor).bind fun _ _ => .refl _
  cases strategy with
  | interpreted => exact hwhole
  | compiled =>
    refine .congr ?_ ?_ hwhole
    · rw [Scanner.run, Scanner.run_compile]
      exact Step.agrees_quiet _
    · rw [Scanner.run, Scanner.run_compile]
      exact Step.agrees_quiet _

theorem nextToken_stricter (strategy : Strategy) (cursor : Cursor) :
    ((Lexer.make (rules ⟨strategy, true⟩)).nextToken cursor).Stricter
      ((Lexer.make (rules ⟨strategy, false⟩)).nextToken cursor) := by
  rw [make_rules, make_rules]
  refine Lexer.tryRules_cons_stricter ?_ (fun place => ?_) cursor
  · funext next
    rw [rule, rule, Rule.quickCheck_ofScanner, Rule.quickCheck_ofScanner]
    rfl
  · rw [rule, rule, Rule.tryMatch_ofScanner, Rule.tryMatch_ofScanner]
    exact (whitespace_stricter strategy place).map _

/-- The flat run is the nested run, or it ends with an open comment. -/
theorem tokenize_flat_cases (source : Text) (strategy : Strategy) :
    tokenize source ⟨strategy, true⟩ = tokenize source ⟨strategy, false⟩ ∨
      ∃ mark position, tokenize source ⟨strategy, true⟩ =
        .error (.malformed (.missingEndComment mark position)) := by
  have hlexed : (lexed source ⟨strategy, true⟩).Stricter (lexed source ⟨strategy, false⟩) :=
    Lexer.tokenize_stricter (nextToken_stricter strategy)
      (Lexer.advances_gather fun htoken => (lexes_of_next htoken).moves.length_rest_lt) _
  rw [tokenize_eq, tokenize_eq]
  rcases hlexed with hagrees | ⟨mark, position, herror⟩
  · rw [hagrees.1, hagrees.2]
    exact .inl rfl
  · rw [herror]
    exact .inr ⟨mark, position, rfl⟩

theorem tokenize_faultless (source : Text) (options : Options) (reason : Fault) :
    tokenize source options ≠ .error (.fault reason) := fun hfault =>
  (lexed_ends source options).faultless reason (outcome_lexed_of_error hfault)

/-- Flat comments only reject. A script that has tokens with flat comments has the same tokens, and
the same place where it is stuck, with nested ones; a quote that is not closed or that holds nothing
is found at the same position. So a script that fails with nested comments fails with flat ones. -/
theorem flat_comments_only_reject (source : Text) (strategy : Strategy) :
    (∀ tokenized, tokenize source ⟨strategy, true⟩ = .ok tokenized →
      tokenize source ⟨strategy, false⟩ = .ok tokenized) ∧
    (∀ quote position,
      tokenize source ⟨strategy, true⟩ = .error (.malformed (.unclosedQuote quote position)) →
        tokenize source ⟨strategy, false⟩ = .error (.malformed (.unclosedQuote quote position))) ∧
    (∀ position,
      tokenize source ⟨strategy, true⟩ = .error (.malformed (.zeroLengthIdentifier position)) →
        tokenize source ⟨strategy, false⟩ = .error (.malformed (.zeroLengthIdentifier position))) ∧
    ∀ halt, tokenize source ⟨strategy, false⟩ = .error halt →
      ∃ error, tokenize source ⟨strategy, true⟩ = .error (.malformed error) := by
  rcases tokenize_flat_cases source strategy with hsame | ⟨mark, position, hopen⟩
  · rw [hsame]
    refine ⟨fun _ hok => hok, fun _ _ herror => herror, fun _ herror => herror, ?_⟩
    intro halt hhalt
    cases halt with
    | malformed error => exact ⟨error, hhalt⟩
    | fault reason => exact absurd hhalt (tokenize_faultless source _ reason)
  · rw [hopen]
    exact ⟨nofun, nofun, nofun, fun _ _ => ⟨_, rfl⟩⟩

/-- A closed comment, a quote without its end, a quoted name without characters, and a comment that
both leave open. -/
theorem flat_comments_only_reject_comment :
    tokenize ['/', '*', '*', '/'] ⟨.compiled, false⟩ =
      .ok ⟨[⟨.trivia ['/', '*', '*', '/'], ⟨0, 1, 1⟩⟩], none⟩ ∧
    tokenize ['['] ⟨.interpreted, false⟩ =
      .error (.malformed (.unclosedQuote ']' ⟨1, 1, 2⟩)) ∧
    tokenize ['[', ']'] ⟨.interpreted, false⟩ =
      .error (.malformed (.zeroLengthIdentifier ⟨2, 1, 3⟩)) ∧
    ∃ error, tokenize ['/', '*'] ⟨.interpreted, true⟩ = .error (.malformed error) :=
  ⟨(flat_comments_only_reject _ _).1 _ (by rw [tokenize_eq, lexed_eq]; decide +kernel),
    (flat_comments_only_reject _ _).2.1 _ _ (by rw [tokenize_eq, lexed_eq]; decide +kernel),
    (flat_comments_only_reject _ _).2.2.1 _ (by rw [tokenize_eq, lexed_eq]; decide +kernel),
    (flat_comments_only_reject ['/', '*'] .interpreted).2.2.2
      (.malformed (.missingEndComment ['*', '/'] ⟨2, 1, 3⟩))
      (by rw [tokenize_eq, lexed_eq]; decide +kernel)⟩

end Sql

end Lexkit
