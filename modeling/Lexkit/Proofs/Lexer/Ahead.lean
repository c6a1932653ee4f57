import Mathlib.Data.List.Forall2
import Lexkit.Proofs.Lexer
import Lexkit.Proofs.Scanner.Ahead

/-!
# Lexers see only what is ahead

A rule whose scanner sees only what is ahead gives at a cursor the token that it gives at a fresh
cursor over the text ahead, at the position counted on from there. Since a rule that does not match
is undone, every rule is tried at the same two cursors, and since each call starts where the call
before it ended, tokenizing from the middle of a text gives what tokenizing the rest of the text
gives.
-/

namespace Lexkit

variable {τ : Type} {same : Cursor → τ → τ → Prop}

/-! ### Rules -/

theorem Rule.ofScanner_tracks {scanner : Scanner} (hparts : scanner.PartsSeeAhead)
    (strategy : Strategy) (priority : Int) {make : Slice → Position → τ}
    (hmake : ∀ {origin fresh moved left right}, origin.Counterpart fresh moved →
      Slice.Counterpart origin left right →
      same origin (make left fresh.position) (make right moved.position)) :
    (ofScanner scanner strategy priority make).tryMatch.Tracks fun origin =>
      Option.Rel (same origin) := by
  intro origin fresh moved hcursor
  rw [tryMatch_ofScanner, tryMatch_ofScanner]
  refine (Scanner.run_tracks hparts strategy hcursor).map fun hfound => ?_
  cases hfound with
  | none => exact .none
  | some hslice => exact .some (hmake hcursor hslice)

namespace Lexer

/-- What two calls give: tokens that are the same to `same`, or the same error at positions that
correspond. -/
inductive Counterpart (same : Cursor → τ → τ → Prop) (origin : Cursor) :
    Except ScanError τ → Except ScanError τ → Prop
  | token {left right : τ} (hsame : same origin left right) :
    Counterpart same origin (.ok left) (.ok right)
  | error {error : ScanError} (hone : error.position.FromOne) :
    Counterpart same origin (.error error) (.error (error.rebase origin.position))

theorem tryRules_tracks (next : Option Char) {rules : List (Rule τ)}
    (hrules : ∀ rule ∈ rules, rule.tryMatch.Tracks fun origin => Option.Rel (same origin)) :
    (tryRules next rules).Tracks fun origin => Option.Rel (same origin) := by
  induction rules with
  | nil =>
    intro origin fresh moved hcursor
    exact .ok hcursor .none
  | cons rule rules ih =>
    have hothers := ih fun other hother => hrules other (List.mem_cons_of_mem rule hother)
    rw [tryRules]
    by_cases hcheck : rule.quickCheck next = some false
    · rw [if_pos hcheck]
      exact hothers
    · rw [if_neg hcheck]
      intro origin fresh moved hcursor
      rw [Scan.bind_apply, Scan.bind_apply]
      refine ((hrules rule List.mem_cons_self).orReturn hcursor).bind fun hfound hafter => ?_
      cases hfound with
      | none => exact hothers hafter
      | some hsame => exact .ok hafter (.some hsame)

variable {lexer : Lexer τ}

section

variable
  (hrules : ∀ rule ∈ lexer.rules, rule.tryMatch.Tracks fun origin => Option.Rel (same origin))
include hrules

theorem nextToken_tracks : lexer.nextToken.Tracks fun origin => Option.Rel (same origin) := by
  intro origin fresh moved hcursor
  rw [nextToken, Scan.bind_apply, Scan.bind_apply, Scan.here_apply, Scan.here_apply,
    Step.bind_done, Step.bind_done, hcursor.peek_eq]
  exact tryRules_tracks fresh.peek hrules hcursor

theorem next_tracks : lexer.next.Tracks fun origin => Option.Rel (Counterpart same origin) := by
  intro origin fresh moved hcursor
  have hend : moved.atEnd = fresh.atEnd := congrArg List.isEmpty hcursor.rest_eq
  have hmoved := hcursor.offset_eq
  have hstep := nextToken_tracks hrules hcursor
  rw [next, next, hend]
  split
  · exact .ok hcursor .none
  · generalize lexer.nextToken fresh = left at hstep ⊢
    generalize lexer.nextToken moved = right at hstep ⊢
    cases hstep with
    | ok hafter hfound =>
      have hother := hafter.offset_eq
      cases hfound with
      | none => exact .ok hafter .none
      | some hsame =>
        -- Both calls are idle or neither is, as both cursors have moved equally far.
        dsimp only
        split
        · rw [if_pos (by omega)]
          exact .ok hafter .none
        · rw [if_neg (by omega)]
          exact .ok hafter (.some (.token hsame))
    | malformed hafter hone => exact .ok hafter.toEnd (.some (.error hone))
    | fault hafter => exact .fault hafter

theorem tokenize_tracks : lexer.tokenize.Tracks fun origin => List.Forall₂ (same origin) := by
  refine Scan.Tracks.loop fun origin fresh moved hcursor => ?_
  rw [gather, Scan.bind_apply, Scan.bind_apply]
  refine (next_tracks hrules hcursor).bind fun hitem hafter => ?_
  cases hitem with
  | none => exact .ok hafter (.last .nil)
  | some hitem =>
    cases hitem with
    | token hsame => exact .ok hafter (.again fun hothers => .cons hsame hothers)
    | error hone => exact .malformed hafter hone

end

end Lexer

end Lexkit
