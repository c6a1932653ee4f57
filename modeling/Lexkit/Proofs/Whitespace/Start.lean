import Lexkit.Proofs.Scanner
import Lexkit.Sql.Tokenizer

/-!
# Where skipping starts and stops

Blank characters and comments with fixed marks show in the text ahead whether they start there. A
unit that starts skips something or meets an error, and one that does not is idle. So whitespace of
such units reads something exactly where one of them starts, and it stops where none does.
-/

namespace Lexkit

/-! ### Where a unit starts -/

namespace SkipUnit

/-- The units that start with blank characters or with a fixed mark. -/
inductive HasFixedStart : SkipUnit → Prop
  | blanks : HasFixedStart .blanks
  | line (mark : Text) (hmark : mark ≠ []) : HasFixedStart (.line ⟨.mark mark⟩)
  | block (comment : BlockComment) : HasFixedStart (.block comment)

/-- The mark that a unit starts with, if it starts with a fixed mark. -/
def opening : SkipUnit → Option Text
  | line ⟨.mark text⟩ => some text
  | block comment => some comment.startMark
  | _ => none

/-- Whether a unit that has a fixed start starts in front of a text. -/
def opens : SkipUnit → Text → Bool
  | blanks, text => text.head?.any Text.isBlank
  | unit, text => unit.opening.any (·.isPrefixOf text)

variable {unit : SkipUnit} {cursor : Cursor}

theorem isMatch_of_done {scan : Scan (Option Slice)} {found : Option Slice} {after : Cursor}
    (hscan : scan cursor = .done found after) : scan.isMatch cursor = .done found.isSome after := by
  rw [Scan.isMatch, Scan.bind_apply, hscan]
  rfl

theorem skip_of_not_opens (hstart : unit.HasFixedStart) (hopens : unit.opens cursor.rest = false) :
    unit.skip cursor = .done false cursor := by
  cases hstart with
  | blanks =>
    have htaken : cursor.rest.takeWhile Text.isBlank = [] := Text.takeWhile_eq_nil.2 hopens
    rw [skip_blanks, Cursor.skipWhile_eq_self htaken, htaken]
    rfl
  | line mark hmark =>
    have hread := LineComment.read_eq ⟨.mark mark⟩ cursor
    have hno : (CommentStart.mark mark).isAt cursor = false := hopens
    rw [if_pos (.inr hno)] at hread
    exact isMatch_of_done hread
  | block comment => exact isMatch_of_done (comment.read_of_not_startsWith hopens)

/-- Where a unit starts, it skips something, or its end is missing. -/
theorem outcome_skip_of_opens (hstart : unit.HasFixedStart)
    (hopens : unit.opens cursor.rest = true) : (unit.skip cursor).outcome ≠ .ok false := by
  cases hstart with
  | blanks =>
    have htaken : cursor.rest.takeWhile Text.isBlank ≠ [] := by
      rw [ne_eq, Text.takeWhile_eq_nil, Bool.not_eq_false]
      exact hopens
    rw [skip_blanks]
    simpa [Step.done] using htaken
  | line mark hmark =>
    have hread := LineComment.read_eq ⟨.mark mark⟩ cursor
    have hrest : cursor.rest ≠ [] := BlockComment.rest_ne_nil hmark hopens
    have hyes : (CommentStart.mark mark).isAt cursor = true := hopens
    rw [if_neg (by simp [hrest, hyes])] at hread
    rw [skip, isMatch_of_done hread]
    simp [Step.done]
  | block comment =>
    cases hclose : comment.close (comment.opened cursor) with
    | ok after =>
      obtain ⟨taken, -, hpasses⟩ := comment.exists_passes_close hopens
      rw [hclose] at hpasses
      rw [skip, isMatch_of_done (comment.read_of_closed hopens hclose hpasses)]
      simp [Step.done]
    | error missing =>
      rw [skip, Scan.isMatch, Scan.bind_apply, comment.read_of_missing hopens hclose]
      simp [Step.bind, Step.after, Step.malformed]

theorem HasFixedStart.allRules (hstart : unit.HasFixedStart) (P : SkipRule → Prop) :
    unit.AllRules P := by
  cases hstart <;> trivial

theorem HasFixedStart.blanks_or_mark (hstart : unit.HasFixedStart) :
    unit = .blanks ∨ ∃ mark, mark ≠ [] ∧ unit.opening = some mark ∧
      ∀ text, unit.opens text = mark.isPrefixOf text := by
  cases hstart with
  | blanks => exact .inl rfl
  | line mark hmark => exact .inr ⟨mark, hmark, rfl, fun _ => rfl⟩
  | block comment => exact .inr ⟨comment.startMark, comment.start_ne_nil, rfl, fun _ => rfl⟩

end SkipUnit

/-! ### Whitespace of such units -/

namespace Whitespace

def opens (whitespace : Whitespace) (text : Text) : Bool := whitespace.units.any (·.opens text)

/-- The unit does nothing at the cursor. -/
def Idle (cursor : Cursor) (unit : Scan Bool) : Prop := unit cursor = .done false cursor

theorem pass_of_idle {units : List (Scan Bool)} {cursor : Cursor}
    (hidle : ∀ unit ∈ units, Idle cursor unit) : pass units cursor = .done false cursor := by
  induction units with
  | nil => rfl
  | cons unit units ih =>
    have hunit : unit cursor = .done false cursor := hidle unit List.mem_cons_self
    rw [pass, Scan.bind_apply, hunit, Step.bind_done, Scan.bind_apply,
      ih fun other hother => hidle other (List.mem_cons_of_mem unit hother)]
    rfl

section

variable {whitespace : Whitespace} (hfixed : ∀ unit ∈ whitespace.units, unit.HasFixedStart)
  {cursor : Cursor}
include hfixed

theorem pass_skip_ends (cursor : Cursor) :
    (pass (whitespace.units.map SkipUnit.skip) cursor).Ends cursor.Skipped cursor.Stops :=
  pass_ends SkipBound.exact.chain
    (whitespace.units_end .exact fun unit hunit => (hfixed unit hunit).allRules _) cursor

theorem not_opens_of_pass
    (hpass : (pass (whitespace.units.map SkipUnit.skip) cursor).outcome = .ok false) :
    whitespace.opens cursor.rest = false := by
  have hends := whitespace.units_end .exact fun unit hunit => (hfixed unit hunit).allRules _
  rw [opens, List.any_eq_false]
  intro unit hunit hopens
  exact SkipUnit.outcome_skip_of_opens (hfixed unit hunit) hopens
    (pass_eq_false (fun unit hunit => .of_ends (hends unit hunit)) hpass unit.skip
      (List.mem_map_of_mem hunit))

theorem skip_of_not_opens (hopens : whitespace.opens cursor.rest = false) :
    whitespace.skip cursor = .done false cursor := by
  have hidle : pass (whitespace.units.map SkipUnit.skip) cursor = .done false cursor := by
    apply pass_of_idle
    intro unit hunit
    obtain ⟨original, horiginal, rfl⟩ := List.mem_map.1 hunit
    have hno : ¬ original.opens cursor.rest = true := List.any_eq_false.1 hopens original horiginal
    exact SkipUnit.skip_of_not_opens (hfixed original horiginal) (by simpa using hno)
  rw [skip, passes_of_not_true (by simp [hidle, Step.done]), hidle]

/-- Something is skipped exactly where a unit starts, and skipping stops where none does. -/
theorem skip_starts_and_stops (cursor : Cursor) :
    (whitespace.skip cursor).Ends
      (fun skipped after => cursor.Skipped skipped after ∧
        skipped = whitespace.opens cursor.rest ∧ whitespace.opens after.rest = false)
      cursor.Stops := by
  have hpass := pass_skip_ends hfixed
  refine (passes_ends SkipBound.exact.chain hpass cursor).and_of_ok fun skipped hskipped => ?_
  have hstops :=
    not_opens_of_pass hfixed (pass_after_passes (.of_ends hpass) cursor skipped hskipped)
  refine ⟨?_, hstops⟩
  cases hopens : whitespace.opens cursor.rest with
  | false =>
    have hidle : (whitespace.skip cursor).outcome = .ok false :=
      congrArg Step.outcome (skip_of_not_opens hfixed hopens)
    exact Except.ok.inj (hskipped.symm.trans hidle)
  | true =>
    cases skipped with
    | true => rfl
    | false =>
      -- Nothing was skipped, so the place where no unit starts is the one where a unit does.
      have hstays : (whitespace.skip cursor).cursor = cursor :=
        (passes_ends SkipBound.exact.chain hpass cursor).of_ok hskipped
      exact absurd (hopens.symm.trans (hstays ▸ hstops)) Bool.true_eq_false.mp

theorem read_starts_and_stops (cursor : Cursor) :
    (whitespace.read cursor).Ends
      (fun found after => cursor.Reads found after ∧
        found.isSome = whitespace.opens cursor.rest ∧ whitespace.opens after.rest = false)
      cursor.Stops := by
  rw [read, Scan.bind_apply, Scan.here_apply, Step.bind_done, Scan.bind_apply]
  apply (skip_starts_and_stops hfixed cursor).bind
  rintro skipped after ⟨hskipped, hstarts, hstops⟩
  cases skipped with
  | false => exact ⟨hskipped, hstarts, hstops⟩
  | true =>
    obtain ⟨taken, htaken, hpasses⟩ := hskipped
    rw [if_pos rfl, Scan.bind_apply, Scan.sliceFrom_of_passes hpasses]
    exact ⟨⟨taken, htaken, rfl, hpasses⟩, hstarts, hstops⟩

end

theorem fixed_sql (options : Sql.Options) :
    ∀ unit ∈ (Sql.whitespace options).units, unit.HasFixedStart := by
  intro unit hunit
  simp only [Sql.whitespace, List.mem_cons, List.not_mem_nil, or_false] at hunit
  rcases hunit with rfl | rfl | rfl
  · exact .blanks
  · exact .line _ (by decide)
  · exact .block _

end Whitespace

end Lexkit
