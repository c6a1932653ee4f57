import Lexkit.Proofs.Pattern
import Lexkit.Sql.Tokenizer

/-!
# Numbers

The program for numbers has eight instructions, and its threads take four forms: before the first
digit, after a digit, after the point, and after a digit of the fraction. Each form has a lemma that
gives the end of the run from there, the later ones first, and together they say that a number is
the digits ahead and, if digits follow a point, the fraction.
-/

namespace Lexkit.Sql

/-- The number at the start of a text: digits, and the point and the digits after it if there are
any. -/
def numeral (text : Text) : Text :=
  text.takeWhile Char.isDigit ++
    match text.dropWhile Char.isDigit with
    | '.' :: after =>
      if after.takeWhile Char.isDigit = [] then [] else '.' :: after.takeWhile Char.isDigit
    | _ => []

theorem numeral_cons_of_isDigit {ch : Char} (hdigit : ch.isDigit = true) (text : Text) :
    numeral (ch :: text) = ch :: numeral text := by
  rw [numeral, numeral, List.takeWhile_cons_of_pos hdigit, List.dropWhile_cons_of_pos hdigit,
    List.cons_append]

theorem numeral_point (text : Text) : numeral ('.' :: text) =
    if text.takeWhile Char.isDigit = [] then [] else '.' :: text.takeWhile Char.isDigit := rfl

theorem numeral_of_ne {ch : Char} (hdigit : ¬ ch.isDigit = true) (hpoint : ch ≠ '.')
    (text : Text) : numeral (ch :: text) = [] := by
  rw [numeral, List.takeWhile_cons_of_neg hdigit, List.dropWhile_cons_of_neg hdigit,
    List.nil_append]
  split
  · rename_i after hafter
    exact absurd (List.cons.inj hafter).1 hpoint
  · rfl

/-! ### What a number is -/

def IsDigits (text : Text) : Prop := text ≠ [] ∧ ∀ ch ∈ text, ch.isDigit = true

/-- Digits, or digits, a point and digits. -/
def IsNumber (text : Text) : Prop :=
  IsDigits text ∨ ∃ whole fraction, IsDigits whole ∧ IsDigits fraction ∧
    text = whole ++ '.' :: fraction

theorem isDigits_takeWhile {text : Text} (hdigits : text.takeWhile Char.isDigit ≠ []) :
    IsDigits (text.takeWhile Char.isDigit) :=
  ⟨hdigits, List.all_eq_true.1 List.all_takeWhile⟩

/-- Either there is no fraction, and none could be read after the digits, or there is one. -/
theorem numeral_cases (text : Text) :
    (numeral text = text.takeWhile Char.isDigit ∧
      ∀ after, text.dropWhile Char.isDigit = '.' :: after → after.takeWhile Char.isDigit = []) ∨
    ∃ after, text.dropWhile Char.isDigit = '.' :: after ∧ after.takeWhile Char.isDigit ≠ [] ∧
      numeral text = text.takeWhile Char.isDigit ++ '.' :: after.takeWhile Char.isDigit := by
  rw [numeral]
  split
  · rename_i after hafter
    by_cases hfraction : after.takeWhile Char.isDigit = []
    · left
      rw [if_pos hfraction, List.append_nil]
      refine ⟨rfl, fun other hother => ?_⟩
      obtain rfl : after = other := by simpa [hafter] using hother
      exact hfraction
    · right
      rw [if_neg hfraction]
      exact ⟨after, hafter, hfraction, rfl⟩
  · rename_i hpoint
    left
    rw [List.append_nil]
    exact ⟨rfl, fun after hafter => absurd hafter (hpoint after)⟩

theorem isNumber_numeral {text : Text} (hdigits : text.takeWhile Char.isDigit ≠ []) :
    IsNumber (numeral text) := by
  rcases numeral_cases text with ⟨hnumeral, -⟩ | ⟨after, -, hfraction, hnumeral⟩
  · rw [hnumeral]
    exact .inl (isDigits_takeWhile hdigits)
  · rw [hnumeral]
    exact .inr ⟨_, _, isDigits_takeWhile hdigits, isDigits_takeWhile hfraction, rfl⟩

theorem IsNumber.ne_nil {text : Text} (hnumber : IsNumber text) : text ≠ [] := by
  rcases hnumber with hdigits | ⟨whole, fraction, -, -, rfl⟩
  · exact hdigits.1
  · exact List.append_ne_nil_of_right_ne_nil whole (List.cons_ne_nil _ _)

/-- The number at the start of a text ends before a character that is no digit, and without a
fraction only where none could be read. -/
theorem exists_after_numeral (text : Text) :
    ∃ after, text = numeral text ++ after ∧ after.head?.any Char.isDigit = false ∧
      ('.' ∉ numeral text → ∀ further, after = '.' :: further →
        further.head?.any Char.isDigit = false) := by
  have hdigits : text = text.takeWhile Char.isDigit ++ text.dropWhile Char.isDigit :=
    List.takeWhile_append_dropWhile.symm
  rcases numeral_cases text with ⟨hnumeral, hno⟩ | ⟨after, hafter, -, hnumeral⟩
  · refine ⟨_, hnumeral ▸ hdigits, Text.any_head?_dropWhile _ text, ?_⟩
    exact fun _ further hfurther => Text.takeWhile_eq_nil.1 (hno further hfurther)
  · refine ⟨after.dropWhile Char.isDigit, ?_, Text.any_head?_dropWhile _ after, ?_⟩
    · rw [hnumeral, List.append_assoc, List.cons_append, List.takeWhile_append_dropWhile, ← hafter]
      exact hdigits
    · intro hpoint
      simp [hnumeral] at hpoint

/-! ### The program -/

theorem program_number : numberProgram =
    ⟨#[.test .textStart 2, .split 2 3, .take (.range '0' '9') 1, .split 4 7,
      .take (.range '.' '.') 6, .split 6 7, .take (.range '0' '9') 5, .accept], 0, true⟩ := rfl

theorem contains_digits (ch : Char) :
    (Pattern.CharSet.range '0' '9').contains ch = ch.isDigit := rfl

theorem contains_point (ch : Char) : (Pattern.CharSet.range '.' '.').contains ch = (ch == '.') := by
  rw [Bool.eq_iff_iff, Pattern.CharSet.contains, Bool.and_eq_true, decide_eq_true_eq,
    decide_eq_true_eq, beq_iff_eq]
  constructor
  · rintro ⟨hge, hle⟩
    exact Char.le_antisymm hle hge
  · rintro rfl
    exact ⟨Char.le_refl _, Char.le_refl _⟩

theorem threads_start (next : Option Char) : numberProgram.threadsAt none next [0] = [2] := rfl

variable (ch : Char) (next : Option Char)

theorem threads_digit : numberProgram.threadsAt (some ch) next [1] = [2, 4, 7] := by cbv

theorem threads_point : numberProgram.threadsAt (some ch) next [6] = [6] := rfl

theorem threads_fraction : numberProgram.threadsAt (some ch) next [5] = [6, 7] := by cbv

theorem stepOver_cons {address : Nat} {chars : Pattern.CharSet} {target : Nat}
    (hfetch : numberProgram.fetch address = some (.take chars target)) (threads : List Nat) :
    numberProgram.stepOver ch (address :: threads) =
      if chars.contains ch then target :: numberProgram.stepOver ch threads
      else numberProgram.stepOver ch threads := by
  rw [Pattern.Program.stepOver, List.filterMap_cons, hfetch]
  dsimp only
  by_cases hch : chars.contains ch = true
  · rw [if_pos hch, if_pos hch]
    rfl
  · rw [if_neg hch, if_neg hch]
    rfl

theorem fetch_digit : numberProgram.fetch 2 = some (.take (.range '0' '9') 1) := by
  rw [program_number]
  rfl

theorem fetch_point : numberProgram.fetch 4 = some (.take (.range '.' '.') 6) := by
  rw [program_number]
  rfl

theorem fetch_fraction : numberProgram.fetch 6 = some (.take (.range '0' '9') 5) := by
  rw [program_number]
  rfl

theorem stepOver_fraction :
    numberProgram.stepOver ch [6] = if ch.isDigit then [5] else [] := by
  rw [stepOver_cons ch fetch_fraction, contains_digits]
  rfl

theorem stepOver_digits :
    numberProgram.stepOver ch [2, 4] =
      if ch.isDigit then [1] else if ch = '.' then [6] else [] := by
  rw [stepOver_cons ch fetch_digit, stepOver_cons ch fetch_point, contains_digits, contains_point]
  by_cases hpoint : ch = '.'
  · subst hpoint
    rfl
  · rw [beq_eq_false_iff_ne.2 hpoint, if_neg hpoint]
    rfl

/-! ### Runs from each form -/

variable (found : Option Nat) (passed : Nat) (text : Text)

theorem run_fraction :
    numberProgram.run [6, 7] found passed text =
      some (passed + Text.size (text.takeWhile Char.isDigit)) := by
  induction text generalizing found passed with
  | nil => rfl
  | cons ch text ih =>
    have haccepts : [6, 7].any numberProgram.accepts = true := rfl
    have hothers : [6, 7].takeWhile (fun address => !numberProgram.accepts address) = [6] := rfl
    rw [Pattern.Program.run, if_pos haccepts, hothers, stepOver_fraction]
    by_cases hdigit : ch.isDigit = true
    · rw [if_pos hdigit, List.takeWhile_cons_of_pos hdigit, threads_fraction, ih, Text.size_cons,
        Nat.add_assoc]
      rfl
    · rw [if_neg hdigit, List.takeWhile_cons_of_neg hdigit]
      rfl

theorem run_point :
    numberProgram.run [6] found passed text =
      if text.takeWhile Char.isDigit = [] then found
      else some (passed + Text.size (text.takeWhile Char.isDigit)) := by
  cases text with
  | nil => rfl
  | cons ch text =>
    have haccepts : ¬ [6].any numberProgram.accepts = true := Bool.false_ne_true
    have hothers : [6].takeWhile (fun address => !numberProgram.accepts address) = [6] := rfl
    rw [Pattern.Program.run, if_neg haccepts, hothers, stepOver_fraction]
    by_cases hdigit : ch.isDigit = true
    · rw [if_pos hdigit, List.takeWhile_cons_of_pos hdigit, if_neg (List.cons_ne_nil _ _),
        threads_fraction, run_fraction, Text.size_cons, Nat.add_assoc]
      rfl
    · rw [if_neg hdigit, List.takeWhile_cons_of_neg hdigit, if_pos rfl]
      rfl

/-- From a digit the run goes to the end of the number. -/
theorem run_digits :
    numberProgram.run [2, 4, 7] found passed text = some (passed + Text.size (numeral text)) := by
  induction text generalizing found passed with
  | nil => rfl
  | cons ch text ih =>
    have haccepts : [2, 4, 7].any numberProgram.accepts = true := rfl
    have hothers : [2, 4, 7].takeWhile (fun address => !numberProgram.accepts address) =
        [2, 4] := rfl
    rw [Pattern.Program.run, if_pos haccepts, hothers, stepOver_digits]
    by_cases hdigit : ch.isDigit = true
    · rw [if_pos hdigit, threads_digit, ih, numeral_cons_of_isDigit hdigit, Text.size_cons,
        Nat.add_assoc]
      rfl
    · rw [if_neg hdigit]
      by_cases hpoint : ch = '.'
      · subst hpoint
        rw [if_pos rfl, threads_point, run_point, numeral_point]
        by_cases hafter : text.takeWhile Char.isDigit = []
        · rw [if_pos hafter, if_pos hafter]
          rfl
        · rw [if_neg hafter, if_neg hafter, Text.size_cons, Nat.add_assoc]
          rfl
      · rw [if_neg hpoint, numeral_of_ne hdigit hpoint]
        rfl

theorem run_start :
    numberProgram.run [2] none passed text =
      if text.takeWhile Char.isDigit = [] then none
      else some (passed + Text.size (numeral text)) := by
  cases text with
  | nil => rfl
  | cons ch text =>
    have haccepts : ¬ [2].any numberProgram.accepts = true := Bool.false_ne_true
    have hothers : [2].takeWhile (fun address => !numberProgram.accepts address) = [2] := rfl
    have hstep : numberProgram.stepOver ch [2] = if ch.isDigit then [1] else [] := by
      rw [stepOver_cons ch fetch_digit, contains_digits]
      rfl
    rw [Pattern.Program.run, if_neg haccepts, hothers, hstep]
    by_cases hdigit : ch.isDigit = true
    · rw [if_pos hdigit, List.takeWhile_cons_of_pos hdigit, if_neg (List.cons_ne_nil _ _),
        threads_digit, run_digits, numeral_cons_of_isDigit hdigit, Text.size_cons, Nat.add_assoc]
      rfl
    · rw [if_neg hdigit, List.takeWhile_cons_of_neg hdigit, if_pos rfl]
      rfl

/-- The pattern of numbers matches the number at the start of a text that starts with a digit. -/
theorem matchSize_number :
    number.matchSize text =
      if text.takeWhile Char.isDigit = [] then none else some (Text.size (numeral text)) := by
  have hsearch : numberProgram.search text = numberProgram.run [2] none 0 text := by
    have hanchored : numberProgram.anchored = true := rfl
    rw [Pattern.Program.search, if_pos hanchored, Pattern.Program.matchAt]
    exact congrArg (numberProgram.run · none 0 text) (threads_start text.head?)
  have hmatcher : number.matcher.search text = numberProgram.search text := rfl
  rw [Pattern.matchSize, hmatcher, hsearch, run_start]
  by_cases hdigits : text.takeWhile Char.isDigit = []
  · rw [if_pos hdigits, if_pos hdigits]
    rfl
  · have hne : numeral text ≠ [] := List.append_ne_nil_of_left_ne_nil hdigits _
    have hsize : Text.size (numeral text) ≠ 0 := fun hzero => hne (Text.size_eq_zero.1 hzero)
    rw [if_neg hdigits, if_neg hdigits, Nat.zero_add, Option.filter_some]
    exact if_pos (by simpa using Nat.pos_of_ne_zero hsize)

end Lexkit.Sql
