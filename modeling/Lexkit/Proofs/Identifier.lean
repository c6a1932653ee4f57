import Lexkit.Identifier
import Lexkit.Proofs.ExpectedChars
import Lexkit.Proofs.Scan

/-!
# Identifiers

The walk takes the first character and the longest run of part characters after it. The byte search
asks a table for the characters of one byte and the predicate itself for all others; since the table
is made from the predicate, the two answers come from one source, and the search stops where the run
does.
-/

namespace Lexkit.Identifier

variable {cursor : Cursor} {ch : Char} {rest : Text}

/-! ### Walking the cursor -/

variable (identifier : Identifier)

/-- The cursor after the identifier that starts at a cursor. -/
def after (cursor : Cursor) : Cursor := cursor.advance.skipWhile identifier.isPart

def name (ch : Char) (rest : Text) : Text := ch :: rest.takeWhile identifier.isPart

theorem passes_after (hrest : cursor.rest = ch :: rest) :
    cursor.Passes (identifier.name ch rest) (identifier.after cursor) := by
  have hrun := cursor.advance.passes_skipWhile identifier.isPart
  rw [Cursor.rest_advance_of_cons hrest] at hrun
  exact (Cursor.passes_advance hrest).trans hrun

theorem scan_of_nil (hrest : cursor.rest = []) : identifier.scan cursor = .done none cursor := by
  rw [scan, Scan.bind_apply, Scan.here_apply, Step.bind_done, Cursor.peek, hrest]
  rfl

theorem scan_of_not_isStart (hrest : cursor.rest = ch :: rest)
    (hstart : identifier.isStart ch = false) :
    identifier.scan cursor = .done none cursor := by
  rw [scan, Scan.bind_apply, Scan.here_apply, Step.bind_done, Cursor.peek, hrest, List.head?_cons]
  dsimp only
  rw [hstart]
  rfl

theorem scan_of_isStart (hrest : cursor.rest = ch :: rest) (hstart : identifier.isStart ch = true) :
    identifier.scan cursor =
      (Step.done (some ⟨cursor.buffer, cursor.offset, identifier.name ch rest⟩)
        (identifier.after cursor)).after
        [.identifier cursor.offset (Text.size (identifier.name ch rest))] := by
  have hslice := Scan.sliceFrom_of_passes (identifier.passes_after hrest)
  rw [scan, Scan.bind_apply, Scan.here_apply, Step.bind_done, Cursor.peek, hrest, List.head?_cons]
  dsimp only
  rw [hstart]
  simp only [Bool.not_true, Bool.false_eq_true, if_false, Scan.bind_apply, Step.bind_done,
    Scan.goTo_apply]
  change (Scan.sliceFrom cursor.offset (identifier.after cursor)).bind _ = _
  rw [hslice]
  rfl

theorem scan_ends {bad : ScanError → Cursor → Prop} (cursor : Cursor) :
    (identifier.scan cursor).Ends cursor.Reads bad := by
  cases hrest : cursor.rest with
  | nil =>
    rw [identifier.scan_of_nil hrest]
    exact rfl
  | cons ch rest =>
    cases hstart : identifier.isStart ch with
    | false =>
      rw [identifier.scan_of_not_isStart hrest hstart]
      exact rfl
    | true =>
      rw [identifier.scan_of_isStart hrest hstart]
      exact ⟨identifier.name ch rest, List.cons_ne_nil _ _, rfl, identifier.passes_after hrest⟩

/-! ### The byte search -/

theorem accepts_ofPredicate (p : Char → Bool) (hrest : cursor.rest = ch :: rest) :
    accepts cursor.buffer.text cursor.buffer.bytes (.ofPredicate p) p cursor.offset =
      .ok (if p ch then some ch.utf8Size else none) := by
  rw [accepts, Cursor.byteAt_offset hrest]
  simp only [bind, Except.bind, pure, Except.pure]
  by_cases hascii : ch.toNat < 0x80
  · have hprobed : ch.toNat < ExpectedChars.probed := Nat.lt_trans hascii (by decide)
    rw [if_pos ((Utf8.isAscii_lead ch).2 hascii), ExpectedChars.containsByte_lead _ hascii,
      ExpectedChars.contains_ofPredicate, decide_eq_true hprobed, Bool.true_and,
      Utf8.utf8Size_eq_one hascii]
  · rw [if_neg fun hlead => hascii ((Utf8.isAscii_lead ch).1 hlead), cursor.dropTo_text]
    dsimp only
    rw [hrest, List.head?_cons, Option.filter_some]
    split <;> rfl

theorem runFrom_ofPredicate (p : Char → Bool) (cursor : Cursor) :
    runFrom cursor.buffer.text cursor.buffer.bytes (.ofPredicate p) p cursor.offset =
      .ok (cursor.skipWhile p).offset := by
  induction hlength : cursor.rest.length generalizing cursor with
  | zero =>
    have hrest : cursor.rest = [] := List.length_eq_zero_iff.1 hlength
    have hend : ¬ cursor.offset < cursor.buffer.bytes.length := fun hmore =>
      Cursor.offset_lt_length_bytes.1 hmore hrest
    rw [runFrom, if_neg hend, Cursor.skipWhile_eq_self (by rw [hrest]; rfl)]
  | succ n ih =>
    obtain ⟨ch, rest, hrest⟩ := List.exists_cons_of_length_eq_add_one hlength
    have hmore : cursor.offset < cursor.buffer.bytes.length :=
      Cursor.offset_lt_length_bytes.2 (by rw [hrest]; exact List.cons_ne_nil _ _)
    rw [runFrom, if_pos hmore, accepts_ofPredicate p hrest]
    cases hch : p ch with
    | false =>
      have htaken : cursor.rest.takeWhile p = [] := by
        rw [hrest, List.takeWhile_cons_of_neg (by simp [hch])]
      rw [Cursor.skipWhile_eq_self htaken]
      rfl
    | true =>
      have hstep := Cursor.passes_advance hrest
      have hlength' : cursor.advance.rest.length = n := by
        rw [Cursor.rest_advance, List.length_tail, hlength]
        omega
      have hothers := ih cursor.advance hlength'
      rw [hstep.buffer_eq, Cursor.offset_advance_of_cons hrest,
        Cursor.skipWhile_advance hrest hch] at hothers
      exact hothers

theorem run_compile (cursor : Cursor) :
    identifier.compile.run cursor = (identifier.scan cursor).quiet := by
  simp only [compile, Scan.bind_apply, Scan.here_apply, Step.bind_done,
    Cursor.length_bytes_le_offset]
  cases hrest : cursor.rest with
  | nil =>
    rw [if_pos rfl, identifier.scan_of_nil hrest]
    rfl
  | cons ch rest =>
    rw [if_neg (List.cons_ne_nil _ _)]
    simp only [Scan.bind_apply, expected, accepts_ofPredicate identifier.isStart hrest,
      Scan.attempt_ok, Step.bind_done]
    cases hstart : identifier.isStart ch with
    | false =>
      rw [identifier.scan_of_not_isStart hrest hstart]
      rfl
    | true =>
      have hstep := Cursor.passes_advance hrest
      have hrun := runFrom_ofPredicate identifier.isPart cursor.advance
      have hcommit := Scan.commit_of_passes (identifier.passes_after hrest)
      rw [hstep.buffer_eq, Cursor.offset_advance_of_cons hrest] at hrun
      rw [identifier.scan_of_isStart hrest hstart, Step.quiet_after_trace _ rfl, if_pos rfl]
      simp only [Scan.bind_apply, hrun, Scan.attempt_ok, Step.bind_done]
      exact congrArg (fun step => step.bind fun slice => pure (some slice)) hcommit

end Lexkit.Identifier
