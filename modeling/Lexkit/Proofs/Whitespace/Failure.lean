import Lexkit.Proofs.Whitespace
import Mathlib.Logic.Relation

/-!
# Where skipping fails

Only a comment that is left open makes skipping fail, if there are no custom rules. The walk then
stands at the end of the text, or, where comments do not nest, at the start mark of a second
comment; and between the start mark of the open comment and there no mark starts. The passes come to
such a comment by skipping one unit after the other.
-/

namespace Lexkit

/-! ### Comments that are left open -/

namespace BlockComment

/-- No mark starts in `inside`, where `ahead` comes after it. -/
def Unmarked (comment : BlockComment) (inside ahead : Text) : Prop :=
  ∀ before rest, inside = before ++ rest → rest ≠ [] →
    ¬ comment.startMark <+: rest ++ ahead ∧ ¬ comment.endMark <+: rest ++ ahead

/-- A comment that starts at `opener` and is left open, as is found at `place`. -/
def LeftOpen (comment : BlockComment) (opener : Cursor) (error : ScanError) (place : Cursor) :
    Prop :=
  error = .missingEndComment comment.endMark place.position ∧
    ∃ inside, opener.Passes (comment.startMark ++ inside) place ∧
      (place.rest = [] ∨ comment.nesting = false ∧ comment.startMark <+: place.rest) ∧
      (comment.nesting = false → comment.Unmarked inside place.rest)

variable {comment : BlockComment} {cursor missing : Cursor}

theorem unmarked_nil (ahead : Text) : comment.Unmarked [] ahead := by
  rintro before rest hsplit hrest
  exact absurd (List.append_eq_nil_iff.1 hsplit.symm).2 hrest

theorem Unmarked.cons {ch : Char} {inside ahead : Text}
    (hstart : ¬ comment.startMark <+: ch :: (inside ++ ahead))
    (hend : ¬ comment.endMark <+: ch :: (inside ++ ahead))
    (hinside : comment.Unmarked inside ahead) :
    comment.Unmarked (ch :: inside) ahead := by
  intro before rest hsplit hrest
  cases before with
  | nil =>
    obtain rfl : ch :: inside = rest := hsplit
    exact ⟨hstart, hend⟩
  | cons first before => exact hinside before rest (List.cons.inj hsplit).2 hrest

theorem rest_of_closeNested {depth : Nat}
    (hclose : comment.closeNested depth cursor = .error missing) :
    missing.rest = [] := by
  fun_induction closeNested comment depth cursor with
  | case1 depth cursor hrest =>
    obtain rfl := Except.error.inj hclose
    exact hrest
  | case2 depth cursor hrest hstart ih => exact ih hclose
  | case3 depth cursor hrest hstart hend after hdepth => simp at hclose
  | case4 depth cursor hrest hstart hend after hdepth ih => exact ih hclose
  | case5 depth cursor hrest hstart hend ih => exact ih hclose

theorem passes_of_closeFlat (hclose : comment.closeFlat cursor = .error missing) :
    ∃ inside, cursor.Passes inside missing ∧ comment.Unmarked inside missing.rest ∧
      (missing.rest = [] ∨ comment.startMark <+: missing.rest) := by
  fun_induction closeFlat comment cursor with
  | case1 cursor hrest =>
    obtain rfl := Except.error.inj hclose
    exact ⟨[], .refl cursor, unmarked_nil _, .inl hrest⟩
  | case2 cursor hrest hstart =>
    obtain rfl := Except.error.inj hclose
    exact ⟨[], .refl cursor, unmarked_nil _, .inr (List.isPrefixOf_iff_prefix.1 hstart)⟩
  | case3 cursor hrest hstart hend => simp at hclose
  | case4 cursor hrest hstart hend ih =>
    obtain ⟨ch, others, hcons⟩ := List.exists_cons_of_ne_nil hrest
    obtain ⟨inside, hpasses, hinside, hplace⟩ := ih hclose
    have hwhole := (Cursor.passes_advance hcons).trans hpasses
    have hrests : cursor.rest = ch :: (inside ++ missing.rest) := hwhole.rest_eq
    refine ⟨ch :: inside, hwhole, .cons ?_ ?_ hinside, hplace⟩
    · rw [← hrests]
      exact fun hstarts => hstart (List.isPrefixOf_iff_prefix.2 hstarts)
    · rw [← hrests]
      exact fun hends => hend (List.isPrefixOf_iff_prefix.2 hends)

theorem read_leftOpen (comment : BlockComment) (cursor : Cursor) :
    (comment.read cursor).Ends cursor.Reads (comment.LeftOpen cursor) := by
  have hends := comment.read_ends cursor
  cases hstart : cursor.startsWith comment.startMark with
  | false =>
    rw [comment.read_of_not_startsWith hstart]
    exact rfl
  | true =>
    obtain ⟨taken, htaken, hpasses⟩ := comment.exists_passes_close hstart
    have hopened := comment.passes_opened hstart
    cases hclose : comment.close (comment.opened cursor) with
    | ok after =>
      rw [hclose] at hpasses
      rw [comment.read_of_closed hstart hclose hpasses]
      exact ⟨taken, htaken, rfl, hpasses⟩
    | error missing =>
      rw [comment.read_of_missing hstart hclose]
      refine ⟨rfl, ?_⟩
      rw [close_eq] at hclose
      -- A comment that nests can only miss its end at the end of the text.
      split at hclose
      · rename_i hnesting
        obtain ⟨inside, hinside⟩ := comment.closeNested_passes 1 (comment.opened cursor)
        rw [hclose] at hinside
        refine ⟨inside, hopened.trans hinside, .inl (rest_of_closeNested hclose), fun hflat => ?_⟩
        exact absurd (hnesting.symm.trans hflat) Bool.true_eq_false.mp
      · rename_i hflat
        obtain ⟨inside, hinside, hmarks, hplace⟩ := passes_of_closeFlat hclose
        have hflat : comment.nesting = false := Bool.eq_false_iff.2 hflat
        exact ⟨inside, hopened.trans hinside, hplace.imp_right fun hstarts => ⟨hflat, hstarts⟩,
          fun _ => hmarks⟩

end BlockComment

/-- A unit that is no custom rule fails only if it is a block comment that is left open. -/
theorem SkipUnit.skip_leftOpen {unit : SkipUnit} (hrules : unit.AllRules fun _ => False)
    (cursor : Cursor) :
    (unit.skip cursor).Ends cursor.Skipped fun error place =>
      ∃ comment, unit = .block comment ∧ comment.LeftOpen cursor error place := by
  cases unit with
  | blanks =>
    have hends : (blanks.skip cursor).Ends cursor.Skipped cursor.Stops := by
      apply skip_ends .exact
      trivial
    rw [skip_blanks] at hends ⊢
    exact hends
  | line comment =>
    exact ends_isMatch ((comment.read_ends cursor).mono (fun _ _ => Cursor.Reads.found)
      fun _ _ hbad => hbad)
  | block comment =>
    exact ends_isMatch ((comment.read_leftOpen cursor).mono (fun _ _ => Cursor.Reads.found)
      fun _ _ hopen => ⟨comment, rfl, hopen⟩)
  | custom rule => exact hrules.elim

/-! ### Passes that fail -/

namespace Whitespace

/-- Units of the list that skip something, one after the other, lead from the first cursor to the
second. -/
def Skips (units : List (Scan Bool)) : Cursor → Cursor → Prop :=
  Relation.ReflTransGen fun cursor after =>
    ∃ unit ∈ units, (unit cursor).outcome = .ok true ∧ (unit cursor).cursor = after

section

variable {units : List (Scan Bool)} {bad : Cursor → ScanError → Cursor → Prop}
  (hunits : ∀ unit ∈ units, ∀ cursor, (unit cursor).Ends cursor.Skipped (bad cursor))
include hunits

theorem Skips.exists_passes {cursor after : Cursor} (hskips : Skips units cursor after) :
    ∃ taken, cursor.Passes taken after := by
  induction hskips with
  | refl => exact ⟨[], .refl cursor⟩
  | tail _ hlast ih =>
    obtain ⟨unit, hunit, hyes, rfl⟩ := hlast
    obtain ⟨before, hbefore⟩ := ih
    obtain ⟨taken, -, htaken⟩ := (hunits unit hunit _).of_ok hyes
    exact ⟨before ++ taken, hbefore.trans htaken⟩

theorem skip_skips {unit : Scan Bool} (hunit : unit ∈ units) (cursor : Cursor) :
    (unit cursor).Ends
      (fun skipped after => cursor.Skipped skipped after ∧ Skips units cursor after)
      (fun error after => ∃ place, Skips units cursor place ∧ bad place error after) := by
  have hends := hunits unit hunit cursor
  have hskips : ∀ skipped, (unit cursor).outcome = .ok skipped →
      Skips units cursor (unit cursor).cursor := by
    intro skipped hskipped
    cases skipped with
    | false =>
      have hstays : (unit cursor).cursor = cursor := hends.of_ok hskipped
      rw [hstays]
      exact Relation.ReflTransGen.refl
    | true => exact Relation.ReflTransGen.single ⟨unit, hunit, hskipped, rfl⟩
  exact (hends.and_of_ok hskips).mono (fun _ _ hgood => hgood) fun _ _ hbad =>
    ⟨cursor, Relation.ReflTransGen.refl, hbad⟩

omit hunits in
theorem chain_skips :
    SkipChain (fun cursor skipped after => cursor.Skipped skipped after ∧ Skips units cursor after)
      fun cursor error after => ∃ place, Skips units cursor place ∧ bad place error after where
  refl cursor := ⟨rfl, Relation.ReflTransGen.refl⟩
  moves hgood := hgood.1.moves
  trans hfirst hsecond := ⟨hfirst.1.trans hsecond.1, hfirst.2.trans hsecond.2⟩
  bad_trans hgood hbad := by
    obtain ⟨place, hplace, hbad⟩ := hbad
    exact ⟨place, hgood.2.trans hplace, hbad⟩

theorem passes_skips (cursor : Cursor) :
    (passes units cursor).Ends
      (fun skipped after => cursor.Skipped skipped after ∧ Skips units cursor after)
      (fun error after => ∃ place, Skips units cursor place ∧ bad place error after) :=
  passes_ends chain_skips (pass_ends chain_skips fun _ => skip_skips hunits) cursor

end

/-- Whitespace without custom rules fails at a block comment that is left open, where nothing but
whitespace stands before it. -/
theorem read_leftOpen {whitespace : Whitespace} (hrules : whitespace.AllRules fun _ => False)
    (cursor : Cursor) :
    (whitespace.read cursor).Ends cursor.Reads fun error after =>
      ∃ place, Skips (whitespace.units.map SkipUnit.skip) cursor place ∧
        ∃ comment, .block comment ∈ whitespace.units ∧ comment.LeftOpen place error after := by
  have hunits : ∀ unit ∈ whitespace.units.map SkipUnit.skip, ∀ cursor : Cursor,
      (unit cursor).Ends cursor.Skipped fun error place =>
        ∃ comment, .block comment ∈ whitespace.units ∧ comment.LeftOpen cursor error place := by
    intro unit hunit cursor
    obtain ⟨original, horiginal, rfl⟩ := List.mem_map.1 hunit
    refine (SkipUnit.skip_leftOpen (hrules original horiginal) cursor).mono
      (fun _ _ hskipped => hskipped) ?_
    rintro error place ⟨comment, rfl, hopen⟩
    exact ⟨comment, horiginal, hopen⟩
  rw [read, Scan.bind_apply, Scan.here_apply, Step.bind_done, Scan.bind_apply]
  apply (passes_skips hunits cursor).bind
  rintro skipped after ⟨hskipped, -⟩
  cases skipped with
  | false => exact hskipped
  | true =>
    obtain ⟨taken, htaken, hpasses⟩ := hskipped
    rw [if_pos rfl, Scan.bind_apply, Scan.sliceFrom_of_passes hpasses]
    exact ⟨taken, htaken, rfl, hpasses⟩

end Whitespace

end Lexkit
