import Lexkit.Proofs.Counterpart
import Lexkit.Proofs.Scanner

/-!
# Scanners see only what is ahead

Neither the text behind a cursor nor its offset, line and column make a difference to a scanner:
each leaf of a tree reads the text ahead, and asks offsets only for distances. So a tree does at a
cursor what it does at a fresh cursor over the text ahead, if the predicates that start its line
comments and its custom rules do. The loops are followed at two counterparts at once, and the
equations of the leaves do the rest.
-/

namespace Lexkit

/-! ### Comments -/

namespace CommentStart

/-- Whether a comment starts is told by the text ahead. -/
def SeesAhead : CommentStart → Prop
  | predicate holds => ∀ cursor, holds cursor = holds (.ofText cursor.rest)
  | _ => True

theorem SeesAhead.isAt_eq {start : CommentStart} (hstart : start.SeesAhead) {fresh moved : Cursor}
    (hrest : moved.rest = fresh.rest) : start.isAt moved = start.isAt fresh := by
  cases start with
  | char ch => rw [isAt, isAt, Cursor.peek, Cursor.peek, hrest]
  | mark text => rw [isAt, isAt, Cursor.startsWith, Cursor.startsWith, hrest]
  | predicate holds => rw [isAt, isAt, hstart moved, hstart fresh, hrest]

theorem seesAhead_word (text : Text) : (word text).SeesAhead := fun _ => rfl

end CommentStart

theorem LineComment.read_tracks {comment : LineComment} (hstart : comment.start.SeesAhead) :
    comment.read.Tracks Slice.Counterparts := by
  intro origin fresh moved hcursor
  have hmoved := passes_after moved
  rw [hcursor.rest_eq] at hmoved
  rw [read_eq, read_eq, hstart.isAt_eq hcursor.rest_eq, hcursor.rest_eq]
  split
  · exact .ok hcursor .none
  · exact .ok (hcursor.passes (passes_after fresh) hmoved)
      (.some (Slice.counterpart_here hcursor _))

/-- Two loops stop alike, at cursors that are counterparts. -/
inductive Cursor.CounterpartStops (origin : Cursor) :
    Except Cursor Cursor → Except Cursor Cursor → Prop
  | ok {fresh moved : Cursor} (hcursor : origin.Counterpart fresh moved) :
    CounterpartStops origin (.ok fresh) (.ok moved)
  | error {fresh moved : Cursor} (hcursor : origin.Counterpart fresh moved) :
    CounterpartStops origin (.error fresh) (.error moved)

namespace BlockComment

variable (comment : BlockComment) {origin fresh moved : Cursor}

theorem closeNested_counterpart (depth : Nat) (hcursor : origin.Counterpart fresh moved) :
    origin.CounterpartStops (comment.closeNested depth fresh)
      (comment.closeNested depth moved) := by
  fun_induction closeNested comment depth fresh generalizing moved with
  | case1 depth fresh hrest =>
    rw [closeNested, if_pos (hcursor.rest_eq.trans hrest)]
    exact .error hcursor
  | case2 depth fresh hrest hstart ih =>
    have hmoved : comment.closeNested depth moved =
        comment.closeNested (depth + 1) (moved.skip comment.startMark.length) := by
      rw [closeNested, hcursor.rest_eq, if_neg hrest, hcursor.startsWith_eq, if_pos hstart]
    rw [hmoved]
    exact ih (hcursor.skip _)
  | case3 depth fresh hrest hstart hend =>
    rename_i hdepth
    rw [closeNested, hcursor.rest_eq, if_neg hrest, hcursor.startsWith_eq, if_neg hstart,
      hcursor.startsWith_eq, if_pos hend]
    dsimp only
    rw [if_pos hdepth]
    exact .ok (hcursor.skip _)
  | case4 depth fresh hrest hstart hend =>
    rename_i hdepth ih
    have hmoved : comment.closeNested depth moved =
        comment.closeNested (depth - 1) (moved.skip comment.endMark.length) := by
      rw [closeNested, hcursor.rest_eq, if_neg hrest, hcursor.startsWith_eq, if_neg hstart,
        hcursor.startsWith_eq, if_pos hend]
      dsimp only
      rw [if_neg hdepth]
    rw [hmoved]
    exact ih (hcursor.skip _)
  | case5 depth fresh hrest hstart hend ih =>
    have hmoved : comment.closeNested depth moved = comment.closeNested depth moved.advance := by
      rw [closeNested, hcursor.rest_eq, if_neg hrest, hcursor.startsWith_eq, if_neg hstart,
        hcursor.startsWith_eq, if_neg hend]
    rw [hmoved]
    exact ih hcursor.advance

theorem closeFlat_counterpart (hcursor : origin.Counterpart fresh moved) :
    origin.CounterpartStops (comment.closeFlat fresh) (comment.closeFlat moved) := by
  fun_induction closeFlat comment fresh generalizing moved with
  | case1 fresh hrest =>
    rw [closeFlat, if_pos (hcursor.rest_eq.trans hrest)]
    exact .error hcursor
  | case2 fresh hrest hstart =>
    rw [closeFlat, hcursor.rest_eq, if_neg hrest, hcursor.startsWith_eq, if_pos hstart]
    exact .error hcursor
  | case3 fresh hrest hstart hend =>
    rw [closeFlat, hcursor.rest_eq, if_neg hrest, hcursor.startsWith_eq, if_neg hstart,
      hcursor.startsWith_eq, if_pos hend]
    exact .ok (hcursor.skip _)
  | case4 fresh hrest hstart hend ih =>
    have hmoved : comment.closeFlat moved = comment.closeFlat moved.advance := by
      rw [closeFlat, hcursor.rest_eq, if_neg hrest, hcursor.startsWith_eq, if_neg hstart,
        hcursor.startsWith_eq, if_neg hend]
    rw [hmoved]
    exact ih hcursor.advance

theorem close_counterpart (hcursor : origin.Counterpart fresh moved) :
    origin.CounterpartStops (comment.close fresh) (comment.close moved) := by
  rw [close_eq, close_eq]
  split
  · exact comment.closeNested_counterpart 1 hcursor
  · exact comment.closeFlat_counterpart hcursor

theorem read_tracks : comment.read.Tracks Slice.Counterparts := by
  intro origin fresh moved hcursor
  have hstarts := hcursor.startsWith_eq comment.startMark
  cases hstart : fresh.startsWith comment.startMark with
  | false =>
    rw [comment.read_of_not_startsWith hstart,
      comment.read_of_not_startsWith (hstarts.trans hstart)]
    exact .ok hcursor .none
  | true =>
    have hstop := comment.close_counterpart (hcursor.skip comment.startMark.length)
    obtain ⟨taken, -, hpasses⟩ := comment.exists_passes_close hstart
    change fresh.Passes taken (place (comment.close (fresh.skip _))) at hpasses
    generalize hfresh : comment.close (fresh.skip _) = left at hstop hpasses
    generalize hmoved : comment.close (moved.skip _) = right at hstop
    cases hstop with
    | ok hafter =>
      rw [comment.read_of_closed hstart hfresh hpasses,
        comment.read_of_closed (hstarts.trans hstart) hmoved (hcursor.passes_of hafter hpasses)]
      exact .ok hafter (.some (Slice.counterpart_here hcursor taken))
    | error hafter =>
      rw [comment.read_of_missing hstart hfresh,
        comment.read_of_missing (hstarts.trans hstart) hmoved, hafter.position_eq]
      exact .malformed hafter hafter.fromOne

end BlockComment

/-! ### Quoted identifiers -/

namespace QuotedIdentifier

variable {origin fresh moved : Cursor}

theorem close_counterpart (stop : Char) (hcursor : origin.Counterpart fresh moved) :
    origin.CounterpartStops (close stop fresh) (close stop moved) := by
  fun_induction close stop fresh generalizing moved with
  | case1 fresh hrest =>
    rw [close_of_nil (hcursor.rest_eq.trans hrest)]
    exact .error hcursor
  | case2 fresh others hnext hrest ih =>
    rw [close_of_pair (hcursor.rest_eq.trans hrest) (hcursor.peekNth_eq 1 ▸ hnext)]
    exact ih (hcursor.skip 2)
  | case3 fresh others hnext hrest =>
    rw [close_of_stop (hcursor.rest_eq.trans hrest) (hcursor.peekNth_eq 1 ▸ hnext)]
    exact .ok hcursor.advance
  | case4 fresh ch others hrest hch ih =>
    rw [close_of_ne (hcursor.rest_eq.trans hrest) hch]
    exact ih hcursor.advance

theorem unquoted_counterpart (hcursor : origin.Counterpart fresh moved) (first stop : Char)
    (inner : Text) :
    Slice.Counterpart origin (unquoted fresh first stop inner)
      (unquoted moved first stop inner) := by
  rw [unquoted, unquoted, Slice.unescape, Slice.unescape]
  split
  · rw [hcursor.fresh_buffer_eq, hcursor.buffer_eq]
    exact .own _
  · exact Slice.counterpart_add hcursor _ _

theorem scan_tracks (quoted : QuotedIdentifier) : quoted.scan.Tracks Slice.Counterparts := by
  intro origin fresh moved hcursor
  have hopens : quoted.opening moved = quoted.opening fresh := by
    rw [opening, opening, hcursor.peek_eq]
  rcases quoted.opening_cases fresh with
    hopening | ⟨first, stop, hopening,
      ⟨atEnd, hclose, -⟩ | ⟨after, inner, hclose, hpasses, -⟩⟩
  · rw [scan_of_unopened hopening, scan_of_unopened (hopens.trans hopening)]
    exact .ok hcursor .none
  · have hstop := close_counterpart stop hcursor.advance
    rw [hclose] at hstop
    generalize hmoved : close stop moved.advance = right at hstop
    cases hstop with
    | error hafter =>
      rw [scan_of_unclosed hopening hclose, scan_of_unclosed (hopens.trans hopening) hmoved,
        hafter.position_eq]
      exact .malformed hafter hafter.fromOne
  · have hstop := close_counterpart stop hcursor.advance
    rw [hclose] at hstop
    generalize hmoved : close stop moved.advance = right at hstop
    cases hstop with
    | ok hafter =>
      rw [scan_of_closed hopening hclose hpasses,
        scan_of_closed (hopens.trans hopening) hmoved (hcursor.passes_of hafter hpasses)]
      split
      · rw [hafter.position_eq]
        exact .malformed hafter hafter.fromOne
      · exact .ok hafter (.some (unquoted_counterpart hcursor first stop inner))

end QuotedIdentifier

/-! ### Identifiers and patterns -/

theorem Identifier.scan_tracks (identifier : Identifier) :
    identifier.scan.Tracks Slice.Counterparts := by
  intro origin fresh moved hcursor
  cases hrest : fresh.rest with
  | nil =>
    rw [identifier.scan_of_nil hrest, identifier.scan_of_nil (hcursor.rest_eq.trans hrest)]
    exact .ok hcursor .none
  | cons ch rest =>
    have hcons := hcursor.rest_eq.trans hrest
    cases hstart : identifier.isStart ch with
    | false =>
      rw [identifier.scan_of_not_isStart hrest hstart, identifier.scan_of_not_isStart hcons hstart]
      exact .ok hcursor .none
    | true =>
      rw [identifier.scan_of_isStart hrest hstart, identifier.scan_of_isStart hcons hstart]
      exact .ok
        (hcursor.passes (identifier.passes_after hrest) (identifier.passes_after hcons))
        (.some (Slice.counterpart_here hcursor _))

theorem Pattern.scan_tracks (pattern : Pattern) : pattern.scan.Tracks Slice.Counterparts := by
  intro origin fresh moved hcursor
  have hsize : pattern.matchSize moved.rest = pattern.matchSize fresh.rest :=
    congrArg pattern.matchSize hcursor.rest_eq
  rcases pattern.match_cases fresh with hmatch | ⟨taken, after, -, hmatch, hpasses⟩
  · rw [pattern.scan_of_unmatched hmatch, pattern.scan_of_unmatched (hsize.trans hmatch)]
    exact .ok hcursor .none
  · have hmoved := moved.passes_pass taken after.rest (hcursor.rest_eq.trans hpasses.rest_eq)
    rw [pattern.scan_of_matched hmatch hpasses,
      pattern.scan_of_matched (hsize.trans hmatch) hmoved]
    exact .ok (hcursor.passes hpasses hmoved) (.some (Slice.counterpart_here hcursor taken))

/-! ### Whitespace -/

namespace SkipRule

/-- The rule does at every cursor what it does at a fresh cursor over the text ahead. -/
def SeesAhead (rule : SkipRule) : Prop := rule.scan.SeesAhead fun _ => Eq

theorem seesAhead_run (p : Char → Bool) : (run p).SeesAhead := fun cursor =>
  .ok (cursor.counterpart_self.skipWhile p) rfl

end SkipRule

namespace SkipUnit

/-- What the user has put into the unit sees only what is ahead. -/
def SeesAhead : SkipUnit → Prop
  | line comment => comment.start.SeesAhead
  | custom rule => rule.SeesAhead
  | _ => True

theorem isMatch_tracks {scan : Scan (Option Slice)} (hscan : scan.Tracks Slice.Counterparts) :
    scan.isMatch.Tracks fun _ => Eq := by
  intro origin fresh moved hcursor
  rw [Scan.isMatch, Scan.bind_apply, Scan.bind_apply]
  refine (hscan hcursor).bind fun hfound hafter => .ok hafter ?_
  cases hfound <;> rfl

theorem skip_tracks {unit : SkipUnit} (hunit : unit.SeesAhead) : unit.skip.Tracks fun _ => Eq := by
  cases unit with
  | blanks =>
    intro origin fresh moved hcursor
    rw [skip_blanks, skip_blanks, hcursor.rest_eq]
    exact .ok (hcursor.skipWhile _) rfl
  | line comment => exact isMatch_tracks (LineComment.read_tracks hunit)
  | block comment => exact isMatch_tracks comment.read_tracks
  | custom rule => exact Scan.SeesAhead.tracks hunit

end SkipUnit

namespace Whitespace

def SeesAhead (whitespace : Whitespace) : Prop := ∀ unit ∈ whitespace.units, unit.SeesAhead

variable {units : List (Scan Bool)}

theorem pass_tracks (hunits : ∀ unit ∈ units, unit.Tracks fun _ => Eq) :
    (pass units).Tracks fun _ => Eq := by
  induction units with
  | nil =>
    intro origin fresh moved hcursor
    exact .ok hcursor rfl
  | cons unit units ih =>
    intro origin fresh moved hcursor
    have hothers := ih fun other hother => hunits other (List.mem_cons_of_mem unit hother)
    rw [pass, Scan.bind_apply, Scan.bind_apply]
    refine (hunits unit List.mem_cons_self hcursor).bind ?_
    rintro first first' middle middle' rfl hmiddle
    refine (hothers hmiddle).bind ?_
    rintro second second' after after' rfl hafter
    exact .ok hafter rfl

variable {whitespace : Whitespace} (hwhitespace : whitespace.SeesAhead)
include hwhitespace

theorem skip_tracks : whitespace.skip.Tracks fun _ => Eq := by
  apply Scan.Tracks.untilNo
  apply pass_tracks
  intro unit hunit
  obtain ⟨original, horiginal, rfl⟩ := List.mem_map.1 hunit
  exact SkipUnit.skip_tracks (hwhitespace original horiginal)

theorem read_tracks : whitespace.read.Tracks Slice.Counterparts := by
  intro origin fresh moved hcursor
  rw [read, Scan.bind_apply, Scan.bind_apply, Scan.here_apply, Scan.here_apply, Step.bind_done,
    Step.bind_done, Scan.bind_apply, Scan.bind_apply]
  refine (skip_tracks hwhitespace hcursor).bind ?_
  rintro skipped skipped' after other rfl hafter
  cases skipped with
  | false => exact .ok hafter .none
  | true =>
    refine (Scan.sliceFrom_tracks hcursor hafter).bind fun hslice hplace => ?_
    exact .ok hplace (.some hslice)

end Whitespace

/-! ### Trees -/

namespace Scanner

/-- The predicates and the custom rules in the tree see only what is ahead. -/
def PartsSeeAhead : Scanner → Prop
  | whitespace skipper => skipper.SeesAhead
  | line comment => comment.start.SeesAhead
  | skipThen skipper inner => skipper.SeesAhead ∧ inner.PartsSeeAhead
  | traced _ inner => inner.PartsSeeAhead
  | block _ | quoted _ | identifier _ | pattern _ => True

theorem scanTraced_tracks (name : Text) {scan : Scan (Option Slice)}
    (hscan : scan.Tracks Slice.Counterparts) :
    (scanTraced name scan).Tracks Slice.Counterparts := by
  intro origin fresh moved hcursor
  have hstep := hscan hcursor
  rw [scanTraced, scanTraced]
  generalize scan fresh = left at hstep ⊢
  generalize scan moved = right at hstep ⊢
  cases hstep with
  | ok hafter hfound =>
    cases hfound with
    | none => exact .ok hcursor .none
    | some hslice => exact .ok hafter (.some hslice)
  | malformed hafter hone => exact .malformed hafter hone
  | fault hafter => exact .fault hafter

theorem scan_tracks {scanner : Scanner} (hparts : scanner.PartsSeeAhead) :
    scanner.scan.Tracks Slice.Counterparts := by
  induction scanner with
  | whitespace skipper => exact Whitespace.read_tracks hparts
  | line comment => exact LineComment.read_tracks hparts
  | block comment => exact comment.read_tracks
  | quoted quotes => exact quotes.scan_tracks
  | identifier chars => exact chars.scan_tracks
  | pattern expr => exact expr.scan_tracks
  | skipThen skipper inner ih =>
    apply Scan.Tracks.orReturn
    intro origin fresh moved hcursor
    exact (Whitespace.skip_tracks hparts.1 hcursor).bind fun _ hafter => ih hparts.2 hafter
  | traced name inner ih => exact scanTraced_tracks name (ih hparts)

theorem run_tracks {scanner : Scanner} (hparts : scanner.PartsSeeAhead) (strategy : Strategy) :
    (scanner.run strategy).Tracks Slice.Counterparts := by
  intro origin fresh moved hcursor
  cases strategy with
  | interpreted => exact scan_tracks hparts hcursor
  | compiled =>
    rw [run, run_compile, run_compile]
    exact (scan_tracks hparts hcursor).quiet

/-- A scan in the middle of a text, at whatever line and column, ends as a scan of a fresh cursor
over the rest of the text: the cursor and the position of an error are counted on from there, and a
slice of the text is shifted by what stands before. -/
theorem run_sees_only_ahead {scanner : Scanner} (hparts : scanner.PartsSeeAhead)
    (strategy : Strategy) (before : Text) (cursor : Cursor)
    (hbefore : cursor.buffer.text = before ++ cursor.rest) :
    cursor.position.offset = Text.size before ∧
      (scanner.run strategy (.ofText cursor.rest)).Counterpart cursor (Slice.Counterparts cursor)
        (scanner.run strategy cursor) := by
  have hsize := cursor.offset_add_size
  rw [hbefore, Text.size_append] at hsize
  exact ⟨by omega, (run_tracks hparts strategy).seesAhead cursor⟩

/-- Underscores and a remark are skipped before a name in brackets, from the middle of the fourth
line on. -/
theorem run_sees_only_ahead_in_line :
    ((skipThen ⟨[.custom (.run (· == '_')), .line ⟨.word ['r', 'e', 'm']⟩]⟩ (quoted .sql)).run
      .compiled
      ⟨.ofText 0 ['a', '_', 'R', 'e', 'm', '\n', '[', 'b', ']'],
        ['_', 'R', 'e', 'm', '\n', '[', 'b', ']'], ⟨1, 4, 9⟩, by decide,
        by decide⟩).cursor.position = ⟨9, 5, 4⟩ := by
  have hparts : (skipThen ⟨[.custom (.run (· == '_')), .line ⟨.word ['r', 'e', 'm']⟩]⟩
      (quoted .sql)).PartsSeeAhead := by
    refine ⟨?_, trivial⟩
    intro unit hunit
    simp only [List.mem_cons, List.not_mem_nil, or_false] at hunit
    rcases hunit with rfl | rfl
    · exact SkipRule.seesAhead_run _
    · exact CommentStart.seesAhead_word _
  rw [(run_sees_only_ahead hparts .compiled ['a'] _ rfl).2.cursor.position_eq]
  decide +kernel

end Scanner

end Lexkit
