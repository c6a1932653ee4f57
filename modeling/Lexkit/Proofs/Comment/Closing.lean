import Lexkit.Proofs.Comment.Nesting

/-!
# Which mark decides a comment

A comment that does not nest is decided by the first mark after the one that opens it. If that is an
end mark, and no start mark stands at the same place, the comment ends with it; if not, the comment
is found open right there. Marks may overlap, so the first mark is a place at which some mark
starts, and the start mark is asked for first. Hence a start mark that the end mark begins with
hides every end mark, whether comments nest or not: such a comment never ends, and these are the
only ones.
-/

namespace Lexkit.BlockComment

/-- A mark starts the text. -/
def Marked (comment : BlockComment) (text : Text) : Prop :=
  comment.startMark <+: text ∨ comment.endMark <+: text

/-- Of the places in a text at which a mark starts, the one behind `inside` has the least offset. -/
structure FirstMark (comment : BlockComment) (text inside ahead : Text) : Prop where
  text_eq : text = inside ++ ahead
  marked : comment.Marked ahead
  least : ∀ before rest, text = before ++ rest → comment.Marked rest →
    Text.size inside ≤ Text.size before

variable {comment : BlockComment} {cursor after missing : Cursor} {text inside ahead : Text}

/-! ### The first mark -/

theorem firstMark_of_unmarked (hinside : comment.Unmarked inside ahead)
    (hahead : comment.Marked ahead) : comment.FirstMark (inside ++ ahead) inside ahead where
  text_eq := rfl
  marked := hahead
  least before rest htext hmarked := by
    rcases List.append_eq_append_iff.1 htext with ⟨further, rfl, -⟩ | ⟨further, rfl, rfl⟩
    · rw [Text.size_append]
      exact Nat.le_add_right _ _
    · cases further with
      | nil => simp
      | cons ch further =>
        obtain ⟨hstart, hend⟩ := hinside before (ch :: further) rfl (List.cons_ne_nil _ _)
        exact absurd hmarked (not_or.2 ⟨hstart, hend⟩)

theorem FirstMark.unique {other others : Text} (hfirst : comment.FirstMark text inside ahead)
    (hother : comment.FirstMark text other others) : inside = other ∧ ahead = others := by
  have hsize := Nat.le_antisymm (hfirst.least other others hother.text_eq hother.marked)
    (hother.least inside ahead hfirst.text_eq hfirst.marked)
  rcases List.append_eq_append_iff.1 (hfirst.text_eq.symm.trans hother.text_eq) with
    ⟨further, rfl, rfl⟩ | ⟨further, rfl, rfl⟩
  all_goals
    rw [Text.size_append] at hsize
    obtain rfl : further = [] := Text.size_eq_zero.1 (by omega)
    simp

/-! ### Comments that do not nest -/

theorem passes_of_closeFlat_eq_ok (hclose : comment.closeFlat cursor = .ok after) :
    ∃ inside, cursor.Passes (inside ++ comment.endMark) after ∧
      comment.Unmarked inside (comment.endMark ++ after.rest) ∧
      ¬ comment.startMark <+: comment.endMark ++ after.rest := by
  fun_induction closeFlat comment cursor with
  | case1 cursor hrest => simp at hclose
  | case2 cursor hrest hstart => simp at hclose
  | case3 cursor hrest hstart hend =>
    obtain rfl := Except.ok.inj hclose
    have hpasses := Cursor.passes_skip_mark hend
    rw [Cursor.startsWith_iff, hpasses.rest_eq] at hstart
    exact ⟨[], hpasses, unmarked_nil _, hstart⟩
  | case4 cursor hrest hstart hend ih =>
    obtain ⟨ch, others, hcons⟩ := List.exists_cons_of_ne_nil hrest
    obtain ⟨inside, hpasses, hinside, hmark⟩ := ih hclose
    have hwhole := (Cursor.passes_advance hcons).trans hpasses
    have hrests := hwhole.rest_eq
    rw [List.append_assoc, List.append_assoc, List.singleton_append] at hrests
    rw [Cursor.startsWith_iff, hrests] at hstart hend
    exact ⟨ch :: inside, hwhole, .cons hstart hend hinside, hmark⟩

/-- Where the walk ends well, it ends behind the first mark. -/
theorem firstMark_of_closeFlat_eq_ok (hclose : comment.closeFlat cursor = .ok after) :
    ∃ inside, cursor.Passes (inside ++ comment.endMark) after ∧
      comment.FirstMark cursor.rest inside (comment.endMark ++ after.rest) ∧
      ¬ comment.startMark <+: comment.endMark ++ after.rest := by
  obtain ⟨inside, hpasses, hinside, hmark⟩ := passes_of_closeFlat_eq_ok hclose
  refine ⟨inside, hpasses, ?_, hmark⟩
  rw [hpasses.rest_eq, List.append_assoc]
  exact firstMark_of_unmarked hinside (.inr (List.prefix_append _ _))

/-- Where the walk finds no end, it stands at the first mark, a start mark, or there is no mark. -/
theorem firstMark_of_closeFlat_eq_error (hclose : comment.closeFlat cursor = .error missing) :
    (∃ inside, cursor.Passes inside missing ∧
      comment.FirstMark cursor.rest inside missing.rest ∧ comment.startMark <+: missing.rest) ∨
    missing = cursor.toEnd ∧ ¬ ∃ inside ahead, comment.FirstMark cursor.rest inside ahead := by
  obtain ⟨inside, hpasses, hinside, hend | hstart⟩ := passes_of_closeFlat hclose
  · refine .inr ⟨hpasses.eq_toEnd hend, ?_⟩
    rintro ⟨before, ahead, hfirst⟩
    have hrest := hpasses.rest_eq
    rw [hend, List.append_nil] at hrest
    rw [hend] at hinside
    have hne : ahead ≠ [] := by
      rintro rfl
      rcases hfirst.marked with hmark | hmark
      · exact comment.start_ne_nil (List.prefix_nil.1 hmark)
      · exact comment.end_ne_nil (List.prefix_nil.1 hmark)
    have hnone := hinside before ahead (hrest.symm.trans hfirst.text_eq) hne
    rw [List.append_nil] at hnone
    exact not_or.2 hnone hfirst.marked
  · refine .inl ⟨inside, hpasses, ?_, hstart⟩
    rw [hpasses.rest_eq]
    exact firstMark_of_unmarked hinside (.inl hstart)

/-- What reading a comment that does not nest comes to, by what the first mark is. -/
theorem read_flat_cases (hflat : comment.nesting = false) {body : Text}
    (hrest : cursor.rest = comment.startMark ++ body) :
    (∃ inside after, comment.FirstMark body inside (comment.endMark ++ after.rest) ∧
      ¬ comment.startMark <+: comment.endMark ++ after.rest ∧
      cursor.Passes (comment.startMark ++ (inside ++ comment.endMark)) after ∧
      (comment.read cursor).Agrees (.done (some ⟨cursor.buffer, cursor.offset,
        comment.startMark ++ (inside ++ comment.endMark)⟩) after)) ∨
    (∃ inside place, comment.FirstMark body inside place.rest ∧
      comment.startMark <+: place.rest ∧ cursor.Passes (comment.startMark ++ inside) place ∧
      (comment.read cursor).Agrees
        (.malformed (.missingEndComment comment.endMark place.position) place)) ∨
    (¬ ∃ inside ahead, comment.FirstMark body inside ahead) ∧ (comment.read cursor).Agrees
      (.malformed (.missingEndComment comment.endMark cursor.toEnd.position) cursor.toEnd) := by
  have hstart : cursor.startsWith comment.startMark = true :=
    Cursor.startsWith_iff.2 (hrest ▸ List.prefix_append _ _)
  have hopened := comment.passes_opened hstart
  have hbody : (comment.opened cursor).rest = body :=
    List.append_cancel_left (hopened.rest_eq.symm.trans hrest)
  have hclose : comment.close (comment.opened cursor) =
      comment.closeFlat (comment.opened cursor) := by
    rw [comment.close_eq, if_neg (Bool.not_eq_true _ ▸ hflat)]
  cases hresult : comment.closeFlat (comment.opened cursor) with
  | ok after =>
    obtain ⟨inside, hinside, hfirst, hmark⟩ := firstMark_of_closeFlat_eq_ok hresult
    have hpasses := hopened.trans hinside
    refine .inl ⟨inside, after, hbody ▸ hfirst, hmark, hpasses, ?_⟩
    rw [comment.read_of_closed hstart (hclose.trans hresult) hpasses]
    exact .refl _
  | error missing =>
    have hread := comment.read_of_missing hstart (hclose.trans hresult)
    rcases firstMark_of_closeFlat_eq_error hresult with
      ⟨inside, hinside, hfirst, hmark⟩ | ⟨hend, hnone⟩
    · refine .inr (.inl ⟨inside, missing, hbody ▸ hfirst, hmark, hopened.trans hinside, ?_⟩)
      rw [hread]
      exact ⟨rfl, rfl⟩
    · have hwhole := hopened.trans (comment.opened cursor).passes_toEnd
      refine .inr (.inr ⟨hbody ▸ hnone, ?_⟩)
      rw [hread, hend, hwhole.eq_toEnd rfl]
      exact ⟨rfl, rfl⟩

/-- A comment that does not nest, for both strategies. It is read exactly if there is a first mark
behind the start mark and no start mark stands there, and then through the end mark that does. At a
start mark the end mark is missing at that place; without any mark it is missing at the end of the
text. -/
theorem flat_closes_at_first_mark (hflat : comment.nesting = false) (strategy : Strategy)
    (cursor : Cursor) (body : Text) (hrest : cursor.rest = comment.startMark ++ body) :
    let step := (Scanner.block comment).run strategy cursor
    ((∃ found, step.outcome = .ok (some found)) ↔
      ∃ inside ahead, comment.FirstMark body inside ahead ∧ ¬ comment.startMark <+: ahead) ∧
    (∀ inside ahead, comment.FirstMark body inside ahead →
      (¬ comment.startMark <+: ahead → ∃ after,
        cursor.Passes (comment.startMark ++ (inside ++ comment.endMark)) after ∧
          step.Agrees (.done (some ⟨cursor.buffer, cursor.offset,
            comment.startMark ++ (inside ++ comment.endMark)⟩) after)) ∧
      (comment.startMark <+: ahead → ∃ place,
        cursor.Passes (comment.startMark ++ inside) place ∧ place.rest = ahead ∧
          step.Agrees (.malformed (.missingEndComment comment.endMark place.position) place))) ∧
    ((¬ ∃ inside ahead, comment.FirstMark body inside ahead) → step.Agrees
      (.malformed (.missingEndComment comment.endMark cursor.toEnd.position) cursor.toEnd)) := by
  intro step
  have hagrees : step.Agrees (comment.read cursor) :=
    Scanner.run_agrees (.block comment) strategy cursor
  rcases read_flat_cases hflat hrest with ⟨inside, after, hfirst, hmark, hpasses, hread⟩ |
    ⟨inside, place, hfirst, hmark, hpasses, hread⟩ | ⟨hnone, hread⟩
  · have hstep := hagrees.trans hread
    refine ⟨iff_of_true ⟨_, hstep.1⟩ ⟨inside, _, hfirst, hmark⟩, ?_, fun hno => ?_⟩
    · intro other ahead hother
      obtain ⟨rfl, rfl⟩ := hfirst.unique hother
      exact ⟨fun _ => ⟨after, hpasses, hstep⟩, fun hstart => absurd hstart hmark⟩
    · exact absurd ⟨inside, _, hfirst⟩ hno
  · have hstep := hagrees.trans hread
    refine ⟨iff_of_false ?_ ?_, ?_, fun hno => ?_⟩
    · rintro ⟨found, hfound⟩
      cases hstep.1.symm.trans hfound
    · rintro ⟨other, ahead, hother, hno⟩
      obtain ⟨rfl, rfl⟩ := hfirst.unique hother
      exact hno hmark
    · intro other ahead hother
      obtain ⟨rfl, rfl⟩ := hfirst.unique hother
      exact ⟨fun hno => absurd hmark hno, fun _ => ⟨place, hpasses, rfl, hstep⟩⟩
    · exact absurd ⟨inside, _, hfirst⟩ hno
  · have hstep := hagrees.trans hread
    refine ⟨iff_of_false ?_ ?_, ?_, fun _ => hstep⟩
    · rintro ⟨found, hfound⟩
      cases hstep.1.symm.trans hfound
    · exact fun ⟨inside, ahead, hfirst, _⟩ => hnone ⟨inside, ahead, hfirst⟩
    · exact fun inside ahead hfirst => absurd ⟨inside, ahead, hfirst⟩ hnone

/-- The start of a second comment comes before the end mark, with which it overlaps. -/
theorem flat_closes_at_first_mark_overlap :
    cStyle.nesting = false ∧ ∃ place, ((Scanner.block .cStyle).run .compiled
      (.ofText ['/', '*', ' ', 'b', '/', '*', '/'])).Agrees
        (.malformed (.missingEndComment ['*', '/'] place.position) place) ∧
      place.rest = ['/', '*', '/'] := by
  have hinside : cStyle.Unmarked [' ', 'b'] ['/', '*', '/'] :=
    .cons (by decide) (by decide) (.cons (by decide) (by decide) (unmarked_nil _))
  have hfirst := firstMark_of_unmarked hinside (.inl (by decide))
  obtain ⟨-, hcloses, -⟩ := @flat_closes_at_first_mark .cStyle rfl .compiled
    (.ofText ['/', '*', ' ', 'b', '/', '*', '/']) [' ', 'b', '/', '*', '/'] rfl
  obtain ⟨place, -, hrest, hagrees⟩ := (hcloses _ _ hfirst).2 (by decide)
  exact ⟨rfl, place, hagrees, hrest⟩

/-! ### Marks that hide each other -/

theorem make_eq_ok_iff {startMark endMark : Text} {nesting : Bool} :
    make startMark endMark nesting = .ok comment ↔ startMark ≠ [] ∧ endMark ≠ [] ∧
      comment.startMark = startMark ∧ comment.endMark = endMark ∧ comment.nesting = nesting := by
  rw [make]
  split
  · rename_i hstart
    exact iff_of_false (by simp) fun hall => hall.1 hstart
  · rename_i hstart
    split
    · rename_i hend
      exact iff_of_false (by simp) fun hall => hall.2.1 hend
    · rename_i hend
      constructor
      · intro hmake
        obtain rfl := Except.ok.inj hmake
        exact ⟨hstart, hend, rfl, rfl, rfl⟩
      · rintro ⟨-, -, rfl, rfl, rfl⟩
        rfl

/-- A start mark that the end mark begins with is found wherever the end mark is. -/
theorem startsWith_startMark_of_endMark (hhidden : comment.startMark <+: comment.endMark)
    (hend : cursor.startsWith comment.endMark = true) :
    cursor.startsWith comment.startMark = true :=
  Cursor.startsWith_iff.2 (hhidden.trans (Cursor.startsWith_iff.1 hend))

theorem closeNested_ne_ok (hhidden : comment.startMark <+: comment.endMark) (depth : Nat)
    (cursor : Cursor) : comment.closeNested depth cursor ≠ .ok after := by
  fun_induction closeNested comment depth cursor with
  | case1 depth cursor hrest => simp
  | case2 depth cursor hrest hstart ih => exact ih
  | case3 depth cursor hrest hstart hend place hlast =>
    exact absurd (startsWith_startMark_of_endMark hhidden hend) hstart
  | case4 depth cursor hrest hstart hend place hmore ih =>
    exact absurd (startsWith_startMark_of_endMark hhidden hend) hstart
  | case5 depth cursor hrest hstart hend ih => exact ih

theorem closeFlat_ne_ok (hhidden : comment.startMark <+: comment.endMark) (cursor : Cursor) :
    comment.closeFlat cursor ≠ .ok after := by
  intro hclose
  obtain ⟨-, -, -, hmark⟩ := passes_of_closeFlat_eq_ok hclose
  exact hmark (hhidden.trans (List.prefix_append _ _))

theorem read_of_hidden (hhidden : comment.startMark <+: comment.endMark)
    (hstart : comment.startMark <+: cursor.rest) : ∃ place, (comment.read cursor).Agrees
      (.malformed (.missingEndComment comment.endMark place.position) place) := by
  cases hclose : comment.close (comment.opened cursor) with
  | ok after =>
    rw [close_eq] at hclose
    split at hclose
    · exact absurd hclose (closeNested_ne_ok hhidden 1 _)
    · exact absurd hclose (closeFlat_ne_ok hhidden _)
  | error missing =>
    rw [comment.read_of_missing (Cursor.startsWith_iff.2 hstart) hclose]
    exact ⟨missing, rfl, rfl⟩

/-- The two marks alone are a comment if the end mark can be seen. -/
theorem read_of_marks (hseen : ¬ comment.startMark <+: comment.endMark)
    (hrest : cursor.rest = comment.startMark ++ comment.endMark) :
    ∃ found, (comment.read cursor).outcome = .ok (some found) := by
  have hstart : cursor.startsWith comment.startMark = true :=
    Cursor.startsWith_iff.2 (hrest ▸ List.prefix_append _ _)
  have hbody : (comment.opened cursor).rest = comment.endMark :=
    List.append_cancel_left ((comment.passes_opened hstart).rest_eq.symm.trans hrest)
  have hne : (comment.opened cursor).rest ≠ [] := hbody ▸ comment.end_ne_nil
  have hno : ¬ (comment.opened cursor).startsWith comment.startMark = true := by
    rwa [Cursor.startsWith_iff, hbody]
  have hend : (comment.opened cursor).startsWith comment.endMark = true :=
    Cursor.startsWith_iff.2 (hbody ▸ List.prefix_refl _)
  have hclose : comment.close (comment.opened cursor) =
      .ok ((comment.opened cursor).skip comment.endMark.length) := by
    rw [close_eq]
    split
    · rw [closeNested, if_neg hne, if_neg hno, if_pos hend]
      exact if_pos (Nat.le_refl 1)
    · rw [closeFlat, if_neg hne, if_neg hno, if_pos hend]
  have hpasses := (comment.passes_opened hstart).trans (Cursor.passes_skip_mark hend)
  rw [comment.read_of_closed hstart hclose hpasses]
  exact ⟨_, rfl⟩

/-- Two marks make a comment unless one of them is empty. Whether or not it nests, it matches some
text exactly if the end mark does not begin with the start mark. If the end mark does, it is found
missing wherever the start mark stands. -/
theorem matches_iff_not_prefix (startMark endMark : Text) (nesting : Bool) (strategy : Strategy) :
    ((∃ comment, make startMark endMark nesting = .ok comment) ↔ startMark ≠ [] ∧ endMark ≠ []) ∧
    ∀ comment, make startMark endMark nesting = .ok comment →
      ((∃ text found,
          ((Scanner.block comment).run strategy (.ofText text)).outcome = .ok (some found)) ↔
        ¬ startMark <+: endMark) ∧
      (startMark <+: endMark → ∀ cursor : Cursor, startMark <+: cursor.rest →
        ∃ place, ((Scanner.block comment).run strategy cursor).Agrees
          (.malformed (.missingEndComment endMark place.position) place)) := by
  constructor
  · constructor
    · rintro ⟨comment, hmake⟩
      obtain ⟨hstart, hend, -⟩ := make_eq_ok_iff.1 hmake
      exact ⟨hstart, hend⟩
    · rintro ⟨hstart, hend⟩
      exact ⟨⟨startMark, endMark, nesting, hstart, hend⟩,
        make_eq_ok_iff.2 ⟨hstart, hend, rfl, rfl, rfl⟩⟩
  · intro comment hmake
    obtain ⟨-, -, rfl, rfl, rfl⟩ := make_eq_ok_iff.1 hmake
    have hagrees (cursor : Cursor) :
        ((Scanner.block comment).run strategy cursor).Agrees (comment.read cursor) :=
      Scanner.run_agrees (.block comment) strategy cursor
    refine ⟨⟨?_, fun hseen => ?_⟩, fun hhidden cursor hstart => ?_⟩
    · rintro ⟨text, found, hfound⟩ hhidden
      rw [(hagrees _).1] at hfound
      by_cases hstart : comment.startMark <+: (Cursor.ofText text).rest
      · obtain ⟨place, hmissing⟩ := read_of_hidden hhidden hstart
        cases hmissing.1.symm.trans hfound
      · cases (read_eq_none_iff.2 hstart).symm.trans hfound
    · have hrest : (Cursor.ofText (comment.startMark ++ comment.endMark)).rest =
          comment.startMark ++ comment.endMark := rfl
      obtain ⟨found, hfound⟩ := read_of_marks hseen hrest
      exact ⟨_, found, (hagrees _).1.trans hfound⟩
    · obtain ⟨place, hmissing⟩ := read_of_hidden hhidden hstart
      exact ⟨place, (hagrees cursor).trans hmissing⟩

/-- A comment between two bars is never closed. -/
theorem matches_iff_not_prefix_bars : ∃ comment, make ['|'] ['|'] true = .ok comment ∧
    ∃ place, ((Scanner.block comment).run .compiled (.ofText ['|', 'a', '|'])).Agrees
      (.malformed (.missingEndComment ['|'] place.position) place) := by
  obtain ⟨hmake, hmatches⟩ := matches_iff_not_prefix ['|'] ['|'] true .compiled
  obtain ⟨comment, hcomment⟩ := hmake.2 ⟨by decide, by decide⟩
  obtain ⟨-, hmissing⟩ := hmatches comment hcomment
  exact ⟨comment, hcomment, hmissing (List.prefix_refl _) (.ofText ['|', 'a', '|']) (by decide)⟩

end Lexkit.BlockComment
