import Mathlib.Tactic.ByContra
import Lexkit.Proofs.Scanner
import Lexkit.Proofs.Whitespace.Failure

/-!
# Comments that nest

A comment that nests is read with a count of the start marks that are still open. What such a
comment is can also be said by a grammar, read from the left: a start mark and a body, where a body
is made of comments and of characters at which no mark starts, up to an end mark. The two agree
because the count is the number of bodies that are still to be completed, and reading one takes one
off it. The same number is followed along the cut of a text into marks and characters, and there the
comment is what is balanced: the count comes to nothing with the last mark and not before. It is the
cut of the whole text ahead, since a start mark can begin with the end mark; what is cut off in
front of its end would be balanced by itself.
-/

namespace Lexkit.BlockComment

/-! ### The grammar -/

/-- The body that starts the first text leaves the second one. -/
inductive Body (comment : BlockComment) : Text → Text → Prop
  | comment {text inner rest : Text} (hinner : Body comment text inner)
    (hrest : Body comment inner rest) : Body comment (comment.startMark ++ text) rest
  | close {rest : Text} (hstart : ¬ comment.startMark <+: comment.endMark ++ rest) :
    Body comment (comment.endMark ++ rest) rest
  | char {ch : Char} {text rest : Text} (hstart : ¬ comment.startMark <+: ch :: text)
    (hend : ¬ comment.endMark <+: ch :: text) (hrest : Body comment text rest) :
    Body comment (ch :: text) rest

/-- The comment that starts the first text leaves the second one. -/
def Leaves (comment : BlockComment) (text rest : Text) : Prop :=
  ∃ inside, text = comment.startMark ++ inside ∧ comment.Body inside rest

/-- So many bodies, one after the other, leave the second text of the first one. -/
def Bodies (comment : BlockComment) : Nat → Text → Text → Prop
  | 0, text, rest => text = rest
  | depth + 1, text, rest => ∃ middle, comment.Body text middle ∧ comment.Bodies depth middle rest

variable {comment : BlockComment} {cursor after : Cursor} {text rest middle : Text} {depth : Nat}

theorem bodies_one : comment.Bodies 1 text rest ↔ comment.Body text rest := by
  constructor
  · rintro ⟨middle, hbody, rfl⟩
    exact hbody
  · exact fun hbody => ⟨rest, hbody, rfl⟩

/-- A start mark opens one more body. -/
theorem Bodies.open (hbodies : comment.Bodies (depth + 2) text rest) :
    comment.Bodies (depth + 1) (comment.startMark ++ text) rest := by
  obtain ⟨inner, hinner, outer, houter, hothers⟩ := hbodies
  exact ⟨outer, .comment hinner houter, hothers⟩

theorem Bodies.close (hstart : ¬ comment.startMark <+: comment.endMark ++ text)
    (hbodies : comment.Bodies depth text rest) :
    comment.Bodies (depth + 1) (comment.endMark ++ text) rest :=
  ⟨text, .close hstart, hbodies⟩

theorem Bodies.char {ch : Char} (hstart : ¬ comment.startMark <+: ch :: text)
    (hend : ¬ comment.endMark <+: ch :: text) (hbodies : comment.Bodies (depth + 1) text rest) :
    comment.Bodies (depth + 1) (ch :: text) rest := by
  obtain ⟨middle, hbody, hothers⟩ := hbodies
  exact ⟨middle, .char hstart hend hbody, hothers⟩

/-! ### The walk -/

theorem bodies_of_closeNested (hdepth : 0 < depth)
    (hclose : comment.closeNested depth cursor = .ok after) :
    comment.Bodies depth cursor.rest after.rest := by
  fun_induction closeNested comment depth cursor with
  | case1 depth cursor hrest => simp at hclose
  | case2 depth cursor hrest hstart ih =>
    obtain ⟨outer, rfl⟩ : ∃ outer, depth = outer + 1 := ⟨depth - 1, by omega⟩
    rw [(Cursor.passes_skip_mark hstart).rest_eq]
    exact (ih (by omega) hclose).open
  | case3 depth cursor hrest hstart hend place hlast =>
    obtain rfl : depth = 1 := by omega
    obtain rfl := Except.ok.inj hclose
    have hpasses := Cursor.passes_skip_mark hend
    rw [Cursor.startsWith_iff, hpasses.rest_eq] at hstart
    rw [hpasses.rest_eq]
    exact .close hstart rfl
  | case4 depth cursor hrest hstart hend place hmore ih =>
    obtain ⟨outer, rfl⟩ : ∃ outer, depth = outer + 1 := ⟨depth - 1, by omega⟩
    have hpasses := Cursor.passes_skip_mark hend
    rw [Cursor.startsWith_iff, hpasses.rest_eq] at hstart
    rw [hpasses.rest_eq]
    exact .close hstart (ih (by omega) hclose)
  | case5 depth cursor hrest hstart hend ih =>
    obtain ⟨outer, rfl⟩ : ∃ outer, depth = outer + 1 := ⟨depth - 1, by omega⟩
    obtain ⟨ch, others, hcons⟩ := List.exists_cons_of_ne_nil hrest
    rw [Cursor.startsWith_iff, hcons] at hstart hend
    have hothers := ih hdepth hclose
    rw [Cursor.rest_advance_of_cons hcons] at hothers
    rw [hcons]
    exact .char hstart hend hothers

/-- The walk over a body takes it off the count. -/
theorem closeNested_of_body (hbody : comment.Body text rest) (hrest : cursor.rest = text) :
    ∃ after, after.rest = rest ∧ ∀ depth, comment.closeNested (depth + 1) cursor =
      if depth = 0 then .ok after else comment.closeNested depth after := by
  induction hbody generalizing cursor with
  | comment hinner hothers ihinner ihothers =>
    have hstart : cursor.startsWith comment.startMark = true :=
      Cursor.startsWith_iff.2 (hrest ▸ List.prefix_append _ _)
    have hne := rest_ne_nil comment.start_ne_nil hstart
    have hpasses := Cursor.passes_skip_mark hstart
    obtain ⟨place, hplace, hinside⟩ :=
      ihinner (List.append_cancel_left (hpasses.rest_eq.symm.trans hrest))
    obtain ⟨after, hafter, houtside⟩ := ihothers hplace
    refine ⟨after, hafter, fun depth => ?_⟩
    rw [closeNested, if_neg hne, if_pos hstart, hinside (depth + 1), if_neg (by omega),
      houtside depth]
  | close hstart =>
    have hend : cursor.startsWith comment.endMark = true :=
      Cursor.startsWith_iff.2 (hrest ▸ List.prefix_append _ _)
    have hne := rest_ne_nil comment.end_ne_nil hend
    have hpasses := Cursor.passes_skip_mark hend
    refine ⟨_, List.append_cancel_left (hpasses.rest_eq.symm.trans hrest), fun depth => ?_⟩
    rw [← hrest, ← Cursor.startsWith_iff] at hstart
    rw [closeNested, if_neg hne, if_neg hstart, if_pos hend]
    by_cases hlast : depth = 0
    · rw [if_pos hlast]
      exact if_pos (by omega)
    · rw [if_neg hlast]
      exact if_neg (by omega)
  | char hstart hend hothers ih =>
    obtain ⟨after, hafter, hinside⟩ := ih (Cursor.rest_advance_of_cons hrest)
    refine ⟨after, hafter, fun depth => ?_⟩
    have hne : cursor.rest ≠ [] := hrest ▸ List.cons_ne_nil _ _
    rw [← hrest, ← Cursor.startsWith_iff] at hstart hend
    rw [closeNested, if_neg hne, if_neg hstart, if_neg hend, hinside depth]

/-- The walk comes to the end of the body if there is one. -/
theorem closeNested_eq_ok_iff : (∃ after, comment.closeNested 1 cursor = .ok after ∧
    after.rest = rest) ↔ comment.Body cursor.rest rest := by
  constructor
  · rintro ⟨after, hclose, rfl⟩
    exact bodies_one.1 (bodies_of_closeNested Nat.one_pos hclose)
  · intro hbody
    obtain ⟨after, hafter, hclose⟩ := closeNested_of_body hbody rfl
    exact ⟨after, hclose 0, hafter⟩

/-! ### The cut into marks and characters -/

/-- What a text is cut into: marks, and the characters at which no mark starts. -/
inductive Piece where
  | opens
  | closes
  | char (ch : Char)
  deriving DecidableEq, Repr

/-- The cut of a text from the left, where the start mark is looked for first. -/
def cut (comment : BlockComment) : Text → List Piece
  | [] => []
  | ch :: text =>
    if comment.startMark <+: ch :: text then
      .opens :: comment.cut ((ch :: text).drop comment.startMark.length)
    else if comment.endMark <+: ch :: text then
      .closes :: comment.cut ((ch :: text).drop comment.endMark.length)
    else .char ch :: comment.cut text
termination_by text => text.length
decreasing_by
  · have := List.length_pos_iff.2 comment.start_ne_nil
    simp only [List.length_drop, List.length_cons]
    omega
  · have := List.length_pos_iff.2 comment.end_ne_nil
    simp only [List.length_drop, List.length_cons]
    omega
  · simp

/-- There are as many end marks as start marks, and fewer of them in every part from the left that
is neither empty nor the whole. -/
def Balanced (pieces : List Piece) : Prop :=
  pieces.count .opens = pieces.count .closes ∧
    ∀ before, before <+: pieces → before ≠ pieces → before ≠ [] →
      before.count .closes < before.count .opens

/-- The count of open start marks, taken on from a number, comes to nothing with the last piece and
not before. -/
def Falls : Nat → List Piece → Prop
  | 0, pieces => pieces = []
  | _ + 1, [] => False
  | depth + 1, .opens :: pieces => Falls (depth + 2) pieces
  | depth + 1, .closes :: pieces => Falls depth pieces
  | depth + 1, .char _ :: pieces => Falls (depth + 1) pieces

theorem cut_nil : comment.cut [] = [] := by rw [cut]

theorem cut_start (text : Text) :
    comment.cut (comment.startMark ++ text) = .opens :: comment.cut text := by
  obtain ⟨ch, others, hmark⟩ := List.exists_cons_of_ne_nil comment.start_ne_nil
  have hstart : comment.startMark <+: ch :: (others ++ text) := by
    rw [hmark]
    exact List.prefix_append (ch :: others) text
  have hdrop : (ch :: (others ++ text)).drop comment.startMark.length = text := by
    rw [hmark]
    exact List.drop_left
  rw [hmark, List.cons_append, cut, if_pos hstart, hdrop]

theorem cut_end (hstart : ¬ comment.startMark <+: comment.endMark ++ text) :
    comment.cut (comment.endMark ++ text) = .closes :: comment.cut text := by
  obtain ⟨ch, others, hmark⟩ := List.exists_cons_of_ne_nil comment.end_ne_nil
  have hend : comment.endMark <+: ch :: (others ++ text) := by
    rw [hmark]
    exact List.prefix_append (ch :: others) text
  have hdrop : (ch :: (others ++ text)).drop comment.endMark.length = text := by
    rw [hmark]
    exact List.drop_left
  rw [hmark, List.cons_append] at hstart ⊢
  rw [cut, if_neg hstart, if_pos hend, hdrop]

theorem cut_char {ch : Char} (hstart : ¬ comment.startMark <+: ch :: text)
    (hend : ¬ comment.endMark <+: ch :: text) :
    comment.cut (ch :: text) = .char ch :: comment.cut text := by
  rw [cut, if_neg hstart, if_neg hend]

theorem not_start_of_cut {piece : Piece} {pieces : List Piece}
    (hcut : comment.cut text = piece :: pieces) (hpiece : piece ≠ .opens) :
    ¬ comment.startMark <+: text := by
  rintro ⟨others, rfl⟩
  rw [cut_start] at hcut
  exact hpiece (List.cons.inj hcut).1.symm

theorem not_end_of_cut {ch : Char} {pieces : List Piece}
    (hcut : comment.cut text = .char ch :: pieces) : ¬ comment.endMark <+: text := by
  have hstart := not_start_of_cut hcut nofun
  rintro ⟨others, rfl⟩
  rw [cut_end hstart] at hcut
  cases hcut

/-- What a cut starts with: the cases of the grammar. -/
theorem cut_cases (text : Text) : text = [] ∨
    (∃ others, text = comment.startMark ++ others) ∨
    (∃ others, text = comment.endMark ++ others ∧ ¬ comment.startMark <+: text) ∨
    ∃ ch others,
      text = ch :: others ∧ ¬ comment.startMark <+: text ∧ ¬ comment.endMark <+: text := by
  cases text with
  | nil => exact .inl rfl
  | cons ch others =>
    by_cases hstart : comment.startMark <+: ch :: others
    · obtain ⟨rest, hrest⟩ := hstart
      exact .inr (.inl ⟨rest, hrest.symm⟩)
    · by_cases hend : comment.endMark <+: ch :: others
      · obtain ⟨rest, hrest⟩ := hend
        exact .inr (.inr (.inl ⟨rest, hrest.symm, hstart⟩))
      · exact .inr (.inr (.inr ⟨ch, others, rfl, hstart, hend⟩))

theorem Falls.append {other : Nat} {pieces others : List Piece} (hpieces : Falls depth pieces)
    (hothers : Falls other others) : Falls (depth + other) (pieces ++ others) := by
  induction pieces generalizing depth with
  | nil =>
    cases depth with
    | zero => rwa [Nat.zero_add]
    | succ depth => exact hpieces.elim
  | cons piece pieces ih =>
    cases depth with
    | zero => simp [Falls] at hpieces
    | succ depth =>
      rw [Nat.add_right_comm]
      cases piece with
      | opens =>
        have hmore := ih hpieces
        rwa [Nat.add_right_comm] at hmore
      | closes => exact ih hpieces
      | char ch =>
        have hsame := ih hpieces
        rwa [Nat.add_right_comm] at hsame

/-- The parts from the left but the whole: the empty one, and those of what comes after the first
piece. -/
theorem forall_part_cons {P : List Piece → Prop} {piece : Piece} {pieces : List Piece} :
    (∀ before, before <+: piece :: pieces → before ≠ piece :: pieces → P before) ↔
      P [] ∧ ∀ before, before <+: pieces → before ≠ pieces → P (piece :: before) := by
  constructor
  · intro hparts
    refine ⟨hparts [] List.nil_prefix (List.cons_ne_nil _ _).symm, fun before hpart hne => ?_⟩
    apply hparts
    · exact List.cons_prefix_cons.2 ⟨rfl, hpart⟩
    · exact fun hcons => hne (List.cons.inj hcons).2
  · rintro ⟨hnil, hparts⟩ before hpart hne
    rcases List.prefix_cons_iff.1 hpart with rfl | ⟨others, rfl, hothers⟩
    · exact hnil
    · exact hparts others hothers fun hall => hne (hall ▸ rfl)

theorem falls_iff {pieces : List Piece} : Falls depth pieces ↔
    depth + pieces.count .opens = pieces.count .closes ∧
      ∀ before, before <+: pieces → before ≠ pieces →
        before.count .closes < depth + before.count .opens := by
  induction pieces generalizing depth with
  | nil =>
    have hparts : ∀ before : List Piece, before <+: [] → before ≠ [] →
        before.count .closes < depth + before.count .opens := fun before hpart hne =>
      absurd (List.prefix_nil.1 hpart) hne
    cases depth with
    | zero => simp [Falls]
    | succ depth => simp [Falls]
  | cons piece pieces ih =>
    rw [forall_part_cons]
    cases depth with
    | zero => simp [Falls]
    | succ depth =>
      cases piece with
      | opens =>
        rw [Falls, ih]
        simp [Nat.add_comm, Nat.add_left_comm]
      | closes =>
        rw [Falls, ih]
        simp [Nat.add_right_comm depth 1]
      | char ch =>
        rw [Falls, ih]
        simp

theorem balanced_opens {pieces : List Piece} : Balanced (.opens :: pieces) ↔ Falls 1 pieces := by
  rw [Balanced, falls_iff, forall_part_cons]
  simp [Nat.add_comm]

/-! ### The grammar along the cut -/

/-- A body takes the count of open marks down by one, and what follows it does not change how it is
cut. -/
theorem Body.exists_cut (hbody : comment.Body text rest) :
    ∃ taken, text = taken ++ rest ∧ Falls 1 (comment.cut taken) ∧
      ∀ ahead, ahead <+: rest →
        comment.cut (taken ++ ahead) = comment.cut taken ++ comment.cut ahead := by
  induction hbody with
  | comment hinner hothers ihinner ihothers =>
    obtain ⟨inside, rfl, hinside, hcutInside⟩ := ihinner
    obtain ⟨outside, rfl, houtside, hcutOutside⟩ := ihothers
    have hboth := hcutInside outside (List.prefix_append _ _)
    refine ⟨comment.startMark ++ (inside ++ outside), by simp, ?_, fun ahead hahead => ?_⟩
    · rw [cut_start, hboth]
      exact hinside.append houtside
    · have hmore := hcutInside (outside ++ ahead) ((List.prefix_append_right_inj outside).2 hahead)
      rw [List.append_assoc, List.append_assoc, cut_start, cut_start, hboth, hmore,
        hcutOutside ahead hahead, List.cons_append, List.append_assoc]
  | @close rest hstart =>
    have hcut (ahead : Text) (hahead : ahead <+: rest) :
        comment.cut (comment.endMark ++ ahead) = .closes :: comment.cut ahead :=
      cut_end fun hmark =>
        hstart (hmark.trans ((List.prefix_append_right_inj comment.endMark).2 hahead))
    have hmark := hcut [] List.nil_prefix
    rw [List.append_nil, cut_nil] at hmark
    refine ⟨comment.endMark, rfl, ?_, fun ahead hahead => ?_⟩
    · rw [hmark]
      rfl
    · rw [hcut ahead hahead, hmark]
      rfl
  | @char ch text rest hstart hend hothers ih =>
    obtain ⟨inside, rfl, hinside, hcutInside⟩ := ih
    have hcut (ahead : Text) (hahead : ahead <+: inside ++ rest) :
        comment.cut (ch :: ahead) = .char ch :: comment.cut ahead := by
      have hpart : ch :: ahead <+: ch :: (inside ++ rest) := List.cons_prefix_cons.2 ⟨rfl, hahead⟩
      exact cut_char (fun hmark => hstart (hmark.trans hpart)) fun hmark => hend (hmark.trans hpart)
    have hfirst := hcut inside (List.prefix_append _ _)
    refine ⟨ch :: inside, rfl, ?_, fun ahead hahead => ?_⟩
    · rw [hfirst]
      exact hinside
    · rw [List.cons_append, hcut _ ((List.prefix_append_right_inj inside).2 hahead), hfirst,
        hcutInside ahead hahead]
      rfl

theorem bodies_of_cut {taken : Text}
    (hcut : comment.cut (taken ++ rest) = comment.cut taken ++ comment.cut rest)
    (hfalls : Falls depth (comment.cut taken)) : comment.Bodies depth (taken ++ rest) rest := by
  induction hlength : taken.length using Nat.strongRecOn generalizing taken depth with
  | _ length ih =>
    rcases comment.cut_cases taken with rfl | ⟨others, rfl⟩ | ⟨others, rfl, hstart⟩ |
      ⟨ch, others, rfl, hstart, hend⟩
    · rw [cut_nil] at hfalls
      cases depth with
      | zero => exact rfl
      | succ depth => exact hfalls.elim
    · rw [List.append_assoc, cut_start, cut_start] at hcut
      rw [cut_start] at hfalls
      cases depth with
      | zero => simp [Falls] at hfalls
      | succ depth =>
        have hshorter : others.length < length := by
          have := List.length_pos_iff.2 comment.start_ne_nil
          rw [← hlength, List.length_append]
          omega
        rw [List.append_assoc]
        exact (ih _ hshorter (List.cons.inj hcut).2 hfalls rfl).open
    · rw [cut_end hstart] at hcut hfalls
      rw [List.append_assoc] at hcut ⊢
      have hwhole := not_start_of_cut hcut nofun
      rw [cut_end hwhole] at hcut
      cases depth with
      | zero => simp [Falls] at hfalls
      | succ depth =>
        have hshorter : others.length < length := by
          have := List.length_pos_iff.2 comment.end_ne_nil
          rw [← hlength, List.length_append]
          omega
        exact .close hwhole (ih _ hshorter (List.cons.inj hcut).2 hfalls rfl)
    · rw [cut_char hstart hend] at hcut hfalls
      have hwholeStart := not_start_of_cut hcut nofun
      have hwholeEnd := not_end_of_cut hcut
      rw [List.cons_append] at hcut hwholeStart hwholeEnd ⊢
      rw [cut_char hwholeStart hwholeEnd] at hcut
      cases depth with
      | zero => simp [Falls] at hfalls
      | succ depth =>
        have hshorter : others.length < length := by simp [← hlength]
        exact .char hwholeStart hwholeEnd (ih _ hshorter (List.cons.inj hcut).2 hfalls rfl)

/-- A comment is what is balanced along the cut of the text that it starts. -/
theorem leaves_iff_balanced {taken : Text} (hstart : comment.startMark <+: taken ++ rest) :
    comment.Leaves (taken ++ rest) rest ↔ taken ≠ [] ∧
      comment.cut (taken ++ rest) = comment.cut taken ++ comment.cut rest ∧
      Balanced (comment.cut taken) := by
  constructor
  · rintro ⟨inside, htext, hbody⟩
    obtain ⟨body, rfl, hfalls, hcut⟩ := hbody.exists_cut
    rw [← List.append_assoc] at htext
    obtain rfl := List.append_cancel_right htext
    have hne := List.append_ne_nil_of_left_ne_nil comment.start_ne_nil body
    refine ⟨hne, ?_, ?_⟩
    · rw [List.append_assoc, cut_start, cut_start, hcut rest (List.prefix_refl _)]
      rfl
    · rw [cut_start]
      exact balanced_opens.2 hfalls
  · rintro ⟨hne, hcut, hbalanced⟩
    obtain ⟨inside, hinside⟩ := hstart
    rw [← hinside, cut_start] at hcut
    -- The first piece of the whole cut is the first piece of what was taken.
    rcases comment.cut_cases taken with rfl | ⟨others, rfl⟩ | ⟨others, rfl, hno⟩ |
      ⟨ch, others, rfl, hno, hend⟩
    · exact absurd rfl hne
    · rw [List.append_assoc] at hinside ⊢
      obtain rfl := List.append_cancel_left hinside
      rw [cut_start] at hcut hbalanced
      have hbodies := bodies_of_cut (List.cons.inj hcut).2 (balanced_opens.1 hbalanced)
      exact ⟨others ++ rest, rfl, bodies_one.1 hbodies⟩
    · rw [cut_end hno] at hcut
      cases hcut
    · rw [cut_char hno hend] at hcut
      cases hcut

/-! ### What is read -/

theorem read_of_leaves (hnesting : comment.nesting = true) {taken : Text}
    (htext : cursor.rest = taken ++ rest) (hleaves : comment.Leaves cursor.rest rest) :
    ∃ after, cursor.Passes taken after ∧
      comment.read cursor = .done (some ⟨cursor.buffer, cursor.offset, taken⟩) after := by
  obtain ⟨inside, hinside, hbody⟩ := hleaves
  have hstart : cursor.startsWith comment.startMark = true :=
    Cursor.startsWith_iff.2 (hinside ▸ List.prefix_append _ _)
  have hopened := comment.passes_opened hstart
  rw [← List.append_cancel_left (hopened.rest_eq.symm.trans hinside)] at hbody
  obtain ⟨after, hclose, hafter⟩ := closeNested_eq_ok_iff.2 hbody
  have hplace : comment.close (comment.opened cursor) = .ok after := by
    rw [close_eq, if_pos hnesting, hclose]
  obtain ⟨passed, -, hpasses⟩ := comment.exists_passes_close hstart
  rw [hplace] at hpasses
  have hpassed := hpasses.rest_eq
  rw [htext, place, hafter] at hpassed
  obtain rfl := List.append_cancel_right hpassed
  exact ⟨after, hpasses, comment.read_of_closed hstart hplace hpasses⟩

theorem read_of_not_leaves (hnesting : comment.nesting = true)
    (hstart : comment.startMark <+: cursor.rest)
    (hleaves : ∀ rest, ¬ comment.Leaves cursor.rest rest) :
    (comment.read cursor).Agrees
      (.malformed (.missingEndComment comment.endMark cursor.toEnd.position) cursor.toEnd) := by
  have hstarts := Cursor.startsWith_iff.2 hstart
  have hopened := comment.passes_opened hstarts
  obtain ⟨passed, -, hpasses⟩ := comment.exists_passes_close hstarts
  cases hclose : comment.close (comment.opened cursor) with
  | ok after =>
    rw [close_eq, if_pos hnesting] at hclose
    have hbody := closeNested_eq_ok_iff.1 ⟨after, hclose, rfl⟩
    exact absurd ⟨_, hopened.rest_eq, hbody⟩ (hleaves after.rest)
  | error missing =>
    have hplace := hclose
    rw [close_eq, if_pos hnesting] at hclose
    rw [hplace] at hpasses
    obtain rfl : missing = cursor.toEnd := hpasses.eq_toEnd (rest_of_closeNested hclose)
    rw [comment.read_of_missing hstarts hplace]
    exact ⟨rfl, rfl⟩

theorem read_eq_none_iff :
    (comment.read cursor).outcome = .ok none ↔ ¬ comment.startMark <+: cursor.rest := by
  constructor
  · intro hnone hstart
    have hstarts := Cursor.startsWith_iff.2 hstart
    obtain ⟨passed, -, hpasses⟩ := comment.exists_passes_close hstarts
    cases hclose : comment.close (comment.opened cursor) with
    | ok after =>
      rw [hclose] at hpasses
      rw [comment.read_of_closed hstarts hclose hpasses] at hnone
      cases hnone
    | error missing =>
      rw [comment.read_of_missing hstarts hclose] at hnone
      cases hnone
  · intro hstart
    rw [← Cursor.startsWith_iff, Bool.not_eq_true] at hstart
    rw [comment.read_of_not_startsWith hstart]
    rfl

theorem Leaves.exists_taken (hleaves : comment.Leaves text rest) :
    ∃ taken, text = taken ++ rest := by
  obtain ⟨inside, rfl, hbody⟩ := hleaves
  obtain ⟨body, rfl, -⟩ := hbody.exists_cut
  exact ⟨comment.startMark ++ body, (List.append_assoc _ _ _).symm⟩

theorem leaves_of_read (hnesting : comment.nesting = true) {taken : Text}
    (htext : cursor.rest = taken ++ rest)
    (hread : (comment.read cursor).outcome = .ok (some ⟨cursor.buffer, cursor.offset, taken⟩)) :
    comment.Leaves cursor.rest rest := by
  have hstart : comment.startMark <+: cursor.rest := by
    by_contra hstart
    rw [read_eq_none_iff.2 hstart] at hread
    cases hread
  by_cases hleaves : ∃ other, comment.Leaves cursor.rest other
  · obtain ⟨other, hother⟩ := hleaves
    obtain ⟨passed, hpassed⟩ := hother.exists_taken
    obtain ⟨after, -, hdone⟩ := read_of_leaves hnesting hpassed hother
    rw [hdone] at hread
    obtain rfl : passed = taken := congrArg Slice.text (Option.some.inj (Except.ok.inj hread))
    rwa [List.append_cancel_left (htext.symm.trans hpassed)]
  · have hnone := read_of_not_leaves hnesting hstart (not_exists.1 hleaves)
    rw [hnone.1] at hread
    cases hread

/-- What a comment that nests is, for both strategies. Nothing is read, and the cursor stays, only
where no start mark is. At a start mark the grammar takes exactly the text that is read, which is
the text that is balanced along the cut; and if the grammar takes none, the end mark is missing at
the end of the text. -/
theorem nested_iff_balanced (hnesting : comment.nesting = true) (strategy : Strategy)
    (cursor : Cursor) :
    let step := (Scanner.block comment).run strategy cursor
    (step.outcome = .ok none ↔ ¬ comment.startMark <+: cursor.rest) ∧
    (step.outcome = .ok none → step.cursor = cursor) ∧
    (∀ taken rest, cursor.rest = taken ++ rest →
      (comment.Leaves cursor.rest rest ↔
        step.outcome = .ok (some ⟨cursor.buffer, cursor.offset, taken⟩)) ∧
      (comment.Leaves cursor.rest rest → cursor.Passes taken step.cursor) ∧
      (comment.startMark <+: cursor.rest → (comment.Leaves cursor.rest rest ↔ taken ≠ [] ∧
        comment.cut cursor.rest = comment.cut taken ++ comment.cut rest ∧
        Balanced (comment.cut taken)))) ∧
    (comment.startMark <+: cursor.rest → (∀ rest, ¬ comment.Leaves cursor.rest rest) →
      step.outcome = .error (.malformed
        (.missingEndComment comment.endMark (cursor.position.stepOver cursor.rest))) ∧
      step.cursor = cursor.toEnd) := by
  intro step
  have hagrees : step.Agrees (comment.read cursor) :=
    Scanner.run_agrees (.block comment) strategy cursor
  rw [hagrees.1, hagrees.2]
  refine ⟨read_eq_none_iff, ?_, ?_, fun hstart hleaves => ?_⟩
  · exact fun hnone => (comment.read_ends cursor).of_ok hnone
  · intro taken rest htext
    refine ⟨⟨fun hleaves => ?_, leaves_of_read hnesting htext⟩, fun hleaves => ?_, fun hstart => ?_⟩
    · obtain ⟨after, hpasses, hread⟩ := read_of_leaves hnesting htext hleaves
      rw [hread]
      rfl
    · obtain ⟨after, hpasses, hread⟩ := read_of_leaves hnesting htext hleaves
      rw [hread]
      exact hpasses
    · rw [htext] at hstart ⊢
      exact leaves_iff_balanced hstart
  · exact read_of_not_leaves hnesting hstart hleaves

/-- After a start mark its last character does not start an end mark too. -/
theorem nested_iff_balanced_overlap : sql.nesting = true ∧
    sql.Leaves ['/', '*', '/', ' ', '*', '/', 'x'] ['x'] ∧
    Balanced (sql.cut ['/', '*', '/', ' ', '*', '/']) := by
  have hnested := @nested_iff_balanced sql rfl .compiled
    (.ofText ['/', '*', '/', ' ', '*', '/', 'x'])
  have hboth := hnested.2.2.1 ['/', '*', '/', ' ', '*', '/'] ['x'] rfl
  have hleaves := hboth.1.2 (by decide +kernel)
  exact ⟨rfl, hleaves, ((hboth.2.2 (by decide)).1 hleaves).2.2⟩

end Lexkit.BlockComment
