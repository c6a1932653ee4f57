import Mathlib.Data.List.DropRight
import Lexkit.Proofs.Scanner.Limit

/-!
# What a cursor does in its life

A cursor keeps its line and column by counting on, and it jumps: to a later offset, to its start, to
a place that it had before. A session is a cursor with the positions that were kept in order to come
back to them. One operation after the other leads from session to session, and a scan is an
operation whose custom rules lead from session to session themselves. The invariant says that the
position at the cursor, and each one that was kept, is what counting from the start of the text
comes to; so line and column say nothing that the offset does not.
-/

namespace Lexkit

/-! ### Counting from the start -/

namespace Position

/-- The position is that of a place in the text. -/
def StandsIn (text : Text) (position : Position) : Prop :=
  ∃ before after, text = before ++ after ∧ position = start.stepOver before

theorem line_start_stepOver (text : Text) : (start.stepOver text).line = 1 + text.count '\n' := by
  induction text using List.reverseRecOn with
  | nil => rfl
  | append_singleton text ch ih =>
    rw [stepOver_append, stepOver_cons, stepOver_nil, List.count_append, step]
    split
    · simp_all [Nat.add_assoc]
    · simp_all

theorem column_start_stepOver (text : Text) :
    (start.stepOver text).column = 1 + (text.rtakeWhile (· ≠ '\n')).length := by
  induction text using List.reverseRecOn with
  | nil => rfl
  | append_singleton text ch ih =>
    rw [stepOver_append, stepOver_cons, stepOver_nil, List.rtakeWhile_concat, step]
    split
    · simp_all
    · simp_all [Nat.add_assoc]

end Position

namespace Cursor

variable {cursor after : Cursor} {taken : Text}

theorem standsIn_iff : cursor.position.StandsIn cursor.buffer.text ↔
    ∃ before, cursor.buffer.text = before ++ cursor.rest ∧
      cursor.position = Position.start.stepOver before := by
  constructor
  · rintro ⟨before, others, htext, hposition⟩
    obtain ⟨passed, hpassed, hsize⟩ := cursor.exists_before
    have hoffset : Text.size before = Text.size passed := by
      rw [hsize, offset, hposition, Position.offset_stepOver]
      exact (Nat.zero_add _).symm
    have hcut := Text.cut_append passed cursor.rest
    rw [← hpassed, ← hoffset, htext, Text.cut_append] at hcut
    obtain ⟨rfl, rfl⟩ : before = passed ∧ others = cursor.rest := by simpa using hcut
    exact ⟨before, htext, hposition⟩
  · rintro ⟨before, htext, hposition⟩
    exact ⟨before, cursor.rest, htext, hposition⟩

theorem Passes.standsIn (hpasses : cursor.Passes taken after)
    (hstands : cursor.position.StandsIn cursor.buffer.text) :
    after.position.StandsIn cursor.buffer.text := by
  obtain ⟨before, htext, hposition⟩ := standsIn_iff.1 hstands
  refine ⟨before ++ taken, after.rest, ?_, ?_⟩
  · rw [htext, hpasses.rest_eq, List.append_assoc]
  · rw [hpasses.position_eq, hposition, Position.stepOver_append]

end Cursor

/-! ### Sessions -/

/-- A cursor and the positions that it may be put back to. -/
structure Session where
  cursor : Cursor
  kept : List Position

namespace Session

/-- Operations on the cursor lead from the first session to the second. The custom rules of a scan
are operations too: wherever in the buffer it is applied, a rule leads from session to session. -/
inductive Leads : Session → Session → Prop
  | refl (session : Session) : Leads session session
  | trans {first second third : Session} (hfirst : Leads first second)
    (hsecond : Leads second third) : Leads first third
  | advance (cursor : Cursor) (kept : List Position) : Leads ⟨cursor, kept⟩ ⟨cursor.advance, kept⟩
  | advanceBy (count : Nat) (cursor : Cursor) (kept : List Position) :
    Leads ⟨cursor, kept⟩ ⟨(cursor.advanceBy count).2, kept⟩
  | consumeWhile (p : Char → Bool) (cursor : Cursor) (kept : List Position) :
    Leads ⟨cursor, kept⟩ ⟨(cursor.consumeWhile p).2, kept⟩
  | seek {offset : Nat} {cursor after : Cursor} (hseek : cursor.seek offset = .ok after)
    (kept : List Position) : Leads ⟨cursor, kept⟩ ⟨after, kept⟩
  | reset (cursor : Cursor) (kept : List Position) : Leads ⟨cursor, kept⟩ ⟨cursor.reset, kept⟩
  | checkpoint (cursor : Cursor) (kept : List Position) :
    Leads ⟨cursor, kept⟩ ⟨cursor, cursor.position :: kept⟩
  | restore {cursor after : Cursor} {kept : List Position} (hbuffer : after.buffer = cursor.buffer)
    (hkept : after.position ∈ kept) : Leads ⟨cursor, kept⟩ ⟨after, kept⟩
  | scan {scanner : Scanner} {Obeys : SkipRule → Prop} (limit : Limit) (strategy : Strategy)
    (cursor : Cursor) (kept : List Position) (keeps : SkipRule → Cursor → List Position)
    (hscanner : scanner.AllRules Obeys)
    (hrules : ∀ rule, Obeys rule → ∀ place, place.buffer = cursor.buffer →
      Leads ⟨place, kept⟩ ⟨(rule.apply place).2, keeps rule place⟩) :
    Leads ⟨cursor, kept⟩ ⟨(scanner.runUnder limit strategy cursor).cursor, kept⟩

/-- The cursor is in the buffer, and its position and those that were kept are right. -/
structure Right (buffer : Buffer) (session : Session) : Prop where
  buffer_eq : session.cursor.buffer = buffer
  stands : session.cursor.position.StandsIn buffer.text
  kept : ∀ position ∈ session.kept, position.StandsIn buffer.text

variable {buffer : Buffer} {first second session : Session}

theorem right_ofBuffer (buffer : Buffer) : Right buffer ⟨.ofBuffer buffer, []⟩ where
  buffer_eq := rfl
  stands := ⟨[], buffer.text, rfl, rfl⟩
  kept := by simp

theorem Right.of_passes {cursor after : Cursor} {taken : Text} {kept : List Position}
    (hpasses : cursor.Passes taken after) (hright : Right buffer ⟨cursor, kept⟩) :
    Right buffer ⟨after, kept⟩ := by
  obtain ⟨rfl, hstands, hkept⟩ := hright
  exact ⟨hpasses.buffer_eq, hpasses.standsIn hstands, hkept⟩

/-- What leads from a right session to a right one can be taken by a scan. -/
theorem route_right (buffer : Buffer) (kept : List Position) :
    Route fun cursor after => Right buffer ⟨cursor, kept⟩ → Right buffer ⟨after, kept⟩ where
  of_passes hpasses := .of_passes hpasses
  trans hfirst hsecond := fun hright => hsecond (hfirst hright)

theorem Leads.right (hleads : Leads first second) (hright : Right buffer first) :
    Right buffer second := by
  induction hleads with
  | refl session => exact hright
  | trans hfirst hsecond ihfirst ihsecond => exact ihsecond (ihfirst hright)
  | advance cursor kept => exact hright.of_passes cursor.passes_advance_take
  | advanceBy count cursor kept => exact hright.of_passes (cursor.passes_skip count)
  | consumeWhile p cursor kept => exact hright.of_passes (cursor.passes_skipWhile p)
  | seek hseek kept =>
    obtain ⟨⟨taken, hpasses⟩, -⟩ := Cursor.seek_eq_ok_iff.1 hseek
    exact hright.of_passes hpasses
  | reset cursor kept =>
    have hbuffer := hright.buffer_eq
    exact ⟨hbuffer, (right_ofBuffer buffer).stands, hright.kept⟩
  | checkpoint cursor kept =>
    exact ⟨hright.buffer_eq, hright.stands, List.forall_mem_cons.2 ⟨hright.stands, hright.kept⟩⟩
  | restore hbuffer hkept =>
    exact ⟨hbuffer.trans hright.buffer_eq, hright.kept _ hkept, hright.kept⟩
  | @scan scanner Obeys limit strategy cursor kept keeps hscanner hrules ih =>
    refine (route_right buffer kept).runUnder (hscanner.mono ?_) cursor hright
    intro rule hobeys place hplace
    have hbuffer : place.buffer = cursor.buffer := hplace.buffer_eq.trans hright.buffer_eq.symm
    have hafter := ih rule hobeys place hbuffer hplace
    exact ⟨hafter.buffer_eq, hafter.stands, hright.kept⟩

theorem Right.exists_before (hright : Right buffer session) :
    ∃ before, Text.cut buffer.text session.cursor.offset = .ok (before, session.cursor.rest) ∧
      session.cursor.position = Position.start.stepOver before := by
  obtain ⟨rfl, hstands, -⟩ := hright
  obtain ⟨before, htext, hposition⟩ := Cursor.standsIn_iff.1 hstands
  refine ⟨before, ?_, hposition⟩
  rw [Cursor.offset, hposition, Position.offset_stepOver, htext]
  exact (Nat.zero_add (Text.size before)).symm ▸ Text.cut_append _ _

/-- A position that was kept is that of a cursor, so it can always be restored. -/
theorem Right.exists_restore (hright : Right buffer session) {position : Position}
    (hkept : position ∈ session.kept) :
    ∃ after : Cursor, after.position = position ∧ Leads session ⟨after, session.kept⟩ := by
  obtain ⟨before, ahead, htext, rfl⟩ := hright.kept position hkept
  have hpasses := (Cursor.ofBuffer buffer).passes_pass before ahead htext
  exact ⟨_, hpasses.position_eq, .restore (hpasses.buffer_eq.trans hright.buffer_eq.symm) hkept⟩

/-- Whatever route leads to it, a cursor stands between two characters of its buffer, its line
counts the line feeds before it, and its column the characters since the last of them. So the
offset tells the position. And every position that was kept can be restored. -/
theorem position_of_leads (hleads : Leads ⟨.ofBuffer buffer, []⟩ session) :
    (∃ before, Text.cut buffer.text session.cursor.offset = .ok (before, session.cursor.rest) ∧
      session.cursor.offset ≤ Text.size buffer.text ∧
      session.cursor.position.line = 1 + before.count '\n' ∧
      session.cursor.position.column = 1 + (before.rtakeWhile (· ≠ '\n')).length) ∧
    (∀ other, Leads ⟨.ofBuffer buffer, []⟩ other → other.cursor.offset = session.cursor.offset →
      other.cursor = session.cursor) ∧
    ∀ position ∈ session.kept,
      ∃ after : Cursor, after.position = position ∧ Leads session ⟨after, session.kept⟩ := by
  have hright := hleads.right (right_ofBuffer buffer)
  obtain ⟨before, hcut, hposition⟩ := hright.exists_before
  refine ⟨⟨before, hcut, ?_, ?_, ?_⟩, fun other hother hoffset => ?_, fun position hkept => ?_⟩
  · have hsize := session.cursor.offset_add_size
    rw [hright.buffer_eq] at hsize
    exact hsize ▸ Nat.le_add_right _ _
  · rw [hposition, Position.line_start_stepOver]
  · rw [hposition, Position.column_start_stepOver]
  · have hright' := hother.right (right_ofBuffer buffer)
    obtain ⟨before', hcut', hposition'⟩ := hright'.exists_before
    -- One offset cuts the text in one way.
    rw [hoffset, hcut] at hcut'
    obtain ⟨rfl, hrest⟩ : before = before' ∧ session.cursor.rest = other.cursor.rest := by
      simpa using hcut'
    exact Cursor.eq_of_rest_eq (hright'.buffer_eq.trans hright.buffer_eq.symm) hrest.symm
      (hposition'.trans hposition.symm)
  · exact hright.exists_restore hkept

/-- The rule that goes back to the start of the buffer and answers that nothing was skipped. -/
def homing : SkipRule where
  apply cursor := (.ok false, cursor.reset)

/-- A scan from the second line that goes back first ends where walking over its match ends. -/
theorem position_of_leads_homing :
    ((Scanner.skipThen ⟨[.custom homing]⟩ (.quoted .sql)).runUnder .unlimited .compiled
      ((Cursor.ofText ['[', 'é', ']', '\n', 'b']).advanceBy 5).2).cursor =
      ((Cursor.ofText ['[', 'é', ']', '\n', 'b']).advanceBy 3).2 := by
  have hrules : (Scanner.skipThen ⟨[.custom homing]⟩ (.quoted .sql)).AllRules (· = homing) := by
    refine ⟨fun unit hunit => ?_, trivial⟩
    obtain rfl := List.mem_singleton.1 hunit
    exact rfl
  have hscan := Leads.scan .unlimited .compiled
    ((Cursor.ofText ['[', 'é', ']', '\n', 'b']).advanceBy 5).2 [] (fun _ _ => []) hrules (by
      rintro rule rfl place -
      exact .reset place [])
  exact (position_of_leads (.advanceBy 3 _ [])).2.1 _ ((Leads.advanceBy 5 _ []).trans hscan)
    (by decide +kernel)

end Session

end Lexkit
