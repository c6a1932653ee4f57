import Lexkit.Proofs.Quote.RoundTrip
import Lexkit.Proofs.Slice.Runs

/-!
# Where a quoted identifier closes

Which end character closes an identifier shows in the runs of end characters after the opening
quote: it is the last one of the first run of odd length, and without such a run the identifier is
not closed. The walk does not count; it takes end characters in pairs. Both come to the same because
the text after the opening quote is an escaped text, or one up to an end character that is not
followed by another one, and the runs tell which of the two.
-/

namespace Lexkit.QuotedIdentifier

variable {quoted : QuotedIdentifier} {cursor after : Cursor} {first stop : Char}
  {inner behind body : Text}

/-! ### The end character of a start character -/

/-- The end character is that of the first pair with the start character. -/
theorem endFor_eq_some_iff : quoted.endFor first = some stop ↔
    ∃ earlier later, quoted.specs = earlier ++ ⟨first, stop⟩ :: later ∧
      ∀ spec ∈ earlier, spec.start ≠ first := by
  rw [endFor, Option.map_eq_some_iff]
  constructor
  · rintro ⟨spec, hfind, rfl⟩
    obtain ⟨hstart, earlier, later, hspecs, hearlier⟩ := List.find?_eq_some_iff_append.1 hfind
    obtain rfl : spec.start = first := by simpa using hstart
    exact ⟨earlier, later, hspecs, fun other hother => by simpa using hearlier other hother⟩
  · rintro ⟨earlier, later, hspecs, hearlier⟩
    have hfind : quoted.specs.find? (·.start == first) = some ⟨first, stop⟩ :=
      List.find?_eq_some_iff_append.2 ⟨by simp, earlier, later, hspecs, fun spec hspec => by
        simpa using hearlier spec hspec⟩
    exact ⟨⟨first, stop⟩, hfind, rfl⟩

/-! ### Reading and scanning a closed identifier -/

theorem readRaw_agrees (quoted : QuotedIdentifier) (strategy : Strategy) (cursor : Cursor) :
    ((Scanner.quoted quoted).readRaw strategy cursor).Agrees (quoted.read cursor) := by
  cases strategy with
  | interpreted => exact .refl _
  | compiled => exact Step.agrees_of_eq_quiet (quoted.run_compileRead cursor)

/-- The value of a scan is the slice of the buffer between the quotes exactly if there is nothing to
undouble, and it has no part in the buffer otherwise. -/
theorem unquoted_shares (cursor : Cursor) (first stop : Char) (inner : Text) :
    (unquoted cursor first stop inner =
        ⟨cursor.buffer, cursor.offset + first.utf8Size, Text.escape stop inner⟩ ↔
      ¬ [stop, stop] <:+: Text.escape stop inner) ∧
    ((unquoted cursor first stop inner).buffer.id = cursor.buffer.id ↔
      ¬ [stop, stop] <:+: Text.escape stop inner) := by
  rw [← Text.hasPair_iff, unquoted, Slice.unescape]
  split
  · rename_i hpair
    have hfresh : cursor.buffer.id + 1 ≠ cursor.buffer.id := Nat.succ_ne_self _
    refine ⟨⟨fun hsame => ?_, fun hno => absurd hpair hno⟩,
      ⟨fun hsame => ?_, fun hno => absurd hpair hno⟩⟩
    · exact absurd (congrArg (·.buffer.id) hsame) hfresh
    · exact absurd hsame hfresh
  · rename_i hpair
    exact ⟨⟨fun _ => hpair, fun _ => rfl⟩, fun _ => hpair, fun _ => rfl⟩

/-- What reading and scanning come to at an identifier that is closed at `after`, with `content`
between its quotes. -/
structure ClosesAt (quoted : QuotedIdentifier) (strategy : Strategy) (cursor : Cursor)
    (first stop : Char) (content : Text) (after : Cursor) : Prop where
  passes : cursor.Passes (first :: (content ++ [stop])) after
  read_nil : content = [] → ((Scanner.quoted quoted).readRaw strategy cursor).Agrees
    (.malformed (.zeroLengthIdentifier after.position) after)
  read_ne : content ≠ [] → ((Scanner.quoted quoted).readRaw strategy cursor).Agrees
    (.done (some ⟨cursor.buffer, cursor.offset, first :: (content ++ [stop])⟩) after)
  scan_ne : content ≠ [] → ∃ value,
    ((Scanner.quoted quoted).run strategy cursor).Agrees (.done (some value) after) ∧
      (value = ⟨cursor.buffer, cursor.offset + first.utf8Size, content⟩ ↔
        ¬ [stop, stop] <:+: content) ∧
      (value.buffer.id = cursor.buffer.id ↔ ¬ [stop, stop] <:+: content)

theorem closesAt_of_close (strategy : Strategy)
    (hopening : quoted.opening cursor = some (first, stop))
    (hclose : close stop cursor.advance = .ok after)
    (hpasses : cursor.Passes (rawText first stop inner) after) :
    ClosesAt quoted strategy cursor first stop (Text.escape stop inner) after := by
  have hread := quoted.readRaw_agrees strategy cursor
  have hscan := (Scanner.quoted quoted).run_agrees strategy cursor
  rw [read_of_closed hopening hclose hpasses] at hread
  rw [Scanner.scan, scan_of_closed hopening hclose hpasses] at hscan
  refine ⟨hpasses, fun hnil => ?_, fun hne => ?_, fun hne => ?_⟩
  · rwa [if_pos ((Text.escape_eq_nil stop).1 hnil)] at hread
  · rwa [if_neg fun hnil => hne ((Text.escape_eq_nil stop).2 hnil)] at hread
  · rw [if_neg fun hnil => hne ((Text.escape_eq_nil stop).2 hnil)] at hscan
    exact ⟨_, hscan, unquoted_shares cursor first stop inner⟩

/-! ### Where reading ends -/

theorem readRaw_of_evenRuns (strategy : Strategy) (hrest : cursor.rest = first :: body)
    (hend : quoted.endFor first = some stop) (heven : Text.EvenRuns stop body) :
    ((Scanner.quoted quoted).readRaw strategy cursor).Agrees
      (.malformed (.unclosedQuote stop cursor.toEnd.position) cursor.toEnd) := by
  obtain ⟨inner, rfl⟩ := Text.evenRuns_iff.1 heven
  have hpasses := (Cursor.passes_advance hrest).trans cursor.advance.passes_toEnd
  have hclose := close_of_escape (Cursor.rest_advance_of_cons hrest)
  rw [hpasses.eq_toEnd rfl] at hclose
  have hread := read_of_unclosed (opening_of_cons hrest hend) hclose
  have hagrees := quoted.readRaw_agrees strategy cursor
  rw [hread] at hagrees
  exact hagrees

theorem closesAt_of_firstOddRun {before : Text} {length : Nat} (strategy : Strategy)
    (hrest : cursor.rest = first :: body) (hend : quoted.endFor first = some stop)
    (hfirst : Text.FirstOddRun stop body before length behind) :
    ∃ after, after.rest = behind ∧ ClosesAt quoted strategy cursor first stop
      (before ++ List.replicate (length - 1) stop) after := by
  obtain ⟨inner, hinner, hbody⟩ := hfirst.escape_eq
  have hraw : cursor.rest = rawText first stop inner ++ behind := by
    rw [hrest, hbody, rawText, List.cons_append, List.append_assoc, List.singleton_append]
  obtain ⟨after, hclose, hafter, hpasses⟩ := close_of_rawText hraw hfirst.behind_ne
  rw [← hinner]
  exact ⟨after, hafter, closesAt_of_close strategy (opening_of_cons hrest hend) hclose hpasses⟩

/-- Nothing is read where no start character stands. After one, the identifier is closed by the last
end character of the first odd run; without such a run reading fails at the end of the text. -/
theorem closes_at_first_oddRun (quoted : QuotedIdentifier) (strategy : Strategy)
    (cursor : Cursor) :
    (∀ first stop, quoted.endFor first = some stop ↔
      ∃ earlier later, quoted.specs = earlier ++ ⟨first, stop⟩ :: later ∧
        ∀ spec ∈ earlier, spec.start ≠ first) ∧
    ((∀ spec ∈ quoted.specs, cursor.peek ≠ some spec.start) →
      ((Scanner.quoted quoted).readRaw strategy cursor).Agrees (.done none cursor)) ∧
    ∀ first stop body, cursor.rest = first :: body → quoted.endFor first = some stop →
      (Text.EvenRuns stop body →
        ((Scanner.quoted quoted).readRaw strategy cursor).Agrees
          (.malformed (.unclosedQuote stop cursor.toEnd.position) cursor.toEnd)) ∧
      (¬ Text.EvenRuns stop body →
        ∃ before length behind, Text.FirstOddRun stop body before length behind) ∧
      ∀ before length behind, Text.FirstOddRun stop body before length behind →
        ∃ after, after.rest = behind ∧ ClosesAt quoted strategy cursor first stop
          (before ++ List.replicate (length - 1) stop) after := by
  refine ⟨fun first stop => endFor_eq_some_iff, fun hnone => ?_, ?_⟩
  · rw [← read_of_unopened (opening_eq_none hnone)]
    exact quoted.readRaw_agrees strategy cursor
  · intro first stop body hrest hend
    exact ⟨readRaw_of_evenRuns strategy hrest hend, Text.exists_firstOddRun_of_not_evenRuns,
      fun before length behind hfirst => closesAt_of_firstOddRun strategy hrest hend hfirst⟩

/-- Brackets after brackets: those at the start and all but the last at the end are content. Where
only pairs are left nothing closes the identifier. -/
theorem closes_at_first_oddRun_brackets :
    (∃ value after, ((Scanner.quoted .sql).run .compiled
        (Cursor.ofText ['[', ']', ']', 'a', ']', ']', ']', 'x'])).Agrees
          (.done (some value) after) ∧ after.rest = ['x'] ∧ value.buffer.id ≠ 0) ∧
    ∃ after, ((Scanner.quoted .sql).readRaw .interpreted (Cursor.ofText ['[', ']', ']'])).Agrees
      (.malformed (.unclosedQuote ']' after.position) after) ∧ after.rest = [] := by
  constructor
  · have hnext : (['x'] : Text).head? ≠ some ']' := by decide
    obtain ⟨before, length, hfirst, -⟩ := Text.exists_firstOddRun [']', 'a', ']'] hnext
    obtain ⟨inner, hinner, htext⟩ := hfirst.escape_eq
    obtain ⟨-, -, hopened⟩ := closes_at_first_oddRun .sql .compiled
      (Cursor.ofText ['[', ']', ']', 'a', ']', ']', ']', 'x'])
    obtain ⟨-, -, hcloses⟩ := hopened '[' ']' [']', ']', 'a', ']', ']', ']', 'x'] rfl (by decide)
    obtain ⟨after, hafter, hcloses⟩ := hcloses before length ['x'] hfirst
    rw [← hinner, ← List.append_cancel_right htext] at hcloses
    obtain ⟨value, hvalue, -, hshares⟩ := hcloses.scan_ne (by decide)
    refine ⟨value, after, hvalue, hafter, fun hsame => ?_⟩
    exact hshares.1 hsame (Text.hasPair_iff.1 (by decide))
  · obtain ⟨-, -, hopened⟩ := closes_at_first_oddRun .sql .interpreted
      (Cursor.ofText ['[', ']', ']'])
    obtain ⟨hunclosed, -⟩ := hopened '[' ']' [']', ']'] rfl (by decide)
    exact ⟨_, hunclosed (Text.evenRuns_escape ']' [']']), rfl⟩

end Lexkit.QuotedIdentifier
