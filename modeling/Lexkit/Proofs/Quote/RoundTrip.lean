import Lexkit.Proofs.Scanner

/-!
# Quoting and scanning

A name is quoted by doubling the end character in it and setting it between the quotes. Scanning
takes exactly the quoted names: what it makes of a quoted name is the name, and what it takes is the
name it gives, quoted. The walk to the closing quote goes through an escaped text without a stop
(`close_after_escape`), so it stops at the first end character after that text, unless the next
character is one too.
-/

namespace Lexkit.QuotedIdentifier

/-- A text between quotes, with every end character in it doubled. -/
def quote (first stop : Char) (name : Slice) (fresh : Nat) : Text :=
  first :: ((name.escape stop fresh).text ++ [stop])

theorem quote_eq_rawText (first stop : Char) (name : Slice) (fresh : Nat) :
    quote first stop name fresh = rawText first stop name.text := by
  rw [quote, Slice.text_escape, rawText]

/-! ### Where the walk stops -/

variable {stop : Char} {cursor : Cursor} {inner tail behind : Text}

theorem close_after_escape (hrest : cursor.rest = Text.escape stop inner ++ tail) :
    ∃ middle, cursor.Passes (Text.escape stop inner) middle ∧ middle.rest = tail ∧
      close stop cursor = close stop middle := by
  induction inner generalizing cursor with
  | nil => exact ⟨cursor, .refl cursor, hrest, rfl⟩
  | cons c inner ih =>
    by_cases hc : c = stop
    · subst hc
      rw [Text.escape_cons_self] at hrest ⊢
      have hpair : cursor.Passes [c, c] (cursor.skip 2) := by
        simpa [hrest] using cursor.passes_skip 2
      have hahead : (cursor.skip 2).rest = Text.escape c inner ++ tail := by
        rw [Cursor.rest_skip, hrest]
        rfl
      have hnext : cursor.peekNth 1 = some c := by
        rw [Cursor.peekNth, hrest]
        rfl
      obtain ⟨middle, hpasses, hmiddle, hclose⟩ := ih hahead
      exact ⟨middle, hpair.trans hpasses, hmiddle, (close_of_pair hrest hnext).trans hclose⟩
    · rw [Text.escape_cons_of_ne stop hc] at hrest ⊢
      obtain ⟨middle, hpasses, hmiddle, hclose⟩ := ih (Cursor.rest_advance_of_cons hrest)
      exact ⟨middle, (Cursor.passes_advance hrest).trans hpasses, hmiddle,
        (close_of_ne hrest hc).trans hclose⟩

theorem close_of_escape (hrest : cursor.rest = Text.escape stop inner) :
    close stop cursor = .error cursor.toEnd := by
  have happend : cursor.rest = Text.escape stop inner ++ [] := by rw [hrest, List.append_nil]
  obtain ⟨middle, hpasses, hmiddle, hclose⟩ := close_after_escape happend
  rw [hclose, close_of_nil hmiddle, hpasses.eq_toEnd hmiddle]

theorem close_of_escape_stop (hrest : cursor.rest = Text.escape stop inner ++ stop :: behind)
    (hbehind : behind.head? ≠ some stop) :
    ∃ after, close stop cursor = .ok after ∧ after.rest = behind ∧
      cursor.Passes (Text.escape stop inner ++ [stop]) after := by
  obtain ⟨middle, hpasses, hmiddle, hclose⟩ := close_after_escape hrest
  have hnext : middle.peekNth 1 ≠ some stop := by
    rwa [Cursor.peekNth, hmiddle, List.getElem?_cons_succ, ← List.head?_eq_getElem?]
  refine ⟨middle.advance, ?_, Cursor.rest_advance_of_cons hmiddle,
    hpasses.trans (Cursor.passes_advance hmiddle)⟩
  rw [hclose, close_of_stop hmiddle hnext]

/-! ### What is scanned -/

variable {quoted : QuotedIdentifier} {first : Char}

theorem opening_of_cons (hrest : cursor.rest = first :: tail)
    (hend : quoted.endFor first = some stop) : quoted.opening cursor = some (first, stop) := by
  rw [opening, Cursor.peek, hrest, List.head?_cons, Option.bind_some, hend, Option.map_some]

/-- A quoted text in front of a cursor is what the walk passes. -/
theorem close_of_rawText (hrest : cursor.rest = rawText first stop inner ++ behind)
    (hbehind : behind.head? ≠ some stop) :
    ∃ after, close stop cursor.advance = .ok after ∧ after.rest = behind ∧
      cursor.Passes (rawText first stop inner) after := by
  have hcons : cursor.rest = first :: (Text.escape stop inner ++ stop :: behind) := by
    rw [hrest, rawText, List.cons_append, List.append_assoc, List.singleton_append]
  obtain ⟨after, hclose, hafter, hpasses⟩ :=
    close_of_escape_stop (Cursor.rest_advance_of_cons hcons) hbehind
  exact ⟨after, hclose, hafter, (Cursor.passes_advance hcons).trans hpasses⟩

/-- Scanning undoes quoting. Where a quoted name stands in front of the cursor and no further end
character follows it, a scan gives that name and stops after the quotes, unless the name is empty.
And whatever name a scan gives, what it has passed is that name, quoted, with no end character after
it. -/
theorem scan_undoes_quote (quoted : QuotedIdentifier) (strategy : Strategy) (cursor : Cursor)
    (fresh : Nat) :
    (∀ first stop name rest, quoted.endFor first = some stop → name.text ≠ [] →
      rest.head? ≠ some stop → cursor.rest = quote first stop name fresh ++ rest →
        ∃ found after,
          ((Scanner.quoted quoted).run strategy cursor).Agrees (.done (some found) after) ∧
            found.text = name.text ∧ cursor.Passes (quote first stop name fresh) after ∧
            after.rest = rest) ∧
    ∀ found, ((Scanner.quoted quoted).run strategy cursor).outcome = .ok (some found) →
      ∃ first stop, cursor.peek = some first ∧ quoted.endFor first = some stop ∧ found.text ≠ [] ∧
        cursor.Passes (quote first stop found fresh)
          ((Scanner.quoted quoted).run strategy cursor).cursor ∧
        ((Scanner.quoted quoted).run strategy cursor).cursor.rest.head? ≠ some stop := by
  have hagrees := (Scanner.quoted quoted).run_agrees strategy cursor
  constructor
  · intro first stop name rest hend hname hlast hrest
    rw [quote_eq_rawText] at hrest ⊢
    obtain ⟨after, hclose, hafter, hpasses⟩ := close_of_rawText hrest hlast
    have hscan := scan_of_closed (opening_of_cons hrest hend) hclose hpasses
    rw [if_neg hname] at hscan
    refine ⟨unquoted cursor first stop name.text, after, ?_, text_unquoted, hpasses, hafter⟩
    rw [← hscan]
    exact hagrees
  · intro found hfound
    rw [hagrees.1] at hfound
    rw [hagrees.2]
    obtain ⟨first, stop, hend, hname, hpasses, hlast⟩ :=
      (quoted.scan_unquotes cursor).of_ok hfound
    have hpeek : cursor.peek = some first := by
      rw [Cursor.peek, hpasses.rest_eq]
      rfl
    exact ⟨first, stop, hpeek, hend, hname, quote_eq_rawText first stop found fresh ▸ hpasses,
      hlast⟩

/-- A name that ends with a bracket, in brackets, on the second line. -/
theorem scan_undoes_quote_bracket :
    ∃ found after, ((Scanner.quoted .sql).run .compiled
        (Cursor.ofText ['\n', '[', 'a', ']', ']', ']', 'x']).advance).Agrees
          (.done (some found) after) ∧
      found.text = ['a', ']'] ∧ after.rest = ['x'] ∧ after.rest.head? ≠ some ']' := by
  obtain ⟨hquoted, hscanned⟩ := scan_undoes_quote .sql .compiled
    (Cursor.ofText ['\n', '[', 'a', ']', ']', ']', 'x']).advance 2
  obtain ⟨found, after, hagrees, htext, -, hrest⟩ := hquoted '[' ']'
    (.whole (.ofText 1 ['a', ']'])) ['x'] (by decide) (by decide) (by decide) (by decide)
  obtain ⟨first, stop, hpeek, hend, -, -, hlast⟩ := hscanned found hagrees.1
  obtain rfl : '[' = first := Option.some.inj hpeek
  obtain rfl : ']' = stop := Option.some.inj hend
  refine ⟨found, after, hagrees, htext, hrest, ?_⟩
  rwa [hagrees.2] at hlast

end Lexkit.QuotedIdentifier
