import Lexkit.Proofs.Scanner.Limit

/-!
# The contract of a scan

A tree keeps the contract of a scan if its custom rules do: it stays where it was without a match,
passes some text with one, and stops at the place of an error. Whatever the rules do, a tree that
comes back by itself stays where it was without a match; nothing is needed for this but that the
scan ends, so it is shown under every limit.
-/

namespace Lexkit.Scanner

/-- Whether the root of the tree comes back by itself when it does not match. -/
def comesBack : Scanner → Bool
  | skipThen .. | traced .. => true
  | _ => false

theorem cursor_runUnder_of_comesBack {scanner : Scanner} (hroot : scanner.comesBack = true)
    {limit : Limit} {strategy : Strategy} {cursor : Cursor}
    (hnone : (scanner.runUnder limit strategy cursor).outcome = .ok none) :
    (scanner.runUnder limit strategy cursor).cursor = cursor := by
  cases scanner with
  | skipThen skipper inner => exact Scan.cursor_orReturn hnone
  | traced name inner =>
    rw [runUnder, outcome_scanTraced] at hnone
    rw [runUnder, scanTraced_of_none hnone]
  | _ => simp [comesBack] at hroot

/-- The contract of a scan, for both strategies. With honest rules the cursor stays without a match,
passes some text with one, and stops at the place of an error, not behind the start. A tree that
comes back by itself stays without a match whatever its rules do, wherever they go and however many
passes it takes. -/
theorem run_contract (scanner : Scanner) (strategy : Strategy) (cursor : Cursor) :
    (scanner.AllRules SkipRule.Honest →
      match scanner.run strategy cursor with
      | ⟨.ok none, after, _⟩ => after = cursor
      | ⟨.ok (some _), after, _⟩ =>
        cursor.offset < after.offset ∧ after.offset ≤ Text.size cursor.buffer.text ∧
          Text.dropTo cursor.buffer.text after.offset = .ok after.rest ∧
          ∃ taken, cursor.Passes taken after
      | ⟨.error (.malformed error), after, _⟩ =>
        after.position = error.position ∧ cursor.offset ≤ error.position.offset
      | ⟨.error (.fault _), _, _⟩ => False) ∧
    (scanner.comesBack = true →
      ((scanner.run strategy cursor).outcome = .ok none →
        (scanner.run strategy cursor).cursor = cursor) ∧
      ∀ limit, (scanner.runUnder limit strategy cursor).outcome = .ok none →
        (scanner.runUnder limit strategy cursor).cursor = cursor) := by
  refine ⟨fun hrules => ?_, fun hroot => ⟨?_, fun limit => cursor_runUnder_of_comesBack hroot⟩⟩
  · have hends : (scanner.run strategy cursor).Ends (fun found => cursor.Skipped found.isSome)
        cursor.FailsAt := ends_run.2 (scan_ends .skipped hrules cursor)
    generalize scanner.run strategy cursor = step at hends ⊢
    obtain ⟨outcome, after, events⟩ := step
    cases outcome with
    | ok found =>
      cases found with
      | none => exact hends
      | some slice =>
        obtain ⟨taken, htaken, hpasses⟩ := hends
        have hsize := after.offset_add_size_rest
        have hdrop := after.dropTo_text
        rw [Buffer.length_bytes, hpasses.buffer_eq] at hsize
        rw [hpasses.buffer_eq] at hdrop
        exact ⟨hpasses.offset_lt htaken, by omega, hdrop, taken, hpasses⟩
    | error halt =>
      cases halt with
      | malformed error =>
        obtain ⟨hposition, hoffset⟩ := hends
        exact ⟨hposition, hposition ▸ hoffset⟩
      | fault reason => exact hends
  · rw [← runUnder_unlimited]
    exact cursor_runUnder_of_comesBack hroot

/-- Goes back to the start from the third byte, and skips one character at the start. -/
def backOnce : Whitespace :=
  ⟨[.custom ⟨fun cursor => (.ok false, if cursor.offset = 2 then cursor.reset else cursor)⟩,
    .custom ⟨fun cursor =>
      if cursor.offset = 0 then (.ok true, cursor.advance) else (.ok false, cursor)⟩]⟩

/-- A tree stops where an honest rule refuses to go on, and undoes the move of a silent rule and the
moves of rules that go backward. -/
theorem run_contract_refused :
    ((skipThen ⟨[.custom (.run (· == '!')), .custom (.refuse (· == '?'))]⟩ (line .sql)).run
      .interpreted (.ofText ['!', '?'])).cursor.position = ⟨1, 1, 2⟩ ∧
    ((skipThen ⟨[.custom (.silent (· == '!'))]⟩ (line .sql)).run
      .compiled (.ofText ['!', '?'])).cursor = .ofText ['!', '?'] ∧
    let cursor := (Cursor.ofText ['a', 'b', 'c']).skip 2
    ((skipThen backOnce (line .sql)).run .interpreted cursor).cursor = cursor := by
  refine ⟨?_, ?_, ?_⟩
  · have hrules : (skipThen ⟨[.custom (.run (· == '!')), .custom (.refuse (· == '?'))]⟩
        (line .sql)).AllRules SkipRule.Honest := by
      refine ⟨?_, trivial⟩
      intro unit hunit
      simp only [List.mem_cons, List.not_mem_nil, or_false] at hunit
      rcases hunit with rfl | rfl
      · exact SkipRule.honest_run _
      · exact SkipRule.honest_refuse _
    have hcontract := (run_contract _ .interpreted (.ofText ['!', '?'])).1 hrules
    have houtcome : ((skipThen ⟨[.custom (.run (· == '!')), .custom (.refuse (· == '?'))]⟩
        (line .sql)).run .interpreted (.ofText ['!', '?'])).outcome =
        .error (.malformed (.zeroLengthIdentifier ⟨1, 1, 2⟩)) := by decide +kernel
    generalize (skipThen _ _).run _ _ = step at hcontract houtcome ⊢
    obtain ⟨outcome, after, events⟩ := step
    obtain rfl : outcome = _ := houtcome
    exact hcontract.1
  · exact ((run_contract _ .compiled (.ofText ['!', '?'])).2 rfl).1 (by decide +kernel)
  · have hreturns := (run_contract (skipThen backOnce (line .sql)) .interpreted
      ((Cursor.ofText ['a', 'b', 'c']).skip 2)).2 rfl
    exact hreturns.1 (by decide +kernel)

end Lexkit.Scanner
