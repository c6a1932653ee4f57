import Lexkit.Pattern
import Lexkit.Proofs.Scan

/-!
# Patterns

The end of a match lies between two characters of the text, whatever matcher has found it. Walking
to that end and leaping there then pass the same text.
-/

namespace Lexkit

namespace Pattern

variable {cursor after : Cursor} {taken : Text}

theorem walkTo_of_passes (hpasses : cursor.Passes taken after) :
    walkTo after.offset cursor = after := by
  induction taken generalizing cursor with
  | nil =>
    obtain rfl := hpasses.eq_of_nil
    rw [walkTo, if_neg (Nat.lt_irrefl _)]
  | cons ch taken ih =>
    have hrest := hpasses.rest_eq
    rw [walkTo, if_pos (hpasses.offset_lt (List.cons_ne_nil _ _))]
    split
    · rename_i hnil
      simp [hrest] at hnil
    · exact ih hpasses.advance

variable (pattern : Pattern)

theorem matchSize_boundary {text : Text} {size : Nat}
    (hmatch : pattern.matchSize text = some size) :
    ∃ taken, taken ≠ [] ∧ taken <+: text ∧ Text.size taken = size := by
  obtain ⟨hsearch, hpos⟩ := Option.filter_eq_some_iff.1 hmatch
  obtain ⟨taken, hinitial, hsize⟩ := pattern.matcher.boundary hsearch
  refine ⟨taken, ?_, hinitial, hsize⟩
  rintro rfl
  simp [← hsize] at hpos

/-- At a cursor a pattern matches nothing, or a text that the cursor can pass. -/
theorem match_cases (cursor : Cursor) : pattern.matchSize cursor.rest = none ∨
    ∃ taken after, taken ≠ [] ∧ pattern.matchSize cursor.rest = some (Text.size taken) ∧
      cursor.Passes taken after := by
  cases hmatch : pattern.matchSize cursor.rest with
  | none => exact .inl rfl
  | some size =>
    obtain ⟨taken, htaken, ⟨rest, hrest⟩, hsize⟩ := pattern.matchSize_boundary hmatch
    exact .inr ⟨taken, _, htaken, by rw [hsize], cursor.passes_pass taken rest hrest.symm⟩

theorem scan_of_unmatched (hmatch : pattern.matchSize cursor.rest = none) :
    pattern.scan cursor = .done none cursor := by
  rw [scan, Scan.bind_apply, Scan.here_apply, Step.bind_done, Cursor.remaining]
  dsimp only
  rw [hmatch]
  rfl

theorem scan_of_matched (hmatch : pattern.matchSize cursor.rest = some (Text.size taken))
    (hpasses : cursor.Passes taken after) :
    pattern.scan cursor = .done (some ⟨cursor.buffer, cursor.offset, taken⟩) after := by
  rw [scan, Scan.bind_apply, Scan.here_apply, Step.bind_done, Cursor.remaining]
  dsimp only
  rw [hmatch]
  simp only [Scan.bind_apply, Scan.goTo_apply, Step.bind_done, ← hpasses.offset_eq,
    walkTo_of_passes hpasses, Scan.sliceFrom_of_passes hpasses]
  rfl

theorem scan_ends {bad : ScanError → Cursor → Prop} (cursor : Cursor) :
    (pattern.scan cursor).Ends cursor.Reads bad := by
  rcases pattern.match_cases cursor with hmatch | ⟨taken, after, htaken, hmatch, hpasses⟩
  · rw [pattern.scan_of_unmatched hmatch]
    exact rfl
  · rw [pattern.scan_of_matched hmatch hpasses]
    exact ⟨taken, htaken, rfl, hpasses⟩

theorem run_compile (cursor : Cursor) : pattern.compile.run cursor = pattern.scan cursor := by
  simp only [compile, Scan.bind_apply, Scan.here_apply, Step.bind_done, cursor.dropTo_text,
    Scan.attempt_ok]
  rcases pattern.match_cases cursor with hmatch | ⟨taken, after, htaken, hmatch, hpasses⟩
  · rw [pattern.scan_of_unmatched hmatch, hmatch]
    rfl
  · have hcommit := Scan.commit_of_passes hpasses
    rw [pattern.scan_of_matched hmatch hpasses, hmatch]
    rw [hpasses.offset_eq] at hcommit
    exact congrArg (fun step => step.bind fun slice => pure (some slice)) hcommit

end Pattern

end Lexkit
