import Lexkit.Proofs.Scanner.Events
import Lexkit.Proofs.Whitespace.Order

/-!
# Skipping as much as possible

Nothing in the loop of passes shows that it ends. It does where every rule goes forward: each pass
but the last one leaves less to read, so there is at most one pass more than there are bytes. What
has been skipped then falls into pieces, each of them skipped by one unit (`Pieces`).

The last pass skips nothing. If units leave the cursor alone when they skip nothing, it has run all
of them at the place where skipping stops. So none has anything to do there, and skipping once more
changes nothing.
-/

namespace Lexkit

/-- A rule that moves as the built-in units do leaves the cursor alone when it skips nothing. -/
theorem SkipRule.Honest.still {rule : SkipRule} (hhonest : rule.Honest) : rule.Still := by
  intro cursor hno
  have hends := hhonest cursor
  rw [SkipRule.scan] at hends
  generalize rule.apply cursor = answer at hno hends
  obtain ⟨outcome, after⟩ := answer
  obtain rfl : outcome = .ok false := hno
  exact hends

namespace Whitespace

/-! ### Pieces -/

/-- Units of the list lead from the first cursor to the second, one after the other, and the pieces
are what they skip. -/
inductive Pieces (units : List (Scan Bool)) : Cursor → List Text → Cursor → Prop
  | nil (cursor : Cursor) : Pieces units cursor [] cursor
  | cons {unit : Scan Bool} {cursor after : Cursor} {piece : Text} {pieces : List Text}
      (hunit : unit ∈ units) (hyes : (unit cursor).outcome = .ok true) (hpiece : piece ≠ [])
      (hrest : cursor.rest = piece ++ (unit cursor).cursor.rest)
      (hpieces : Pieces units (unit cursor).cursor pieces after) :
      Pieces units cursor (piece :: pieces) after

variable {units : List (Scan Bool)} {cursor middle after : Cursor} {pieces others : List Text}

theorem Pieces.append (hpieces : Pieces units cursor pieces middle)
    (hothers : Pieces units middle others after) :
    Pieces units cursor (pieces ++ others) after := by
  induction hpieces with
  | nil cursor => exact hothers
  | cons hunit hyes hpiece hrest _ ih => exact .cons hunit hyes hpiece hrest (ih hothers)

theorem Pieces.rest_eq (hpieces : Pieces units cursor pieces after) :
    cursor.rest = pieces.flatten ++ after.rest := by
  induction hpieces with
  | nil cursor => rfl
  | cons _ _ _ hrest _ ih => rw [hrest, ih, List.flatten_cons, List.append_assoc]

/-- What a skip has passed falls into pieces, and there are some exactly if it answers yes. -/
def Divides (units : List (Scan Bool)) (cursor : Cursor) (skipped : Bool) (after : Cursor) : Prop :=
  ∃ pieces, Pieces units cursor pieces after ∧ (skipped = true ↔ pieces ≠ [])

theorem chain_divides :
    SkipChain
      (fun cursor skipped after => cursor.Moves skipped after ∧ Divides units cursor skipped after)
      fun _ _ _ => True where
  refl cursor := ⟨⟨rfl, Nat.le_refl _, nofun⟩, [], .nil cursor, by simp⟩
  moves hgood := hgood.1
  trans := by
    rintro cursor first middle second after ⟨hfirst, pieces, hpieces, hyes⟩
      ⟨hsecond, others, hothers, hyes'⟩
    refine ⟨hfirst.trans hsecond, pieces ++ others, hpieces.append hothers, ?_⟩
    rw [Bool.or_eq_true_iff, hyes, hyes', ne_eq (pieces ++ others), List.append_eq_nil_iff,
      Classical.not_and_iff_not_or_not]
  bad_trans _ _ := trivial

/-- What one unit skips is one piece. -/
theorem divides_unit {unit : Scan Bool} (hunit : unit ∈ units) (hstill : unit.Still)
    (hends : (unit cursor).Ends cursor.Moves fun _ _ => True) :
    (unit cursor).Ends
      (fun skipped after => cursor.Moves skipped after ∧ Divides units cursor skipped after)
      fun _ _ => True := by
  refine hends.and_of_ok fun skipped hskipped => ?_
  cases skipped with
  | false =>
    rw [hstill cursor hskipped]
    exact ⟨[], .nil cursor, by simp⟩
  | true =>
    obtain ⟨piece, hpiece, hrest⟩ := (hends.of_ok hskipped).exists_piece
    exact ⟨[piece], .cons hunit hskipped hpiece hrest (.nil _), by simp⟩

/-! ### Where skipping stops -/

/-- All there is to skip has been skipped: what was passed falls into pieces, and no unit has
anything to do at the place where skipping stopped. -/
structure SkipsAll (units : List (Scan Bool)) (cursor : Cursor) (skipped : Bool) (after : Cursor) :
    Prop where
  pieces : ∃ pieces, Pieces units cursor pieces after ∧
    cursor.rest = pieces.flatten ++ after.rest ∧ (skipped = true ↔ pieces ≠ [])
  moved : skipped = true ↔ cursor.offset < after.offset
  stayed : skipped = false ↔ after = cursor
  idle : ∀ unit ∈ units, (unit after).outcome = .ok false

section

variable (hends : ∀ unit ∈ units, ∀ cursor, (unit cursor).Ends cursor.Moves fun _ _ => True)
include hends

theorem passes_moves (cursor : Cursor) :
    (passes units cursor).Ends cursor.Moves fun _ _ => True :=
  passes_ends SkipBound.moving.chain (pass_ends SkipBound.moving.chain hends) cursor

/-- A pass that is not the last one passes a byte at least. -/
theorem passesWithin_size (cursor : Cursor) :
    passesWithin units (Text.size cursor.rest + 1) cursor = passes units cursor := by
  have hadvances := advances_pass SkipBound.moving.chain (pass_ends SkipBound.moving.chain hends)
  exact passesWithin_eq_passes hadvances (Nat.lt_succ_of_le (Text.length_le_size cursor.rest))

variable (hstill : ∀ unit ∈ units, unit.Still)
include hstill

theorem passes_divides (cursor : Cursor) :
    (passes units cursor).Ends
      (fun skipped after => cursor.Moves skipped after ∧ Divides units cursor skipped after)
      fun _ _ => True :=
  passes_ends chain_divides
    (pass_ends chain_divides fun unit hunit cursor =>
      divides_unit hunit (hstill unit hunit) (hends unit hunit cursor))
    cursor

theorem passes_skipsAll {skipped : Bool} (hskipped : (passes units cursor).outcome = .ok skipped) :
    SkipsAll units cursor skipped (passes units cursor).cursor := by
  obtain ⟨hmoves, pieces, hpieces, hyes⟩ := (passes_divides hends hstill cursor).of_ok hskipped
  have hstays : skipped = false → (passes units cursor).cursor = cursor := by
    rintro rfl
    exact still_passesUnder (still_pass hstill) .unlimited cursor hskipped
  have hmoved : (passes units cursor).cursor = cursor → skipped = false := by
    intro hsame
    cases skipped with
    | false => rfl
    | true =>
      have hless := hmoves.offset_lt rfl
      rw [hsame] at hless
      exact absurd hless (Nat.lt_irrefl _)
  refine ⟨⟨pieces, hpieces, hpieces.rest_eq, hyes⟩, ⟨hmoves.offset_lt, fun hless => ?_⟩,
    ⟨hstays, hmoved⟩, ?_⟩
  · cases skipped with
    | true => rfl
    | false =>
      rw [hstays rfl] at hless
      exact absurd hless (Nat.lt_irrefl _)
  · exact pass_eq_false hstill (pass_after_passes (still_pass hstill) cursor skipped hskipped)

end

theorem passes_again (hstill : (pass units).Still) {skipped : Bool}
    (hskipped : (passes units cursor).outcome = .ok skipped) :
    (passes units (passes units cursor).cursor).Agrees
      (.done false (passes units cursor).cursor) := by
  have hno := pass_after_passes hstill cursor skipped hskipped
  have hlast : (pass units (passes units cursor).cursor).outcome ≠ .ok true := by
    rw [hno]
    nofun
  rw [passes_of_not_true hlast]
  exact ⟨hno, hstill _ hno⟩

/-- Where rules go forward when they skip, skipping ends, after no more passes than there are bytes
and one. Where they also leave the cursor alone when they do not skip, all there is to skip has been
skipped. -/
theorem skip_is_maximal (whitespace : Whitespace) (strategy : Strategy) (cursor : Cursor)
    (hforward : whitespace.AllRules SkipRule.Forward) :
    let step := (Scanner.whitespace whitespace).skip strategy cursor
    step.Faultless ∧
    whitespace.skipUnder (.passes (Text.size cursor.rest + 1)) strategy cursor = step ∧
    (whitespace.AllRules SkipRule.Still → ∀ skipped, step.outcome = .ok skipped →
      SkipsAll (whitespace.units.map (SkipUnit.form strategy)) cursor skipped step.cursor ∧
      ((Scanner.whitespace whitespace).skip strategy step.cursor).Agrees
        (.done false step.cursor)) := by
  have hends := whitespace.forms_end strategy .moving hforward
  rw [skip_whitespace]
  refine ⟨(passes_moves hends cursor).faultless, passesWithin_size hends cursor, ?_⟩
  intro hrules skipped hskipped
  have hstill : ∀ unit ∈ whitespace.units.map (SkipUnit.form strategy), unit.Still := by
    intro unit hunit
    obtain ⟨original, horiginal, rfl⟩ := List.mem_map.1 hunit
    exact SkipUnit.still_form (hrules original horiginal)
  exact ⟨passes_skipsAll hends hstill hskipped, passes_again (still_pass hstill) hskipped⟩

/-- Blank characters before underscores, where a pass skips one of each and the last one neither. -/
theorem skip_is_maximal_underscores :
    let whitespace : Whitespace := ⟨[.blanks, .custom (.run (· == '_'))]⟩
    let cursor := Cursor.ofText ['_', '_', '\t', '_', ' ', 'x']
    let step := (Scanner.whitespace whitespace).skip .compiled cursor
    whitespace.AllRules SkipRule.Forward ∧ whitespace.AllRules SkipRule.Still ∧
    step.outcome = .ok true ∧ step.cursor.rest = ['x'] ∧
    SkipsAll (whitespace.units.map SkipUnit.compile) cursor true step.cursor := by
  intro whitespace cursor step
  have hhonest := SkipRule.honest_run (· == '_')
  have hrules {P : SkipRule → Prop} (hrun : P (.run (· == '_'))) : whitespace.AllRules P :=
    List.forall_mem_cons.2 ⟨trivial, List.forall_mem_singleton.2 hrun⟩
  have hstill : whitespace.AllRules SkipRule.Still := hrules hhonest.still
  obtain ⟨-, hcount, hall⟩ := skip_is_maximal whitespace .compiled cursor (hrules hhonest.forward)
  have hstep : step = whitespace.skipUnder (.passes 7) .compiled cursor := hcount.symm
  have hskipped : step.outcome = .ok true := by
    rw [hstep]
    decide +kernel
  refine ⟨hrules hhonest.forward, hstill, hskipped, ?_, (hall hstill true hskipped).1⟩
  rw [hstep]
  decide +kernel

end Whitespace

end Lexkit
