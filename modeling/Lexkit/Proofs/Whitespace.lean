import Lexkit.Proofs.Comment.Block
import Lexkit.Proofs.Comment.Line
import Lexkit.Proofs.Scan.Loop
import Lexkit.Whitespace

/-!
# Whitespace and comments

A pass is a sequence of skips and the passes are a loop over it, so two things carry over from the
units to the whole: that both forms do the same, and every bound that holds of a skip and of one
skip after another. Custom rules enter only through such a bound. Two are used: a forward rule gives
back what the loop needs in order to end, and an honest rule moves as the built-in units do.
-/

namespace Lexkit

/-! ### Bounds on skips -/

/-- A bound on skips that is no stronger than what the built-in units keep, no weaker than moving
forward, and that one skip after another keeps. -/
structure SkipBound (good : Cursor → Bool → Cursor → Prop)
    (bad : Cursor → ScanError → Cursor → Prop) : Prop where
  of_skipped : ∀ {cursor skipped after}, cursor.Skipped skipped after → good cursor skipped after
  of_stops : ∀ {cursor error after}, cursor.Stops error after → bad cursor error after
  moves : ∀ {cursor skipped after}, good cursor skipped after → cursor.Moves skipped after
  trans :
    ∀ {cursor first middle second after}, good cursor first middle → good middle second after →
    good cursor (first || second) after
  bad_trans :
    ∀ {cursor skipped middle error after}, good cursor skipped middle → bad middle error after →
    bad cursor error after

/-- The bound of the built-in units, which need no custom rule to keep it. -/
theorem SkipBound.exact : SkipBound Cursor.Skipped Cursor.Stops where
  of_skipped := id
  of_stops := id
  moves := Cursor.Skipped.moves
  trans := Cursor.Skipped.trans
  bad_trans hskipped hstops := by
    obtain ⟨taken, hpasses, -⟩ := hskipped.steps
    exact hstops.after_passes hpasses

theorem SkipBound.skipped : SkipBound Cursor.Skipped Cursor.FailsAt where
  of_skipped := id
  of_stops := Cursor.Stops.failsAt
  moves := Cursor.Skipped.moves
  trans := Cursor.Skipped.trans
  bad_trans hskipped hfails := hfails.after_moves hskipped.moves

theorem SkipBound.moving : SkipBound Cursor.Moves fun _ _ _ => True where
  of_skipped := Cursor.Skipped.moves
  of_stops _ := trivial
  moves := id
  trans := Cursor.Moves.trans
  bad_trans _ _ := trivial

/-- What a bound needs to go from the units to the loop of passes: staying keeps it, one skip after
another keeps it, and it is no weaker than moving forward. -/
structure SkipChain (good : Cursor → Bool → Cursor → Prop)
    (bad : Cursor → ScanError → Cursor → Prop) : Prop where
  refl : ∀ cursor, good cursor false cursor
  moves : ∀ {cursor skipped after}, good cursor skipped after → cursor.Moves skipped after
  trans :
    ∀ {cursor first middle second after}, good cursor first middle → good middle second after →
    good cursor (first || second) after
  bad_trans :
    ∀ {cursor skipped middle error after}, good cursor skipped middle → bad middle error after →
    bad cursor error after

theorem SkipBound.chain {good : Cursor → Bool → Cursor → Prop}
    {bad : Cursor → ScanError → Cursor → Prop} (hbound : SkipBound good bad) :
    SkipChain good bad where
  refl _ := hbound.of_skipped rfl
  moves := hbound.moves
  trans := hbound.trans
  bad_trans := hbound.bad_trans

/-- The scan leaves the cursor alone when it answers no. -/
def Scan.Still (scan : Scan Bool) : Prop :=
  ∀ cursor, (scan cursor).outcome = .ok false → (scan cursor).cursor = cursor

theorem Scan.Still.of_ends {scan : Scan Bool} {bad : Cursor → ScanError → Cursor → Prop}
    (hends : ∀ cursor, (scan cursor).Ends cursor.Skipped (bad cursor)) : scan.Still :=
  fun cursor hno => (hends cursor).of_ok hno

namespace SkipRule

/-- The rule passes whole characters when it skips, stays when it does not, and stops at the place
of its error, not behind the start. -/
def Honest (rule : SkipRule) : Prop :=
  ∀ cursor, (rule.scan cursor).Ends cursor.Skipped cursor.FailsAt

/-- The rule stays in the buffer, does not go backward, and goes forward when it skips; where it
stops on an error does not matter. -/
def Forward (rule : SkipRule) : Prop :=
  ∀ cursor, (rule.scan cursor).Ends cursor.Moves fun _ _ => True

theorem Honest.forward {rule : SkipRule} (hhonest : rule.Honest) : rule.Forward := fun cursor =>
  (hhonest cursor).mono (fun _ _ => Cursor.Skipped.moves) fun _ _ _ => trivial

theorem quiet_scan (rule : SkipRule) (cursor : Cursor) :
    (rule.scan cursor).quiet = rule.scan cursor := by
  unfold scan
  split <;> rfl

variable (p : Char → Bool)

/-- Skipping a run cannot fail, so any bound on errors holds. -/
theorem skipped_run {bad : ScanError → Cursor → Prop} (cursor : Cursor) :
    ((run p).scan cursor).Ends cursor.Skipped bad := by
  have hpasses := cursor.passes_skipWhile p
  by_cases htaken : cursor.rest.takeWhile p = []
  · have hempty : ((cursor.consumeWhile p).1.isEmpty) = true := by
      simp [Cursor.consumeWhile, htaken, Slice.isEmpty, Slice.size]
    rw [scan, run]
    simp only [hempty]
    exact Cursor.skipWhile_eq_self htaken
  · have hempty : ((cursor.consumeWhile p).1.isEmpty) = false := by
      simpa [Cursor.consumeWhile, Slice.isEmpty, Slice.size, Text.size_eq_zero] using htaken
    rw [scan, run]
    simp only [hempty]
    exact ⟨_, htaken, hpasses⟩

theorem honest_run : (run p).Honest := fun cursor => skipped_run p cursor

theorem scan_refuse (cursor : Cursor) :
    (refuse p).scan cursor =
      if cursor.peek.any p then .malformed (.zeroLengthIdentifier cursor.position) cursor
      else .done false cursor := by
  by_cases hpeek : cursor.peek.any p = true <;> simp [scan, refuse, hpeek]

/-- Where it refuses a character the cursor stays at the place of the error. -/
theorem skipped_refuse (cursor : Cursor) :
    ((refuse p).scan cursor).Ends cursor.Skipped cursor.Stops := by
  rw [scan_refuse]
  split
  · exact ⟨rfl, [], .refl cursor⟩
  · exact rfl

theorem honest_refuse : (refuse p).Honest := fun cursor =>
  (skipped_refuse p cursor).mono (fun _ _ hskipped => hskipped) fun _ _ => Cursor.Stops.failsAt

theorem steps_silent {bad : ScanError → Cursor → Prop} (cursor : Cursor) :
    ((silent p).scan cursor).Ends cursor.Steps bad := by
  change cursor.Steps false (if cursor.peek.any p then cursor.advance else cursor)
  split
  · exact ⟨_, cursor.passes_advance_take, nofun⟩
  · exact ⟨[], .refl cursor, nofun⟩

/-- Passing a character silently is forward, though it is not honest. -/
theorem forward_silent : (silent p).Forward := fun cursor =>
  (steps_silent p cursor).mono (fun _ _ => Cursor.Steps.moves) fun _ _ htrue => htrue

end SkipRule

namespace SkipUnit

/-- Every custom rule of the unit satisfies `P`. -/
def AllRules (P : SkipRule → Prop) : SkipUnit → Prop
  | custom rule => P rule
  | _ => True

/-! ### Runs of blank characters -/

variable {cursor : Cursor} {ch : Char} {rest : Text}

theorem skip_blanks (cursor : Cursor) :
    blanks.skip cursor =
      .done (!(cursor.rest.takeWhile Text.isBlank).isEmpty) (cursor.skipWhile Text.isBlank) := by
  have hempty (text : Text) : (Text.size text == 0) = text.isEmpty := by
    rw [Bool.eq_iff_iff, beq_iff_eq, List.isEmpty_iff]
    exact Text.size_eq_zero
  simp only [skip, Scan.bind_apply, Scan.here_apply, Step.bind_done]
  change Step.done (!(Text.size (cursor.rest.takeWhile Text.isBlank) == 0)) _ = _
  rw [hempty]
  rfl

theorem isBlankByte_lead (hascii : ch.toNat < 0x80) :
    isBlankByte (Utf8.lead ch) = Text.isBlank ch := by
  have htable :
      ∀ code < 0x80, isBlankByte code.toUInt8 = Text.inRanges Text.Property.blank code := by decide
  rw [(Utf8.lead_eq_iff hascii).2 rfl, htable ch.toNat hascii]
  rfl

theorem blanksFrom_eq (cursor : Cursor) :
    blanksFrom cursor.buffer.text cursor.buffer.bytes cursor.offset =
      .ok (cursor.skipWhile Text.isBlank).offset := by
  induction hlength : cursor.rest.length generalizing cursor with
  | zero =>
    have hrest : cursor.rest = [] := List.length_eq_zero_iff.1 hlength
    have hend : ¬ cursor.offset < cursor.buffer.bytes.length := fun hmore =>
      Cursor.offset_lt_length_bytes.1 hmore hrest
    rw [blanksFrom, if_neg hend, Cursor.skipWhile_eq_self (by rw [hrest]; rfl)]
  | succ n ih =>
    obtain ⟨ch, rest, hrest⟩ := List.exists_cons_of_length_eq_add_one hlength
    have hmore : cursor.offset < cursor.buffer.bytes.length :=
      Cursor.offset_lt_length_bytes.2 (by rw [hrest]; exact List.cons_ne_nil _ _)
    have hlength' : cursor.advance.rest.length = n := by
      rw [Cursor.rest_advance, List.length_tail, hlength]
      omega
    have hothers := ih cursor.advance hlength'
    rw [(Cursor.passes_advance hrest).buffer_eq, Cursor.offset_advance_of_cons hrest] at hothers
    -- One character, of one byte or of more, is passed if it is blank.
    have hround : blanksFrom cursor.buffer.text cursor.buffer.bytes cursor.offset =
        if Text.isBlank ch then
          blanksFrom cursor.buffer.text cursor.buffer.bytes (cursor.offset + ch.utf8Size)
        else .ok cursor.offset := by
      rw [blanksFrom, if_pos hmore, Cursor.byteAt_offset hrest]
      dsimp only
      by_cases hascii : ch.toNat < 0x80
      · rw [if_pos ((Utf8.isAscii_lead ch).2 hascii), isBlankByte_lead hascii,
          Utf8.utf8Size_eq_one hascii]
      · rw [if_neg fun hlead => hascii ((Utf8.isAscii_lead ch).1 hlead), cursor.dropTo_text]
        dsimp only
        rw [hrest, List.head?_cons, Option.any_some, Utf8.leadLength_lead]
    rw [hround]
    by_cases hch : Text.isBlank ch = true
    · rw [if_pos hch, hothers, Cursor.skipWhile_advance hrest hch]
    · have htaken : cursor.rest.takeWhile Text.isBlank = [] := by
        rw [hrest, List.takeWhile_cons_of_neg hch]
      rw [if_neg hch, Cursor.skipWhile_eq_self htaken]

theorem skipBlanks_eq (cursor : Cursor) : skipBlanks cursor = blanks.skip cursor := by
  have hpasses := cursor.passes_skipWhile Text.isBlank
  rw [skip_blanks]
  simp only [skipBlanks, Scan.bind_apply, Scan.here_apply, Step.bind_done, blanksFrom_eq,
    Scan.attempt_ok]
  by_cases htaken : cursor.rest.takeWhile Text.isBlank = []
  · rw [Cursor.skipWhile_eq_self htaken, if_pos rfl, htaken]
    rfl
  · have hoffset := hpasses.offset_lt htaken
    have hyes : (!(cursor.rest.takeWhile Text.isBlank).isEmpty) = true := by simpa using htaken
    rw [if_neg (by omega), hyes]
    simp only [Scan.bind_apply, Scan.seek_of_passes hpasses, Step.bind_done]
    rfl

/-! ### One unit -/

theorem quiet_isMatch {compiled walked : Scan (Option Slice)}
    (hscan : ∀ cursor, compiled cursor = (walked cursor).quiet) (cursor : Cursor) :
    compiled.isMatch cursor = (walked.isMatch cursor).quiet := by
  rw [Scan.isMatch, Scan.isMatch, Scan.bind_apply, Scan.bind_apply, Step.quiet_bind, hscan]
  rfl

theorem ends_isMatch {scan : Scan (Option Slice)} {bad : ScanError → Cursor → Prop}
    (hends : (scan cursor).Ends cursor.Found bad) :
    (scan.isMatch cursor).Ends cursor.Skipped bad := by
  rw [Scan.isMatch, Scan.bind_apply]
  exact hends.bind fun found after hfound => hfound

theorem compile_eq (unit : SkipUnit) (cursor : Cursor) :
    unit.compile cursor = (unit.skip cursor).quiet := by
  cases unit with
  | blanks =>
    rw [skip_blanks, Step.quiet_done, ← skip_blanks]
    exact skipBlanks_eq cursor
  | line comment =>
    refine quiet_isMatch (fun place => ?_) cursor
    rw [comment.run_compile place, LineComment.read_eq]
    split <;> rfl
  | block comment => exact quiet_isMatch comment.run_compile cursor
  | custom rule => exact (rule.quiet_scan cursor).symm

def form (strategy : Strategy) (unit : SkipUnit) : Scan Bool :=
  match strategy with
  | .interpreted => unit.skip
  | .compiled => unit.compile

theorem form_eq (strategy : Strategy) (unit : SkipUnit) (cursor : Cursor) :
    unit.form strategy cursor = unit.skip cursor ∨
      unit.form strategy cursor = (unit.skip cursor).quiet := by
  cases strategy with
  | interpreted => exact .inl rfl
  | compiled => exact .inr (unit.compile_eq cursor)

theorem form_agrees (strategy : Strategy) (unit : SkipUnit) (cursor : Cursor) :
    (unit.form strategy cursor).Agrees (unit.skip cursor) := by
  rcases unit.form_eq strategy cursor with hform | hform
  · exact hform ▸ .refl _
  · exact hform ▸ Step.agrees_quiet _

theorem ends_form {good : Bool → Cursor → Prop} {bad : ScanError → Cursor → Prop}
    {strategy : Strategy} {unit : SkipUnit} :
    (unit.form strategy cursor).Ends good bad ↔ (unit.skip cursor).Ends good bad :=
  (unit.form_agrees strategy cursor).ends_iff

variable {good : Cursor → Bool → Cursor → Prop} {bad : Cursor → ScanError → Cursor → Prop}

theorem skip_ends (hbound : SkipBound good bad) {unit : SkipUnit}
    (hrule : unit.AllRules fun rule => ∀ cursor, (rule.scan cursor).Ends (good cursor) (bad cursor))
    (cursor : Cursor) : (unit.skip cursor).Ends (good cursor) (bad cursor) := by
  have hcomment {scan : Scan (Option Slice)}
      (hends : (scan cursor).Ends cursor.Reads cursor.Stops) :
      (scan.isMatch cursor).Ends (good cursor) (bad cursor) :=
    (ends_isMatch (hends.mono (fun _ _ => Cursor.Reads.found) fun _ _ hstops => hstops)).mono
      (fun _ _ => hbound.of_skipped) fun _ _ => hbound.of_stops
  cases unit with
  | blanks =>
    have hpasses := cursor.passes_skipWhile Text.isBlank
    rw [skip_blanks, Step.ends_done]
    apply hbound.of_skipped
    by_cases htaken : cursor.rest.takeWhile Text.isBlank = []
    · rw [Cursor.skipWhile_eq_self htaken, htaken]
      exact rfl
    · have hyes : (!(cursor.rest.takeWhile Text.isBlank).isEmpty) = true := by simpa using htaken
      rw [hyes]
      exact ⟨_, htaken, hpasses⟩
  | line comment => exact hcomment (comment.read_ends cursor)
  | block comment => exact hcomment (comment.read_ends cursor)
  | custom rule => exact hrule cursor

/-- Every unit but a custom rule passes what it skips and stops at the place of its error. -/
theorem custom_or_skip_ends (unit : SkipUnit) : (∃ rule, unit = custom rule) ∨
    ∀ cursor, (unit.skip cursor).Ends cursor.Skipped cursor.Stops := by
  cases unit with
  | custom rule => exact .inl ⟨rule, rfl⟩
  | _ => exact .inr (skip_ends .exact trivial)

end SkipUnit

namespace Whitespace

/-- Every custom rule among the units satisfies `P`. -/
def AllRules (P : SkipRule → Prop) (whitespace : Whitespace) : Prop :=
  ∀ unit ∈ whitespace.units, unit.AllRules P

/-! ### Both forms do the same -/

theorem quiet_pass (units : List SkipUnit) (cursor : Cursor) :
    pass (units.map SkipUnit.compile) cursor = (pass (units.map SkipUnit.skip) cursor).quiet := by
  induction units generalizing cursor with
  | nil => rfl
  | cons unit units ih =>
    rw [List.map_cons, List.map_cons, pass, pass, Scan.bind_apply, Scan.bind_apply, Step.quiet_bind,
      unit.compile_eq]
    apply congrArg
    funext first after
    rw [Scan.bind_apply, Scan.bind_apply, Step.quiet_bind, ih]
    rfl

variable (whitespace : Whitespace)

theorem compileSkip_eq (cursor : Cursor) :
    whitespace.compileSkip cursor = (whitespace.skip cursor).quiet :=
  Scan.quiet_untilNo (quiet_pass whitespace.units) cursor

theorem commit_here (start : Nat) (cursor : Cursor) :
    Scan.commit start cursor.offset cursor = Scan.sliceFrom start cursor := by
  rw [Scan.commit, Scan.bind_apply, Scan.seek_of_passes (Cursor.Passes.refl cursor), Step.bind_done]

theorem run_compile (cursor : Cursor) :
    whitespace.compile.run cursor = (whitespace.read cursor).quiet := by
  rw [compile, read]
  simp only [Scan.bind_apply, Scan.here_apply, Step.bind_done, Step.quiet_bind, compileSkip_eq]
  apply congrArg
  funext skipped after
  cases skipped with
  | false => rfl
  | true =>
    simp only [if_true, Scan.bind_apply, Scan.here_apply, Step.bind_done, commit_here,
      Step.quiet_bind, Scan.quiet_sliceFrom]
    rfl

/-! ### Where skipping stops -/

section

variable {good : Cursor → Bool → Cursor → Prop} {bad : Cursor → ScanError → Cursor → Prop}

theorem pass_ends (hchain : SkipChain good bad) {units : List (Scan Bool)}
    (hunits : ∀ unit ∈ units, ∀ cursor, (unit cursor).Ends (good cursor) (bad cursor))
    (cursor : Cursor) :
    (pass units cursor).Ends (good cursor) (bad cursor) := by
  induction units generalizing cursor with
  | nil => exact hchain.refl cursor
  | cons unit units ih =>
    have hothers := ih fun other hother => hunits other (List.mem_cons_of_mem unit hother)
    rw [pass, Scan.bind_apply]
    apply (hunits unit List.mem_cons_self cursor).bind
    intro first middle hfirst
    rw [Scan.bind_apply]
    refine ((hothers middle).mono (fun _ _ hgood => hgood) fun _ _ =>
      hchain.bad_trans hfirst).bind ?_
    intro second after hsecond
    exact hchain.trans hfirst hsecond

/-- A pass that skips something leaves less to read, so the passes end. -/
theorem advances_pass (hchain : SkipChain good bad) {units : List (Scan Bool)}
    (hpass : ∀ cursor, (pass units cursor).Ends (good cursor) (bad cursor)) :
    (pass units).answered.Advances :=
  Scan.advances_answered fun cursor hyes =>
    (hchain.moves ((hpass cursor).of_ok hyes)).length_rest_lt

/-- The loop keeps what a pass keeps. -/
theorem passes_ends (hchain : SkipChain good bad) {units : List (Scan Bool)}
    (hpass : ∀ cursor, (pass units cursor).Ends (good cursor) (bad cursor)) (cursor : Cursor) :
    (passes units cursor).Ends (good cursor) (bad cursor) := by
  refine (advances_pass hchain hpass).loop_ends (fun place => ?_) cursor
  rw [Scan.answered_apply]
  refine (hpass place).map fun skipped middle hpassed => ?_
  cases skipped with
  | false => exact hpassed
  | true =>
    exact ⟨fun _ _ hothers => hchain.trans hpassed hothers, fun _ _ => hchain.bad_trans hpassed⟩

theorem forms_end (strategy : Strategy) (hbound : SkipBound good bad)
    (hrules : whitespace.AllRules fun rule =>
      ∀ cursor, (rule.scan cursor).Ends (good cursor) (bad cursor)) :
    ∀ unit ∈ whitespace.units.map (SkipUnit.form strategy),
      ∀ cursor, (unit cursor).Ends (good cursor) (bad cursor) := by
  intro unit hunit cursor
  obtain ⟨original, horiginal, rfl⟩ := List.mem_map.1 hunit
  exact SkipUnit.ends_form.2 (SkipUnit.skip_ends hbound (hrules original horiginal) cursor)

theorem units_end (hbound : SkipBound good bad)
    (hrules : whitespace.AllRules fun rule =>
      ∀ cursor, (rule.scan cursor).Ends (good cursor) (bad cursor)) :
    ∀ unit ∈ whitespace.units.map SkipUnit.skip,
      ∀ cursor, (unit cursor).Ends (good cursor) (bad cursor) :=
  whitespace.forms_end .interpreted hbound hrules

theorem skip_ends (hbound : SkipBound good bad)
    (hrules : whitespace.AllRules fun rule =>
      ∀ cursor, (rule.scan cursor).Ends (good cursor) (bad cursor))
    (cursor : Cursor) : (whitespace.skip cursor).Ends (good cursor) (bad cursor) := by
  exact passes_ends hbound.chain (pass_ends hbound.chain (whitespace.units_end hbound hrules))
    cursor

theorem read_ends (hbound : SkipBound good bad)
    (hrules : whitespace.AllRules fun rule =>
      ∀ cursor, (rule.scan cursor).Ends (good cursor) (bad cursor))
    (cursor : Cursor) :
    (whitespace.read cursor).Ends (fun found => good cursor found.isSome) (bad cursor) := by
  rw [read, Scan.bind_apply, Scan.here_apply, Step.bind_done, Scan.bind_apply]
  apply (whitespace.skip_ends hbound hrules cursor).bind
  intro skipped after hgood
  cases skipped with
  | false => exact hgood
  | true =>
    have hmoves := hbound.moves hgood
    obtain ⟨slice, hslice⟩ := Cursor.exists_sliceFrom hmoves.buffer_eq hmoves.offset_le
    simp only [if_true, Scan.sliceFrom, Scan.bind_apply, Scan.here_apply, Step.bind_done, hslice,
      Scan.attempt_ok]
    exact hgood

end

/-- Where the custom rules move as the built-in units do, what is read is the text passed. -/
theorem read_reads {bad : Cursor → ScanError → Cursor → Prop}
    (hbound : SkipBound Cursor.Skipped bad)
    (hrules : whitespace.AllRules fun rule =>
      ∀ cursor, (rule.scan cursor).Ends cursor.Skipped (bad cursor))
    (cursor : Cursor) : (whitespace.read cursor).Ends cursor.Reads (bad cursor) := by
  rw [read, Scan.bind_apply, Scan.here_apply, Step.bind_done, Scan.bind_apply]
  apply (whitespace.skip_ends hbound hrules cursor).bind
  intro skipped after hskipped
  cases skipped with
  | false => exact hskipped
  | true =>
    obtain ⟨taken, htaken, hpasses⟩ := hskipped
    rw [if_pos rfl, Scan.bind_apply, Scan.sliceFrom_of_passes hpasses]
    exact ⟨taken, htaken, rfl, hpasses⟩

/-! ### Where nothing is skipped -/

section

variable {units : List (Scan Bool)} {bad : Cursor → ScanError → Cursor → Prop} {cursor : Cursor}

/-- If a unit that skips nothing leaves the cursor to the next one, a pass that skips nothing has
run them all where it started. -/
theorem pass_of_still (hunits : ∀ unit ∈ units, unit.Still)
    (hno : (pass units cursor).outcome = .ok false) :
    (pass units cursor).cursor = cursor ∧
      ∀ unit ∈ units, (unit cursor).outcome = .ok false := by
  induction units with
  | nil => exact ⟨rfl, nofun⟩
  | cons unit units ih =>
    obtain ⟨first, hfirst, hothers⟩ := Step.outcome_bind_eq_ok.1 hno
    obtain ⟨second, hsecond, hboth⟩ := Step.outcome_bind_eq_ok.1 hothers
    obtain ⟨rfl, rfl⟩ : first = false ∧ second = false := by simpa using Except.ok.inj hboth
    have hstays := hunits unit List.mem_cons_self cursor hfirst
    rw [hstays] at hsecond
    obtain ⟨hcursor, hfalse⟩ :=
      ih (fun other hother => hunits other (List.mem_cons_of_mem unit hother)) hsecond
    refine ⟨?_, List.forall_mem_cons.2 ⟨hfirst, hfalse⟩⟩
    rw [pass, Scan.bind_apply, Step.bind_of_ok _ hfirst, hstays, Scan.bind_apply,
      Step.bind_of_ok _ hsecond]
    exact hcursor

theorem still_pass (hunits : ∀ unit ∈ units, unit.Still) : (pass units).Still :=
  fun _ hno => (pass_of_still hunits hno).1

theorem pass_eq_false (hunits : ∀ unit ∈ units, unit.Still)
    (hno : (pass units cursor).outcome = .ok false) :
    ∀ unit ∈ units, (unit cursor).outcome = .ok false :=
  (pass_of_still hunits hno).2

theorem passes_of_not_true (hno : (pass units cursor).outcome ≠ .ok true) :
    passes units cursor = pass units cursor := Scan.untilNo_of_not_true hno

theorem passes_eq_false (hpasses : (passes units cursor).outcome = .ok false) :
    (pass units cursor).outcome = .ok false := by
  revert hpasses
  refine Scan.untilNo_induction (P := fun cursor step =>
    step.outcome = .ok false → (pass units cursor).outcome = .ok false) ?_ ?_ ?_ cursor
  · intro cursor hstalled
    cases hstalled
  · exact fun _ _ hno => hno
  · intro cursor step hyes _ hothers
    obtain ⟨others, -, hothers⟩ := Step.outcome_map_eq_ok.1 hothers
    exact absurd hothers Bool.true_eq_false.mp

/-- The passes end where a pass skips nothing. -/
theorem pass_after_passes (hpass : (pass units).Still) (cursor : Cursor) :
    ∀ skipped, (passes units cursor).outcome = .ok skipped →
      (pass units (passes units cursor).cursor).outcome = .ok false := by
  refine Scan.untilNo_induction (P := fun _ step =>
    ∀ skipped, step.outcome = .ok skipped → (pass units step.cursor).outcome = .ok false)
    ?_ ?_ ?_ cursor
  · intro cursor skipped hskipped
    cases hskipped
  · intro cursor hlast skipped hskipped
    cases skipped with
    | true => exact absurd hskipped hlast
    | false => rwa [hpass cursor hskipped]
  · intro cursor step _ ih skipped hskipped
    obtain ⟨others, hothers, -⟩ := Step.outcome_map_eq_ok.1 hskipped
    exact ih others hothers

/-- Where nothing can be read, no unit skips anything. -/
theorem skip_of_read_eq_none (hbound : SkipBound Cursor.Skipped bad)
    (hrules : whitespace.AllRules fun rule =>
      ∀ cursor, (rule.scan cursor).Ends cursor.Skipped (bad cursor))
    (hread : (whitespace.read cursor).outcome = .ok none) :
    ∀ unit ∈ whitespace.units, (unit.skip cursor).outcome = .ok false := by
  rw [read, Scan.bind_apply, Scan.here_apply, Step.bind_done] at hread
  obtain ⟨skipped, hskipped, hslice⟩ := Step.outcome_bind_eq_ok.1 hread
  cases skipped with
  | true =>
    obtain ⟨slice, -, hsome⟩ := Step.outcome_bind_eq_ok.1 hslice
    exact absurd hsome (by simp [Step.done])
  | false =>
    have hunits := whitespace.units_end hbound hrules
    intro unit hunit
    exact pass_eq_false (fun unit hunit => .of_ends (hunits unit hunit))
      (passes_eq_false hskipped) unit.skip (List.mem_map_of_mem hunit)

end

end Whitespace

end Lexkit
