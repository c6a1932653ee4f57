import Lexkit.Proofs.Scanner.Events

/-!
# Runs that refuse nothing

Offsets are made by adding and subtracting sizes, and an operation on an offset that is not that of
a character is refused. In a run none is, as long as the custom rules do not go backward: skipping
then ends at a place from which the text back to the start can be sliced, and the leaves refuse
nothing anywhere. All that can happen is that skipping is given up. So every text that is returned
or told is the text of a slice that can be read.
-/

namespace Lexkit

/-! ### Slices that can be read -/

theorem Text.between_eq_ok {text inside : Text} {start stop : Nat}
    (hbetween : between text start stop = .ok inside) :
    ∃ before after, text = before ++ (inside ++ after) ∧ size before = start := by
  rw [between] at hbetween
  split at hbetween
  · cases hbetween
  · rw [dropTo_eq_map_cut] at hbetween
    cases houter : cut text start with
    | error fault =>
      rw [houter] at hbetween
      cases hbetween
    | ok halves =>
      obtain ⟨before, others⟩ := halves
      cases hinner : cut others (stop - start) with
      | error fault =>
        simp only [houter, Except.map, bind, Except.bind, hinner] at hbetween
        cases hbetween
      | ok parts =>
        obtain ⟨part, after⟩ := parts
        simp only [houter, Except.map, bind, Except.bind, hinner] at hbetween
        obtain rfl : part = inside := Except.ok.inj hbetween
        obtain ⟨rfl, hsize⟩ := cut_eq_ok houter
        obtain ⟨rfl, -⟩ := cut_eq_ok hinner
        exact ⟨before, after, rfl, hsize⟩

namespace Slice

/-- The range of the slice lies in its buffer, between characters, and holds its text. -/
def Readable (slice : Slice) : Prop := make slice.buffer slice.start slice.stop = .ok slice

variable {slice : Slice} {buffer : Buffer} {start stop : Nat} {before after : Text}

theorem readable_of_append (htext : slice.buffer.text = before ++ (slice.text ++ after))
    (hsize : Text.size before = slice.start) : slice.Readable := by
  have hbetween : Text.between slice.buffer.text slice.start slice.stop = .ok slice.text := by
    rw [htext, stop, size, ← hsize]
    exact Text.between_append before slice.text after
  rw [Readable, make, hbetween]
  rfl

theorem readable_whole (buffer : Buffer) : (whole buffer).Readable := by
  have htext : buffer.text = [] ++ (buffer.text ++ []) := (List.append_nil _).symm
  exact readable_of_append htext rfl

theorem readable_of_make (hmake : make buffer start stop = .ok slice) :
    slice.Readable ∧ slice.buffer = buffer := by
  cases hbetween : Text.between buffer.text start stop with
  | error fault =>
    rw [make, hbetween] at hmake
    cases hmake
  | ok text =>
    rw [make, hbetween] at hmake
    obtain rfl : ⟨buffer, start, text⟩ = slice := Except.ok.inj hmake
    obtain ⟨before, after, htext, hsize⟩ := Text.between_eq_ok hbetween
    exact ⟨readable_of_append htext hsize, rfl⟩

end Slice

namespace Cursor

variable {cursor after : Cursor} {taken : Text}

theorem Passes.readable (hpasses : cursor.Passes taken after) :
    (⟨cursor.buffer, cursor.offset, taken⟩ : Slice).Readable := by
  obtain ⟨before, htext, hsize⟩ := cursor.exists_before
  rw [hpasses.rest_eq] at htext
  exact Slice.readable_of_append htext hsize

/-- The slice can be read, and is part of the buffer of the cursor or all of another one. -/
def Gives (cursor : Cursor) (slice : Slice) : Prop :=
  slice.Readable ∧ (slice.buffer = cursor.buffer ∨ slice = .whole slice.buffer)

theorem Reads.gives {found : Option Slice} (hreads : cursor.Reads found after) :
    ∀ slice, found = some slice → cursor.Gives slice := by
  rintro slice rfl
  obtain ⟨taken, -, rfl, hpasses⟩ := hreads
  exact ⟨hpasses.readable, .inl rfl⟩

end Cursor

theorem QuotedIdentifier.scan_gives (quoted : QuotedIdentifier) (cursor : Cursor) :
    (quoted.scan cursor).Ends (fun found _ => ∀ slice, found = some slice → cursor.Gives slice)
      fun _ _ => True := by
  rcases quoted.opening_cases cursor with
    hopening | ⟨first, stop, hopening,
      ⟨atEnd, hclose, -⟩ | ⟨after, inner, hclose, hpasses, -⟩⟩
  · rw [scan_of_unopened hopening]
    exact nofun
  · rw [scan_of_unclosed hopening hclose]
    trivial
  · rw [scan_of_closed hopening hclose hpasses]
    split
    · trivial
    · rintro slice hslice
      obtain rfl := Option.some.inj hslice
      unfold unquoted Slice.unescape
      split
      · exact ⟨Slice.readable_whole _, .inr rfl⟩
      · obtain ⟨before, htext, hsize⟩ := cursor.exists_before
        have hparts : cursor.buffer.text =
            (before ++ [first]) ++ (Text.escape stop inner ++ (stop :: after.rest)) := by
          rw [htext, hpasses.rest_eq]
          simp [rawText]
        have hstart : Text.size (before ++ [first]) = cursor.offset + first.utf8Size := by
          simp [hsize]
        exact ⟨Slice.readable_of_append hparts hstart, .inl rfl⟩

/-! ### Skipping -/

/-- The step refuses no operation, except that a loop may be given up. -/
def Step.OnlyStalls {α : Type} (step : Step α) : Prop :=
  ∀ reason, step.outcome = .error (.fault reason) → reason = .stalled

namespace Step

variable {α β : Type}

theorem Faultless.onlyStalls {step : Step α} (hstep : step.Faultless) : step.OnlyStalls :=
  fun reason hfault => absurd hfault (hstep reason)

theorem OnlyStalls.bind {step : Step α} {next : α → Scan β} (hstep : step.OnlyStalls)
    (hnext : ∀ value, step.outcome = .ok value → (next value step.cursor).OnlyStalls) :
    (step.bind next).OnlyStalls := by
  obtain ⟨outcome, cursor, events⟩ := step
  cases outcome with
  | ok value => exact hnext value rfl
  | error halt =>
    intro reason hfault
    obtain rfl : halt = .fault reason := Except.error.inj hfault
    exact hstep reason rfl

end Step

theorem SkipRule.faultless_scan (rule : SkipRule) (cursor : Cursor) :
    (rule.scan cursor).Faultless := by
  intro reason hfault
  unfold scan at hfault
  split at hfault
  · cases hfault
  · cases hfault

theorem SkipUnit.faultless_form (strategy : Strategy) (unit : SkipUnit) (cursor : Cursor) :
    (unit.form strategy cursor).Faultless := by
  have hskip : (unit.skip cursor).Faultless := by
    rcases unit.custom_or_skip_ends with ⟨rule, rfl⟩ | hends
    · exact rule.faultless_scan cursor
    · exact (hends cursor).faultless
  intro reason hfault
  rw [(unit.form_agrees strategy cursor).1] at hfault
  exact hskip reason hfault

namespace Whitespace

theorem onlyStalls_pass {units : List (Scan Bool)}
    (hunits : ∀ unit ∈ units, ∀ cursor, (unit cursor).OnlyStalls) (cursor : Cursor) :
    (pass units cursor).OnlyStalls := by
  induction units generalizing cursor with
  | nil => exact nofun
  | cons unit units ih =>
    have hothers := ih fun other hother => hunits other (List.mem_cons_of_mem unit hother)
    apply (hunits unit List.mem_cons_self cursor).bind
    intro first hfirst
    exact (hothers _).bind fun _ _ => nofun

theorem onlyStalls_passesUnder {units : List (Scan Bool)}
    (hpass : ∀ cursor, (pass units cursor).OnlyStalls) (limit : Limit) (cursor : Cursor) :
    (passesUnder limit units cursor).OnlyStalls := by
  refine passesUnder_induction (P := fun _ step => step.OnlyStalls) ?_
    (fun cursor _ => hpass cursor) ?_ limit cursor
  · intro cursor reason hfault
    exact (Halt.fault.inj (Except.error.inj hfault)).symm
  · intro cursor step _ hothers reason hfault
    exact hothers reason (Step.outcome_map_eq_error.1 hfault)

theorem onlyStalls_skipUnder (limit : Limit) (strategy : Strategy) (whitespace : Whitespace)
    (cursor : Cursor) : (whitespace.skipUnder limit strategy cursor).OnlyStalls := by
  refine onlyStalls_passesUnder (onlyStalls_pass ?_) limit cursor
  intro unit hunit place
  obtain ⟨original, -, rfl⟩ := List.mem_map.1 hunit
  exact (original.faultless_form strategy place).onlyStalls

end Whitespace

/-! ### Trees -/

/-- The rule stays in the buffer and does not go backward, whatever it answers. -/
def SkipRule.NeverBack (rule : SkipRule) : Prop :=
  ∀ cursor : Cursor, cursor.Moves false (rule.apply cursor).2

theorem Route.moves : Route fun (cursor after : Cursor) => cursor.Moves false after where
  of_passes hpasses := ⟨hpasses.buffer_eq, hpasses.offset_le, nofun⟩
  trans hfirst hsecond := hfirst.trans hsecond

theorem Cursor.Gives.of_buffer_eq {cursor middle : Cursor} {slice : Slice}
    (hbuffer : middle.buffer = cursor.buffer) (hgives : middle.Gives slice) : cursor.Gives slice :=
  ⟨hgives.1, hbuffer ▸ hgives.2⟩

/-- The step refuses no operation, except that a loop may be given up, and what it returns can be
read. -/
structure Step.Safe (cursor : Cursor) (step : Step (Option Slice)) : Prop where
  onlyStalls : step.OnlyStalls
  gives : ∀ slice, step.outcome = .ok (some slice) → cursor.Gives slice

namespace Scanner

variable {limit : Limit} {strategy : Strategy} {scanner : Scanner}

theorem safe_of_ends {cursor : Cursor} {step : Step (Option Slice)}
    {bad : ScanError → Cursor → Prop}
    (hends : step.Ends (fun found _ => ∀ slice, found = some slice → cursor.Gives slice) bad) :
    step.Safe cursor :=
  ⟨hends.faultless.onlyStalls, fun slice hsome => hends.of_ok hsome slice rfl⟩

theorem safe_readUnder {skipper : Whitespace} (hrules : skipper.AllRules SkipRule.NeverBack)
    (cursor : Cursor) : (skipper.readUnder limit strategy cursor).Safe cursor := by
  have hstalls := skipper.onlyStalls_skipUnder limit strategy cursor
  have hmoves : cursor.Moves false (skipper.skipUnder limit strategy cursor).cursor :=
    Route.moves.skipUnder hrules cursor
  obtain ⟨found, hfound⟩ := Cursor.exists_sliceFrom hmoves.buffer_eq hmoves.offset_le
  have hreadable := Slice.readable_of_make hfound
  have hslice : (Whitespace.sliceSkipped cursor.offset true
      (skipper.skipUnder limit strategy cursor).cursor).outcome = .ok (some found) := by
    rw [Whitespace.sliceSkipped, if_pos rfl, Scan.bind_apply, Scan.sliceFrom, Scan.bind_apply,
      Scan.here_apply, Step.bind_done, hfound]
    rfl
  rw [skipper.readUnder_apply]
  constructor
  · apply hstalls.bind
    intro skipped hskipped
    cases skipped with
    | false =>
      intro reason hfault
      cases hfault
    | true =>
      intro reason hfault
      rw [hslice] at hfault
      cases hfault
  · intro slice hsome
    obtain ⟨skipped, -, hread⟩ := Step.outcome_bind_eq_ok.1 hsome
    cases skipped with
    | false => cases hread
    | true =>
      rw [hslice] at hread
      obtain rfl : found = slice := Option.some.inj (Except.ok.inj hread)
      exact ⟨hreadable.1, .inl (hreadable.2.trans hmoves.buffer_eq)⟩

/-- With rules that do not go backward a run is safe. -/
theorem safe_runUnder (hrules : scanner.AllRules SkipRule.NeverBack) (cursor : Cursor) :
    (scanner.runUnder limit strategy cursor).Safe cursor := by
  have hreader (leaf : Scanner) {cursor : Cursor}
      (hends : (leaf.scan cursor).Ends cursor.Reads cursor.Stops) :
      (leaf.run strategy cursor).Safe cursor :=
    safe_of_ends (ends_run.2 (hends.mono (fun _ _ => Cursor.Reads.gives) fun _ _ hbad => hbad))
  induction scanner generalizing cursor with
  | whitespace skipper => exact safe_readUnder hrules cursor
  | line comment => exact hreader (line comment) (comment.read_ends cursor)
  | block comment => exact hreader (block comment) (comment.read_ends cursor)
  | quoted quotes =>
    have hends : ((quoted quotes).run strategy cursor).Ends
        (fun found _ => ∀ slice, found = some slice → cursor.Gives slice) fun _ _ => True :=
      ends_run.2 (quotes.scan_gives cursor)
    exact safe_of_ends hends
  | identifier chars => exact hreader (identifier chars) (chars.scan_ends cursor)
  | pattern expr => exact hreader (pattern expr) (expr.scan_ends cursor)
  | skipThen skipper inner ih =>
    have hstalls := skipper.onlyStalls_skipUnder limit strategy cursor
    have hmoves : cursor.Moves false (skipper.skipUnder limit strategy cursor).cursor :=
      Route.moves.skipUnder hrules.1 cursor
    have hinner := ih hrules.2 (skipper.skipUnder limit strategy cursor).cursor
    constructor
    · intro reason hfault
      rw [runUnder, outcome_scanAfter] at hfault
      exact hstalls.bind (fun _ _ => hinner.onlyStalls) reason hfault
    · intro slice hsome
      rw [runUnder, outcome_scanAfter] at hsome
      obtain ⟨skipped, -, hread⟩ := Step.outcome_bind_eq_ok.1 hsome
      exact (hinner.gives slice hread).of_buffer_eq hmoves.buffer_eq
  | traced name inner ih =>
    have hinner := ih hrules cursor
    have hsame : ((traced name inner).runUnder limit strategy cursor).outcome =
        (inner.runUnder limit strategy cursor).outcome := outcome_scanTraced
    exact ⟨fun reason hfault => hinner.onlyStalls reason (hsame.symm.trans hfault),
      fun slice hsome => hinner.gives slice (hsame.symm.trans hsome)⟩

theorem starts_route {R : Cursor → Cursor → Prop} (hroute : Route R)
    (hrules : scanner.AllRules fun rule => ∀ cursor, R cursor (rule.apply cursor).2)
    (cursor : Cursor) : ∀ start ∈ scanner.starts limit strategy cursor, R cursor start.2 := by
  induction scanner generalizing cursor with
  | skipThen skipper inner ih =>
    have hskip : R cursor (skipper.skipUnder limit strategy cursor).cursor :=
      hroute.skipUnder hrules.1 cursor
    rw [starts]
    generalize skipper.skipUnder limit strategy cursor = step at hskip
    obtain ⟨outcome, after, events⟩ := step
    cases outcome with
    | error halt => simp
    | ok skipped => exact fun start hstart => hroute.trans hskip (ih hrules.2 after start hstart)
  | traced name inner ih =>
    intro start hstart
    rcases List.mem_cons.1 hstart with rfl | hstart
    · exact hroute.refl cursor
    · exact ih hrules cursor start hstart
  | _ => simp [starts]

/-- An event above the trace level opens or closes the run of a named scanner. -/
theorem mem_events {cursor : Cursor} {event : Event} (hlevel : event.level ≠ .trace)
    (hevent : event ∈ (scanner.runUnder limit strategy cursor).events) :
    ∃ start ∈ scanner.starts limit strategy cursor, event = .opening start ∨
      event ∈ Event.closing (scanner.runUnder limit strategy cursor).outcome start := by
  obtain ⟨told, hevents, hloud⟩ := scanner.exists_told cursor
  rw [hevents, List.mem_append] at hevent
  rcases hevent with htold | hclosing
  · have hmem : event ∈ Step.loud told := List.mem_filter.2 ⟨htold, decide_eq_true hlevel⟩
    rw [hloud] at hmem
    obtain ⟨start, hstart, rfl⟩ := List.mem_map.1 hmem
    exact ⟨start, hstart, .inl rfl⟩
  · obtain ⟨start, hstart, hclosing⟩ := List.mem_flatMap.1 hclosing
    exact ⟨start, List.mem_reverse.1 hstart, .inr hclosing⟩

theorem of_matched {cursor : Cursor} {name text : Text}
    (hevent : .matched name text ∈ (scanner.runUnder limit strategy cursor).events) :
    ∃ slice, (scanner.runUnder limit strategy cursor).outcome = .ok (some slice) ∧
      slice.text = text := by
  obtain ⟨start, -, hopening | hclosing⟩ := mem_events (by simp [Event.level]) hevent
  · cases hopening
  · generalize (scanner.runUnder limit strategy cursor).outcome = outcome at hclosing
    rcases outcome with (error | reason) | (_ | slice)
    · simp [Event.closing] at hclosing
    · simp [Event.closing] at hclosing
    · simp [Event.closing] at hclosing
    · simp only [Event.closing, List.mem_singleton, Event.matched.injEq] at hclosing
      exact ⟨slice, rfl, hclosing.2.symm⟩

theorem of_noMatch {cursor : Cursor} {name text : Text}
    (hevent : .noMatch name text ∈ (scanner.runUnder limit strategy cursor).events) :
    ∃ start ∈ scanner.starts limit strategy cursor, start.2.remaining.text = text := by
  obtain ⟨start, hstart, hopening | hclosing⟩ := mem_events (by simp [Event.level]) hevent
  · cases hopening
  · generalize (scanner.runUnder limit strategy cursor).outcome = outcome at hclosing
    rcases outcome with (error | reason) | (_ | slice)
    · simp [Event.closing] at hclosing
    · simp [Event.closing] at hclosing
    · simp only [Event.closing, List.mem_singleton, Event.noMatch.injEq] at hclosing
      exact ⟨start, hstart, hclosing.2.symm⟩
    · simp [Event.closing] at hclosing

/-- With rules that do not go backward no run reads outside its buffer or between the bytes of a
character, and none takes more away than there is: the only fault is that skipping was given up, and
there is none if rules go forward where they skip. What is returned can be read from the buffer, and
so can be what is told: the text of a match is the one returned, and where there is no match it is
what is left at a place ahead. -/
theorem runs_safely (hrules : scanner.AllRules SkipRule.NeverBack) (limit : Limit)
    (strategy : Strategy) (cursor : Cursor) :
    let step := scanner.runUnder limit strategy cursor
    (∀ reason, step.outcome = .error (.fault reason) → reason = .stalled) ∧
    (∀ slice, step.outcome = .ok (some slice) →
      slice.Readable ∧ (slice.buffer = cursor.buffer ∨ slice = .whole slice.buffer)) ∧
    (∀ name text, .matched name text ∈ step.events →
      ∃ slice, step.outcome = .ok (some slice) ∧ slice.text = text) ∧
    (∀ name text, .noMatch name text ∈ step.events →
      ∃ place, cursor.Moves false place ∧ place.remaining.Readable ∧
        place.remaining.text = text) ∧
    (scanner.AllRules SkipRule.Forward → (scanner.run strategy cursor).Faultless) := by
  intro step
  have hsafe : step.Safe cursor := safe_runUnder hrules cursor
  refine ⟨hsafe.onlyStalls, hsafe.gives, fun name text => of_matched, fun name text hevent => ?_,
    fun hforward => ?_⟩
  · obtain ⟨start, hstart, htext⟩ := of_noMatch hevent
    have hmoves : cursor.Moves false start.2 := starts_route Route.moves hrules cursor start hstart
    exact ⟨start.2, hmoves, start.2.passes_toEnd.readable, htext⟩
  · exact (run_ends .moving hforward cursor).faultless

/-- A content that is unescaped can be read from its own buffer. -/
theorem runs_safely_unescaped :
    ∃ slice, ((skipThen ⟨[.custom (.silent (· == '!'))]⟩ (quoted .sql)).runUnder (.passes 2)
        .compiled (.ofText ['!', '[', 'é', ']', ']', ']'])).outcome = .ok (some slice) ∧
      slice.Readable ∧ slice = .whole (.ofText 1 ['é', ']']) := by
  have hsilent : (SkipRule.silent (· == '!')).NeverBack := by
    intro cursor
    unfold SkipRule.silent
    dsimp only
    split
    · exact Route.moves.of_passes cursor.passes_advance_take
    · exact Route.moves.refl cursor
  have hrules : (skipThen ⟨[.custom (.silent (· == '!'))]⟩ (quoted .sql)).AllRules
      SkipRule.NeverBack := by
    refine ⟨fun unit hunit => ?_, trivial⟩
    obtain rfl := List.mem_singleton.1 hunit
    exact hsilent
  have hsafely := runs_safely hrules (.passes 2) .compiled (.ofText ['!', '[', 'é', ']', ']', ']'])
  refine ⟨.whole (.ofText 1 ['é', ']']), ?_, (hsafely.2.1 _ ?_).1, rfl⟩
  · decide +kernel
  · decide +kernel

end Scanner

end Lexkit
