import Lexkit.Proofs.Whitespace.Start

/-!
# The order of the units

A pass goes on with the next unit after a unit that skipped something, so two orders of the same
units try them at different places. The order makes no difference where at every place at most one
unit does anything at all. Then a pass, wherever in the list it stands, can only do what comes next
anyway: `pass_then_restarting` says that any part of a pass, followed by the loop that starts again
from the first unit after every unit that skipped something, is that loop. The passes are therefore
that loop, and of an order the loop sees only which unit is not idle.

Units with fixed marks are of this kind if no mark starts with another one, since of two marks at
one place the shorter one starts the longer one.
-/

namespace Lexkit

/-! ### Single units -/

namespace SkipUnit

def isBlanks : SkipUnit → Bool
  | blanks => true
  | _ => false

variable {cursor : Cursor}

theorem form_of_not_opens (strategy : Strategy) {unit : SkipUnit} (hstart : unit.HasFixedStart)
    (hopens : unit.opens cursor.rest = false) : unit.form strategy cursor = .done false cursor := by
  have hskip := skip_of_not_opens hstart hopens
  rcases unit.form_eq strategy cursor with hform | hform
  · rw [hform, hskip]
  · rw [hform, hskip, Step.quiet_done]

end SkipUnit

/-! ### Units of which at most one does anything -/

namespace Whitespace

/-- Units that move as built-in units do, that do nothing where they skip nothing, and of which all
but one do nothing at every place. -/
structure Exclusive (units : List (Scan Bool)) : Prop where
  ends : ∀ unit ∈ units, ∀ cursor, (unit cursor).Ends cursor.Skipped cursor.Stops
  idle : ∀ unit ∈ units, ∀ cursor, (unit cursor).outcome = .ok false → Idle cursor unit
  alone : ∀ cursor, units.Pairwise fun first second => Idle cursor first ∨ Idle cursor second

def firstOf : List (Scan Bool) → Scan Bool
  | [] => return false
  | unit :: units => do
    if ← unit then return true
    else firstOf units

/-- The loop that starts again from the first unit after every unit that skipped something. -/
def restarting (units : List (Scan Bool)) : Scan Bool := (firstOf units).untilNo

/-- Goes on with that loop. -/
def andRestarting (units : List (Scan Bool)) (skipped : Bool) : Scan Bool := fun middle =>
  (restarting units middle).map (skipped || ·)

section

variable {units : List (Scan Bool)} {cursor : Cursor}

theorem pass_cons (unit : Scan Bool) (units : List (Scan Bool)) (cursor : Cursor) :
    pass (unit :: units) cursor =
      (unit cursor).bind fun first => pass units >>= fun second => pure (first || second) := rfl

theorem map_pass (first : Bool) (units : List (Scan Bool)) (cursor : Cursor) :
    (pass units >>= fun second => pure (first || second)) cursor =
      (pass units cursor).map (first || ·) := Step.bind_pure _ _

theorem firstOf_of_idle (hidle : ∀ unit ∈ units, Idle cursor unit) :
    firstOf units cursor = .done false cursor := by
  induction units with
  | nil => rfl
  | cons unit units ih =>
    have hunit : unit cursor = .done false cursor := hidle unit List.mem_cons_self
    rw [firstOf, Scan.bind_apply, hunit]
    exact ih fun other hother => hidle other (List.mem_cons_of_mem unit hother)

/-- Where one unit is not idle, that unit is what is done. -/
theorem firstOf_of_active
    (halone : units.Pairwise fun first second => Idle cursor first ∨ Idle cursor second)
    {unit : Scan Bool} (hunit : unit ∈ units) (hactive : (unit cursor).outcome ≠ .ok false) :
    firstOf units cursor = unit cursor := by
  induction units with
  | nil => simp at hunit
  | cons first others ih =>
    obtain ⟨hfirst, hothers⟩ := List.pairwise_cons.1 halone
    rw [firstOf, Scan.bind_apply]
    rcases List.mem_cons.1 hunit with rfl | hmem
    · generalize unit cursor = step at hactive
      obtain ⟨outcome, after, events⟩ := step
      cases outcome with
      | error halt => rfl
      | ok skipped =>
        cases skipped with
        | false => exact absurd rfl hactive
        | true => exact congrArg (Step.mk (.ok true) after) (List.append_nil events)
    · have hidle : first cursor = .done false cursor :=
        (hfirst unit hmem).resolve_right fun hunit => hactive (congrArg Step.outcome hunit)
      rw [hidle]
      exact ih hothers hmem

theorem restarting_of_not_true (hno : (firstOf units cursor).outcome ≠ .ok true) :
    restarting units cursor = firstOf units cursor := Scan.untilNo_of_not_true hno

namespace Exclusive

variable (hunits : Exclusive units)
include hunits

theorem firstOf_eq {unit : Scan Bool} (hunit : unit ∈ units)
    (hactive : (unit cursor).outcome ≠ .ok false) : firstOf units cursor = unit cursor :=
  firstOf_of_active (hunits.alone cursor) hunit hactive

theorem length_rest_lt {unit : Scan Bool} (hunit : unit ∈ units)
    (hyes : (unit cursor).outcome = .ok true) :
    (unit cursor).cursor.rest.length < cursor.rest.length :=
  ((hunits.ends unit hunit cursor).of_ok hyes).moves.length_rest_lt

theorem exists_active (hactive : ¬ ∀ unit ∈ units, Idle cursor unit) :
    ∃ unit ∈ units, (unit cursor).outcome ≠ .ok false := by
  obtain ⟨unit, hunit, hactive⟩ : ∃ unit, unit ∈ units ∧ ¬ Idle cursor unit := by
    simpa using hactive
  exact ⟨unit, hunit, fun hno => hactive (hunits.idle unit hunit cursor hno)⟩

theorem restarting_of_true (hyes : (firstOf units cursor).outcome = .ok true) :
    restarting units cursor =
      ((restarting units (firstOf units cursor).cursor).map fun _ => true).after
        (firstOf units cursor).events := by
  refine Scan.untilNo_of_true (Scan.advances_answered fun place hyes => ?_) hyes
  by_cases hidle : ∀ unit ∈ units, Idle place unit
  · rw [firstOf_of_idle hidle] at hyes
    cases hyes
  · obtain ⟨unit, hunit, hne⟩ := hunits.exists_active hidle
    rw [hunits.firstOf_eq hunit hne] at hyes ⊢
    exact hunits.length_rest_lt hunit hyes

/-- Any part of a pass, and the loop after it, is the loop. -/
theorem pass_then_restarting {others : List (Scan Bool)} (hothers : ∀ unit ∈ others, unit ∈ units)
    (cursor : Cursor) :
    (pass others cursor).bind (andRestarting units) = restarting units cursor := by
  induction others generalizing cursor with
  | nil => exact Step.map_id' (restarting units cursor)
  | cons unit others ih =>
    have hunit := hothers unit List.mem_cons_self
    have hrest := ih fun other hother => hothers other (List.mem_cons_of_mem unit hother)
    rw [pass_cons]
    cases houtcome : (unit cursor).outcome with
    | error halt =>
      have hfirst : firstOf units cursor = unit cursor :=
        hunits.firstOf_eq hunit (by simp [houtcome])
      rw [Step.bind_of_error _ houtcome, Step.bind_of_error _ rfl,
        restarting_of_not_true (by simp [hfirst, houtcome]), hfirst, ← houtcome]
    | ok skipped =>
      rw [Step.bind_of_ok _ houtcome, Step.bind_after, map_pass, Step.bind_map]
      cases skipped with
      | false =>
        have hidle : unit cursor = .done false cursor := hunits.idle unit hunit cursor houtcome
        rw [hidle]
        exact hrest cursor
      | true =>
        have hfirst : firstOf units cursor = unit cursor :=
          hunits.firstOf_eq hunit (by simp [houtcome])
        rw [hunits.restarting_of_true (hfirst ▸ houtcome), hfirst]
        congr 1
        -- What the rest of the pass skips is skipped anyway, and the answer is yes either way.
        calc
          ((pass others (unit cursor).cursor).bind fun second =>
              andRestarting units (true || second))
          _ = (pass others (unit cursor).cursor).bind fun second middle =>
                (andRestarting units second middle).map fun _ => true := by
            congr 1
            funext second middle
            exact (Step.map_map (restarting units middle) (second || ·) fun _ => true).symm
          _ = ((pass others (unit cursor).cursor).bind (andRestarting units)).map fun _ => true :=
            (Step.map_bind _ _ _).symm
          _ = (restarting units (unit cursor).cursor).map fun _ => true := by rw [hrest]

theorem passes_eq_restarting (cursor : Cursor) : passes units cursor = restarting units cursor := by
  have hpass := hunits.pass_then_restarting fun unit hunit => hunit
  have hadvances :=
    advances_pass SkipBound.exact.chain (pass_ends SkipBound.exact.chain hunits.ends)
  refine (hadvances.loops_loop cursor).answered_induction
    (P := fun cursor step => step = restarting units cursor) ?_ ?_
  · intro cursor hlast
    cases houtcome : (pass units cursor).outcome with
    | error halt =>
      have hwhole := hpass cursor
      rwa [Step.bind_of_error _ houtcome, ← houtcome] at hwhole
    | ok skipped =>
      obtain rfl : skipped = false := by
        rw [houtcome] at hlast
        simpa using hlast
      have hidle : ∀ unit ∈ units, Idle cursor unit := fun unit hunit =>
        hunits.idle unit hunit cursor
          (pass_eq_false (fun unit hunit => .of_ends (hunits.ends unit hunit)) houtcome unit hunit)
      rw [restarting_of_not_true (by simp [firstOf_of_idle hidle, Step.done]),
        firstOf_of_idle hidle]
      exact pass_of_idle hidle
  · rintro cursor _ hyes rfl
    have hwhole := hpass cursor
    rwa [Step.bind_of_ok _ hyes] at hwhole

theorem perm {permuted : List (Scan Bool)} (hperm : permuted.Perm units) : Exclusive permuted where
  ends unit hunit := hunits.ends unit (hperm.mem_iff.1 hunit)
  idle unit hunit := hunits.idle unit (hperm.mem_iff.1 hunit)
  alone cursor := (hperm.pairwise_iff Or.symm).2 (hunits.alone cursor)

theorem restarting_perm {permuted : List (Scan Bool)} (hperm : permuted.Perm units) :
    restarting permuted = restarting units := by
  have hfirst : firstOf permuted = firstOf units := by
    funext cursor
    by_cases hidle : ∀ unit ∈ units, Idle cursor unit
    · rw [firstOf_of_idle hidle,
        firstOf_of_idle fun unit hunit => hidle unit (hperm.mem_iff.1 hunit)]
    · obtain ⟨unit, hunit, hne⟩ := hunits.exists_active hidle
      rw [hunits.firstOf_eq hunit hne, (hunits.perm hperm).firstOf_eq (hperm.mem_iff.2 hunit) hne]
  rw [restarting, restarting, hfirst]

end Exclusive

end

/-! ### Units whose marks do not overlap -/

/-- Built-in units, at most one of them blank characters, of which no mark starts with the mark of
another one and, if there are blank characters, no mark starts with one. -/
structure Separate (units : List SkipUnit) : Prop where
  fixed : ∀ unit ∈ units, unit.HasFixedStart
  blanks_once : units.Pairwise fun first second =>
    ¬ (first.isBlanks = true ∧ second.isBlanks = true)
  apart : units.Pairwise fun first second =>
    ∀ mark ∈ first.opening, ∀ other ∈ second.opening, ¬ mark <+: other ∧ ¬ other <+: mark
  not_blank : .blanks ∈ units → ∀ unit ∈ units, ∀ mark ∈ unit.opening, ∀ ch ∈ mark.head?,
    Text.isBlank ch = false

namespace Separate

variable {units : List SkipUnit} (hunits : Separate units)
include hunits

theorem opens_alone (text : Text) :
    units.Pairwise fun first second => first.opens text = false ∨ second.opens text = false := by
  -- A mark in front of the text starts with the character that is in front of it.
  have hclash {unit : SkipUnit} (hunit : unit ∈ units) (hblanks : .blanks ∈ units) {mark : Text}
      (hne : mark ≠ []) (hopening : unit.opening = some mark) (hinitial : mark <+: text) :
      SkipUnit.blanks.opens text = false := by
    obtain ⟨ch, others, rfl⟩ := List.exists_cons_of_ne_nil hne
    obtain ⟨rest, rfl⟩ := hinitial
    exact hunits.not_blank hblanks unit hunit _ hopening ch rfl
  refine (hunits.blanks_once.and hunits.apart).imp_of_mem ?_
  rintro first second hfirst hsecond ⟨hblanks, hmarks⟩
  refine (Bool.eq_false_or_eq_true (first.opens text)).symm.imp_right fun hopens => ?_
  rcases (hunits.fixed first hfirst).blanks_or_mark with rfl | ⟨mark, hne, hopening, hmark⟩
  · rcases (hunits.fixed second hsecond).blanks_or_mark with rfl | ⟨mark', hne', hopening', hmark'⟩
    · exact absurd ⟨rfl, rfl⟩ hblanks
    · rw [hmark', Bool.eq_false_iff, ne_eq, List.isPrefixOf_iff_prefix]
      intro hinitial
      exact Bool.false_ne_true ((hclash hsecond hfirst hne' hopening' hinitial).symm.trans hopens)
  · rw [hmark, List.isPrefixOf_iff_prefix] at hopens
    rcases (hunits.fixed second hsecond).blanks_or_mark with rfl | ⟨mark', hne', hopening', hmark'⟩
    · exact hclash hfirst hsecond hne hopening hopens
    · obtain ⟨hno, hno'⟩ := hmarks mark hopening mark' hopening'
      rw [hmark', Bool.eq_false_iff, ne_eq, List.isPrefixOf_iff_prefix]
      intro hinitial
      rcases List.prefix_or_prefix_of_prefix hopens hinitial with hshort | hshort
      · exact hno hshort
      · exact hno' hshort

theorem exclusive (strategy : Strategy) : Exclusive (units.map (SkipUnit.form strategy)) where
  ends := forms_end ⟨units⟩ strategy .exact fun unit hunit => (hunits.fixed unit hunit).allRules _
  idle := by
    intro unit hunit cursor hno
    obtain ⟨original, horiginal, rfl⟩ := List.mem_map.1 hunit
    have hfixed := hunits.fixed original horiginal
    refine SkipUnit.form_of_not_opens strategy hfixed ?_
    rw [(original.form_agrees strategy cursor).1] at hno
    simpa using fun hopens => SkipUnit.outcome_skip_of_opens hfixed hopens hno
  alone := by
    intro cursor
    refine List.pairwise_map.2 ((hunits.opens_alone cursor.rest).imp_of_mem ?_)
    intro first second hfirst hsecond hopens
    exact hopens.imp (SkipUnit.form_of_not_opens strategy (hunits.fixed first hfirst))
      (SkipUnit.form_of_not_opens strategy (hunits.fixed second hsecond))

end Separate

theorem separate_sql (options : Sql.Options) : Separate (Sql.whitespace options).units := by
  have hmark (flatComments : Bool) :
      (if flatComments then BlockComment.cStyle else .sql).startMark = ['/', '*'] := by
    cases flatComments <;> rfl
  refine ⟨fixed_sql options, ?_, ?_, ?_⟩
  · simp [Sql.whitespace, SkipUnit.isBlanks]
  · simp [Sql.whitespace, SkipUnit.opening, LineComment.sql, hmark]
  · have hblank : Text.isBlank '-' = false ∧ Text.isBlank '/' = false := by decide
    simp [Sql.whitespace, SkipUnit.opening, LineComment.sql, hmark, hblank]

/-! ### Skipping and reading -/

/-- The text that is skipped, as a slice. -/
def reading (skip : Scan Bool) : Scan (Option Slice) := do
  let start ← Scan.here
  if ← skip then
    return some (← Scan.sliceFrom start.offset)
  else return none

theorem skip_whitespace (whitespace : Whitespace) (strategy : Strategy) :
    (Scanner.whitespace whitespace).skip strategy =
      passes (whitespace.units.map (SkipUnit.form strategy)) := by
  cases strategy <;> rfl

theorem run_whitespace (whitespace : Whitespace) (strategy : Strategy) :
    (Scanner.whitespace whitespace).run strategy =
      reading ((Scanner.whitespace whitespace).skip strategy) := by
  cases strategy with
  | interpreted => rfl
  | compiled =>
    funext cursor
    change whitespace.compile.run cursor = reading whitespace.compileSkip cursor
    rw [compile, reading]
    simp only [Scan.bind_apply, Scan.here_apply, Step.bind_done]
    congr 1
    funext skipped after
    cases skipped with
    | false => rfl
    | true => simp only [if_true, Scan.bind_apply, Scan.here_apply, Step.bind_done, commit_here]

/-- Units whose marks do not overlap skip and read the same in every order, with both strategies:
every permutation comes to the same value or error and leaves the same cursor, and so does the loop
that starts again from the first unit after every unit that skipped something. No operation is
refused on the way. The units of the presets are of this kind. -/
theorem order_makes_no_difference :
    (∀ units permuted : List SkipUnit, Separate units → permuted.Perm units →
      ∀ (strategy : Strategy) (cursor : Cursor),
        (Scanner.whitespace ⟨permuted⟩).skip strategy cursor =
            (Scanner.whitespace ⟨units⟩).skip strategy cursor ∧
          (Scanner.whitespace ⟨permuted⟩).run strategy cursor =
            (Scanner.whitespace ⟨units⟩).run strategy cursor ∧
          (Scanner.whitespace ⟨units⟩).skip strategy cursor =
            restarting (units.map (SkipUnit.form strategy)) cursor ∧
          (Scanner.whitespace ⟨units⟩).run strategy cursor =
            reading (restarting (units.map (SkipUnit.form strategy))) cursor ∧
          ((Scanner.whitespace ⟨units⟩).skip strategy cursor).Faultless ∧
          ((Scanner.whitespace ⟨units⟩).run strategy cursor).Faultless) ∧
      Separate sql.units ∧ ∀ options, Separate (Sql.whitespace options).units := by
  refine ⟨?_, separate_sql .initial, separate_sql⟩
  intro units permuted hunits hperm strategy cursor
  have hexclusive := hunits.exclusive strategy
  have hforms : (permuted.map (SkipUnit.form strategy)).Perm (units.map (SkipUnit.form strategy)) :=
    hperm.map _
  have hloop : (Scanner.whitespace ⟨units⟩).skip strategy =
      restarting (units.map (SkipUnit.form strategy)) := by
    rw [skip_whitespace]
    exact funext hexclusive.passes_eq_restarting
  have hsame : (Scanner.whitespace ⟨permuted⟩).skip strategy =
      (Scanner.whitespace ⟨units⟩).skip strategy := by
    rw [hloop, skip_whitespace, ← hexclusive.restarting_perm hforms]
    exact funext (hexclusive.perm hforms).passes_eq_restarting
  have hends : ((Scanner.whitespace ⟨units⟩).skip strategy cursor).Ends cursor.Skipped
      cursor.Stops := by
    rw [skip_whitespace]
    exact passes_ends SkipBound.exact.chain (pass_ends SkipBound.exact.chain hexclusive.ends) cursor
  have hrules : (Scanner.whitespace ⟨units⟩).AllRules SkipRule.Honest := fun unit hunit =>
    (hunits.fixed unit hunit).allRules _
  refine ⟨by rw [hsame], ?_, by rw [hloop], ?_, hends.faultless, ?_⟩
  · rw [run_whitespace, run_whitespace, hsame]
  · rw [run_whitespace, hloop]
  · exact (Scanner.ends_run.2 (Scanner.scan_ends .skipped hrules cursor)).faultless

/-- Comments before blank characters, in front of a script where a pass and the loop try the units
at different places. -/
theorem order_makes_no_difference_reversed :
    [SkipUnit.block .sql, .line .sql, .blanks].Perm [.blanks, .line .sql, .block .sql] ∧
      (Scanner.whitespace ⟨[.block .sql, .line .sql, .blanks]⟩).skip .compiled
          (.ofText ['/', '*', '*', '/', ' ', '-', '-', '\n', '/', '*']) =
        (Scanner.whitespace .sql).skip .compiled
          (.ofText ['/', '*', '*', '/', ' ', '-', '-', '\n', '/', '*']) := by
  have hperm : [SkipUnit.block .sql, .line .sql, .blanks].Perm [.blanks, .line .sql, .block .sql] :=
    List.reverse_perm [SkipUnit.blanks, .line .sql, .block .sql]
  exact ⟨hperm, (order_makes_no_difference.1 _ _ (separate_sql .initial) hperm .compiled _).1⟩

end Whitespace

end Lexkit
