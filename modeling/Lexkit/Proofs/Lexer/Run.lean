import Lexkit.Proofs.Lexer

/-!
# Runs

Tokenizing calls the lexer again and again. The calls that give a token make a run, from the cursor
of the first call to the cursor that the last one leaves. What comes after a run does not depend on
it: to tokenize is to run to some place, and there to tokenize or to be given nothing or an error.
-/

namespace Lexkit.Lexer

variable {τ : Type} {lexer : Lexer τ}

/-- One call after the other gives the tokens, and leads from the first cursor to the second. -/
def Runs (lexer : Lexer τ) : Cursor → List τ → Cursor → Prop :=
  Cuts fun cursor token after => (lexer.next cursor).outcome = .ok (some (.ok token)) ∧
    (lexer.next cursor).cursor = after

/-! ### What tokenizing has run through -/

/-- A call gives malformed input as a value. -/
theorem outcome_next_ne_malformed (cursor : Cursor) (error : ScanError) :
    (lexer.next cursor).outcome ≠ .error (.malformed error) := by
  intro herror
  rw [next] at herror
  split at herror
  · simp [Step.done] at herror
  · dsimp only at herror
    split at herror
    · split at herror <;> simp at herror
    · simp at herror
    · simp at herror
    · simp at herror

/-- Tokenizing runs to the place where it is given nothing any more. -/
theorem exists_runs_of_ok {cursor : Cursor} {tokens : List τ}
    (htokens : (lexer.tokenize cursor).outcome = .ok tokens) :
    ∃ place, lexer.Runs cursor tokens place ∧ (lexer.next place).outcome = .ok none ∧
      (lexer.tokenize cursor).cursor = (lexer.next place).cursor := by
  have hloops : Scan.Loops lexer.gather cursor (lexer.tokenize cursor) :=
    Scan.loops_of_not_stalled fun hstalled => by cases htokens.symm.trans hstalled
  refine loops_induction (P := fun cursor step => ∀ tokens, step.outcome = .ok tokens →
    ∃ place, lexer.Runs cursor tokens place ∧ (lexer.next place).outcome = .ok none ∧
      step.cursor = (lexer.next place).cursor) ?_ ?_ ?_ ?_ hloops tokens htokens
  · intro cursor halt _ tokens htokens
    cases htokens
  · intro cursor hnone tokens htokens
    obtain rfl := Except.ok.inj htokens
    exact ⟨cursor, .nil cursor, hnone, rfl⟩
  · intro cursor error _ tokens htokens
    cases htokens
  · intro cursor token step htoken ih tokens htokens
    obtain ⟨others, hothers, rfl⟩ := Step.outcome_map_eq_ok.1 htokens
    obtain ⟨place, hruns, hnone, hstop⟩ := ih others hothers
    exact ⟨place, .cons ⟨htoken, rfl⟩ hruns, hnone, hstop⟩

/-- Tokenizing runs to the place where it is given an error. -/
theorem exists_runs_of_malformed {cursor : Cursor} {error : ScanError}
    (herror : (lexer.tokenize cursor).outcome = .error (.malformed error)) :
    ∃ tokens place, lexer.Runs cursor tokens place ∧
      (lexer.next place).outcome = .ok (some (.error error)) := by
  have hloops : Scan.Loops lexer.gather cursor (lexer.tokenize cursor) :=
    Scan.loops_of_not_stalled fun hstalled => by cases herror.symm.trans hstalled
  refine loops_induction (P := fun cursor step => step.outcome = .error (.malformed error) →
    ∃ tokens place, lexer.Runs cursor tokens place ∧
      (lexer.next place).outcome = .ok (some (.error error))) ?_ ?_ ?_ ?_ hloops herror
  · intro cursor halt hhalt herror
    obtain rfl := Except.error.inj herror
    exact absurd hhalt (outcome_next_ne_malformed cursor error)
  · intro cursor _ herror
    cases herror
  · intro cursor found hfound herror
    obtain rfl := Halt.malformed.inj (Except.error.inj herror)
    exact ⟨[], cursor, .nil cursor, hfound⟩
  · intro cursor token step htoken ih herror
    obtain ⟨tokens, place, hruns, hplace⟩ := ih (Step.outcome_map_eq_error.1 herror)
    exact ⟨token :: tokens, place, .cons ⟨htoken, rfl⟩ hruns, hplace⟩

/-! ### Going on after a run -/

namespace Runs

variable {cursor middle after : Cursor} {first second : List τ}

theorem of_append (hruns : lexer.Runs cursor (first ++ second) after) :
    ∃ middle, lexer.Runs cursor first middle ∧ lexer.Runs middle second after :=
  Cuts.of_append hruns

/-- A run keeps what every call that gives a token keeps. -/
theorem cuts {good : Cursor → τ → Cursor → Prop} {tokens : List τ}
    (hgood : ∀ {cursor token}, (lexer.next cursor).outcome = .ok (some (.ok token)) →
      good cursor token (lexer.next cursor).cursor)
    (hruns : lexer.Runs cursor tokens after) : Cuts good cursor tokens after := by
  apply Cuts.mono _ hruns
  rintro cursor token after ⟨hitem, rfl⟩
  exact hgood hitem

/-- Where every token takes something, tokenizing goes through a run and on from there. -/
theorem tokenize {tokens : List τ}
    (hless : ∀ {cursor token}, (lexer.next cursor).outcome = .ok (some (.ok token)) →
      (lexer.next cursor).cursor.rest.length < cursor.rest.length)
    (hruns : lexer.Runs cursor tokens middle) :
    (lexer.tokenize cursor).Agrees ((lexer.tokenize middle).map (tokens ++ ·)) := by
  induction hruns with
  | nil cursor =>
    change (lexer.tokenize cursor).Agrees ((lexer.tokenize cursor).map fun tokens => tokens)
    rw [Step.map_id']
    exact .refl _
  | @cons cursor middle after token tokens hfirst hothers ih =>
    obtain ⟨hitem, rfl⟩ := hfirst
    rw [tokenize_of_token (advances_gather hless) hitem]
    have hwhole := ih.map (token :: ·)
    rw [Step.map_map] at hwhole
    exact hwhole

end Runs

end Lexkit.Lexer
