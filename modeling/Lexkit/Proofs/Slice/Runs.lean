import Lexkit.Proofs.Slice.Escape

/-!
# Runs of one character

An escaped text holds the character in runs of even length only. So the first `ch` after an escaped
text that no further one follows can be told from the escaped ones: it is the last of the first run
of odd length. Every text is of one of these two kinds, an escaped text, or an escaped text up to
such a `ch` (`escape_cases`), and which of the two it is shows in its runs.
-/

namespace Lexkit.Text

/-- The `length` characters after `before` are all `ch`, and no further one stands next to them. -/
structure MaximalRun (ch : Char) (text before : Text) (length : Nat) (behind : Text) : Prop where
  text_eq : text = before ++ (List.replicate length ch ++ behind)
  length_pos : 0 < length
  before_ne : before.getLast? ≠ some ch
  behind_ne : behind.head? ≠ some ch

/-- No maximal run of `ch` has odd length. -/
def EvenRuns (ch : Char) (text : Text) : Prop :=
  ∀ before length behind, MaximalRun ch text before length behind → length % 2 = 0

/-- A maximal run of odd length, where those that start earlier have even length. -/
structure FirstOddRun (ch : Char) (text before : Text) (length : Nat) (behind : Text) : Prop
    extends MaximalRun ch text before length behind where
  odd : length % 2 = 1
  even_earlier : ∀ earlier count later, MaximalRun ch text earlier count later →
    earlier.length < before.length → count % 2 = 0

variable {ch c : Char} {text before behind : Text} {length : Nat}

/-! ### Runs behind another character or a pair -/

theorem MaximalRun.head_eq (hrun : MaximalRun ch text [] length behind) :
    text.head? = some ch := by
  obtain ⟨others, hothers⟩ := Nat.exists_eq_add_of_lt hrun.length_pos
  rw [hrun.text_eq, hothers, List.replicate_succ]
  rfl

/-- A run in a text that starts with another character is one in the rest of the text. -/
theorem maximalRun_cons_of_ne (hne : c ≠ ch) :
    MaximalRun ch (c :: text) before length behind ↔
      ∃ others, before = c :: others ∧ MaximalRun ch text others length behind := by
  have hlast (others : Text) : (c :: others).getLast? ≠ some ch ↔ others.getLast? ≠ some ch := by
    cases others with
    | nil => simpa using hne
    | cons d others => rw [List.getLast?_cons_cons]
  constructor
  · intro hrun
    cases before with
    | nil => exact absurd (Option.some.inj hrun.head_eq) hne
    | cons first others =>
      obtain ⟨rfl, htext⟩ := List.cons.inj hrun.text_eq
      exact ⟨others, rfl, htext, hrun.length_pos, (hlast others).1 hrun.before_ne, hrun.behind_ne⟩
  · rintro ⟨others, rfl, hrun⟩
    exact ⟨congrArg (c :: ·) hrun.text_eq, hrun.length_pos, (hlast others).2 hrun.before_ne,
      hrun.behind_ne⟩

/-- A pair in front of a text makes its first run longer, or is a run of its own. The other runs
are those of the text. -/
theorem MaximalRun.of_pair (hrun : MaximalRun ch (ch :: ch :: text) before length behind) :
    (before = [] ∧
      (length = 2 ∨ ∃ count, length = count + 2 ∧ MaximalRun ch text [] count behind)) ∨
      ∃ others, others ≠ [] ∧ before = ch :: ch :: others ∧
        MaximalRun ch text others length behind := by
  obtain ⟨htext, hpos, hbefore, hbehind⟩ := hrun
  match before, length with
  | [], 1 =>
    rw [List.nil_append, List.replicate_one, List.singleton_append] at htext
    exact absurd (congrArg List.head? (List.cons.inj htext).2.symm) hbehind
  | [], 2 => exact .inl ⟨rfl, .inl rfl⟩
  | [], count + 3 =>
    rw [List.nil_append, List.replicate_succ, List.replicate_succ, List.cons_append,
      List.cons_append] at htext
    have hrest := (List.cons.inj (List.cons.inj htext).2).2
    exact .inl ⟨rfl, .inr ⟨count + 1, rfl, hrest, Nat.succ_pos count, by simp, hbehind⟩⟩
  | [first], length =>
    obtain ⟨rfl, -⟩ := List.cons.inj htext
    exact absurd rfl hbefore
  | first :: second :: others, length =>
    simp only [List.cons_append, List.cons.injEq] at htext
    obtain ⟨rfl, rfl, hrest⟩ := htext
    cases others with
    | nil => exact absurd rfl hbefore
    | cons third others =>
      rw [List.getLast?_cons_cons, List.getLast?_cons_cons] at hbefore
      exact .inr ⟨third :: others, List.cons_ne_nil _ _, rfl, hrest, hpos, hbefore, hbehind⟩

theorem EvenRuns.cons_of_ne (hne : c ≠ ch) (heven : EvenRuns ch text) :
    EvenRuns ch (c :: text) := by
  intro before length behind hrun
  obtain ⟨others, -, hothers⟩ := (maximalRun_cons_of_ne hne).1 hrun
  exact heven others length behind hothers

theorem EvenRuns.pair (heven : EvenRuns ch text) : EvenRuns ch (ch :: ch :: text) := by
  intro before length behind hrun
  obtain ⟨-, rfl | ⟨count, rfl, hcount⟩⟩ | ⟨others, -, -, hothers⟩ := hrun.of_pair
  · rfl
  · rw [Nat.add_mod_right]
    exact heven [] count behind hcount
  · exact heven others length behind hothers

theorem FirstOddRun.cons_of_ne (hne : c ≠ ch) (hfirst : FirstOddRun ch text before length behind) :
    FirstOddRun ch (c :: text) (c :: before) length behind where
  toMaximalRun := (maximalRun_cons_of_ne hne).2 ⟨before, rfl, hfirst.toMaximalRun⟩
  odd := hfirst.odd
  even_earlier earlier count later hrun hless := by
    obtain ⟨others, rfl, hothers⟩ := (maximalRun_cons_of_ne hne).1 hrun
    exact hfirst.even_earlier others count later hothers (Nat.lt_of_succ_lt_succ hless)

/-- With a pair in front of it the first odd run is longer, or comes later; it ends where it did. -/
theorem FirstOddRun.pair (hfirst : FirstOddRun ch text before length behind) :
    ∃ before' length', FirstOddRun ch (ch :: ch :: text) before' length' behind ∧
      before' ++ List.replicate length' ch =
        ch :: ch :: (before ++ List.replicate length ch) := by
  obtain ⟨⟨htext, hpos, hbefore, hbehind⟩, hodd, hearlier⟩ := hfirst
  cases before with
  | nil =>
    refine ⟨[], length + 2, ⟨⟨?_, Nat.succ_pos _, by simp, hbehind⟩, ?_, ?_⟩, ?_⟩
    · rw [htext, List.replicate_succ, List.replicate_succ]
      rfl
    · rwa [Nat.add_mod_right]
    · exact fun _ _ _ _ hless => absurd hless (Nat.not_lt_zero _)
    · rw [List.replicate_succ, List.replicate_succ]
      rfl
  | cons first others =>
    refine ⟨ch :: ch :: first :: others, length, ⟨⟨?_, hpos, ?_, hbehind⟩, hodd, ?_⟩, rfl⟩
    · rw [htext]
      rfl
    · rwa [List.getLast?_cons_cons, List.getLast?_cons_cons]
    · intro earlier count later hrun hless
      obtain ⟨rfl, rfl | ⟨shorter, rfl, hshorter⟩⟩ | ⟨rest, -, rfl, hrest⟩ := hrun.of_pair
      · rfl
      · rw [Nat.add_mod_right]
        exact hearlier [] shorter later hshorter (Nat.succ_pos _)
      · exact hearlier rest count later hrest (by simpa using hless)

theorem replicate_append_inj {count count' : Nat} {behind' : Text}
    (hbehind : behind.head? ≠ some ch) (hbehind' : behind'.head? ≠ some ch)
    (heq : List.replicate count ch ++ behind = List.replicate count' ch ++ behind') :
    count = count' ∧ behind = behind' := by
  induction count generalizing count' with
  | zero =>
    cases count' with
    | zero => exact ⟨rfl, heq⟩
    | succ count' =>
      rw [List.replicate_zero, List.nil_append] at heq
      exact absurd (congrArg List.head? heq) hbehind
  | succ count ih =>
    cases count' with
    | zero =>
      rw [List.replicate_zero, List.nil_append] at heq
      exact absurd (congrArg List.head? heq.symm) hbehind'
    | succ count' =>
      obtain ⟨hcount, hrest⟩ := ih (List.cons.inj heq).2
      exact ⟨congrArg (· + 1) hcount, hrest⟩

/-! ### Escaped texts -/

theorem evenRuns_nil : EvenRuns ch [] := by
  intro before length behind hrun
  have hnil := hrun.text_eq.symm
  have hpos := hrun.length_pos
  simp only [List.append_eq_nil_iff, List.replicate_eq_nil_iff] at hnil
  omega

theorem evenRuns_escape (ch : Char) (inner : Text) : EvenRuns ch (escape ch inner) := by
  induction inner with
  | nil => exact evenRuns_nil
  | cons c inner ih =>
    by_cases hc : c = ch
    · subst hc
      rw [escape_cons_self]
      exact ih.pair
    · rw [escape_cons_of_ne ch hc]
      exact ih.cons_of_ne hc

/-- A `ch` after an escaped text is the last one of the first odd run. -/
theorem exists_firstOddRun (inner : Text) (hbehind : behind.head? ≠ some ch) :
    ∃ before length, FirstOddRun ch (escape ch inner ++ ch :: behind) before length behind ∧
      before ++ List.replicate length ch = escape ch inner ++ [ch] := by
  induction inner with
  | nil =>
    refine ⟨[], 1, ⟨⟨rfl, Nat.one_pos, by simp, hbehind⟩, rfl, ?_⟩, rfl⟩
    exact fun _ _ _ _ hless => absurd hless (Nat.not_lt_zero _)
  | cons c inner ih =>
    obtain ⟨before, length, hfirst, hpassed⟩ := ih
    by_cases hc : c = ch
    · subst hc
      obtain ⟨before', length', hfirst', hpassed'⟩ := hfirst.pair
      rw [escape_cons_self]
      exact ⟨before', length', hfirst', by rw [hpassed', hpassed]; rfl⟩
    · rw [escape_cons_of_ne ch hc]
      exact ⟨c :: before, length, hfirst.cons_of_ne hc, congrArg (c :: ·) hpassed⟩

/-- Every text is escaped as a whole, or up to a `ch` that no further one follows. -/
theorem escape_cases (ch : Char) (text : Text) :
    (∃ inner, text = escape ch inner) ∨
      ∃ inner behind, text = escape ch inner ++ ch :: behind ∧ behind.head? ≠ some ch := by
  have hcons {c : Char} {text : Text} (segment : Text)
      (hescape : ∀ inner, escape ch (c :: inner) = segment ++ escape ch inner)
      (hcases : (∃ inner, text = escape ch inner) ∨
        ∃ inner behind, text = escape ch inner ++ ch :: behind ∧ behind.head? ≠ some ch) :
      (∃ inner, segment ++ text = escape ch inner) ∨
        ∃ inner behind, segment ++ text = escape ch inner ++ ch :: behind ∧
          behind.head? ≠ some ch := by
    rcases hcases with ⟨inner, rfl⟩ | ⟨inner, behind, rfl, hbehind⟩
    · exact .inl ⟨c :: inner, (hescape inner).symm⟩
    · exact .inr ⟨c :: inner, behind, by rw [hescape, List.append_assoc], hbehind⟩
  fun_induction unescape ch text with
  | case1 => exact .inl ⟨[], rfl⟩
  | case2 c =>
    by_cases hc : c = ch
    · subst hc
      exact .inr ⟨[], [], rfl, by simp⟩
    · exact .inl ⟨[c], (escape_cons_of_ne ch hc []).symm⟩
  | case3 c d text hboth ih =>
    obtain ⟨rfl, rfl⟩ := hboth
    exact hcons [_, _] (escape_cons_self _) ih
  | case4 c d text hboth ih =>
    by_cases hc : c = ch
    · subst hc
      refine .inr ⟨[], d :: text, rfl, fun hd => hboth ⟨rfl, Option.some.inj hd⟩⟩
    · exact hcons [c] (escape_cons_of_ne ch hc) ih

/-! ### Which kind of text the runs tell -/

theorem FirstOddRun.unique {before' behind' : Text} {length' : Nat}
    (hfirst : FirstOddRun ch text before length behind)
    (hother : FirstOddRun ch text before' length' behind') :
    before = before' ∧ length = length' ∧ behind = behind' := by
  -- A first odd run that starts earlier than the other one would have to be even.
  have hlength : before.length = before'.length := by
    rcases Nat.lt_trichotomy before.length before'.length with hless | hsame | hmore
    · have heven := hother.even_earlier before length behind hfirst.toMaximalRun hless
      have hodd := hfirst.odd
      omega
    · exact hsame
    · have heven := hfirst.even_earlier before' length' behind' hother.toMaximalRun hmore
      have hodd := hother.odd
      omega
  have htext := hfirst.text_eq.symm.trans hother.text_eq
  obtain ⟨rfl, hruns⟩ := List.append_inj htext hlength
  obtain ⟨rfl, rfl⟩ := replicate_append_inj hfirst.behind_ne hother.behind_ne hruns
  exact ⟨rfl, rfl, rfl⟩

/-- The texts without an odd run are the escaped ones. -/
theorem evenRuns_iff : EvenRuns ch text ↔ ∃ inner, text = escape ch inner := by
  constructor
  · intro heven
    rcases escape_cases ch text with hinner | ⟨inner, behind, rfl, hbehind⟩
    · exact hinner
    · obtain ⟨before, length, hfirst, -⟩ := exists_firstOddRun inner hbehind
      have hzero := heven before length behind hfirst.toMaximalRun
      have hodd := hfirst.odd
      omega
  · rintro ⟨inner, rfl⟩
    exact evenRuns_escape ch inner

theorem exists_firstOddRun_of_not_evenRuns (hodd : ¬ EvenRuns ch text) :
    ∃ before length behind, FirstOddRun ch text before length behind := by
  rcases escape_cases ch text with hinner | ⟨inner, behind, rfl, hbehind⟩
  · exact absurd (evenRuns_iff.2 hinner) hodd
  · obtain ⟨before, length, hfirst, -⟩ := exists_firstOddRun inner hbehind
    exact ⟨before, length, behind, hfirst⟩

/-- What stands before the last character of the first odd run is an escaped text. -/
theorem FirstOddRun.escape_eq (hfirst : FirstOddRun ch text before length behind) :
    ∃ inner, escape ch inner = before ++ List.replicate (length - 1) ch ∧
      text = escape ch inner ++ ch :: behind := by
  rcases escape_cases ch text with hinner | ⟨inner, behind', htext, hbehind⟩
  · have heven := evenRuns_iff.2 hinner before length behind hfirst.toMaximalRun
    have hodd := hfirst.odd
    omega
  · obtain ⟨before', length', hfirst', hpassed⟩ := exists_firstOddRun inner hbehind
    rw [← htext] at hfirst'
    obtain ⟨rfl, rfl, rfl⟩ := hfirst.unique hfirst'
    obtain ⟨count, rfl⟩ := Nat.exists_eq_succ_of_ne_zero
      (Nat.ne_of_gt hfirst.length_pos)
    rw [List.replicate_succ', ← List.append_assoc] at hpassed
    exact ⟨inner, (List.append_cancel_right hpassed).symm, htext⟩

/-! ### Pairs -/

theorem hasPair_iff : hasPair ch text = true ↔ [ch, ch] <:+: text := by
  induction text with
  | nil => simp [hasPair]
  | cons c text ih =>
    rw [List.infix_cons_iff, ← ih]
    cases text with
    | nil => simp [hasPair]
    | cons d text =>
      rw [List.cons_prefix_cons, List.cons_prefix_cons, @eq_comm _ ch, @eq_comm _ ch]
      simp only [hasPair, List.tail_cons, List.zip_cons_cons, List.any_cons, Bool.or_eq_true,
        Bool.and_eq_true, beq_iff_eq, List.nil_prefix, and_true]

end Lexkit.Text
