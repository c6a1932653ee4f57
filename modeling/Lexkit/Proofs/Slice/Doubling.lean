import Lexkit.Proofs.Slice.Runs

/-!
# What doubling and undoubling change

Both operations look at a text run by run. Escaping makes every maximal run of the character twice
as long; unescaping halves it, and an odd one out at the end of a run stays. `RunsBecome` says this
of whole texts, with the new length of a run as a function of the old one, and leaves only one text
that an operation can give. A slice shares its buffer with what is made of it exactly if nothing
changes.
-/

namespace Lexkit

namespace Text

/-- The second text is the first one with every maximal run of `ch` brought to another length. -/
inductive RunsBecome (ch : Char) (newLength : Nat → Nat) : Text → Text → Prop
  | plain {text : Text} (hmem : ch ∉ text) : RunsBecome ch newLength text text
  | run {text before behind others : Text} {length : Nat}
    (hrun : MaximalRun ch text before length behind) (hbefore : ch ∉ before)
    (hothers : RunsBecome ch newLength behind others) :
    RunsBecome ch newLength text (before ++ (List.replicate (newLength length) ch ++ others))

variable {ch : Char} {newLength : Nat → Nat} {text result before behind : Text}

/-! ### Run by run -/

theorem escape_append (ch : Char) (left right : Text) :
    escape ch (left ++ right) = escape ch left ++ escape ch right := by
  induction left with
  | nil => rfl
  | cons c left ih =>
    by_cases hc : c = ch
    · subst hc
      rw [List.cons_append, escape_cons_self, escape_cons_self, ih]
      rfl
    · rw [List.cons_append, escape_cons_of_ne ch hc, escape_cons_of_ne ch hc, ih]
      rfl

theorem escape_replicate (ch : Char) (length : Nat) :
    escape ch (List.replicate length ch) = List.replicate (2 * length) ch := by
  induction length with
  | zero => rfl
  | succ length ih =>
    rw [List.replicate_succ, escape_cons_self, ih, Nat.mul_succ, List.replicate_succ,
      List.replicate_succ]

theorem unescape_append_of_not_mem (hbefore : ch ∉ before) (text : Text) :
    unescape ch (before ++ text) = before ++ unescape ch text := by
  induction before with
  | nil => rfl
  | cons c before ih =>
    have hne : c ≠ ch := (List.ne_of_not_mem_cons hbefore).symm
    rw [List.cons_append, unescape_cons_of_ne ch hne, ih (List.not_mem_of_not_mem_cons hbefore)]
    rfl

theorem unescape_cons_of_head? (hbehind : behind.head? ≠ some ch) :
    unescape ch (ch :: behind) = ch :: unescape ch behind := by
  cases behind with
  | nil => rfl
  | cons d behind => rw [unescape, if_neg fun hboth => hbehind (congrArg some hboth.2)]

/-- A run is taken in pairs from the left, so an odd one out is its last character. -/
theorem unescape_replicate_append (hbehind : behind.head? ≠ some ch) : (length : Nat) →
    unescape ch (List.replicate length ch ++ behind) =
      List.replicate ((length + 1) / 2) ch ++ unescape ch behind
  | 0 => rfl
  | 1 => unescape_cons_of_head? hbehind
  | length + 2 => by
    have hhalf : (length + 2 + 1) / 2 = (length + 1) / 2 + 1 := by omega
    rw [hhalf, List.replicate_succ, List.replicate_succ, List.replicate_succ, List.cons_append,
      List.cons_append, List.cons_append, unescape, if_pos ⟨rfl, rfl⟩,
      unescape_replicate_append hbehind length]

theorem RunsBecome.eq_escape (hruns : RunsBecome ch (fun length => 2 * length) text result) :
    result = escape ch text := by
  induction hruns with
  | plain hmem => exact (escape_of_not_mem ch hmem).symm
  | run hrun hbefore hothers ih =>
    rw [hrun.text_eq, escape_append, escape_append, escape_of_not_mem ch hbefore, escape_replicate,
      ih]

theorem unescape_of_not_mem (hmem : ch ∉ text) : unescape ch text = text := by
  have htext := unescape_append_of_not_mem hmem []
  rwa [List.append_nil, unescape, List.append_nil] at htext

theorem RunsBecome.eq_unescape
    (hruns : RunsBecome ch (fun length => (length + 1) / 2) text result) :
    result = unescape ch text := by
  induction hruns with
  | plain hmem => exact (unescape_of_not_mem hmem).symm
  | run hrun hbefore hothers ih =>
    rw [hrun.text_eq, unescape_append_of_not_mem hbefore, unescape_replicate_append hrun.behind_ne,
      ih]

/-! ### Every text has its runs -/

theorem RunsBecome.cons_of_ne {c : Char} (hne : c ≠ ch)
    (hruns : RunsBecome ch newLength text result) :
    RunsBecome ch newLength (c :: text) (c :: result) := by
  cases hruns with
  | plain hmem => exact .plain (List.not_mem_cons_of_ne_of_not_mem hne.symm hmem)
  | @run _ before behind others length hrun hbefore hothers =>
    have hlater := (maximalRun_cons_of_ne hne).2 ⟨before, rfl, hrun⟩
    exact .run hlater (List.not_mem_cons_of_ne_of_not_mem hne.symm hbefore) hothers

/-- One more `ch` in front joins a run that starts the text, or is a run of its own. -/
theorem RunsBecome.exists_cons_self (hruns : RunsBecome ch newLength text result) :
    ∃ more, RunsBecome ch newLength (ch :: text) more := by
  have halone (hnext : text.head? ≠ some ch) : ∃ more, RunsBecome ch newLength (ch :: text) more :=
    ⟨_, .run ⟨rfl, Nat.one_pos, by simp, hnext⟩ List.not_mem_nil hruns⟩
  cases hruns with
  | plain hmem => exact halone fun hnext => hmem (List.mem_of_mem_head? hnext)
  | @run _ before behind others length hrun hbefore hothers =>
    cases before with
    | nil =>
      have hlonger : MaximalRun ch (ch :: text) [] (length + 1) behind :=
        ⟨congrArg (ch :: ·) hrun.text_eq, Nat.succ_pos _, by simp, hrun.behind_ne⟩
      exact ⟨_, .run hlonger List.not_mem_nil hothers⟩
    | cons first before =>
      refine halone fun hnext => hbefore ?_
      rw [hrun.text_eq] at hnext
      exact Option.some.inj hnext ▸ List.mem_cons_self

theorem exists_runsBecome (ch : Char) (newLength : Nat → Nat) (text : Text) :
    ∃ result, RunsBecome ch newLength text result := by
  induction text with
  | nil => exact ⟨[], .plain List.not_mem_nil⟩
  | cons c text ih =>
    obtain ⟨result, hruns⟩ := ih
    by_cases hc : c = ch
    · subst hc
      exact hruns.exists_cons_self
    · exact ⟨c :: result, hruns.cons_of_ne hc⟩

/-- A text with its runs at other lengths is there, so it is the one an operation gives if the
operation gives no other. -/
theorem runsBecome_iff {change : Text → Text}
    (hchange : ∀ {result}, RunsBecome ch newLength text result → result = change text) :
    RunsBecome ch newLength text result ↔ result = change text := by
  refine ⟨hchange, ?_⟩
  rintro rfl
  obtain ⟨other, hother⟩ := exists_runsBecome ch newLength text
  exact hchange hother ▸ hother

/-! ### When nothing changes -/

theorem length_escape (ch : Char) (text : Text) :
    (escape ch text).length = text.length + text.count ch := by
  induction text with
  | nil => rfl
  | cons c text ih =>
    by_cases hc : c = ch
    · subst hc
      rw [escape_cons_self, List.count_cons_self, List.length_cons, List.length_cons, ih,
        List.length_cons]
      omega
    · rw [escape_cons_of_ne ch hc, List.count_cons_of_ne hc, List.length_cons, ih, List.length_cons]
      omega

theorem escape_eq_self_iff : escape ch text = text ↔ ch ∉ text := by
  refine ⟨fun hsame => ?_, escape_of_not_mem ch⟩
  have hlength := length_escape ch text
  rw [hsame] at hlength
  exact List.count_eq_zero.1 (by omega)

theorem length_unescape_le (ch : Char) (text : Text) :
    (unescape ch text).length ≤ text.length := by
  fun_induction unescape ch text with
  | case1 => exact Nat.le_refl _
  | case2 c => exact Nat.le_refl _
  | case3 c d text hboth ih =>
    simp only [List.length_cons]
    omega
  | case4 c d text hboth ih => exact Nat.succ_le_succ ih

theorem length_unescape_lt (hpair : hasPair ch text = true) :
    (unescape ch text).length < text.length := by
  fun_induction unescape ch text with
  | case1 => simp [hasPair] at hpair
  | case2 c => simp [hasPair] at hpair
  | case3 c d text hboth ih =>
    have hrest := length_unescape_le ch text
    simp only [List.length_cons]
    omega
  | case4 c d text hboth ih =>
    refine Nat.succ_lt_succ (ih ?_)
    simpa [hasPair, hboth] using hpair

theorem unescape_eq_self_iff : unescape ch text = text ↔ ¬ [ch, ch] <:+: text := by
  rw [← hasPair_iff]
  refine ⟨fun hsame hpair => ?_, fun hpair => unescape_of_not_hasPair ch (by simpa using hpair)⟩
  have hless := length_unescape_lt hpair
  rw [hsame] at hless
  exact Nat.lt_irrefl _ hless

/-- The texts that are escaped are those that unescaping and escaping again gives back. -/
theorem escape_unescape_eq_self_iff : escape ch (unescape ch text) = text ↔ EvenRuns ch text := by
  rw [evenRuns_iff]
  constructor
  · exact fun hsame => ⟨unescape ch text, hsame.symm⟩
  · rintro ⟨inner, rfl⟩
    rw [unescape_escape]

end Text

namespace Slice

variable {slice : Slice} {ch : Char} {fresh : Nat}

/-- The result of an operation views what the slice views exactly if its text is that of the slice,
and is then the slice itself; otherwise it covers a buffer of its own. -/
structure Shares (slice result : Slice) (fresh : Nat) : Prop where
  sameSpan_iff : result.sameSpan slice = true ↔ result.text = slice.text
  eq_of_text_eq : result.text = slice.text → result = slice
  eq_of_text_ne : result.text ≠ slice.text →
    result.buffer.id ≠ slice.buffer.id ∧ result = whole (.ofText fresh result.text)

theorem Shares.refl (slice : Slice) (fresh : Nat) : Shares slice slice fresh where
  sameSpan_iff := by simp [sameSpan]
  eq_of_text_eq _ := rfl
  eq_of_text_ne hne := absurd rfl hne

theorem shares_whole {text : Text} (hfresh : fresh ≠ slice.buffer.id) (hne : text ≠ slice.text) :
    Shares slice (whole (.ofText fresh text)) fresh where
  sameSpan_iff := by
    refine iff_of_false ?_ hne
    simp [sameSpan, whole, Buffer.ofText, hfresh]
  eq_of_text_eq heq := absurd heq hne
  eq_of_text_ne _ := ⟨hfresh, rfl⟩

theorem shares_escape (hfresh : fresh ≠ slice.buffer.id) :
    Shares slice (slice.escape ch fresh) fresh := by
  rw [escape]
  split
  · rename_i hmem
    refine shares_whole hfresh fun hsame => ?_
    exact Text.escape_eq_self_iff.1 hsame (by simpa using hmem)
  · exact .refl slice fresh

theorem shares_unescape (hfresh : fresh ≠ slice.buffer.id) :
    Shares slice (slice.unescape ch fresh) fresh := by
  rw [unescape]
  split
  · rename_i hpair
    refine shares_whole hfresh fun hsame => ?_
    exact Text.unescape_eq_self_iff.1 hsame (Text.hasPair_iff.1 hpair)
  · exact .refl slice fresh

/-- Unescaping undoes escaping, and escaping undoes unescaping where all runs are even. Escaping
makes every maximal run twice as long and unescaping halves it, rounding up; all else stays. A slice
in which nothing changes is given back, and any other result has a buffer of its own. -/
theorem doubling_laws (slice : Slice) (ch : Char) {fresh again : Nat}
    (hfresh : fresh ≠ slice.buffer.id) :
    ((slice.escape ch fresh).unescape ch again).text = slice.text ∧
    (∀ result, Text.RunsBecome ch (fun length => 2 * length) slice.text result ↔
      result = (slice.escape ch fresh).text) ∧
    (∀ result, Text.RunsBecome ch (fun length => (length + 1) / 2) slice.text result ↔
      result = (slice.unescape ch fresh).text) ∧
    (((slice.unescape ch fresh).escape ch again).text = slice.text ↔
      Text.EvenRuns ch slice.text) ∧
    Shares slice (slice.escape ch fresh) fresh ∧
    ((slice.escape ch fresh).text = slice.text ↔ ch ∉ slice.text) ∧
    Shares slice (slice.unescape ch fresh) fresh ∧
    ((slice.unescape ch fresh).text = slice.text ↔ ¬ [ch, ch] <:+: slice.text) := by
  simp only [text_escape, text_unescape]
  exact ⟨Text.unescape_escape ch slice.text,
    fun result => Text.runsBecome_iff Text.RunsBecome.eq_escape,
    fun result => Text.runsBecome_iff Text.RunsBecome.eq_unescape,
    Text.escape_unescape_eq_self_iff,
    shares_escape hfresh, Text.escape_eq_self_iff, shares_unescape hfresh,
    Text.unescape_eq_self_iff⟩

/-- Three brackets become two, of which the second was not part of a pair; escaping the two gives
four. -/
theorem doubling_laws_odd_run :
    let slice : Slice := ⟨.ofText 0 ['[', 'a', ']', ']', ']'], 1, ['a', ']', ']', ']']⟩
    1 ≠ slice.buffer.id ∧
      Text.RunsBecome ']' (fun length => (length + 1) / 2) slice.text ['a', ']', ']'] ∧
      ¬ Text.EvenRuns ']' slice.text ∧ (slice.unescape ']' 1).sameSpan slice = false := by
  intro slice
  have hfresh : 1 ≠ slice.buffer.id := by decide
  obtain ⟨-, -, hunescape, hescape, -, -, hshares, -⟩ := @doubling_laws slice ']' 1 2 hfresh
  refine ⟨hfresh, (hunescape _).2 (by decide), fun heven => ?_, ?_⟩
  · exact absurd (hescape.2 heven) (by decide)
  · exact Bool.eq_false_iff.2 fun hsame => absurd (hshares.sameSpan_iff.1 hsame) (by decide)

end Slice

end Lexkit
