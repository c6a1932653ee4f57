import Lexkit.Slice.Escape

/-!
# Doubling and undoubling a character

Unescaping an escaped text gives the text back. The slice operations look first whether anything is
to be doubled or undoubled and keep the slice when nothing is; their text is the same with and
without that shortcut.
-/

namespace Lexkit

namespace Text

variable (ch : Char)

theorem escape_cons_self (text : Text) : escape ch (ch :: text) = ch :: ch :: escape ch text := by
  rw [escape, if_pos rfl]

theorem escape_cons_of_ne {c : Char} (hne : c ≠ ch) (text : Text) :
    escape ch (c :: text) = c :: escape ch text := by
  rw [escape, if_neg hne]

theorem escape_eq_nil {text : Text} : escape ch text = [] ↔ text = [] := by
  cases text with
  | nil => simp [escape]
  | cons c text =>
    rw [escape]
    split <;> simp

theorem escape_of_not_mem {text : Text} (hmem : ch ∉ text) : escape ch text = text := by
  induction text with
  | nil => rfl
  | cons c text ih =>
    have hne : c ≠ ch := (List.ne_of_not_mem_cons hmem).symm
    rw [escape_cons_of_ne ch hne, ih (List.not_mem_of_not_mem_cons hmem)]

theorem unescape_cons_of_ne {c : Char} (hne : c ≠ ch) (text : Text) :
    unescape ch (c :: text) = c :: unescape ch text := by
  cases text with
  | nil => rfl
  | cons d text => rw [unescape, if_neg fun hboth => hne hboth.1]

theorem unescape_escape (text : Text) : unescape ch (escape ch text) = text := by
  induction text with
  | nil => rfl
  | cons c text ih =>
    by_cases hc : c = ch
    · subst hc
      rw [escape_cons_self, unescape, if_pos ⟨rfl, rfl⟩, ih]
    · rw [escape_cons_of_ne ch hc, unescape_cons_of_ne ch hc, ih]

theorem unescape_of_not_hasPair {text : Text} (hpair : hasPair ch text = false) :
    unescape ch text = text := by
  fun_induction unescape ch text with
  | case1 => rfl
  | case2 c => rfl
  | case3 c d text hboth ih =>
    obtain ⟨rfl, rfl⟩ := hboth
    simp [hasPair] at hpair
  | case4 c d text hboth ih =>
    have htail : hasPair ch (d :: text) = false := by
      simp only [hasPair, List.tail_cons, List.zip_cons_cons, List.any_cons,
        Bool.or_eq_false_iff] at hpair
      exact hpair.2
    rw [ih htail]

end Text

@[simp] theorem Slice.text_escape (slice : Slice) (ch : Char) (fresh : Nat) :
    (slice.escape ch fresh).text = Text.escape ch slice.text := by
  rw [Slice.escape]
  split
  · rfl
  · rename_i hmem
    exact (Text.escape_of_not_mem ch (by simpa using hmem)).symm

@[simp] theorem Slice.text_unescape (slice : Slice) (ch : Char) (fresh : Nat) :
    (slice.unescape ch fresh).text = Text.unescape ch slice.text := by
  rw [Slice.unescape]
  split
  · rfl
  · rename_i hpair
    exact (Text.unescape_of_not_hasPair ch (by simpa using hpair)).symm

end Lexkit
