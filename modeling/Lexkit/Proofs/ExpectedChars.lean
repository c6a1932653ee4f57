import Lexkit.ExpectedChars
import Lexkit.Proofs.Text.Utf8

/-!
# Sets of starting characters

A set answers for a character what the list it was made of answers, whichever of its two parts the
character belongs to. A set made from a predicate answers for the probed characters only, and for
these as the predicate does; with `containsByte_lead` it can be asked about a byte in place of a
character.
-/

namespace Lexkit.ExpectedChars

/-! ### The two parts of a set -/

theorem hasBit_setBit (low : Vector (BitVec 64) 4) {number other : Nat}
    (hnumber : number < probed) (hother : other < probed) :
    hasBit (setBit low number hnumber) other hother =
      (other == number || hasBit low other hother) := by
  have hbit : (1#64 <<< (number % 64)).getLsbD (other % 64) = (other % 64 == number % 64) := by
    rw [Bool.eq_iff_iff]
    simp only [BitVec.getLsbD_shiftLeft, BitVec.getLsbD_one, Bool.and_eq_true, Bool.not_eq_true',
      decide_eq_true_eq, decide_eq_false_iff_not, beq_iff_eq]
    omega
  rw [hasBit, setBit, hasBit, Vector.getElem_set]
  by_cases hword : number / 64 = other / 64
  · have hsame : (other % 64 == number % 64) = (other == number) := by
      rw [Bool.eq_iff_iff, beq_iff_eq, beq_iff_eq]
      omega
    rw [if_pos hword, BitVec.getLsbD_or, hbit, hsame, Bool.or_comm]
    simp only [hword]
  · have hne : (other == number) = false := by
      rw [beq_eq_false_iff_ne]
      rintro rfl
      exact hword rfl
    rw [if_neg hword, hne, Bool.false_or]

theorem isOk_search {chars : Array Char} {ch : Char} (hascending : chars.toList.Pairwise (· < ·)) :
    (search chars ch).isOk = true ↔ ch ∈ chars := by
  rcases search_cases ch hascending with ⟨index, hfound, hget⟩ | ⟨index, habsent, hgap⟩
  · rw [hfound]
    exact iff_of_true rfl (Array.mem_of_getElem? hget)
  · rw [habsent]
    refine iff_of_false Bool.false_ne_true fun hmem => ?_
    obtain ⟨i, hi, rfl⟩ := Array.getElem_of_mem hmem
    rcases Nat.lt_or_ge i index with hless | hmore
    · exact Char.lt_irrefl _ (hgap.below i hi hless)
    · exact Char.lt_irrefl _ (hgap.above i hi hmore)

theorem contains_of_lt (set : ExpectedChars) {ch : Char} (hlow : ch.toNat < probed) :
    set.contains ch = hasBit set.low ch.toNat hlow := by
  rw [contains, dif_pos hlow]

theorem contains_of_le (set : ExpectedChars) {ch : Char} (hhigh : probed ≤ ch.toNat) :
    set.contains ch = true ↔ ch ∈ set.high := by
  rw [contains, dif_neg (Nat.not_lt.2 hhigh), isOk_search set.ascending]

/-! ### Sets made by insertion -/

theorem contains_empty (ch : Char) : empty.contains ch = false := by
  rcases Nat.lt_or_ge ch.toNat probed with hlow | hhigh
  · rw [contains_of_lt _ hlow, hasBit, empty, Vector.getElem_replicate, BitVec.getLsbD_zero]
  · rw [← Bool.not_eq_true, contains_of_le _ hhigh]
    exact Array.not_mem_empty ch

theorem low_insert_of_le (set : ExpectedChars) {ch : Char} (hhigh : probed ≤ ch.toNat) :
    (set.insert ch).low = set.low := by
  rw [insert, dif_neg (Nat.not_lt.2 hhigh)]
  split <;> rfl

theorem mem_high_insert_of_le (set : ExpectedChars) {ch other : Char} (hhigh : probed ≤ ch.toNat) :
    other ∈ (set.insert ch).high ↔ other = ch ∨ other ∈ set.high := by
  rw [insert, dif_neg (Nat.not_lt.2 hhigh)]
  split
  · rename_i index hfound
    have hmem : ch ∈ set.high := (isOk_search set.ascending).1 (by rw [hfound]; rfl)
    rw [or_iff_right_of_imp]
    rintro rfl
    exact hmem
  · rename_i index habsent
    exact Array.mem_insertIdx (h := (gap_of_search set.ascending habsent).index_le)

theorem contains_insert (set : ExpectedChars) (ch other : Char) :
    (set.insert ch).contains other = (other == ch || set.contains other) := by
  rcases Nat.lt_or_ge ch.toNat probed with hlow | hhigh
  · have hinsert : set.insert ch = { set with low := setBit set.low ch.toNat hlow } := dif_pos hlow
    rcases Nat.lt_or_ge other.toNat probed with hother | hother
    · have hnumber : (other.toNat == ch.toNat) = (other == ch) := by
        rw [Bool.eq_iff_iff, beq_iff_eq, beq_iff_eq, Char.toNat_inj]
      rw [contains_of_lt _ hother, contains_of_lt _ hother, hinsert, hasBit_setBit, hnumber]
    · have hne : (other == ch) = false := beq_eq_false_iff_ne.2 fun hsame =>
        Nat.not_lt.2 hother (hsame ▸ hlow)
      rw [hne, Bool.false_or, Bool.eq_iff_iff, contains_of_le _ hother, contains_of_le _ hother,
        hinsert]
  · rcases Nat.lt_or_ge other.toNat probed with hother | hother
    · have hne : (other == ch) = false := beq_eq_false_iff_ne.2 fun hsame =>
        Nat.not_lt.2 hhigh (hsame ▸ hother)
      rw [hne, Bool.false_or, contains_of_lt _ hother, contains_of_lt _ hother]
      exact congrArg (hasBit · other.toNat hother) (set.low_insert_of_le hhigh)
    · rw [Bool.eq_iff_iff, Bool.or_eq_true, beq_iff_eq, contains_of_le _ hother,
        contains_of_le _ hother]
      exact set.mem_high_insert_of_le hhigh

theorem contains_foldl_insert (chars : List Char) (set : ExpectedChars) (ch : Char) :
    (chars.foldl insert set).contains ch = (chars.contains ch || set.contains ch) := by
  induction chars generalizing set with
  | nil => rfl
  | cons c chars ih =>
    rw [List.foldl_cons, ih, contains_insert, List.contains_cons, ← Bool.or_assoc]
    congr 1
    exact Bool.or_comm _ _

theorem contains_ofChars (chars : List Char) (ch : Char) :
    (ofChars chars).contains ch = chars.contains ch := by
  rw [ofChars, contains_foldl_insert, contains_empty, Bool.or_false]

theorem toNat_ofNat_of_lt {number : Nat} (hnumber : number < probed) :
    (Char.ofNat number).toNat = number := by
  have hvalid : number.isValidChar := .inl (Nat.lt_trans hnumber (by decide))
  rw [Char.ofNat, dif_pos hvalid]
  rfl

theorem mem_probedChars {ch : Char} : ch ∈ probedChars ↔ ch.toNat < probed := by
  rw [probedChars, List.mem_map]
  constructor
  · rintro ⟨number, hnumber, rfl⟩
    have hsmall := List.mem_range.1 hnumber
    rwa [toNat_ofNat_of_lt hsmall]
  · intro hch
    exact ⟨ch.toNat, List.mem_range.2 hch, ch.ofNat_toNat⟩

/-- A set made from a predicate contains the probed characters that satisfy it. -/
theorem contains_ofPredicate (p : Char → Bool) (ch : Char) :
    (ofPredicate p).contains ch = (decide (ch.toNat < probed) && p ch) := by
  rw [ofPredicate, contains_ofChars, Bool.eq_iff_iff, List.contains_iff_mem, List.mem_filter,
    mem_probedChars, Bool.and_eq_true, decide_eq_true_eq]

/-- A byte is looked up as the character with its number. -/
theorem containsByte_eq (set : ExpectedChars) {byte : UInt8} {ch : Char}
    (hnumber : ch.toNat = byte.toNat) : set.containsByte byte = set.contains ch := by
  have hlow : ch.toNat < probed := hnumber ▸ toNat_lt_probed byte
  rw [containsByte, contains_of_lt _ hlow]
  simp only [hnumber]

theorem containsByte_lead (set : ExpectedChars) {ch : Char} (hascii : ch.toNat < 0x80) :
    set.containsByte (Utf8.lead ch) = set.contains ch :=
  set.containsByte_eq (Utf8.toNat_lead hascii).symm

end Lexkit.ExpectedChars
