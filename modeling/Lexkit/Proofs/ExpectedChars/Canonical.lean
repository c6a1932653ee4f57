import Lexkit.Proofs.ExpectedChars
import Mathlib.Data.Finset.Card
import Mathlib.Data.List.Sort

/-!
# One set, one value

A set is known by what it contains: the order in which its members were put in, and how often,
leaves no trace. For the words this is so because every bit of them is the bit of some character,
and for the array because only one ascending array has the given members. Listing a set and counting
it go through its two parts one after the other, and both come to the members in their order.
-/

namespace Lexkit.ExpectedChars

variable {left right : ExpectedChars} {ch : Char} (set : ExpectedChars)

theorem contains_eq_true_of_mem_high (hmem : ch ∈ set.high) : set.contains ch = true :=
  (set.contains_of_le (set.beyond ch hmem)).2 hmem

/-! ### What is listed -/

theorem mem_chars : ch ∈ set.chars ↔ set.contains ch = true := by
  rw [chars, List.mem_append, List.mem_filter, mem_probedChars, Array.mem_toList_iff]
  constructor
  · rintro (⟨-, hcontains⟩ | hmem)
    · exact hcontains
    · exact set.contains_eq_true_of_mem_high hmem
  · intro hcontains
    rcases Nat.lt_or_ge ch.toNat probed with hlow | hhigh
    · exact .inl ⟨hlow, hcontains⟩
    · exact .inr ((set.contains_of_le hhigh).1 hcontains)

theorem lt_iff_toNat_lt {left right : Char} : left < right ↔ left.toNat < right.toNat :=
  Char.lt_def.trans UInt32.lt_iff_toNat_lt

theorem pairwise_probedChars : probedChars.Pairwise (· < ·) := by
  rw [probedChars, List.pairwise_map]
  refine List.pairwise_lt_range.imp_of_mem fun hleft hright hless => ?_
  rw [lt_iff_toNat_lt, toNat_ofNat_of_lt (List.mem_range.1 hleft),
    toNat_ofNat_of_lt (List.mem_range.1 hright)]
  exact hless

theorem pairwise_chars : set.chars.Pairwise (· < ·) := by
  refine List.pairwise_append.2 ⟨pairwise_probedChars.filter _, set.ascending, ?_⟩
  intro low hlow high hhigh
  have hless := mem_probedChars.1 (List.mem_of_mem_filter hlow)
  have hmore := set.beyond high (Array.mem_toList_iff.1 hhigh)
  exact lt_iff_toNat_lt.2 (Nat.lt_of_lt_of_le hless hmore)

/-! ### What is counted -/

theorem toNat_cpop_eq_countP {width : Nat} (word : BitVec width) :
    word.cpop.toNat = (List.range width).countP word.getLsbD := by
  have hcount (n : Nat) : word.cpopNatRec n 0 = (List.range n).countP word.getLsbD := by
    induction n with
    | zero => rfl
    | succ n ih =>
      rw [BitVec.cpopNatRec_succ, BitVec.cpopNatRec_add, ih, List.range_succ, List.countP_append,
        List.countP_singleton]
      cases word.getLsbD n <;> rfl
  rw [BitVec.toNat_cpop, hcount]

/-- Every bit of a word is the bit of a character. -/
theorem contains_ofNat {index bit : Nat} (hindex : index < 4) (hbit : bit < 64) :
    set.contains (Char.ofNat (64 * index + bit)) = set.low[index].getLsbD bit := by
  have hnumber : 64 * index + bit < probed := by
    unfold probed
    omega
  have hcode := toNat_ofNat_of_lt hnumber
  have hword : (64 * index + bit) / 64 = index := by omega
  have hplace : (64 * index + bit) % 64 = bit := by omega
  rw [set.contains_of_lt (hcode.symm ▸ hnumber), hasBit]
  simp only [hcode, hword, hplace]

/-- The ones of a word are the members among its 64 characters. -/
theorem toNat_cpop_low {index : Nat} (hindex : index < 4) : set.low[index].cpop.toNat =
    ((List.range 64).map (64 * index + ·)).countP (set.contains ∘ Char.ofNat) := by
  rw [toNat_cpop_eq_countP, List.countP_map]
  refine List.countP_congr fun bit hbit => ?_
  rw [Function.comp_apply, Function.comp_apply, set.contains_ofNat hindex (List.mem_range.1 hbit)]

theorem countP_probedChars : probedChars.countP set.contains =
    set.low.foldl (fun count word => count + word.cpop.toNat) 0 := by
  have hnumbers : List.range probed =
      (List.range 4).flatMap fun index => (List.range 64).map (64 * index + ·) := by
    decide +kernel
  have hwords : (List.range 4).map (List.countP (set.contains ∘ Char.ofNat) ∘ fun index =>
      (List.range 64).map (64 * index + ·)) = set.low.toList.map fun word => word.cpop.toNat := by
    refine List.ext_getElem (by simp) fun index hrange hindex => ?_
    have hsmall : index < 4 := by simpa using hrange
    simp only [List.getElem_map, List.getElem_range, Vector.getElem_toList, Function.comp_apply,
      set.toNat_cpop_low hsmall]
  rw [probedChars, List.countP_map, hnumbers, List.countP_flatMap, hwords, List.sum_eq_foldl,
    List.foldl_map, Vector.foldl_toList]

theorem size_eq_length_chars : set.size = set.chars.length := by
  rw [chars, List.length_append, ← List.countP_eq_length_filter, countP_probedChars,
    Array.length_toList, size]

/-! ### When sets are equal -/

theorem ext_contains (hcontains : ∀ ch, left.contains ch = right.contains ch) : left = right := by
  have hlow : left.low = right.low := by
    refine Vector.ext fun index hindex => BitVec.eq_of_getLsbD_eq fun bit hbit => ?_
    rw [← left.contains_ofNat hindex hbit, ← right.contains_ofNat hindex hbit, hcontains]
  have hmem (ch : Char) : ch ∈ left.high.toList ↔ ch ∈ right.high.toList := by
    rw [Array.mem_toList_iff, Array.mem_toList_iff]
    constructor
    · intro hleft
      rw [← right.contains_of_le (left.beyond ch hleft), ← hcontains]
      exact left.contains_eq_true_of_mem_high hleft
    · intro hright
      rw [← left.contains_of_le (right.beyond ch hright), hcontains]
      exact right.contains_eq_true_of_mem_high hright
  have hhigh : left.high = right.high :=
    Array.toList_inj.1 (left.ascending.eq_of_mem_iff right.ascending hmem)
  obtain ⟨_, _, _, _⟩ := left
  obtain ⟨_, _, _, _⟩ := right
  obtain rfl := hlow
  obtain rfl := hhigh
  rfl

/-! ### Sets made by insertion -/

theorem contains_inserted (inserted : List Char) (ch : Char) :
    (inserted.foldl insert empty).contains ch = true ↔ ch ∈ inserted := by
  rw [← ofChars, contains_ofChars, List.contains_iff_mem]

/-- A set holds what was put into it, and nothing else about how it was made: it answers, lists in
ascending order and counts the characters that were inserted, and it is equal to any other set with
the same ones. A set made from a predicate holds the characters up to number 255 that satisfy it. A
byte is looked up in any set as the character with its number. -/
theorem holds_what_was_inserted (inserted : List Char) :
    (∀ ch, (inserted.foldl insert empty).contains ch = true ↔ ch ∈ inserted) ∧
    (∀ ch, ch ∈ (inserted.foldl insert empty).chars ↔ ch ∈ inserted) ∧
    (inserted.foldl insert empty).chars.Pairwise (· < ·) ∧
    (inserted.foldl insert empty).size = inserted.toFinset.card ∧
    (∀ others : List Char, others.foldl insert empty = inserted.foldl insert empty ↔
      ∀ ch, ch ∈ others ↔ ch ∈ inserted) ∧
    (∀ (p : Char → Bool) (ch : Char),
      (ofPredicate p).contains ch = true ↔ ch.toNat ≤ 255 ∧ p ch = true) ∧
    ∀ (set : ExpectedChars) (byte : UInt8),
      set.containsByte byte = set.contains (Char.ofUInt8 byte) := by
  have hmem (ch : Char) : ch ∈ (inserted.foldl insert empty).chars ↔ ch ∈ inserted :=
    (mem_chars _).trans (contains_inserted inserted ch)
  have hascending := pairwise_chars (inserted.foldl insert empty)
  refine ⟨contains_inserted inserted, hmem, hascending, ?_, fun others =>
    ⟨fun hsame ch => ?_, fun hsame => ext_contains fun ch => ?_⟩, fun p ch => ?_,
    fun set byte => set.containsByte_eq byte.toNat_toUInt32⟩
  · have hchars : (inserted.foldl insert empty).chars.toFinset = inserted.toFinset :=
      Finset.ext fun ch => by rw [List.mem_toFinset, List.mem_toFinset, hmem]
    rw [size_eq_length_chars, ← List.toFinset_card_of_nodup hascending.nodup, hchars]
  · rw [← contains_inserted others, hsame, contains_inserted]
  · rw [Bool.eq_iff_iff, contains_inserted, contains_inserted, hsame]
  · rw [contains_ofPredicate, Bool.and_eq_true, decide_eq_true_eq]
    exact and_congr_left' Nat.lt_succ_iff

end Lexkit.ExpectedChars
