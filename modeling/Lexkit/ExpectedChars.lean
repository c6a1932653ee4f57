import Lexkit.Text.Literal

/-!
# Sets of starting characters

The characters a match can start with. Each of the first 256 characters is a bit in one of four
words. The others stand in an ascending array, in which a character is looked up by halving; that
the array ascends is part of the type, so no search meets any other array and equal sets are equal
values.
-/

namespace Lexkit

/-- The number of characters that a set built from a predicate knows about. -/
def ExpectedChars.probed : Nat := 256

/-- A finite set of characters. -/
structure ExpectedChars where
  /-- Bit `n % 64` of word `n / 64` tells whether the character with number `n` is in the set. -/
  low : Vector (BitVec 64) 4
  /-- The members beyond the first 256 characters. -/
  high : Array Char
  ascending : high.toList.Pairwise (· < ·)
  beyond : ∀ ch ∈ high, ExpectedChars.probed ≤ ch.toNat
  deriving DecidableEq, Repr

namespace ExpectedChars

def empty : ExpectedChars where
  low := Vector.replicate 4 0#64
  high := #[]
  ascending := List.Pairwise.nil
  beyond := by simp

/-! ### The first characters -/

theorem word_lt {number : Nat} (hnumber : number < probed) : number / 64 < 4 := by
  unfold probed at hnumber
  omega

theorem toNat_lt_probed (byte : UInt8) : byte.toNat < probed := byte.toNat_lt

def hasBit (low : Vector (BitVec 64) 4) (number : Nat) (hnumber : number < probed) : Bool :=
  have hword := word_lt hnumber
  low[number / 64].getLsbD (number % 64)

def setBit (low : Vector (BitVec 64) 4) (number : Nat) (hnumber : number < probed) :
    Vector (BitVec 64) 4 :=
  have hword := word_lt hnumber
  low.set (number / 64) (low[number / 64] ||| 1#64 <<< (number % 64))

/-! ### The other characters -/

/-- Looks for a character between two bounds. The value is its index; the error is the index at
which the character would have to be put. -/
def searchFrom (chars : Array Char) (ch : Char) (first last : Nat) (hlast : last ≤ chars.size) :
    Except Nat Nat :=
  if h : first < last then
    let middle := (first + last) / 2
    if chars[middle] < ch then searchFrom chars ch (middle + 1) last hlast
    else if ch < chars[middle] then searchFrom chars ch first middle (by omega)
    else .ok middle
  else .error first
termination_by last - first

/-- Looks for a character in an ascending array. -/
def search (chars : Array Char) (ch : Char) : Except Nat Nat :=
  searchFrom chars ch 0 chars.size (Nat.le_refl _)

/-- The characters before an index are below `ch`, and those from there on are above it. -/
structure Gap (chars : Array Char) (ch : Char) (index : Nat) : Prop where
  index_le : index ≤ chars.size
  below : ∀ i (hi : i < chars.size), i < index → chars[i] < ch
  above : ∀ i (hi : i < chars.size), index ≤ i → ch < chars[i]

section

variable {chars : Array Char} {ch : Char} {index : Nat}

theorem getElem_lt_getElem (hascending : chars.toList.Pairwise (· < ·)) (i j : Nat)
    (hi : i < chars.size) (hj : j < chars.size) (hij : i < j) : chars[i] < chars[j] :=
  List.pairwise_iff_getElem.1 hascending i j hi hj hij

/-- Halving keeps everything before the bounds below the character and everything behind them above
it, so bounds that meet leave a gap for it. -/
theorem searchFrom_cases {first last : Nat} {hlast : last ≤ chars.size}
    (hascending : chars.toList.Pairwise (· < ·)) (hfirst : first ≤ last)
    (hbelow : ∀ i (hi : i < chars.size), i < first → chars[i] < ch)
    (habove : ∀ i (hi : i < chars.size), last ≤ i → ch < chars[i]) :
    (∃ index, searchFrom chars ch first last hlast = .ok index ∧ chars[index]? = some ch) ∨
      ∃ index, searchFrom chars ch first last hlast = .error index ∧ Gap chars ch index := by
  have horder := getElem_lt_getElem hascending
  fun_induction searchFrom chars ch first last hlast with
  | case1 first last hlast h middle hless ih =>
    refine ih (by omega) ?_ habove
    intro i hi hsmall
    rcases Nat.lt_or_eq_of_le (Nat.le_of_lt_succ hsmall) with hbefore | rfl
    · exact Char.lt_trans (horder i middle hi (by omega) hbefore) hless
    · exact hless
  | case2 first last hlast h middle hless hmore ih =>
    refine ih (by omega) hbelow ?_
    intro i hi hlarge
    rcases Nat.lt_or_eq_of_le hlarge with hbehind | rfl
    · exact Char.lt_trans hmore (horder middle i (by omega) hi hbehind)
    · exact hmore
  | case3 first last hlast h middle hless hmore =>
    have hsame : chars[middle] = ch := Char.le_antisymm (Char.not_lt.1 hmore) (Char.not_lt.1 hless)
    exact .inl ⟨middle, rfl, hsame ▸ Array.getElem?_eq_getElem _⟩
  | case4 first last hlast h =>
    obtain rfl : first = last := by omega
    exact .inr ⟨first, rfl, hlast, hbelow, habove⟩

theorem search_cases (ch : Char) (hascending : chars.toList.Pairwise (· < ·)) :
    (∃ index, search chars ch = .ok index ∧ chars[index]? = some ch) ∨
      ∃ index, search chars ch = .error index ∧ Gap chars ch index :=
  searchFrom_cases hascending (Nat.zero_le _) (fun i _ hi => absurd hi (Nat.not_lt_zero i))
    (fun _ hi hlarge => absurd hi (Nat.not_lt.2 hlarge))

theorem gap_of_search (hascending : chars.toList.Pairwise (· < ·))
    (hsearch : search chars ch = .error index) : Gap chars ch index := by
  obtain ⟨_, hfound, -⟩ | ⟨other, hother, hgap⟩ := search_cases ch hascending
  · nomatch hsearch.symm.trans hfound
  · exact Except.error.inj (hsearch.symm.trans hother) ▸ hgap

/-- A character put into its gap keeps the array ascending. -/
theorem Gap.pairwise_insertIdx (hgap : Gap chars ch index)
    (hascending : chars.toList.Pairwise (· < ·)) :
    (chars.insertIdx index ch hgap.index_le).toList.Pairwise (· < ·) := by
  have horder := getElem_lt_getElem hascending
  have hindex := hgap.index_le
  rw [List.pairwise_iff_getElem]
  intro i j hi hj hij
  rw [Array.length_toList, Array.size_insertIdx] at hi hj
  rw [Array.getElem_toList, Array.getElem_toList, Array.getElem_insertIdx, Array.getElem_insertIdx]
  rcases Nat.lt_trichotomy j index with hbefore | rfl | hbehind
  · rw [dif_pos hbefore, dif_pos (Nat.lt_trans hij hbefore)]
    exact horder i j (by omega) (by omega) hij
  · rw [dif_pos hij, dif_neg (Nat.lt_irrefl j), dif_pos rfl]
    exact hgap.below i (by omega) hij
  · -- What stood from the gap on has moved up by one.
    rw [dif_neg (by omega : ¬ j < index), dif_neg (by omega : ¬ j = index)]
    split
    · exact horder i (j - 1) (by omega) (by omega) (by omega)
    · split
      · exact hgap.above (j - 1) (by omega) (by omega)
      · exact horder (i - 1) (j - 1) (by omega) (by omega) (by omega)

end

/-- Puts a character that is not in the set among those beyond the first 256. -/
def put (set : ExpectedChars) (ch : Char) (index : Nat) (hgap : Gap set.high ch index)
    (hbeyond : probed ≤ ch.toNat) : ExpectedChars where
  low := set.low
  high := set.high.insertIdx index ch hgap.index_le
  ascending := hgap.pairwise_insertIdx set.ascending
  beyond other hother := by
    rcases Array.mem_insertIdx.1 hother with rfl | hmem
    · exact hbeyond
    · exact set.beyond other hmem

/-! ### Sets -/

def insert (set : ExpectedChars) (ch : Char) : ExpectedChars :=
  if hlow : ch.toNat < probed then { set with low := setBit set.low ch.toNat hlow }
  else
    match hsearch : search set.high ch with
    | .ok _ => set
    | .error index => set.put ch index (gap_of_search set.ascending hsearch) (Nat.not_lt.1 hlow)

def contains (set : ExpectedChars) (ch : Char) : Bool :=
  if hlow : ch.toNat < probed then hasBit set.low ch.toNat hlow else (search set.high ch).isOk

/-- Whether the character with the number of a byte is in the set. -/
def containsByte (set : ExpectedChars) (byte : UInt8) : Bool :=
  hasBit set.low byte.toNat (toNat_lt_probed byte)

def ofChars (chars : List Char) : ExpectedChars := chars.foldl insert empty

def probedChars : List Char := (List.range probed).map Char.ofNat

/-- The set of those of the first 256 characters that satisfy `p`. -/
def ofPredicate (p : Char → Bool) : ExpectedChars := ofChars (probedChars.filter p)

/-- The members, ascending. -/
def chars (set : ExpectedChars) : List Char := probedChars.filter set.contains ++ set.high.toList

/-- Joins a code point to ascending ranges, of which it is the successor of the latest one or lies
beyond it. -/
def joinRange (ranges : List (Nat × Nat)) (code : Nat) : List (Nat × Nat) :=
  match ranges with
  | (first, last) :: others =>
    if last + 1 = code then (first, code) :: others else (code, code) :: ranges
  | [] => [(code, code)]

/-- The members as ascending ranges of code points that do not touch. -/
def ranges (set : ExpectedChars) : List (Nat × Nat) :=
  ((set.chars.map Char.toNat).foldl joinRange []).reverse

def size (set : ExpectedChars) : Nat :=
  set.low.foldl (fun count word => count + word.cpop.toNat) 0 + set.high.size

def isEmpty (set : ExpectedChars) : Bool := set.size == 0

def describe (set : ExpectedChars) : String :=
  Literal.record "ExpectedChars"
    [("low", Literal.list (set.low.toList.map fun word => toString word.toNat)),
      ("high", Literal.list (set.high.toList.map Literal.char))]

end ExpectedChars

end Lexkit
