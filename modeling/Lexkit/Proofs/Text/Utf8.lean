import Lexkit.Text.Utf8

/-!
# What the bytes of a text tell

A reader of bytes sees the UTF-8 form of the text ahead of it. Two facts let it answer as a reader
of characters would: the form of one character is never the start of the form of another one, so a
prefix of bytes is a prefix of characters; and the first byte of a character tells its length and,
in one-byte characters, its number.
-/

namespace Lexkit.Utf8

@[simp] theorem encode_append (left right : Text) :
    encode (left ++ right) = encode left ++ encode right := by
  simp [encode]

/-! ### The first byte of a character -/

/-- The first byte of the UTF-8 form of a character. -/
def lead (ch : Char) : UInt8 := (String.utf8EncodeChar ch).headD 0

private theorem encodeChar_shape (ch : Char) :
    ∃ first others, String.utf8EncodeChar ch = first :: others ∧
      leadLength first = ch.utf8Size ∧ (isAscii first = true ↔ ch.toNat < 0x80) ∧
      (ch.toNat < 0x80 → first.toNat = ch.toNat) ∧ ∀ byte ∈ others, 0x80 ≤ byte.toNat := by
  have hbound : ch.val.toNat < 0x110000 := by
    have hvalid := ch.valid
    simp only [UInt32.isValidChar, Nat.isValidChar] at hvalid
    omega
  have hcode : ch.toNat = ch.val.toNat := rfl
  have hcontinues (n : Nat) : 0x80 ≤ (n % 64 + 128) % 256 := by omega
  fun_cases String.utf8EncodeChar ch
  all_goals
    refine ⟨_, _, rfl, ?_, ?_, ?_, ?_⟩
    · simp only [leadLength, Char.utf8Size, UInt8.lt_iff_toNat_lt, UInt8.le_iff_toNat_le,
        UInt32.le_iff_toNat_le, UInt8.toNat_ofNat', UInt8.reduceToNat, Bool.and_eq_true,
        decide_eq_true_eq]
      grind
    · simp only [isAscii, UInt8.lt_iff_toNat_lt, UInt8.toNat_ofNat', UInt8.reduceToNat,
        decide_eq_true_eq]
      omega
    · intro hascii
      rw [UInt8.toNat_ofNat']
      omega
    · simp [hcontinues]

theorem encodeChar_eq_lead_cons (ch : Char) :
    ∃ others, String.utf8EncodeChar ch = lead ch :: others ∧
      ∀ byte ∈ others, 0x80 ≤ byte.toNat := by
  obtain ⟨first, others, hshape, -, -, -, hothers⟩ := encodeChar_shape ch
  exact ⟨others, by simp [lead, hshape], hothers⟩

theorem leadLength_lead (ch : Char) : leadLength (lead ch) = ch.utf8Size := by
  obtain ⟨first, others, hshape, hlength, -⟩ := encodeChar_shape ch
  simpa [lead, hshape] using hlength

theorem isAscii_lead (ch : Char) : isAscii (lead ch) = true ↔ ch.toNat < 0x80 := by
  obtain ⟨first, others, hshape, -, hascii, -⟩ := encodeChar_shape ch
  simpa [lead, hshape] using hascii

theorem toNat_lead {ch : Char} (hascii : ch.toNat < 0x80) : (lead ch).toNat = ch.toNat := by
  obtain ⟨first, others, hshape, -, -, hnumber, -⟩ := encodeChar_shape ch
  simpa [lead, hshape] using hnumber hascii

theorem head?_encode (text : Text) : (encode text).head? = text.head?.map lead := by
  cases text with
  | nil => rfl
  | cons ch text =>
    obtain ⟨others, hencode, -⟩ := encodeChar_eq_lead_cons ch
    rw [encode_cons, hencode]
    rfl

theorem utf8Size_eq_one {ch : Char} (hascii : ch.toNat < 0x80) : ch.utf8Size = 1 := by
  rw [Char.utf8Size_eq_one_iff, UInt32.le_iff_toNat_le]
  change ch.toNat ≤ 127
  omega

theorem lead_eq_iff {ch other : Char} (hascii : other.toNat < 0x80) :
    lead ch = other.toNat.toUInt8 ↔ ch = other := by
  have hnumber : other.toNat.toUInt8.toNat = other.toNat := by
    rw [UInt8.toNat_ofNat']
    omega
  constructor
  · intro hlead
    have hsmall : isAscii (lead ch) = true := by
      simp only [isAscii, UInt8.lt_iff_toNat_lt, UInt8.reduceToNat, decide_eq_true_eq, hlead,
        hnumber]
      exact hascii
    have hchar : ch.toNat = other.toNat := by
      rw [← toNat_lead ((isAscii_lead ch).1 hsmall), hlead, hnumber]
    exact Char.toNat_inj.1 hchar
  · rintro rfl
    apply UInt8.toNat_inj.1
    rw [toNat_lead hascii, hnumber]

/-! ### Prefixes -/

/-- The form of a character at the start of some bytes tells the character. -/
theorem encodeChar_append_inj {left right : Char} {leftBytes rightBytes : List UInt8}
    (hbytes : String.utf8EncodeChar left ++ leftBytes = String.utf8EncodeChar right ++ rightBytes) :
    left = right ∧ leftBytes = rightBytes := by
  have hdecode (ch : Char) (bytes : List UInt8) :
      ByteArray.utf8DecodeChar? (String.utf8EncodeChar ch ++ bytes).toByteArray 0 = some ch := by
    rw [List.toByteArray_append]
    exact ByteArray.utf8DecodeChar?_utf8EncodeChar_append
  have hchar : some left = some right := by
    rw [← hdecode left leftBytes, hbytes, hdecode]
  obtain rfl := Option.some.inj hchar
  exact ⟨rfl, List.append_cancel_left hbytes⟩

theorem encode_prefix_encode {mark text : Text} : encode mark <+: encode text ↔ mark <+: text := by
  constructor
  · intro hinitial
    induction mark generalizing text with
    | nil => exact List.nil_prefix
    | cons ch mark ih =>
      obtain ⟨others, hothers⟩ := hinitial
      cases text with
      | nil =>
        have hlength := congrArg List.length hothers
        have := ch.utf8Size_pos
        simp only [List.length_append, length_encode, Text.size_cons, Text.size_nil] at hlength
        omega
      | cons c text =>
        rw [encode_cons, encode_cons, List.append_assoc] at hothers
        obtain ⟨rfl, htail⟩ := encodeChar_append_inj hothers
        exact (List.prefix_cons_inj ch).2 (ih ⟨others, htail⟩)
  · rintro ⟨others, rfl⟩
    rw [encode_append]
    exact List.prefix_append _ _

theorem encode_inj {left right : Text} : encode left = encode right ↔ left = right := by
  refine ⟨fun hencode => ?_, congrArg encode⟩
  have hleft : left <+: right := encode_prefix_encode.1 (hencode ▸ List.prefix_rfl)
  have hright : right <+: left := encode_prefix_encode.1 (hencode ▸ List.prefix_rfl)
  exact hleft.eq_of_length_le hright.length_le

theorem isPrefixOf_encode (mark text : Text) :
    (encode mark).isPrefixOf (encode text) = mark.isPrefixOf text := by
  rw [Bool.eq_iff_iff, List.isPrefixOf_iff_prefix, List.isPrefixOf_iff_prefix]
  exact encode_prefix_encode

end Lexkit.Utf8
