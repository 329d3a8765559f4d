/-
RegexTokens.Proofs.Utf8Theorems — the bytes that a text can have.

A list of bytes is the code of a character exactly if they lie in one row of
the ranges (`isCharCode_iff`), whichever way the code is made: the four
lengths of a code are taken one by one, the number of the character is put
together from the bytes, and the range of the second byte says that it is one
(`exists_utf8EncodeChar_of_three`, `exists_utf8EncodeChar_of_four`). So the
bytes of texts are the codes of characters one behind the other
(`isUtf8_iff_exists_string`).
-/
import RegexTokens.Text.Utf8

namespace RegexTokens.Text

/-! ## §1 Codes by their length -/

section Lengths

variable {c : Char}

theorem isValidChar_toNat (c : Char) : c.toNat.isValidChar := c.valid

theorem utf8EncodeChar_one (h : c.toNat < 0x80) :
    String.utf8EncodeChar c = [UInt8.ofNat c.toNat] := by
  have h₁ : c.val.toNat ≤ 0x7f := Nat.le_of_lt_succ h
  simp only [String.utf8EncodeChar, if_pos h₁]
  rfl

theorem utf8EncodeChar_two (hlow : 0x80 ≤ c.toNat) (hhigh : c.toNat < 0x800) :
    String.utf8EncodeChar c =
      [UInt8.ofNat (c.toNat / 64 + 0xc0), UInt8.ofNat (c.toNat % 64 + 0x80)] := by
  have h₁ : ¬c.val.toNat ≤ 0x7f := Nat.not_le.2 hlow
  have h₂ : c.val.toNat ≤ 0x7ff := Nat.le_of_lt_succ hhigh
  have hfirst : c.toNat / 64 % 0x20 = c.toNat / 64 := Nat.mod_eq_of_lt (by omega)
  rw [← hfirst]
  simp only [String.utf8EncodeChar, if_neg h₁, if_pos h₂]
  rfl

theorem utf8EncodeChar_three (hlow : 0x800 ≤ c.toNat) (hhigh : c.toNat < 0x10000) :
    String.utf8EncodeChar c =
      [UInt8.ofNat (c.toNat / 4096 + 0xe0), UInt8.ofNat (c.toNat / 64 % 64 + 0x80),
        UInt8.ofNat (c.toNat % 64 + 0x80)] := by
  have h₁ : ¬c.val.toNat ≤ 0x7f := Nat.not_le.2 (Nat.lt_of_lt_of_le (by decide) hlow)
  have h₂ : ¬c.val.toNat ≤ 0x7ff := Nat.not_le.2 hlow
  have h₃ : c.val.toNat ≤ 0xffff := Nat.le_of_lt_succ hhigh
  have hfirst : c.toNat / 4096 % 0x10 = c.toNat / 4096 := Nat.mod_eq_of_lt (by omega)
  rw [← hfirst]
  simp only [String.utf8EncodeChar, if_neg h₁, if_neg h₂, if_pos h₃]
  rfl

theorem utf8EncodeChar_four (hlow : 0x10000 ≤ c.toNat) :
    String.utf8EncodeChar c =
      [UInt8.ofNat (c.toNat / 262144 + 0xf0), UInt8.ofNat (c.toNat / 4096 % 64 + 0x80),
        UInt8.ofNat (c.toNat / 64 % 64 + 0x80), UInt8.ofNat (c.toNat % 64 + 0x80)] := by
  have h₁ : ¬c.val.toNat ≤ 0x7f := Nat.not_le.2 (Nat.lt_of_lt_of_le (by decide) hlow)
  have h₂ : ¬c.val.toNat ≤ 0x7ff := Nat.not_le.2 (Nat.lt_of_lt_of_le (by decide) hlow)
  have h₃ : ¬c.val.toNat ≤ 0xffff := Nat.not_le.2 hlow
  have hvalid := isValidChar_toNat c
  have hfirst : c.toNat / 262144 % 0x08 = c.toNat / 262144 := Nat.mod_eq_of_lt (by omega)
  rw [← hfirst]
  simp only [String.utf8EncodeChar, if_neg h₁, if_neg h₂, if_neg h₃]
  rfl

end Lengths

/-! ## §2 The code of a character -/

/-- A number in a range of bytes is a byte of the range. -/
theorem holds_ofNat {n low high : Nat} (hlow : low ≤ n) (hhigh : n ≤ high) (hbyte : high < 256) :
    ByteRange.Holds (UInt8.ofNat n) (low, high) := by
  have hn : (UInt8.ofNat n).toNat = n := UInt8.toNat_ofNat_of_lt' (Nat.lt_of_le_of_lt hhigh hbyte)
  rw [ByteRange.Holds, hn]
  exact ⟨hlow, hhigh⟩

theorem holds_tail (n : Nat) : ByteRange.Holds (UInt8.ofNat (n % 64 + 0x80)) .tail := by
  have hlt : n % 64 < 64 := Nat.mod_lt n (by decide)
  exact holds_ofNat (by omega) (by omega) (by decide)

/-- The rows for three bytes leave out the numbers from 0xd800 to 0xdfff, which
no character has. -/
theorem isCharCode_three {c : Char} (hlow : 0x800 ≤ c.toNat) (hhigh : c.toNat < 0x10000) :
    IsCharCode (String.utf8EncodeChar c) := by
  have hvalid := isValidChar_toNat c
  have hlast := List.Forall₂.cons (holds_tail c.toNat) .nil
  rw [utf8EncodeChar_three hlow hhigh]
  rcases Nat.lt_or_ge c.toNat 0x1000 with he0 | he0
  · exact ⟨[(0xe0, 0xe0), (0xa0, 0xbf), .tail], by decide,
      .cons (holds_ofNat (by omega) (by omega) (by decide))
        (.cons (holds_ofNat (by omega) (by omega) (by decide)) hlast)⟩
  rcases Nat.lt_or_ge c.toNat 0xd000 with hec | hec
  · exact ⟨[(0xe1, 0xec), .tail, .tail], by decide,
      .cons (holds_ofNat (by omega) (by omega) (by decide)) (.cons (holds_tail _) hlast)⟩
  rcases Nat.lt_or_ge c.toNat 0xe000 with hed | hed
  · exact ⟨[(0xed, 0xed), (0x80, 0x9f), .tail], by decide,
      .cons (holds_ofNat (by omega) (by omega) (by decide))
        (.cons (holds_ofNat (by omega) (by omega) (by decide)) hlast)⟩
  · exact ⟨[(0xee, 0xef), .tail, .tail], by decide,
      .cons (holds_ofNat (by omega) (by omega) (by decide)) (.cons (holds_tail _) hlast)⟩

/-- The last row for four bytes ends where the characters do. -/
theorem isCharCode_four {c : Char} (hlow : 0x10000 ≤ c.toNat) :
    IsCharCode (String.utf8EncodeChar c) := by
  have hvalid := isValidChar_toNat c
  have hlast := List.Forall₂.cons (holds_tail (c.toNat / 64)) (.cons (holds_tail c.toNat) .nil)
  rw [utf8EncodeChar_four hlow]
  rcases Nat.lt_or_ge c.toNat 0x40000 with hf0 | hf0
  · exact ⟨[(0xf0, 0xf0), (0x90, 0xbf), .tail, .tail], by decide,
      .cons (holds_ofNat (by omega) (by omega) (by decide))
        (.cons (holds_ofNat (by omega) (by omega) (by decide)) hlast)⟩
  rcases Nat.lt_or_ge c.toNat 0x100000 with hf3 | hf3
  · exact ⟨[(0xf1, 0xf3), .tail, .tail, .tail], by decide,
      .cons (holds_ofNat (by omega) (by omega) (by decide)) (.cons (holds_tail _) hlast)⟩
  · exact ⟨[(0xf4, 0xf4), (0x80, 0x8f), .tail, .tail], by decide,
      .cons (holds_ofNat (by omega) (by omega) (by decide))
        (.cons (holds_ofNat (by omega) (by omega) (by decide)) hlast)⟩

/-- Every character has a code in the ranges. -/
theorem isCharCode_utf8EncodeChar (c : Char) : IsCharCode (String.utf8EncodeChar c) := by
  rcases Nat.lt_or_ge c.toNat 0x80 with h₁ | h₁
  · rw [utf8EncodeChar_one h₁]
    exact ⟨[(0x00, 0x7f)], by decide, .cons (holds_ofNat (by omega) (by omega) (by decide)) .nil⟩
  rcases Nat.lt_or_ge c.toNat 0x800 with h₂ | h₂
  · rw [utf8EncodeChar_two h₁ h₂]
    exact ⟨[(0xc2, 0xdf), .tail], by decide,
      .cons (holds_ofNat (by omega) (by omega) (by decide)) (.cons (holds_tail _) .nil)⟩
  rcases Nat.lt_or_ge c.toNat 0x10000 with h₃ | h₃
  · exact isCharCode_three h₂ h₃
  · exact isCharCode_four h₃

/-! ## §3 The character of a code -/

theorem ByteRange.Holds.mono {b : UInt8} {r s : ByteRange} (h : ByteRange.Holds b r) (hlow : s.1 ≤ r.1)
    (hhigh : r.2 ≤ s.2) : ByteRange.Holds b s :=
  ⟨Nat.le_trans hlow h.1, Nat.le_trans h.2 hhigh⟩

/-- A byte is told by its number. -/
theorem ofNat_eq {n : Nat} {b : UInt8} (h : n = b.toNat) : UInt8.ofNat n = b := by
  rw [h, UInt8.ofNat_toNat]

theorem exists_char_of_isValidChar {n : Nat} (h : n.isValidChar) : ∃ c : Char, c.toNat = n :=
  ⟨Char.ofNatAux n h, rfl⟩

section Codes

variable {b₁ b₂ b₃ b₄ : UInt8}

theorem exists_utf8EncodeChar_of_one (h₁ : b₁.toNat ≤ 0x7f) :
    ∃ c, String.utf8EncodeChar c = [b₁] := by
  obtain ⟨c, hc⟩ := exists_char_of_isValidChar (n := b₁.toNat) (.inl (by omega))
  refine ⟨c, ?_⟩
  rw [utf8EncodeChar_one (by omega), ofNat_eq hc]

theorem exists_utf8EncodeChar_of_two (h₁ : ByteRange.Holds b₁ (0xc2, 0xdf))
    (h₂ : ByteRange.Holds b₂ .tail) : ∃ c, String.utf8EncodeChar c = [b₁, b₂] := by
  obtain ⟨hlow₁, hhigh₁⟩ := h₁
  obtain ⟨hlow₂, hhigh₂⟩ := h₂
  simp only [ByteRange.tail] at *
  obtain ⟨c, hc⟩ := exists_char_of_isValidChar
    (n := (b₁.toNat - 0xc0) * 64 + (b₂.toNat - 0x80)) (.inl (by omega))
  refine ⟨c, ?_⟩
  rw [utf8EncodeChar_two (by omega) (by omega), ofNat_eq (b := b₁) (by omega),
    ofNat_eq (b := b₂) (by omega)]

/-- Three bytes are a code if their number needs three and is not a
surrogate. -/
theorem exists_utf8EncodeChar_of_three (h₁ : ByteRange.Holds b₁ (0xe0, 0xef))
    (h₂ : ByteRange.Holds b₂ .tail) (h₃ : ByteRange.Holds b₃ .tail)
    (hlong : b₁.toNat = 0xe0 → 0xa0 ≤ b₂.toNat) (hsurrogate : b₁.toNat = 0xed → b₂.toNat ≤ 0x9f) :
    ∃ c, String.utf8EncodeChar c = [b₁, b₂, b₃] := by
  obtain ⟨hlow₁, hhigh₁⟩ := h₁
  obtain ⟨hlow₂, hhigh₂⟩ := h₂
  obtain ⟨hlow₃, hhigh₃⟩ := h₃
  simp only [ByteRange.tail] at *
  obtain ⟨c, hc⟩ := exists_char_of_isValidChar
    (n := (b₁.toNat - 0xe0) * 4096 + (b₂.toNat - 0x80) * 64 + (b₃.toNat - 0x80)) (by
      unfold Nat.isValidChar
      omega)
  refine ⟨c, ?_⟩
  rw [utf8EncodeChar_three (by omega) (by omega), ofNat_eq (b := b₁) (by omega),
    ofNat_eq (b := b₂) (by omega), ofNat_eq (b := b₃) (by omega)]

/-- Four bytes are a code if their number needs four and is not too large. -/
theorem exists_utf8EncodeChar_of_four (h₁ : ByteRange.Holds b₁ (0xf0, 0xf4))
    (h₂ : ByteRange.Holds b₂ .tail) (h₃ : ByteRange.Holds b₃ .tail) (h₄ : ByteRange.Holds b₄ .tail)
    (hlong : b₁.toNat = 0xf0 → 0x90 ≤ b₂.toNat) (hlarge : b₁.toNat = 0xf4 → b₂.toNat ≤ 0x8f) :
    ∃ c, String.utf8EncodeChar c = [b₁, b₂, b₃, b₄] := by
  obtain ⟨hlow₁, hhigh₁⟩ := h₁
  obtain ⟨hlow₂, hhigh₂⟩ := h₂
  obtain ⟨hlow₃, hhigh₃⟩ := h₃
  obtain ⟨hlow₄, hhigh₄⟩ := h₄
  simp only [ByteRange.tail] at *
  obtain ⟨c, hc⟩ := exists_char_of_isValidChar
    (n := (b₁.toNat - 0xf0) * 262144 + (b₂.toNat - 0x80) * 4096 + (b₃.toNat - 0x80) * 64 +
      (b₄.toNat - 0x80)) (by
      unfold Nat.isValidChar
      omega)
  refine ⟨c, ?_⟩
  rw [utf8EncodeChar_four (by omega), ofNat_eq (b := b₁) (by omega),
    ofNat_eq (b := b₂) (by omega), ofNat_eq (b := b₃) (by omega), ofNat_eq (b := b₄) (by omega)]

end Codes

/-- The bytes of each row are the code of a character. -/
theorem IsCharCode.exists_utf8EncodeChar {bytes : List UInt8} (h : IsCharCode bytes) :
    ∃ c, String.utf8EncodeChar c = bytes := by
  obtain ⟨ranges, hrow, h⟩ := h
  simp only [charCodes, List.mem_cons, List.not_mem_nil, or_false] at hrow
  rcases hrow with rfl | rfl | rfl | rfl | rfl | rfl | rfl | rfl | rfl
  · obtain _ | ⟨h₁, _ | _⟩ := h
    exact exists_utf8EncodeChar_of_one h₁.2
  · obtain _ | ⟨h₁, _ | ⟨h₂, _ | _⟩⟩ := h
    exact exists_utf8EncodeChar_of_two h₁ h₂
  · obtain _ | ⟨h₁, _ | ⟨h₂, _ | ⟨h₃, _ | _⟩⟩⟩ := h
    exact exists_utf8EncodeChar_of_three (h₁.mono (by decide) (by decide))
      (h₂.mono (by decide) (by decide)) h₃ (fun _ => h₂.1)
      (fun hed => absurd (hed ▸ h₁.2) (by decide))
  · obtain _ | ⟨h₁, _ | ⟨h₂, _ | ⟨h₃, _ | _⟩⟩⟩ := h
    exact exists_utf8EncodeChar_of_three (h₁.mono (by decide) (by decide)) h₂ h₃
      (fun he0 => absurd (he0 ▸ h₁.1) (by decide)) (fun hed => absurd (hed ▸ h₁.2) (by decide))
  · obtain _ | ⟨h₁, _ | ⟨h₂, _ | ⟨h₃, _ | _⟩⟩⟩ := h
    exact exists_utf8EncodeChar_of_three (h₁.mono (by decide) (by decide))
      (h₂.mono (by decide) (by decide)) h₃ (fun he0 => absurd (he0 ▸ h₁.1) (by decide))
      (fun _ => h₂.2)
  · obtain _ | ⟨h₁, _ | ⟨h₂, _ | ⟨h₃, _ | _⟩⟩⟩ := h
    exact exists_utf8EncodeChar_of_three (h₁.mono (by decide) (by decide)) h₂ h₃
      (fun he0 => absurd (he0 ▸ h₁.1) (by decide)) (fun hed => absurd (hed ▸ h₁.1) (by decide))
  · obtain _ | ⟨h₁, _ | ⟨h₂, _ | ⟨h₃, _ | ⟨h₄, _ | _⟩⟩⟩⟩ := h
    exact exists_utf8EncodeChar_of_four (h₁.mono (by decide) (by decide))
      (h₂.mono (by decide) (by decide)) h₃ h₄ (fun _ => h₂.1)
      (fun hf4 => absurd (hf4 ▸ h₁.2) (by decide))
  · obtain _ | ⟨h₁, _ | ⟨h₂, _ | ⟨h₃, _ | ⟨h₄, _ | _⟩⟩⟩⟩ := h
    exact exists_utf8EncodeChar_of_four (h₁.mono (by decide) (by decide)) h₂ h₃ h₄
      (fun hf0 => absurd (hf0 ▸ h₁.1) (by decide)) (fun hf4 => absurd (hf4 ▸ h₁.2) (by decide))
  · obtain _ | ⟨h₁, _ | ⟨h₂, _ | ⟨h₃, _ | ⟨h₄, _ | _⟩⟩⟩⟩ := h
    exact exists_utf8EncodeChar_of_four (h₁.mono (by decide) (by decide))
      (h₂.mono (by decide) (by decide)) h₃ h₄ (fun hf0 => absurd (hf0 ▸ h₁.1) (by decide))
      (fun _ => h₂.2)

/-- The codes are those of characters. -/
theorem isCharCode_iff {bytes : List UInt8} :
    IsCharCode bytes ↔ ∃ c, String.utf8EncodeChar c = bytes := by
  constructor
  · exact IsCharCode.exists_utf8EncodeChar
  · rintro ⟨c, rfl⟩
    exact isCharCode_utf8EncodeChar c

/-! ## §4 Texts -/

/-- The bytes are codes exactly if they are the codes of a list of
characters. -/
theorem isUtf8_iff {bytes : List UInt8} :
    IsUtf8 bytes ↔ ∃ chars : List Char, chars.flatMap String.utf8EncodeChar = bytes := by
  constructor
  · intro h
    induction h with
    | nil => exact ⟨[], rfl⟩
    | cons hcode _ ih =>
      obtain ⟨c, rfl⟩ := isCharCode_iff.1 hcode
      obtain ⟨chars, rfl⟩ := ih
      exact ⟨c :: chars, List.flatMap_cons⟩
  · rintro ⟨chars, rfl⟩
    induction chars with
    | nil => exact .nil
    | cons c chars ih =>
      rw [List.flatMap_cons]
      exact .cons (isCharCode_utf8EncodeChar c) ih

/-- Bytes are decoded exactly if they are codes of characters. -/
theorem isUtf8_iff_isValidUTF8 {bytes : List UInt8} :
    IsUtf8 bytes ↔ bytes.toByteArray.IsValidUTF8 := by
  rw [isUtf8_iff]
  constructor
  · rintro ⟨chars, rfl⟩
    exact .intro chars rfl
  · rintro ⟨chars, hchars⟩
    exact ⟨chars, (List.toByteArray_inj.1 hchars).symm⟩

instance (bytes : List UInt8) : Decidable (IsUtf8 bytes) :=
  decidable_of_iff _ isUtf8_iff_isValidUTF8.symm

/-- A character of three bytes, and a surrogate in its place. -/
example : IsUtf8 [0xed, 0x9f, 0xbf] ∧ ¬IsUtf8 [0xed, 0xa0, 0x80] := by decide

theorem isUtf8_data_iff {bytes : ByteArray} : IsUtf8 bytes.data.toList ↔ bytes.IsValidUTF8 := by
  have hbytes : bytes.data.toList.toByteArray = bytes :=
    ByteArray.ext (Array.ext' List.toList_data_toByteArray)
  rw [isUtf8_iff_isValidUTF8, hbytes]

/-- The bytes are UTF-8 exactly if they are those of a text. -/
theorem isUtf8_iff_exists_string {bytes : ByteArray} :
    IsUtf8 bytes.data.toList ↔ ∃ text : String, text.toUTF8 = bytes := by
  rw [isUtf8_data_iff]
  constructor
  · intro h
    exact ⟨String.fromUTF8 bytes h, rfl⟩
  · rintro ⟨text, rfl⟩
    exact text.isValidUTF8

end RegexTokens.Text
