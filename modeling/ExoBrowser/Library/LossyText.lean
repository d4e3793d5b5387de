import ExoBrowser.Library.FormQuery

/-!
# Lossy decoding

A decoder of UTF-8 that puts a replacement character where bytes are no text, and never fails.
What was encoded it gives back, at any place in the bytes.
-/

set_option autoImplicit false

namespace Library

/-- `U+FFFD` -/
def replacement : Char := ⟨0xFFFD, by decide⟩

/-- A character of which some bytes are still to come. -/
structure Partly where
  needed : Nat
  point : Nat
  lower : Nat
  upper : Nat

/-- The first byte of a character, which may be all of it. -/
def firstByte (byte : Nat) : Except Partly Char :=
  if byte ≤ 0x7F then .ok (Char.ofNat byte)
  else if 0xC2 ≤ byte ∧ byte ≤ 0xDF then .error ⟨1, byte % 32, 0x80, 0xBF⟩
  else if 0xE0 ≤ byte ∧ byte ≤ 0xEF then
    .error ⟨2, byte % 16, if byte = 0xE0 then 0xA0 else 0x80, if byte = 0xED then 0x9F else 0xBF⟩
  else if 0xF0 ≤ byte ∧ byte ≤ 0xF4 then
    .error ⟨3, byte % 8, if byte = 0xF0 then 0x90 else 0x80, if byte = 0xF4 then 0x8F else 0xBF⟩
  else .ok replacement

/-- A byte that may not come next is taken for the first one of a character. -/
def decodeFrom : Option Partly → List UInt8 → List Char
  | none, [] => []
  | some _, [] => [replacement]
  | none, byte :: rest =>
      match firstByte byte.toNat with
      | .ok c => c :: decodeFrom none rest
      | .error started => decodeFrom (some started) rest
  | some started, byte :: rest =>
      if started.lower ≤ byte.toNat ∧ byte.toNat ≤ started.upper then
        let point := started.point * 64 + byte.toNat % 64
        if started.needed ≤ 1 then Char.ofNat point :: decodeFrom none rest
        else decodeFrom (some ⟨started.needed - 1, point, 0x80, 0xBF⟩) rest
      else
        replacement :: match firstByte byte.toNat with
          | .ok c => c :: decodeFrom none rest
          | .error started => decodeFrom (some started) rest

def decodeLossy (bytes : List UInt8) : List Char := decodeFrom none bytes

/-! ## Text that was encoded -/

section Encoded

variable {started : Partly} {byte : Nat} (rest : List UInt8)

theorem decodeFrom_first (small : byte < 256) :
    decodeFrom none (UInt8.ofNat byte :: rest) =
      match firstByte byte with
      | .ok c => c :: decodeFrom none rest
      | .error started => decodeFrom (some started) rest := by
  have value : (UInt8.ofNat byte).toNat = byte := UInt8.toNat_ofNat_of_lt' small
  rw [decodeFrom.eq_3, value]

theorem decodeFrom_last (single : started.needed ≤ 1) (small : byte < 256)
    (expected : started.lower ≤ byte ∧ byte ≤ started.upper) :
    decodeFrom (some started) (UInt8.ofNat byte :: rest) =
      Char.ofNat (started.point * 64 + byte % 64) :: decodeFrom none rest := by
  have value : (UInt8.ofNat byte).toNat = byte := UInt8.toNat_ofNat_of_lt' small
  rw [decodeFrom.eq_4, value, if_pos expected]
  exact if_pos single

theorem decodeFrom_next (several : 1 < started.needed) (small : byte < 256)
    (expected : started.lower ≤ byte ∧ byte ≤ started.upper) :
    decodeFrom (some started) (UInt8.ofNat byte :: rest) =
      decodeFrom (some ⟨started.needed - 1, started.point * 64 + byte % 64, 0x80, 0xBF⟩) rest := by
  have value : (UInt8.ofNat byte).toNat = byte := UInt8.toNat_ofNat_of_lt' small
  rw [decodeFrom.eq_4, value, if_pos expected]
  exact if_neg (Nat.not_le.mpr several)

variable {v : Nat}

theorem decode_two (above : 0x7F < v) (below : v ≤ 0x7FF) :
    decodeFrom none (UInt8.ofNat (v / 64 % 32 + 0xC0) :: UInt8.ofNat (v % 64 + 0x80) :: rest) =
      Char.ofNat v :: decodeFrom none rest := by
  have lead : firstByte (v / 64 % 32 + 0xC0) = .error ⟨1, v / 64, 0x80, 0xBF⟩ := by
    have bits : (v / 64 % 32 + 0xC0) % 32 = v / 64 := by omega
    rw [firstByte, if_neg (by omega), if_pos (by omega), bits]
  have same : v / 64 * 64 + (v % 64 + 0x80) % 64 = v := by omega
  rw [decodeFrom_first _ (by omega), lead]
  simp only
  rw [decodeFrom_last rest (Nat.le_refl 1) (by omega) (by simp only; omega), same]

theorem decode_three (above : 0x7FF < v) (below : v ≤ 0xFFFF) (scalar : v < 0xD800 ∨ 0xDFFF < v) :
    decodeFrom none (UInt8.ofNat (v / 4096 % 16 + 0xE0) :: UInt8.ofNat (v / 64 % 64 + 0x80) ::
      UInt8.ofNat (v % 64 + 0x80) :: rest) = Char.ofNat v :: decodeFrom none rest := by
  have lead : firstByte (v / 4096 % 16 + 0xE0) = .error ⟨2, v / 4096,
      if v / 4096 % 16 + 0xE0 = 0xE0 then 0xA0 else 0x80,
      if v / 4096 % 16 + 0xE0 = 0xED then 0x9F else 0xBF⟩ := by
    have bits : (v / 4096 % 16 + 0xE0) % 16 = v / 4096 := by omega
    rw [firstByte, if_neg (by omega), if_neg (by omega), if_pos (by omega), bits]
  have same : (v / 4096 * 64 + (v / 64 % 64 + 0x80) % 64) * 64 + (v % 64 + 0x80) % 64 = v := by omega
  rw [decodeFrom_first _ (by omega), lead]
  simp only
  -- Neither overlong forms nor surrogates are left.
  rw [decodeFrom_next _ (Nat.lt_succ_self 1) (by omega) (by simp only; split <;> split <;> omega)]
  rw [decodeFrom_last rest (Nat.le_refl 1) (by omega) (by simp only; omega), same]

theorem decode_four (above : 0xFFFF < v) (below : v < 0x110000) :
    decodeFrom none (UInt8.ofNat (v / 262144 % 8 + 0xF0) :: UInt8.ofNat (v / 4096 % 64 + 0x80) ::
      UInt8.ofNat (v / 64 % 64 + 0x80) :: UInt8.ofNat (v % 64 + 0x80) :: rest) =
        Char.ofNat v :: decodeFrom none rest := by
  have lead : firstByte (v / 262144 % 8 + 0xF0) = .error ⟨3, v / 262144,
      if v / 262144 % 8 + 0xF0 = 0xF0 then 0x90 else 0x80,
      if v / 262144 % 8 + 0xF0 = 0xF4 then 0x8F else 0xBF⟩ := by
    have bits : (v / 262144 % 8 + 0xF0) % 8 = v / 262144 := by omega
    rw [firstByte, if_neg (by omega), if_neg (by omega), if_neg (by omega), if_pos (by omega), bits]
  have same : ((v / 262144 * 64 + (v / 4096 % 64 + 0x80) % 64) * 64 + (v / 64 % 64 + 0x80) % 64) * 64 +
      (v % 64 + 0x80) % 64 = v := by omega
  rw [decodeFrom_first _ (by omega), lead]
  simp only
  rw [decodeFrom_next _ (Nat.lt_add_of_pos_right Nat.two_pos) (by omega)
    (by simp only; split <;> split <;> omega)]
  rw [decodeFrom_next _ (Nat.lt_succ_self 1) (by omega) (by simp only; omega)]
  rw [decodeFrom_last rest (Nat.le_refl 1) (by omega) (by simp only; omega), same]

theorem decodeLossy_char (c : Char) : decodeLossy (String.utf8EncodeChar c ++ rest) = c :: decodeLossy rest := by
  have point : Char.ofNat c.val.toNat = c := Char.ofNat_toNat c
  have scalar : c.val.toNat < 0xD800 ∨ (0xDFFF < c.val.toNat ∧ c.val.toNat < 0x110000) := c.valid
  unfold String.utf8EncodeChar decodeLossy
  generalize c.val.toNat = v at point scalar
  subst point
  simp only
  split
  case isTrue one =>
    rw [List.singleton_append, decodeFrom_first rest (by omega), firstByte, if_pos one]
  case isFalse one =>
    split
    case isTrue two => exact decode_two rest (by omega) two
    case isFalse two =>
      split
      case isTrue three => exact decode_three rest (by omega) three (by omega)
      case isFalse three => exact decode_four rest (by omega) (by omega)

end Encoded

theorem decodeLossy_utf8 (text : List Char) : decodeLossy (utf8 text) = text := by
  induction text with
  | nil => rfl
  | cons c text ih => rw [utf8_cons, decodeLossy_char, ih]

end Library
