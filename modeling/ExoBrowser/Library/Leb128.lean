import Mathlib.Data.Nat.Digits.Defs
import Mathlib.Data.Nat.Digits.Lemmas
import Mathlib.Tactic.Ring

/-!
# Little-endian numbers

Fixed-width little-endian words and the variable-length LEB128 form, over
natural numbers of any size.
-/

set_option autoImplicit false

namespace Library

/-- The `width` low bytes of a number, least significant first. -/
def toLeBytes : Nat → Nat → List UInt8
  | 0, _ => []
  | width + 1, value => UInt8.ofNat value :: toLeBytes width (value / 256)

def ofLeBytes (bytes : List UInt8) : Nat := Nat.ofDigits 256 (bytes.map UInt8.toNat)

@[simp] theorem length_toLeBytes (width value : Nat) : (toLeBytes width value).length = width := by
  induction width generalizing value with
  | zero => rfl
  | succ width ih => simp [toLeBytes, ih]

@[simp] theorem ofLeBytes_nil : ofLeBytes [] = 0 := rfl

@[simp] theorem ofLeBytes_cons (byte : UInt8) (bytes : List UInt8) :
    ofLeBytes (byte :: bytes) = byte.toNat + 256 * ofLeBytes bytes := by
  simp [ofLeBytes, Nat.ofDigits_cons]

theorem ofLeBytes_toLeBytes (width value : Nat) :
    ofLeBytes (toLeBytes width value) = value % 256 ^ width := by
  induction width generalizing value with
  | zero => simp [toLeBytes, Nat.mod_one]
  | succ width ih =>
      have low : (UInt8.ofNat value).toNat = value % 256 := by simp
      rw [toLeBytes, ofLeBytes_cons, ih, low, Nat.pow_succ, Nat.mul_comm (256 ^ width),
        Nat.mod_mul]

theorem ofLeBytes_lt (bytes : List UInt8) : ofLeBytes bytes < 256 ^ bytes.length := by
  induction bytes with
  | nil => simp
  | cons byte bytes ih =>
      have bound := byte.toNat_lt
      rw [ofLeBytes_cons, List.length_cons, Nat.pow_succ]
      omega

theorem toLeBytes_ofLeBytes (bytes : List UInt8) :
    toLeBytes bytes.length (ofLeBytes bytes) = bytes := by
  induction bytes with
  | nil => rfl
  | cons byte bytes ih =>
      have bound := byte.toNat_lt
      have low : UInt8.ofNat (byte.toNat + 256 * ofLeBytes bytes) = byte := by
        apply UInt8.toNat_inj.mp
        rw [UInt8.toNat_ofNat']
        omega
      have high : (byte.toNat + 256 * ofLeBytes bytes) / 256 = ofLeBytes bytes := by omega
      rw [ofLeBytes_cons, List.length_cons, toLeBytes, low, high, ih]

theorem ofLeBytes_inj {left right : List UInt8} (sameLength : left.length = right.length)
    (same : ofLeBytes left = ofLeBytes right) : left = right := by
  rw [← toLeBytes_ofLeBytes left, ← toLeBytes_ofLeBytes right, sameLength, same]

theorem testBit_ofLeBytes (bytes : List UInt8) (position : Nat) :
    (ofLeBytes bytes).testBit position =
      (bytes[position / 8]?.any fun byte => byte.toNat.testBit (position % 8)) := by
  induction bytes generalizing position with
  | nil => simp
  | cons byte bytes ih =>
      have split := Nat.testBit_two_pow_mul_add (ofLeBytes bytes) (i := 8) byte.toNat_lt position
      have word : ofLeBytes (byte :: bytes) = 2 ^ 8 * ofLeBytes bytes + byte.toNat :=
        (ofLeBytes_cons byte bytes).trans (Nat.add_comm _ _)
      rw [word, split]
      by_cases low : position < 8
      · rw [if_pos low, Nat.div_eq_of_lt low, Nat.mod_eq_of_lt low]
        rfl
      · rw [if_neg low, ih]
        have next : position / 8 = (position - 8) / 8 + 1 := by omega
        have same : position % 8 = (position - 8) % 8 := by omega
        rw [next, same, List.getElem?_cons_succ]

/-- LEB128: seven bits a byte, the high bit set on every byte but the last. -/
def leb128 (value : Nat) : List UInt8 :=
  if value < 128 then [UInt8.ofNat value]
  else UInt8.ofNat (128 + value % 128) :: leb128 (value / 128)
termination_by value
decreasing_by omega

theorem leb128_of_lt {value : Nat} (small : value < 128) : leb128 value = [UInt8.ofNat value] := by
  rw [leb128, if_pos small]

theorem leb128_of_ge {value : Nat} (large : 128 ≤ value) :
    leb128 value = UInt8.ofNat (128 + value % 128) :: leb128 (value / 128) := by
  rw [leb128, if_neg (Nat.not_lt.mpr large)]

theorem length_leb128_pos (value : Nat) : 0 < (leb128 value).length := by
  rw [leb128]
  split <;> simp

theorem length_leb128_le {value groups : Nat} (some_group : 0 < groups) (small : value < 128 ^ groups) :
    (leb128 value).length ≤ groups := by
  induction groups generalizing value with
  | zero => exact absurd some_group (Nat.lt_irrefl 0)
  | succ groups ih =>
      by_cases last : value < 128
      · rw [leb128_of_lt last]
        exact Nat.le_add_left 1 groups
      · rw [leb128_of_ge (Nat.not_lt.mp last), List.length_cons]
        have high : value / 128 < 128 ^ groups :=
          Nat.div_lt_of_lt_mul (Nat.lt_of_lt_of_eq small (Nat.pow_succ' ..))
        refine Nat.succ_le_succ (ih (Nat.pos_of_ne_zero ?_) high)
        intro none_left
        subst none_left
        exact last (Nat.lt_of_lt_of_eq small (Nat.pow_one 128))

theorem length_leb128_mono {left right : Nat} (ordered : left ≤ right) :
    (leb128 left).length ≤ (leb128 right).length := by
  induction right using leb128.induct generalizing left with
  | case1 right small =>
      rw [leb128_of_lt small, leb128_of_lt (Nat.lt_of_le_of_lt ordered small)]
      rfl
  | case2 right large ih =>
      rw [leb128_of_ge (Nat.not_lt.mp large), List.length_cons]
      by_cases last : left < 128
      · rw [leb128_of_lt last]
        exact Nat.succ_le_succ (Nat.zero_le _)
      · rw [leb128_of_ge (Nat.not_lt.mp last), List.length_cons]
        exact Nat.succ_le_succ (ih (Nat.div_le_div_right ordered))

/-! ## Reading LEB128 -/

/-- The number that groups of seven bits make, least significant first. -/
def ofLeb128 : List UInt8 → Nat
  | [] => 0
  | byte :: bytes => byte.toNat % 128 + 128 * ofLeb128 bytes

/-- The position of the first byte with its high bit clear. -/
def leb128End (bytes : List UInt8) : Option Nat := bytes.findIdx? (·.toNat < 128)

@[simp] theorem leb128End_nil : leb128End [] = none := rfl

theorem leb128End_cons (byte : UInt8) (bytes : List UInt8) :
    leb128End (byte :: bytes) = if byte.toNat < 128 then some 0 else (leb128End bytes).map (· + 1) := by
  simp [leb128End, List.findIdx?_cons]

/-- The form that ends with its last byte is the shortest, or a shorter one makes the same number. -/
theorem leb128_shortest {bytes : List UInt8} {last : Nat} (found : leb128End bytes = some last)
    (whole : bytes.length = last + 1) :
    bytes = leb128 (ofLeb128 bytes) ∨ (leb128 (ofLeb128 bytes)).length < bytes.length := by
  induction bytes generalizing last with
  | nil => cases found
  | cons byte bytes ih =>
      rw [leb128End_cons] at found
      have bound := byte.toNat_lt
      split at found
      case isTrue low =>
        cases found
        obtain rfl : bytes = [] := List.length_eq_zero_iff.mp (Nat.succ.inj whole)
        left
        have value : ofLeb128 [byte] = byte.toNat := by
          simp only [ofLeb128]
          omega
        rw [value, leb128_of_lt low, UInt8.ofNat_toNat]
      case isFalse high =>
        obtain ⟨position, ends, rfl⟩ := Option.map_eq_some_iff.mp found
        have inner := ih ends (Nat.succ.inj whole)
        have some_byte : 0 < bytes.length := by
          rw [List.length_cons] at whole
          omega
        rw [ofLeb128]
        by_cases none_left : ofLeb128 bytes = 0
        · right
          rw [none_left, leb128_of_lt (by omega)]
          exact Nat.succ_lt_succ some_byte
        · have low : (byte.toNat % 128 + 128 * ofLeb128 bytes) % 128 = byte.toNat % 128 := by omega
          have rest : (byte.toNat % 128 + 128 * ofLeb128 bytes) / 128 = ofLeb128 bytes := by omega
          have same : UInt8.ofNat (128 + byte.toNat % 128) = byte := by
            apply UInt8.toNat_inj.mp
            rw [UInt8.toNat_ofNat']
            omega
          rw [leb128_of_ge (by omega), low, rest, same]
          exact inner.imp (congrArg (byte :: ·)) Nat.succ_lt_succ

end Library
