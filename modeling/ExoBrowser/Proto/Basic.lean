import ExoBrowser.Library.Cursor
import ExoBrowser.Library.Leb128

/-!
# Wire primitives

Errors, varints and fixed-width little-endian fields of the wire codec.
-/

set_option autoImplicit false

namespace ExoBrowser.Proto

open Library

abbrev Bytes := List UInt8

inductive Error where
  | unexpectedEof
  | varintOverflow
  | lengthOverflow
  | invalidUtf8
  | invalidValue
  | trailingBytes
  | unknownTag (tag : UInt32)
  | messageTooLarge
deriving DecidableEq, Repr

abbrev Wire := Cursor UInt8 Error

/-- Hard cap per single message (16 MiB). -/
def maxMessageBytes : Nat := 16 * 1024 * 1024

/-- The machine the codec runs on. `usize` has at least 32 bits. -/
structure Target where
  usizeBits : Nat
  wide : 32 ≤ usizeBits

namespace Target

def bits32 : Target := ⟨32, by decide⟩

def bits64 : Target := ⟨64, by decide⟩

variable (target : Target)

def usizeMax : Nat := 2 ^ target.usizeBits - 1

def add (left right : Nat) : Checked Error Nat :=
  if left + right ≤ target.usizeMax then .ok (left + right) else Checked.abort .overflow

def mul (left right : Nat) : Checked Error Nat :=
  if left * right ≤ target.usizeMax then .ok (left * right) else Checked.abort .overflow

def checkedAdd (left right : Nat) : Option Nat :=
  if left + right ≤ target.usizeMax then some (left + right) else none

def saturatingMul (left right : Nat) : Nat := min (left * right) target.usizeMax

theorem usizeMax_ge : 2 ^ 32 - 1 ≤ target.usizeMax :=
  Nat.sub_le_sub_right (Nat.pow_le_pow_right (by decide) target.wide) 1

theorem add_of_le {left right : Nat} (fits : left + right ≤ target.usizeMax) :
    target.add left right = .ok (left + right) := if_pos fits

theorem mul_of_le {left right : Nat} (fits : left * right ≤ target.usizeMax) :
    target.mul left right = .ok (left * right) := if_pos fits

theorem add_eq_ok {left right : Nat} (small : left + right ≤ 2 ^ 32 - 1) :
    target.add left right = .ok (left + right) := target.add_of_le (Nat.le_trans small target.usizeMax_ge)

theorem mul_eq_ok {left right : Nat} (small : left * right ≤ 2 ^ 32 - 1) :
    target.mul left right = .ok (left * right) := target.mul_of_le (Nat.le_trans small target.usizeMax_ge)

theorem checkedAdd_eq_some {left right : Nat} (small : left + right ≤ 2 ^ 32 - 1) :
    target.checkedAdd left right = some (left + right) :=
  if_pos (Nat.le_trans small target.usizeMax_ge)

theorem saturatingMul_eq {left right : Nat} (small : left * right ≤ 2 ^ 32 - 1) :
    target.saturatingMul left right = left * right :=
  Nat.min_eq_left (Nat.le_trans small target.usizeMax_ge)

theorem saturatingMul_eq_iff {left right value : Nat} (small : value < 2 ^ 32 - 1) :
    target.saturatingMul left right = value ↔ left * right = value := by
  have := target.usizeMax_ge
  unfold saturatingMul
  omega

end Target

/-! ## Output -/

def extend (bytes : Bytes) : Wire Unit := fun out => .ok ((), out ++ bytes)

def push (byte : UInt8) : Wire Unit := extend [byte]

/-- The loop of `write_varint`. A `u32` has at most five groups of seven bits. -/
def writeVarintLoop : Nat → UInt32 → Wire Unit
  | 0, _ => throw (.panic .stuck)
  | passes + 1, v => do
      let byte := (v &&& 0x7f).toUInt8
      let v := v >>> 7
      if v = 0 then push byte
      else do
        push (byte ||| 0x80)
        writeVarintLoop passes v

def writeVarint (v : UInt32) : Wire Unit := writeVarintLoop 5 v

def writeU8 (v : UInt8) : Wire Unit := push v

def writeU16 (v : UInt16) : Wire Unit := extend (toLeBytes 2 v.toNat)

def writeU32 (v : UInt32) : Wire Unit := extend (toLeBytes 4 v.toNat)

def writeU64 (v : UInt64) : Wire Unit := extend (toLeBytes 8 v.toNat)

def writeI32 (v : Int32) : Wire Unit := extend (toLeBytes 4 v.toUInt32.toNat)

def writeBool (flag : Bool) : Wire Unit := writeU8 (if flag then 1 else 0)

def strBytes (s : String) : Bytes := s.toByteArray.data.toList

def writeStr (s : String) : Wire Unit := do
  writeVarint (UInt32.ofNat (strBytes s).length)
  extend (strBytes s)

def writeData (data : Bytes) : Wire Unit := do
  writeVarint (UInt32.ofNat data.length)
  extend data

/-! ## Input -/

/-- `buf.get(..count)`, and `missing` where fewer bytes are left. The cursor then
advances by the slice `buf[count..]`. -/
def readSlice (count : Nat) (missing : Error) : Wire Bytes := do
  let buf ← get
  if count ≤ buf.length then do
    let rest ← (Checked.slice buf count buf.length : Checked Error Bytes)
    set rest
    return buf.take count
  else throw (.err missing)

def readU8 : Wire UInt8 := do
  match ← get with
  | [] => throw (.err .unexpectedEof)
  | byte :: rest =>
      set rest
      return byte

/-- The loop of `read_varint`, with the number of passes left. Its last pass is
the fifth byte, which may carry only four payload bits. -/
def readVarintLoop : Nat → UInt32 → UInt32 → Wire UInt32
  | 0, _, _ => throw (.err .varintOverflow)
  | passes + 1, result, shift => do
      let byte ← readU8
      if passes = 0 ∧ byte &&& 0xF0 ≠ 0 then throw (.err .varintOverflow)
      else do
        let result := result ||| ((byte &&& 0x7f).toUInt32 <<< shift)
        if byte &&& 0x80 = 0 then return result
        else readVarintLoop passes result (shift + 7)

def readVarint : Wire UInt32 := readVarintLoop 5 0 0

def readU16 : Wire UInt16 := do
  return UInt16.ofNat (ofLeBytes (← readSlice 2 .unexpectedEof))

def readU32 : Wire UInt32 := do
  return UInt32.ofNat (ofLeBytes (← readSlice 4 .unexpectedEof))

def readU64 : Wire UInt64 := do
  return UInt64.ofNat (ofLeBytes (← readSlice 8 .unexpectedEof))

def readI32 : Wire Int32 := do
  return (UInt32.ofNat (ofLeBytes (← readSlice 4 .unexpectedEof))).toInt32

def readBool : Wire Bool := do
  return (← readU8) != 0

def readData : Wire Bytes := do
  let len ← readVarint
  readSlice len.toNat .lengthOverflow

def readStr : Wire String := do
  let bytes ← readData
  match String.fromUTF8? ⟨bytes.toArray⟩ with
  | some s => return s
  | none => throw (.err .invalidUtf8)

end ExoBrowser.Proto
