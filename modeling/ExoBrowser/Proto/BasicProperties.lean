import ExoBrowser.Proto.Basic

/-!
# Laws of the wire primitives

Each field reads back what its writer appends, and no reader panics.
-/

set_option autoImplicit false

namespace ExoBrowser.Proto

open Library

/-! ## Bytes of a varint -/

theorem emits_extend (bytes : Bytes) : Emits (extend bytes) bytes := fun _ => rfl

private theorem varint_low (v : UInt32) : ((v &&& 0x7f).toUInt8).toNat = v.toNat % 128 := by
  have mask : v.toNat &&& 127 = v.toNat % 128 := Nat.and_two_pow_sub_one_eq_mod v.toNat 7
  simp only [UInt32.toNat_toUInt8, UInt32.toNat_and, UInt32.reduceToNat, mask]
  omega

theorem varint_high (v : UInt32) : (v >>> 7).toNat = v.toNat / 128 := by
  simp [UInt32.toNat_shiftRight, Nat.shiftRight_eq_div_pow]

private theorem varint_marked (v : UInt32) :
    (v &&& 0x7f).toUInt8 ||| 0x80 = UInt8.ofNat (128 + v.toNat % 128) := by
  apply UInt8.toNat_inj.mp
  have disjoint := Nat.two_pow_add_eq_or_of_lt (i := 7) (b := v.toNat % 128) (by omega) 1
  have marked : 128 ||| v.toNat % 128 = 128 + v.toNat % 128 := by simpa using disjoint.symm
  simp only [UInt8.toNat_or, varint_low, UInt8.reduceToNat, UInt8.toNat_ofNat', Nat.or_comm _ 128,
    marked]
  omega

theorem emits_writeVarintLoop (passes : Nat) (v : UInt32) (small : v.toNat < 128 ^ passes)
    (some_pass : 0 < passes) : Emits (writeVarintLoop passes v) (leb128 v.toNat) := by
  induction passes generalizing v with
  | zero => exact absurd some_pass (Nat.lt_irrefl 0)
  | succ passes ih =>
      rw [writeVarintLoop]
      by_cases done : v >>> 7 = 0
      · have low : v.toNat < 128 := by
          have := varint_high v
          rw [done] at this
          simp at this
          omega
        have byte : (v &&& 0x7f).toUInt8 = UInt8.ofNat v.toNat := by
          apply UInt8.toNat_inj.mp
          rw [varint_low, UInt8.toNat_ofNat']
          omega
        simp only [done, if_true, leb128_of_lt low, byte]
        exact emits_extend _
      · have high : 128 ≤ v.toNat := by
          by_contra low
          apply done
          apply UInt32.toNat_inj.mp
          rw [varint_high, UInt32.toNat_zero]
          omega
        simp only [done, if_false, leb128_of_ge high, varint_marked]
        refine (emits_extend _).seq ?_
        rw [← varint_high]
        have shorter : (v >>> 7).toNat < 128 ^ passes := by
          rw [varint_high]
          rw [Nat.pow_succ] at small
          exact Nat.div_lt_of_lt_mul (by rwa [Nat.mul_comm])
        refine ih (v >>> 7) shorter ?_
        by_contra none_left
        have : passes = 0 := by omega
        subst this
        rw [varint_high] at shorter
        omega

theorem emits_writeVarint (v : UInt32) : Emits (writeVarint v) (leb128 v.toNat) :=
  emits_writeVarintLoop 5 v (by have := v.toNat_lt; omega) (by decide)

/-! ## Reading fields -/

theorem reads_readU8 (byte : UInt8) : Reads readU8 [byte] byte := fun _ => rfl

theorem run_readSlice (count : Nat) (missing : Error) (buf : Bytes) :
    (readSlice count missing).run buf =
      if count ≤ buf.length then .ok (buf.take count, buf.drop count)
      else .error (.err missing) := by
  by_cases fits : count ≤ buf.length
  · have sliced := Checked.slice_eq_ok (ε := Error) fits (Nat.le_refl _)
    have remaining : (buf.drop count).take (buf.length - count) = buf.drop count := by
      rw [← List.length_drop, List.take_length]
    rw [remaining] at sliced
    simp [readSlice, fits, sliced]
  · simp only [readSlice, StateT.run_bind, StateT.run_get, pure_bind, fits, if_false]
    rfl

theorem reads_readSlice (bytes : Bytes) (missing : Error) :
    Reads (readSlice bytes.length missing) bytes bytes := by
  intro rest
  simp [run_readSlice]

theorem group_value (byte : UInt8) : ((byte &&& 0x7f).toUInt32).toNat = byte.toNat % 128 := by
  have mask : byte.toNat &&& 127 = byte.toNat % 128 := Nat.and_two_pow_sub_one_eq_mod byte.toNat 7
  simp [mask]

theorem last_group_iff (byte : UInt8) : byte &&& 0x80 = 0 ↔ byte.toNat < 128 := by
  obtain ⟨bits⟩ := byte
  revert bits
  decide +kernel

theorem overlong_group_iff (byte : UInt8) : byte &&& 0xF0 ≠ 0 ↔ 16 ≤ byte.toNat := by
  obtain ⟨bits⟩ := byte
  revert bits
  decide +kernel

/-- The groups gathered so far occupy the bits below `shift`, the next one those above. -/
theorem or_group {result group shift : UInt32} (small : shift.toNat < 32)
    (below : result.toNat < 2 ^ shift.toNat) (fits : group.toNat * 2 ^ shift.toNat < 2 ^ 32) :
    (result ||| (group <<< shift)).toNat = result.toNat + group.toNat * 2 ^ shift.toNat := by
  have disjoint := Nat.two_pow_add_eq_or_of_lt below group.toNat
  rw [Nat.mul_comm] at disjoint
  rw [UInt32.toNat_or, UInt32.toNat_shiftLeft, Nat.mod_eq_of_lt small,
    Nat.shiftLeft_eq, Nat.mod_eq_of_lt fits, Nat.or_comm, ← disjoint, Nat.add_comm]

private theorem reads_last_group {passes n : Nat} {result shift : UInt32}
    (position : shift.toNat + 7 * (passes + 1) = 35) (below : result.toNat < 2 ^ shift.toNat)
    (low : n < 128) (short : passes = 0 → n < 16) (fits : n * 2 ^ shift.toNat < 2 ^ 32) :
    Reads (readVarintLoop (passes + 1) result shift) [UInt8.ofNat n]
      (UInt32.ofNat (result.toNat + n * 2 ^ shift.toNat)) := by
  have byte : (UInt8.ofNat n).toNat = n := by
    rw [UInt8.toNat_ofNat']
    omega
  have legitimate : ¬ (passes = 0 ∧ UInt8.ofNat n &&& 0xF0 ≠ 0) := by
    rw [overlong_group_iff, byte]
    rintro ⟨last, overlong⟩
    exact absurd (short last) (Nat.not_lt.mpr overlong)
  have ends : UInt8.ofNat n &&& 0x80 = 0 := by
    rw [last_group_iff, byte]
    exact low
  have group : ((UInt8.ofNat n &&& 0x7f).toUInt32).toNat = n := by
    rw [group_value, byte]
    omega
  have value : result ||| ((UInt8.ofNat n &&& 0x7f).toUInt32 <<< shift) =
      UInt32.ofNat (result.toNat + n * 2 ^ shift.toNat) := by
    have joined := or_group (by omega) below
      (by rwa [group] : (UInt8.ofNat n &&& 0x7f).toUInt32.toNat * 2 ^ shift.toNat < 2 ^ 32)
    rw [group] at joined
    rw [← joined, UInt32.ofNat_toNat]
  rw [readVarintLoop, ← List.append_nil [UInt8.ofNat n]]
  refine (reads_readU8 (UInt8.ofNat n)).seq ?_
  rw [if_neg legitimate, if_pos ends, value]
  exact .pure _

theorem reads_readVarintLoop (passes n : Nat) (result shift : UInt32)
    (position : shift.toNat + 7 * (passes + 1) = 35) (below : result.toNat < 2 ^ shift.toNat)
    (fits : n < 2 ^ (32 - shift.toNat)) :
    Reads (readVarintLoop (passes + 1) result shift) (leb128 n)
      (UInt32.ofNat (result.toNat + n * 2 ^ shift.toNat)) := by
  induction passes generalizing n result shift with
  | zero =>
      have short : n < 16 := by
        rw [(by omega : shift.toNat = 28)] at fits
        omega
      rw [leb128_of_lt (by omega)]
      refine reads_last_group position below (by omega) (fun _ => short) ?_
      rw [(by omega : shift.toNat = 28)]
      omega
  | succ passes ih =>
      have splits : 2 ^ (32 - shift.toNat) * 2 ^ shift.toNat = 2 ^ 32 := by
        rw [← Nat.pow_add]
        congr 1
        omega
      have room : n * 2 ^ shift.toNat < 2 ^ 32 := by
        rw [← splits]
        exact Nat.mul_lt_mul_of_pos_right fits (Nat.two_pow_pos _)
      by_cases low : n < 128
      · rw [leb128_of_lt low]
        exact reads_last_group position below low (by omega) room
      · have next_shift : (shift + 7).toNat = shift.toNat + 7 := by
          rw [UInt32.toNat_add]
          simp
          omega
        have byte : (UInt8.ofNat (128 + n % 128)).toNat = 128 + n % 128 := by
          rw [UInt8.toNat_ofNat']
          omega
        have continues : ¬ UInt8.ofNat (128 + n % 128) &&& 0x80 = 0 := by
          rw [last_group_iff, byte]
          omega
        have group : ((UInt8.ofNat (128 + n % 128) &&& 0x7f).toUInt32).toNat = n % 128 := by
          rw [group_value, byte]
          omega
        have group_room : n % 128 * 2 ^ shift.toNat < 2 ^ 32 :=
          Nat.lt_of_le_of_lt (Nat.mul_le_mul_right _ (Nat.mod_le n 128)) room
        have joined := or_group (by omega) below (by rwa [group] :
          (UInt8.ofNat (128 + n % 128) &&& 0x7f).toUInt32.toNat * 2 ^ shift.toNat < 2 ^ 32)
        rw [group] at joined
        have width : 2 ^ (shift.toNat + 7) = 2 ^ shift.toNat * 128 := Nat.pow_add _ _ 7
        have grown : (result ||| ((UInt8.ofNat (128 + n % 128) &&& 0x7f).toUInt32 <<< shift)).toNat <
            2 ^ (shift + 7).toNat := by
          have := Nat.mul_le_mul_right (2 ^ shift.toNat) (by omega : n % 128 + 1 ≤ 128)
          rw [joined, next_shift, width, Nat.mul_comm _ 128]
          rw [Nat.add_mul] at this
          omega
        have shorter : n / 128 < 2 ^ (32 - (shift + 7).toNat) := by
          rw [next_shift]
          apply Nat.div_lt_of_lt_mul
          have bits : 7 + (32 - (shift.toNat + 7)) = 32 - shift.toNat := by omega
          calc n < 2 ^ (32 - shift.toNat) := fits
            _ = 2 ^ (7 + (32 - (shift.toNat + 7))) := by rw [bits]
            _ = 128 * 2 ^ (32 - (shift.toNat + 7)) := Nat.pow_add 2 7 _
        have tail := ih (n / 128) (result ||| ((UInt8.ofNat (128 + n % 128) &&& 0x7f).toUInt32 <<< shift))
          (shift + 7) (by omega) grown shorter
        have value : (result ||| ((UInt8.ofNat (128 + n % 128) &&& 0x7f).toUInt32 <<< shift)).toNat +
            n / 128 * 2 ^ (shift + 7).toNat = result.toNat + n * 2 ^ shift.toNat := by
          have division := Nat.div_add_mod n 128
          rw [joined, next_shift, width]
          calc result.toNat + n % 128 * 2 ^ shift.toNat + n / 128 * (2 ^ shift.toNat * 128)
              = result.toNat + (128 * (n / 128) + n % 128) * 2 ^ shift.toNat := by ring
            _ = result.toNat + n * 2 ^ shift.toNat := by rw [division]
        rw [value] at tail
        rw [leb128_of_ge (Nat.not_lt.mp low)]
        refine (reads_readU8 _).seq ?_
        rwa [if_neg (fun overlong => Nat.succ_ne_zero passes overlong.1), if_neg continues]

theorem reads_readVarint (v : UInt32) : Reads readVarint (leb128 v.toNat) v := by
  have reads := reads_readVarintLoop 4 v.toNat 0 0 (by decide) (by decide) (by simpa using v.toNat_lt)
  simpa [readVarint] using reads

/-! ## Fields read back what was written -/

section Fields

variable {bound : Nat}

theorem inverse_varint (v : UInt32) : Inverse bound (writeVarint v) readVarint v :=
  ⟨_, emits_writeVarint v, fun _ => reads_readVarint v⟩

theorem inverse_u8 (v : UInt8) : Inverse bound (writeU8 v) readU8 v :=
  ⟨[v], emits_extend _, fun _ => reads_readU8 v⟩

theorem inverse_bool (flag : Bool) : Inverse bound (writeBool flag) readBool flag := by
  refine (inverse_u8 (if flag then 1 else 0)).convert ?_
  cases flag <;> rfl

private theorem inverse_le {α : Type} (bound width value : Nat) (small : value < 256 ^ width)
    (convert : Nat → α) :
    Inverse bound (extend (toLeBytes width value))
      (do return convert (ofLeBytes (← readSlice width .unexpectedEof))) (convert value) := by
  refine ⟨_, emits_extend _, fun _ => ?_⟩
  have reads := reads_readSlice (toLeBytes width value) .unexpectedEof
  rw [length_toLeBytes] at reads
  have converted := reads.last fun bytes => convert (ofLeBytes bytes)
  rwa [ofLeBytes_toLeBytes, Nat.mod_eq_of_lt small] at converted

theorem inverse_u16 (v : UInt16) : Inverse bound (writeU16 v) readU16 v := by
  have field := inverse_le bound 2 v.toNat v.toNat_lt UInt16.ofNat
  rw [UInt16.ofNat_toNat] at field
  exact field

theorem inverse_u32 (v : UInt32) : Inverse bound (writeU32 v) readU32 v := by
  have field := inverse_le bound 4 v.toNat v.toNat_lt UInt32.ofNat
  rw [UInt32.ofNat_toNat] at field
  exact field

theorem inverse_u64 (v : UInt64) : Inverse bound (writeU64 v) readU64 v := by
  have field := inverse_le bound 8 v.toNat v.toNat_lt UInt64.ofNat
  rw [UInt64.ofNat_toNat] at field
  exact field

theorem inverse_i32 (v : Int32) : Inverse bound (writeI32 v) readI32 v := by
  have field := inverse_le bound 4 v.toUInt32.toNat v.toUInt32.toNat_lt
    (fun value => (UInt32.ofNat value).toInt32)
  rw [UInt32.ofNat_toNat, Int32.toInt32_toUInt32] at field
  exact field

theorem inverse_slice (bytes : Bytes) (missing : Error) :
    Inverse bound (extend bytes) (readSlice bytes.length missing) bytes :=
  ⟨_, emits_extend _, fun _ => reads_readSlice bytes missing⟩

/-- The length prefix is exact as long as it fits 32 bits, which the bound ensures. -/
theorem inverse_data (small : bound < 2 ^ 32) (data : Bytes) :
    Inverse bound (writeData data) readData data := by
  refine (inverse_varint (UInt32.ofNat data.length)).seq ⟨_, emits_extend data, fun fits => ?_⟩
  have len : (UInt32.ofNat data.length).toNat = data.length := by
    rw [UInt32.toNat_ofNat']
    omega
  rw [len]
  exact reads_readSlice data .lengthOverflow

theorem fromUTF8_strBytes (s : String) : String.fromUTF8? ⟨(strBytes s).toArray⟩ = some s := by
  have bytes : ByteArray.mk (strBytes s).toArray = s.toByteArray := by simp [strBytes]
  rw [bytes, String.fromUTF8?, dif_pos s.isValidUTF8]
  rfl

theorem inverse_str (small : bound < 2 ^ 32) (s : String) :
    Inverse bound (writeStr s) readStr s := by
  refine (inverse_data small (strBytes s)).convert ?_
  simp only [fromUTF8_strBytes]

end Fields

/-! ## Readers never panic -/

section Consumption

variable {bound : Nat}

theorem consumes_readU8 : Consumes bound readU8 fun _ => True := by
  intro input _
  cases input with
  | nil => trivial
  | cons byte rest => exact ⟨trivial, List.suffix_cons byte rest⟩

theorem consumes_readSlice (count : Nat) (missing : Error) :
    Consumes bound (readSlice count missing) fun bytes =>
      bytes.length = count ∧ bytes.length ≤ bound := by
  intro input bounded
  rw [run_readSlice]
  by_cases fits : count ≤ input.length
  · rw [if_pos fits]
    refine ⟨⟨?_, ?_⟩, List.drop_suffix count input⟩
    · exact List.length_take_of_le fits
    · exact Nat.le_trans (List.length_take_le' count input) bounded
  · rw [if_neg fits]
    trivial

theorem consumes_readVarintLoop (passes : Nat) (result shift : UInt32) :
    Consumes bound (readVarintLoop passes result shift) fun _ => True := by
  induction passes generalizing result shift with
  | zero => exact .fail _
  | succ passes ih =>
      refine consumes_readU8.bind fun byte _ => .ite (fun _ => .fail _) fun _ => ?_
      exact .ite (fun _ => .pure trivial) fun _ => ih _ _

theorem consumes_readVarint : Consumes bound readVarint fun _ => True :=
  consumes_readVarintLoop 5 0 0

theorem consumes_readBool : Consumes bound readBool fun _ => True :=
  consumes_readU8.bind fun _ _ => .pure trivial

theorem consumes_readU16 : Consumes bound readU16 fun _ => True :=
  (consumes_readSlice 2 _).bind fun _ _ => .pure trivial

theorem consumes_readU32 : Consumes bound readU32 fun _ => True :=
  (consumes_readSlice 4 _).bind fun _ _ => .pure trivial

theorem consumes_readU64 : Consumes bound readU64 fun _ => True :=
  (consumes_readSlice 8 _).bind fun _ _ => .pure trivial

theorem consumes_readI32 : Consumes bound readI32 fun _ => True :=
  (consumes_readSlice 4 _).bind fun _ _ => .pure trivial

theorem consumes_readData : Consumes bound readData fun data => data.length ≤ bound :=
  consumes_readVarint.bind fun _ _ => (consumes_readSlice _ _).mono fun _ => And.right

theorem consumes_readStr : Consumes bound readStr fun _ => True := by
  refine consumes_readData.bind fun bytes _ => ?_
  split
  · exact .pure trivial
  · exact .fail _

end Consumption

end ExoBrowser.Proto
