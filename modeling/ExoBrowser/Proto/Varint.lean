import ExoBrowser.Proto.BasicProperties

/-!
# Varints

Which bytes `read_varint` accepts, and how it refuses the others.
-/

set_option autoImplicit false

namespace ExoBrowser.Proto

open Library

/-- The number up to the first byte with its high bit clear, and the bytes behind it, if such
a byte is among the first five and the number fits a word. -/
def leb128Of (buf : Bytes) : Checked Error (UInt32 × Bytes) :=
  match leb128End (buf.take 5) with
  | some last =>
      if ofLeb128 (buf.take (last + 1)) < 2 ^ 32 then
        .ok (UInt32.ofNat (ofLeb128 (buf.take (last + 1))), buf.drop (last + 1))
      else Checked.fail .varintOverflow
  | none => if buf.length < 5 then Checked.fail .unexpectedEof else Checked.fail .varintOverflow

/-- The same behind groups that make up `result` and fill the bits below `shift`, with `passes`
bytes to go. -/
def leb128Within (passes result shift : Nat) (buf : Bytes) : Checked Error (UInt32 × Bytes) :=
  match leb128End (buf.take passes) with
  | some last =>
      let value := result + 2 ^ shift * ofLeb128 (buf.take (last + 1))
      if value < 2 ^ 32 then .ok (UInt32.ofNat value, buf.drop (last + 1))
      else Checked.fail .varintOverflow
  | none => if buf.length < passes then Checked.fail .unexpectedEof else Checked.fail .varintOverflow

section Loop

variable {passes result shift : Nat} {byte : UInt8} {buf : Bytes}

theorem leb128Within_nil (some_pass : 0 < passes) :
    leb128Within passes result shift [] = Checked.fail .unexpectedEof := by
  unfold leb128Within
  rw [List.take_nil]
  exact if_pos some_pass

theorem leb128Within_last (low : byte.toNat < 128) :
    leb128Within (passes + 1) result shift (byte :: buf) =
      if result + 2 ^ shift * byte.toNat < 2 ^ 32 then
        .ok (UInt32.ofNat (result + 2 ^ shift * byte.toNat), buf)
      else Checked.fail .varintOverflow := by
  have value : ofLeb128 [byte] = byte.toNat := by
    simp only [ofLeb128]
    omega
  unfold leb128Within
  rw [List.take_succ_cons, leb128End_cons, if_pos low]
  simp only [Nat.zero_add, List.take_succ_cons, List.take_zero, List.drop_succ_cons, List.drop_zero,
    value]

theorem leb128Within_more (high : 128 ≤ byte.toNat) :
    leb128Within (passes + 1) result shift (byte :: buf) =
      leb128Within passes (result + 2 ^ shift * (byte.toNat % 128)) (shift + 7) buf := by
  unfold leb128Within
  rw [List.take_succ_cons, leb128End_cons, if_neg (Nat.not_lt.mpr high)]
  cases leb128End (buf.take passes) with
  | none =>
      simp only [Option.map_none, List.length_cons, Nat.add_lt_add_iff_right]
  | some last =>
      have value (groups : Bytes) : result + 2 ^ shift * ofLeb128 (byte :: groups) =
          result + 2 ^ shift * (byte.toNat % 128) + 2 ^ (shift + 7) * ofLeb128 groups := by
        rw [ofLeb128, Nat.pow_add]
        ring
      simp only [Option.map_some, List.take_succ_cons, List.drop_succ_cons, value]

end Loop

/-- A group that the check lets through stays within the word. -/
theorem gather_group {passes : Nat} {result shift : UInt32} {byte : UInt8}
    (position : shift.toNat + 7 * (passes + 1) = 35) (below : result.toNat < 2 ^ shift.toNat)
    (legitimate : ¬ (passes = 0 ∧ byte &&& 0xF0 ≠ 0)) :
    (result ||| ((byte &&& 0x7f).toUInt32 <<< shift)).toNat =
        result.toNat + 2 ^ shift.toNat * (byte.toNat % 128) ∧
      result.toNat + 2 ^ shift.toNat * (byte.toNat % 128) < 2 ^ min 32 (shift.toNat + 7) := by
  have group := group_value byte
  have fits : result.toNat + 2 ^ shift.toNat * (byte.toNat % 128) < 2 ^ min 32 (shift.toNat + 7) := by
    cases passes with
    | zero =>
        have short : byte.toNat < 16 := by
          by_contra long
          exact legitimate ⟨rfl, (overlong_group_iff byte).mpr (Nat.not_lt.mp long)⟩
        have last : shift.toNat = 28 := by omega
        rw [last] at below ⊢
        have least : min 32 (28 + 7) = 32 := rfl
        rw [least]
        omega
    | succ passes =>
        have most : 2 ^ shift.toNat * (byte.toNat % 128) ≤ 2 ^ shift.toNat * 127 :=
          Nat.mul_le_mul_left _ (by omega)
        rw [Nat.min_eq_right (by omega), Nat.pow_add]
        omega
  have room : result.toNat + 2 ^ shift.toNat * (byte.toNat % 128) < 2 ^ 32 :=
    Nat.lt_of_lt_of_le fits (Nat.pow_le_pow_right (by decide) (Nat.min_le_left _ _))
  have group_fits : ((byte &&& 0x7f).toUInt32).toNat * 2 ^ shift.toNat < 2 ^ 32 := by
    rw [group, Nat.mul_comm]
    omega
  have joined := or_group (by omega) below group_fits
  rw [group, Nat.mul_comm] at joined
  exact ⟨joined, fits⟩

/-- By induction on the passes: what is gathered fills the bits below `shift`. -/
theorem readVarintLoop_eq (passes : Nat) (result shift : UInt32) (buf : Bytes)
    (position : shift.toNat + 7 * passes = 35) (below : result.toNat < 2 ^ shift.toNat) :
    (readVarintLoop passes result shift).run buf =
      leb128Within passes result.toNat shift.toNat buf := by
  induction passes generalizing result shift buf with
  | zero => rfl
  | succ passes ih =>
      cases buf with
      | nil =>
          rw [leb128Within_nil (Nat.succ_pos passes)]
          rfl
      | cons byte buf =>
          change (if _ then _ else _ : Wire UInt32).run buf = _
          by_cases overlong : passes = 0 ∧ byte &&& 0xF0 ≠ 0
          · rw [if_pos overlong]
            obtain ⟨rfl, large⟩ := overlong
            have last : shift.toNat = 28 := by omega
            by_cases low : byte.toNat < 128
            · have exceeds := (overlong_group_iff byte).mp large
              rw [leb128Within_last low, if_neg (by rw [last]; omega)]
              rfl
            · rw [leb128Within_more (Nat.not_lt.mp low)]
              rfl
          · obtain ⟨gathered, fits⟩ := gather_group position below overlong
            rw [if_neg overlong]
            by_cases low : byte.toNat < 128
            · have room := Nat.lt_of_lt_of_le fits
                (Nat.pow_le_pow_right (by decide) (Nat.min_le_left _ _))
              rw [Nat.mod_eq_of_lt low] at gathered room
              rw [if_pos ((last_group_iff byte).mpr low), leb128Within_last low, if_pos room,
                ← gathered, UInt32.ofNat_toNat]
              rfl
            · rw [if_neg ((last_group_iff byte).not.mpr low), leb128Within_more (Nat.not_lt.mp low),
                ← gathered]
              cases passes with
              | zero =>
                  have large := (overlong_group_iff byte).mpr (by omega)
                  exact absurd ⟨rfl, large⟩ overlong
              | succ passes =>
                  have next_shift : (shift + 7).toNat = shift.toNat + 7 := by
                    rw [UInt32.toNat_add]
                    simp only [UInt32.reduceToNat]
                    omega
                  rw [← next_shift]
                  refine ih _ (shift + 7) buf (by omega) ?_
                  rw [gathered, next_shift]
                  exact Nat.lt_of_lt_of_le fits
                    (Nat.pow_le_pow_right (by decide) (Nat.min_le_right _ _))

/-- What `read_varint` does on every input. -/
theorem readVarint_eq (buf : Bytes) : readVarint.run buf = leb128Of buf := by
  have whole := readVarintLoop_eq 5 0 0 buf rfl (by decide)
  refine whole.trans ?_
  unfold leb128Within leb128Of
  simp only [UInt32.toNat_zero, Nat.zero_add, Nat.pow_zero, Nat.one_mul]

theorem leb128Of_eq_ok {buf rest : Bytes} {v : UInt32} (read : leb128Of buf = .ok (v, rest)) :
    ∃ last < 5, last < buf.length ∧ leb128End (buf.take (last + 1)) = some last ∧
      ofLeb128 (buf.take (last + 1)) = v.toNat ∧ rest = buf.drop (last + 1) := by
  unfold leb128Of at read
  split at read
  case h_1 last found =>
    split at read
    case isTrue small =>
      cases read
      obtain ⟨bounded, low, high⟩ := List.findIdx?_eq_some_iff_getElem.mp found
      rw [List.length_take] at bounded
      refine ⟨last, by omega, by omega, ?_, ?_, rfl⟩
      · refine List.findIdx?_eq_some_iff_getElem.mpr ⟨by rw [List.length_take]; omega, ?_, ?_⟩
        · simpa only [List.getElem_take] using low
        · intro position earlier
          simpa only [List.getElem_take] using high position earlier
      · rw [UInt32.toNat_ofNat', Nat.mod_eq_of_lt small]
    case isFalse => cases read
  case h_2 =>
    split at read
    · cases read
    · cases read

theorem leb128Of_starved {buf : Bytes} (starved : leb128Of buf = Checked.fail .unexpectedEof) :
    buf.length < 5 := by
  unfold leb128Of at starved
  split at starved
  case h_1 =>
    split at starved
    · cases starved
    · cases starved
  case h_2 =>
    split at starved
    case isTrue short => exact short
    case isFalse => cases starved

/-- A varint comes back, what is written is shorter than all else that reads the same, and each
input is accepted or refused as its first five bytes say. -/
theorem varint_exact :
    (∀ v : UInt32, ∃ bytes : Bytes, Emits (writeVarint v) bytes ∧
      (∀ rest, readVarint.run (bytes ++ rest) = .ok (v, rest)) ∧
      ∀ other, readVarint.run other = .ok (v, []) → other = bytes ∨ bytes.length < other.length) ∧
    ∀ buf, readVarint.run buf = leb128Of buf := by
  refine ⟨fun v => ⟨leb128 v.toNat, emits_writeVarint v, reads_readVarint v, fun other read => ?_⟩,
    readVarint_eq⟩
  rw [readVarint_eq] at read
  obtain ⟨last, _, bounded, ends, value, nothing⟩ := leb128Of_eq_ok read
  have whole : other.length = last + 1 := by
    have left := congrArg List.length nothing
    rw [List.length_nil, List.length_drop] at left
    omega
  rw [List.take_of_length_le (Nat.le_of_eq whole)] at ends value
  rw [← value]
  exact leb128_shortest ends whole

end ExoBrowser.Proto
