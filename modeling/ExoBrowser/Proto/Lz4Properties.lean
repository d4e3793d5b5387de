import ExoBrowser.Library.Lz77
import ExoBrowser.Proto.BasicProperties
import ExoBrowser.Proto.Lz4

/-!
# Lengths and matches of the block codec

Extension bytes read back what was written, and the word-wise comparison finds
the longest common prefix.
-/

set_option autoImplicit false

namespace ExoBrowser.Proto

open Library

/-! ## Extension bytes -/

def lz4LenBytes (rem : Nat) : Bytes := List.replicate (rem / 255) 255 ++ [UInt8.ofNat (rem % 255)]

theorem length_lz4LenBytes (rem : Nat) : (lz4LenBytes rem).length = rem / 255 + 1 := by
  simp [lz4LenBytes]

private theorem emits_writeLz4LenLoop (passes rem : Nat) (enough : rem / 255 < passes) :
    Emits (writeLz4LenLoop passes rem) (lz4LenBytes rem) := by
  induction passes generalizing rem with
  | zero => exact absurd enough (Nat.not_lt_zero _)
  | succ passes ih =>
      rw [writeLz4LenLoop]
      by_cases full : rem ≥ 255
      · have split : lz4LenBytes rem = [255] ++ lz4LenBytes (rem - 255) := by
          have quotient : rem / 255 = (rem - 255) / 255 + 1 := by omega
          have remainder : rem % 255 = (rem - 255) % 255 := by omega
          simp [lz4LenBytes, quotient, remainder, List.replicate_succ]
        rw [if_pos full, split]
        exact (emits_extend [255]).seq (ih (rem - 255) (by omega))
      · have short : lz4LenBytes rem = [UInt8.ofNat rem] := by
          simp [lz4LenBytes, Nat.div_eq_of_lt (by omega : rem < 255),
            Nat.mod_eq_of_lt (by omega : rem < 255)]
        rw [if_neg full, short]
        exact emits_extend _

theorem emits_writeLz4Len (rem : Nat) : Emits (writeLz4Len rem) (lz4LenBytes rem) :=
  emits_writeLz4LenLoop (rem + 1) rem (by omega)

variable (target : Target)

private theorem readLz4LenPass_ok {src : Bytes} {total sp : Nat} {b : UInt8}
    (found : src[sp]? = some b) (total_small : total + b.toNat ≤ 2 ^ 32 - 1)
    (sp_small : sp + 1 ≤ 2 ^ 32 - 1) :
    readLz4LenPass target src (total, sp) =
      if b ≠ 255 then .ok (.leave (total + b.toNat, sp + 1))
      else .ok (.again (total + b.toNat, sp + 1)) := by
  simp only [readLz4LenPass, found, target.add_eq_ok sp_small,
    target.checkedAdd_eq_some total_small, bind, Except.bind]
  split <;> rfl

private theorem readLz4Len_loop {src tail : Bytes} {last : UInt8} (short : last ≠ 255)
    (count fuel total sp : Nat) (enough : count < fuel)
    (ahead : src.drop sp = List.replicate count 255 ++ last :: tail)
    (total_small : total + 255 * count + last.toNat ≤ 2 ^ 32 - 1)
    (sp_small : sp + count + 1 ≤ 2 ^ 32 - 1) :
    loop (readLz4LenPass target src) fuel (total, sp) =
      .ok (total + 255 * count + last.toNat, sp + count + 1) := by
  induction count generalizing fuel total sp with
  | zero =>
      obtain ⟨fuel, rfl⟩ : ∃ n, fuel = n + 1 := ⟨fuel - 1, by omega⟩
      have found : src[sp]? = some last := by
        have := congrArg (·[0]?) ahead
        simpa [List.getElem?_drop] using this
      apply loop_leave
      rw [readLz4LenPass_ok target found (by omega) (by omega), if_pos short]
      rfl
  | succ count ih =>
      obtain ⟨fuel, rfl⟩ : ∃ n, fuel = n + 1 := ⟨fuel - 1, by omega⟩
      have found : src[sp]? = some 255 := by
        have := congrArg (·[0]?) ahead
        simpa [List.getElem?_drop, List.replicate_succ] using this
      have rest : src.drop (sp + 1) = List.replicate count 255 ++ last :: tail := by
        rw [← List.drop_drop, ahead]
        simp [List.replicate_succ]
      have pass := readLz4LenPass_ok target found
        (by simp; omega : total + (255 : UInt8).toNat ≤ 2 ^ 32 - 1) (by omega)
      simp only [ne_eq, not_true_eq_false, if_false] at pass
      rw [loop_again pass, ih fuel _ _ (by omega) rest (by simp; omega) (by omega)]
      have bytes : (255 : UInt8).toNat = 255 := rfl
      rw [bytes]
      congr 2 <;> ring

theorem readLz4Len_eq_ok {src tail : Bytes} {sp rem : Nat}
    (ahead : src.drop sp = lz4LenBytes rem ++ tail) (rem_small : rem ≤ 2 ^ 32 - 1)
    (src_small : src.length ≤ 2 ^ 32 - 1) :
    readLz4Len target src sp = .ok (rem, sp + (lz4LenBytes rem).length) := by
  have low : (UInt8.ofNat (rem % 255)).toNat = rem % 255 := by
    rw [UInt8.toNat_ofNat']
    omega
  have short : UInt8.ofNat (rem % 255) ≠ 255 := by
    intro full
    rw [full] at low
    have : (255 : UInt8).toNat = 255 := rfl
    omega
  have inside := congrArg List.length ahead
  rw [List.length_drop, List.length_append, length_lz4LenBytes] at inside
  have division := Nat.div_add_mod rem 255
  have ahead' : src.drop sp =
      List.replicate (rem / 255) 255 ++ UInt8.ofNat (rem % 255) :: tail := by
    simpa [lz4LenBytes] using ahead
  have result := readLz4Len_loop target short (rem / 255) (src.length + 1) 0 sp
    (by omega) ahead' (by omega) (by omega)
  rw [readLz4Len, result, length_lz4LenBytes, low]
  congr 2
  omega

/-! ## Common prefixes -/

theorem trailingZeros_spec {v : UInt64} (nonzero : v ≠ 0) :
    trailingZeros v < 64 ∧ v.toNat.testBit (trailingZeros v) = true ∧
      ∀ i < trailingZeros v, v.toNat.testBit i = false := by
  obtain ⟨i, bit⟩ := Nat.exists_testBit_of_ne_zero (x := v.toNat) (by
    intro zero
    exact nonzero (UInt64.toNat_inj.mp zero))
  have inside : i < 64 := by
    by_contra outside
    have high := Nat.testBit_lt_two_pow (Nat.lt_of_lt_of_le v.toNat_lt
      (Nat.pow_le_pow_right (by decide) (Nat.not_lt.mp outside)))
    rw [high] at bit
    exact Bool.noConfusion bit
  have found : (List.range 64).findIdx (fun i => v.toNat.testBit i) < (List.range 64).length :=
    List.findIdx_lt_length_of_exists ⟨i, by simpa using inside, bit⟩
  refine ⟨by simpa [trailingZeros] using found, ?_, fun j below => ?_⟩
  · have bit := List.findIdx_getElem (w := found)
    rw [List.getElem_range] at bit
    exact bit
  · have clear := List.not_of_lt_findIdx below
    simpa using clear

private theorem toNat_word {word : Bytes} (wordLength : word.length = 8) :
    (UInt64.ofNat (ofLeBytes word)).toNat = ofLeBytes word := by
  have small := ofLeBytes_lt word
  rw [wordLength] at small
  rw [UInt64.toNat_ofNat']
  exact Nat.mod_eq_of_lt small

/-- Two little-endian words first differ in the byte of the lowest set bit of
their xor. -/
theorem isCommonPrefix_xor {x y : Bytes} (xLength : x.length = 8) (yLength : y.length = 8)
    (different : UInt64.ofNat (ofLeBytes x) ≠ UInt64.ofNat (ofLeBytes y)) :
    IsCommonPrefix x y
      (trailingZeros (UInt64.ofNat (ofLeBytes x) ^^^ UInt64.ofNat (ofLeBytes y)) / 8) := by
  have nonzero : UInt64.ofNat (ofLeBytes x) ^^^ UInt64.ofNat (ofLeBytes y) ≠ 0 := by
    rw [ne_eq, UInt64.xor_eq_zero_iff]
    exact different
  obtain ⟨inside, set, clear⟩ := trailingZeros_spec nonzero
  simp only [UInt64.toNat_xor, toNat_word xLength, toNat_word yLength, Nat.testBit_xor,
    testBit_ofLeBytes] at set clear
  generalize trailingZeros (UInt64.ofNat (ofLeBytes x) ^^^ UInt64.ofNat (ofLeBytes y)) = t
    at inside set clear
  refine ⟨by omega, by omega, fun j below => ?_, fun _ _ same => ?_⟩
  · have left : x[j]? = some (x.get ⟨j, by omega⟩) := by simp
    have right : y[j]? = some (y.get ⟨j, by omega⟩) := by simp
    rw [left, right]
    congr 1
    apply UInt8.toNat_inj.mp
    apply Nat.eq_of_testBit_eq
    intro bit
    by_cases low : bit < 8
    · have agree := clear (8 * j + bit) (by omega)
      rw [(by omega : (8 * j + bit) / 8 = j), (by omega : (8 * j + bit) % 8 = bit), left,
        right] at agree
      simpa using agree
    · have zero : ∀ b : UInt8, b.toNat.testBit bit = false := fun b =>
        Nat.testBit_lt_two_pow (Nat.lt_of_lt_of_le b.toNat_lt
          (Nat.pow_le_pow_right (by decide) (Nat.not_lt.mp low)))
      rw [zero, zero]
  · rw [same] at set
    simp at set

private theorem loadU64_eq_ok {bytes : Bytes} {i : Nat} (inside : i + 8 ≤ bytes.length) :
    loadU64 bytes i = .ok (UInt64.ofNat (ofLeBytes ((bytes.drop i).take 8))) := by
  simp [loadU64, Checked.slice_add_eq_ok inside]

section CommonPrefix

variable {a b : Bytes}

private def AgreeUpTo (a b : Bytes) (i : Nat) : Prop :=
  i ≤ min a.length b.length ∧ ∀ j < i, a[j]? = b[j]?

private theorem wordPass_returns {i : Nat} (agree : AgreeUpTo a b i) :
    Checked.Returns (wordPass a b (min a.length b.length) i)
      (Pass.Meets (fun next => AgreeUpTo a b next ∧
          min a.length b.length - next < min a.length b.length - i)
        (Sum.elim (IsCommonPrefix a b) (AgreeUpTo a b))) := by
  unfold wordPass
  by_cases room : i + 8 ≤ min a.length b.length
  · rw [if_pos room, loadU64_eq_ok (by omega), loadU64_eq_ok (by omega)]
    have aLength : ((a.drop i).take 8).length = 8 := by
      rw [List.length_take, List.length_drop]
      omega
    have bLength : ((b.drop i).take 8).length = 8 := by
      rw [List.length_take, List.length_drop]
      omega
    simp only [bind, Except.bind]
    by_cases different : UInt64.ofNat (ofLeBytes ((a.drop i).take 8)) ≠
        UInt64.ofNat (ofLeBytes ((b.drop i).take 8))
    · rw [if_pos different]
      refine ⟨_, rfl, ?_⟩
      have window := isCommonPrefix_xor aLength bLength different
      have short := (trailingZeros_spec (v := UInt64.ofNat (ofLeBytes ((a.drop i).take 8)) ^^^
        UInt64.ofNat (ofLeBytes ((b.drop i).take 8)))
        (by rw [ne_eq, UInt64.xor_eq_zero_iff]; exact different)).1
      exact .shift agree.2 ⟨by omega, by omega⟩ (.of_take (by omega) window)
    · rw [if_neg different]
      refine ⟨_, rfl, ⟨room, fun j below => ?_⟩, by omega⟩
      by_cases early : j < i
      · exact agree.2 j early
      · have words : (a.drop i).take 8 = (b.drop i).take 8 := by
          have numbers := congrArg UInt64.toNat (not_not.mp different)
          rw [toNat_word aLength, toNat_word bLength] at numbers
          exact ofLeBytes_inj (aLength.trans bLength.symm) numbers
        have byte := congrArg (·[j - i]?) words
        simp only [List.getElem?_take_of_lt (by omega : j - i < 8), List.getElem?_drop] at byte
        rwa [(by omega : i + (j - i) = j)] at byte
  · rw [if_neg room]
    exact ⟨_, rfl, agree⟩

private theorem bytePass_returns {i : Nat} (agree : AgreeUpTo a b i) :
    Checked.Returns (bytePass a b (min a.length b.length) i)
      (Pass.Meets (fun next => AgreeUpTo a b next ∧
          min a.length b.length - next < min a.length b.length - i)
        (IsCommonPrefix a b)) := by
  have bound := agree.1
  unfold bytePass
  by_cases room : i < min a.length b.length
  · have left : a[i]? = some (a.get ⟨i, by omega⟩) := by simp
    have right : b[i]? = some (b.get ⟨i, by omega⟩) := by simp
    rw [if_pos room, Checked.index_eq_ok left, Checked.index_eq_ok right]
    simp only [bind, Except.bind]
    by_cases same : a.get ⟨i, by omega⟩ = b.get ⟨i, by omega⟩
    · rw [if_pos same]
      refine ⟨_, rfl, ⟨by omega, fun j below => ?_⟩, by omega⟩
      by_cases early : j < i
      · exact agree.2 j early
      · rw [(by omega : j = i), left, right, same]
    · rw [if_neg same]
      refine ⟨_, rfl, by omega, by omega, agree.2, fun _ _ equal => ?_⟩
      rw [left, right] at equal
      exact same (Option.some.inj equal)
  · rw [if_neg room]
    exact ⟨_, rfl, by omega, by omega, agree.2, by omega⟩

/-- The word loop and the byte loop together find the longest common prefix. -/
theorem commonPrefixLen_returns (a b : Bytes) :
    Checked.Returns (commonPrefixLen a b) (IsCommonPrefix a b) := by
  refine (loop_returns (AgreeUpTo a b) (fun i => min a.length b.length - i)
    (fun i => wordPass_returns) ⟨by omega, by omega⟩ (by omega)).bind fun outcome property => ?_
  cases outcome with
  | inl result => exact ⟨result, rfl, property⟩
  | inr i =>
      exact loop_returns (AgreeUpTo a b) (fun i => min a.length b.length - i)
        (fun i => bytePass_returns) property (by omega)

/-- Words and bytes find what the comparison byte by byte finds, and it is the greatest length at
which prefixes of both agree. -/
theorem commonPrefixLen_eq (a b : Bytes) :
    commonPrefixLen a b = .ok (commonPrefixLength a b) ∧
      IsGreatest { n | n ≤ a.length ∧ n ≤ b.length ∧ a.take n = b.take n } (commonPrefixLength a b) := by
  have plain := isCommonPrefix_commonPrefixLength a b
  obtain ⟨result, found, common⟩ := commonPrefixLen_returns a b
  refine ⟨by rw [found, common.unique plain], ⟨plain.within_left, plain.within_right, plain.take_eq⟩, ?_⟩
  rintro other ⟨within_a, within_b, agree⟩
  exact plain.le within_a within_b agree

end CommonPrefix

end ExoBrowser.Proto
