import Mathlib.Data.List.Basic
import Mathlib.Tactic.Ring

/-!
# Back references

A back reference repeats earlier output at a fixed distance, possibly
overlapping what it writes. The relation below determines the result, so any way
of copying that satisfies it is correct.
-/

set_option autoImplicit false

namespace Library

variable {β : Type}

/-- `copy` extends `out` by `count` symbols, each equal to the one `distance`
positions before it. -/
structure IsCopy (out : List β) (distance count : Nat) (copy : List β) : Prop where
  extending : out <+: copy
  length_eq : copy.length = out.length + count
  repeats : ∀ i, out.length ≤ i → i < copy.length → copy[i]? = copy[i - distance]?

theorem IsCopy.unique {out left right : List β} {distance count : Nat} (back : 0 < distance)
    (reach : distance ≤ out.length) (first : IsCopy out distance count left)
    (second : IsCopy out distance count right) : left = right := by
  have sameLength : left.length = right.length := by rw [first.length_eq, second.length_eq]
  apply List.ext_getElem? fun i => ?_
  -- A position behind `out` reduces to an earlier one, by strong induction.
  induction i using Nat.strong_induction_on with
  | _ i ih =>
      by_cases inside : i < out.length
      · obtain ⟨leftTail, rfl⟩ := first.extending
        obtain ⟨rightTail, rfl⟩ := second.extending
        rw [List.getElem?_append_left inside, List.getElem?_append_left inside]
      · by_cases written : i < left.length
        · rw [first.repeats i (by omega) written, second.repeats i (by omega) (by omega)]
          exact ih (i - distance) (by omega)
        · rw [List.getElem?_eq_none (by omega), List.getElem?_eq_none (by omega)]

theorem IsCopy.refl (out : List β) (distance : Nat) : IsCopy out distance 0 out :=
  ⟨List.prefix_refl out, rfl, fun _ _ _ => by omega⟩

theorem IsCopy.trans {out middle copy : List β} {distance m n : Nat}
    (reach : distance ≤ out.length) (first : IsCopy out distance m middle)
    (second : IsCopy middle distance n copy) : IsCopy out distance (m + n) copy := by
  refine ⟨first.extending.trans second.extending, ?_, fun i behind written => ?_⟩
  · rw [second.length_eq, first.length_eq, Nat.add_assoc]
  · by_cases early : i < middle.length
    · obtain ⟨tail, rfl⟩ := second.extending
      rw [List.getElem?_append_left early, List.getElem?_append_left (by omega)]
      exact first.repeats i behind early
    · exact second.repeats i (by omega) written

theorem isCopy_block {out : List β} {distance count : Nat} (reach : distance ≤ out.length)
    (separate : count ≤ distance) :
    IsCopy out distance count (out ++ (out.drop (out.length - distance)).take count) := by
  have blockLength : ((out.drop (out.length - distance)).take count).length = count := by
    rw [List.length_take, List.length_drop]
    omega
  refine ⟨List.prefix_append _ _, by rw [List.length_append, blockLength], fun i behind written => ?_⟩
  rw [List.length_append, blockLength] at written
  rw [List.getElem?_append_right behind, List.getElem?_append_left (by omega),
    List.getElem?_take_of_lt (by omega), List.getElem?_drop]
  congr 1
  omega

theorem isCopy_snoc {out : List β} {distance : Nat} {symbol : β} (back : 0 < distance)
    (reach : distance ≤ out.length) (found : out[out.length - distance]? = some symbol) :
    IsCopy out distance 1 (out ++ [symbol]) := by
  have block := isCopy_block reach (by omega : 1 ≤ distance)
  have head : (out.drop (out.length - distance)).take 1 = [symbol] := by
    rw [List.take_one, List.head?_drop, found]
    rfl
  rwa [head] at block

/-- Repeating the last `distance` symbols over and over, the last time in part. -/
theorem isCopy_cycle {out pattern : List β} (full part : Nat) (reach : pattern <:+ out)
    (partial_le : part ≤ pattern.length) :
    IsCopy out pattern.length (full * pattern.length + part)
      (out ++ (List.replicate full pattern).flatten ++ pattern.take part) := by
  have last : out.drop (out.length - pattern.length) = pattern :=
    (List.suffix_iff_eq_drop.mp reach).symm
  induction full generalizing out with
  | zero =>
      have block := isCopy_block reach.length_le partial_le
      rw [last] at block
      simpa using block
  | succ full ih =>
      have once := isCopy_block reach.length_le (Nat.le_refl pattern.length)
      rw [last, List.take_length] at once
      have again := once.trans reach.length_le
        (ih (List.suffix_append out pattern)
          (List.suffix_iff_eq_drop.mp (List.suffix_append out pattern)).symm)
      have count : pattern.length + (full * pattern.length + part) =
          (full + 1) * pattern.length + part := by ring
      rw [count] at again
      simpa [List.replicate_succ] using again

theorem isCopy_take {input : List β} {ip distance count : Nat} (reach : distance ≤ ip)
    (inside : ip + count ≤ input.length)
    (agree : ∀ j < count, input[ip + j]? = input[ip - distance + j]?) :
    IsCopy (input.take ip) distance count (input.take (ip + count)) := by
  have shortLength : (input.take ip).length = ip := List.length_take_of_le (by omega)
  have longLength : (input.take (ip + count)).length = ip + count := List.length_take_of_le inside
  refine ⟨List.take_prefix_take_left (by omega), by rw [longLength, shortLength],
    fun i behind written => ?_⟩
  rw [shortLength] at behind
  rw [longLength] at written
  rw [List.getElem?_take_of_lt written, List.getElem?_take_of_lt (by omega)]
  have same := agree (i - ip) (by omega)
  rwa [(by omega : ip + (i - ip) = i), (by omega : ip - distance + (i - ip) = i - distance)] at same

/-- `count` is the length of the longest common prefix. -/
structure IsCommonPrefix (left right : List β) (count : Nat) : Prop where
  within_left : count ≤ left.length
  within_right : count ≤ right.length
  agree : ∀ j < count, left[j]? = right[j]?
  differ : count < left.length → count < right.length → left[count]? ≠ right[count]?

theorem IsCommonPrefix.shift {x y : List β} {i count : Nat}
    (agree : ∀ j < i, x[j]? = y[j]?) (inside : i ≤ x.length ∧ i ≤ y.length)
    (rest : IsCommonPrefix (x.drop i) (y.drop i) count) : IsCommonPrefix x y (i + count) := by
  have withinLeft := rest.within_left
  have withinRight := rest.within_right
  rw [List.length_drop] at withinLeft withinRight
  refine ⟨by omega, by omega, fun j below => ?_, fun left right => ?_⟩
  · by_cases early : j < i
    · exact agree j early
    · have same := rest.agree (j - i) (by omega)
      rwa [List.getElem?_drop, List.getElem?_drop, (by omega : i + (j - i) = j)] at same
  · have differ := rest.differ (by rw [List.length_drop]; omega) (by rw [List.length_drop]; omega)
    rwa [List.getElem?_drop, List.getElem?_drop] at differ

theorem IsCommonPrefix.of_take {x y : List β} {width count : Nat} (short : count < width)
    (window : IsCommonPrefix (x.take width) (y.take width) count) : IsCommonPrefix x y count := by
  have withinLeft := window.within_left
  have withinRight := window.within_right
  rw [List.length_take] at withinLeft withinRight
  refine ⟨by omega, by omega, fun j below => ?_, fun left right => ?_⟩
  · have same := window.agree j below
    rwa [List.getElem?_take_of_lt (by omega), List.getElem?_take_of_lt (by omega)] at same
  · have differ := window.differ (by rw [List.length_take]; omega) (by rw [List.length_take]; omega)
    rwa [List.getElem?_take_of_lt short, List.getElem?_take_of_lt short] at differ

/-- Symbol by symbol, up to the first difference. -/
def commonPrefixLength [DecidableEq β] : List β → List β → Nat
  | x :: left, y :: right => if x = y then commonPrefixLength left right + 1 else 0
  | _, _ => 0

theorem isCommonPrefix_commonPrefixLength [DecidableEq β] (left right : List β) :
    IsCommonPrefix left right (commonPrefixLength left right) := by
  induction left generalizing right with
  | nil => exact ⟨Nat.zero_le _, Nat.zero_le _, nofun, nofun⟩
  | cons x left ih =>
      cases right with
      | nil => exact ⟨Nat.zero_le _, Nat.zero_le _, nofun, nofun⟩
      | cons y right =>
          rw [commonPrefixLength]
          split
          case isTrue same =>
            rw [Nat.add_comm]
            refine IsCommonPrefix.shift (fun j first => ?_) ⟨Nat.succ_pos _, Nat.succ_pos _⟩ (ih right)
            obtain rfl : j = 0 := Nat.lt_one_iff.mp first
            rw [List.getElem?_cons_zero, List.getElem?_cons_zero, same]
          case isFalse other =>
            refine ⟨Nat.zero_le _, Nat.zero_le _, nofun, fun _ _ same => other ?_⟩
            exact Option.some.inj same

/-- A common prefix is within the longest one. -/
theorem IsCommonPrefix.le {left right : List β} {count other : Nat}
    (longest : IsCommonPrefix left right count) (within_left : other ≤ left.length)
    (within_right : other ≤ right.length) (agree : left.take other = right.take other) :
    other ≤ count := by
  by_contra beyond
  have longer : count < other := Nat.not_le.mp beyond
  refine longest.differ (Nat.lt_of_lt_of_le longer within_left)
    (Nat.lt_of_lt_of_le longer within_right) ?_
  rw [← List.getElem?_take_of_lt longer, agree, List.getElem?_take_of_lt longer]

theorem IsCommonPrefix.take_eq {left right : List β} {count : Nat}
    (common : IsCommonPrefix left right count) : left.take count = right.take count := by
  refine List.ext_getElem? fun i => ?_
  by_cases inside : i < count
  · rw [List.getElem?_take_of_lt inside, List.getElem?_take_of_lt inside]
    exact common.agree i inside
  · rw [List.getElem?_eq_none, List.getElem?_eq_none]
    · exact Nat.le_trans (List.length_take_le _ _) (Nat.not_lt.mp inside)
    · exact Nat.le_trans (List.length_take_le _ _) (Nat.not_lt.mp inside)

theorem IsCommonPrefix.unique {left right : List β} {first second : Nat}
    (one : IsCommonPrefix left right first) (other : IsCommonPrefix left right second) :
    first = second :=
  Nat.le_antisymm (other.le one.within_left one.within_right one.take_eq)
    (one.le other.within_left other.within_right other.take_eq)

end Library
