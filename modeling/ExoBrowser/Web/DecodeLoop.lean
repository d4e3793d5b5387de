import ExoBrowser.Web.FramingProperties

/-!
# The loop of the page

Whether the loop over the frames of a message ends. A length is a signed number, so it may
lead back.
-/

set_option autoImplicit false

namespace ExoBrowser.Web

open Library Proto

/-! ## Varints end -/

/-- Each pass of `readVarint` reads one byte more. -/
theorem readVarint_returns_of_nonneg (view : Bytes) {offset : Int} (inside : 0 ≤ offset) :
    Checked.Returns (readVarint view offset) fun _ => True := by
  refine loop_returns (fun _ => True) (fun s => view.length - s.bytesRead) ?_ trivial
    (Nat.lt_succ_of_le (Nat.sub_le _ _))
  intro s _
  by_cases ends : offset + s.bytesRead ≥ view.length
  · exact ⟨.leave none, if_pos ends, trivial⟩
  · obtain ⟨position, rfl⟩ := Int.eq_ofNat_of_zero_le inside
    have here : position + s.bytesRead < view.length := by omega
    have read : getUint8 view (position + s.bytesRead) = .ok view[position + s.bytesRead] :=
      getUint8_eq_ok (List.getElem?_eq_getElem here)
    unfold readVarintPass
    rw [if_neg ends, read]
    simp only [Checked.ok_bind]
    split
    · exact ⟨_, rfl, trivial⟩
    · refine ⟨_, rfl, trivial, ?_⟩
      simp only
      omega

/-- In front of the view the first byte throws. -/
theorem readVarint_before (view : Bytes) {offset : Int} (before : offset < 0) :
    readVarint view offset = Checked.abort .outOfRange := by
  have pass : readVarintPass view offset { result := 0, shift := 0, bytesRead := 0 } =
      Checked.abort .outOfRange := by
    have missing : ¬ (offset + (0 : Nat) ≥ view.length) := by omega
    have byte : getUint8 view (offset + (0 : Nat)) = Checked.abort .outOfRange := if_neg (by omega)
    unfold readVarintPass
    simp only
    rw [if_neg missing, byte]
    rfl
  exact loop_error pass

theorem readVarint_ends (view : Bytes) (offset : Int) :
    readVarint view offset ≠ Checked.abort .stuck := by
  by_cases inside : 0 ≤ offset
  · obtain ⟨value, read, _⟩ := readVarint_returns_of_nonneg view inside
    rw [read]
    rintro ⟨⟩
  · rw [readVarint_before view (Int.not_le.mp inside)]
    decide

theorem readHeader_beyond {bytes : Bytes} {offset : Int} (beyond : bytes.length ≤ offset) :
    readHeader bytes offset = .ok none := by
  have pass : readVarintPass bytes offset { result := 0, shift := 0, bytesRead := 0 } =
      .ok (.leave none) := if_pos (by simpa using beyond)
  have read : readVarint bytes offset = .ok none := loop_leave pass
  unfold readHeader
  rw [read]
  rfl

/-! ## The loop -/

/-- Whether `handlePayload` throws for a tag and a payload, after those it has handled. -/
abbrev Throws := List (Int × Bytes) → Int × Bytes → Bool

/-- A pass of the loop where `handlePayload` may throw, which is caught outside of the loop. -/
def throwingPass (throws : Throws) (bytes : Bytes) : Int × List (Int × Bytes) →
    Run (Pass (Int × List (Int × Bytes)) (List (Int × Bytes)))
  | (offset, handled) =>
      if offset < bytes.length then
        match readHeader bytes offset with
        | .error _ => return .leave handled
        | .ok none => return .leave handled
        | .ok (some (tag, len, offset)) =>
            if offset + len > bytes.length then return .leave handled
            else if throws handled (tag, subarray bytes offset (offset + len)) then
              return .leave handled
            else return .again (offset + len, handled ++ [(tag, subarray bytes offset (offset + len))])
      else return .leave handled

theorem throwingPass_eq_decodePass (bytes : Bytes) (s : Int × List (Int × Bytes)) :
    throwingPass (fun _ _ => false) bytes s = decodePass bytes s := by
  obtain ⟨offset, handled⟩ := s
  rfl

/-- The states in which the loop starts a pass. -/
inductive Reached (throws : Throws) (bytes : Bytes) : Int × List (Int × Bytes) → Prop where
  | start : Reached throws bytes (0, [])
  | pass {s next} : Reached throws bytes s → throwingPass throws bytes s = .ok (.again next) →
      Reached throws bytes next

/-- What a pass can do: it leaves the loop, or it goes on behind a frame. -/
inductive Passed (throws : Throws) (bytes : Bytes) (s : Int × List (Int × Bytes)) :
    Pass (Int × List (Int × Bytes)) (List (Int × Bytes)) → Prop where
  | left (handled : List (Int × Bytes)) : Passed throws bytes s (.leave handled)
  | went (tag len behind : Int) (inside : s.1 < bytes.length)
      (read : readHeader bytes s.1 = .ok (some (tag, len, behind)))
      (whole : behind + len ≤ bytes.length)
      (calm : throws s.2 (tag, subarray bytes behind (behind + len)) = false) :
      Passed throws bytes s
        (.again (behind + len, s.2 ++ [(tag, subarray bytes behind (behind + len))]))

theorem throwingPass_passed (throws : Throws) (bytes : Bytes) (s : Int × List (Int × Bytes)) :
    ∃ pass, throwingPass throws bytes s = .ok pass ∧ Passed throws bytes s pass := by
  obtain ⟨offset, handled⟩ := s
  unfold throwingPass
  simp only
  split
  case isFalse => exact ⟨_, rfl, .left handled⟩
  case isTrue inside =>
    split
    case h_1 => exact ⟨_, rfl, .left handled⟩
    case h_2 => exact ⟨_, rfl, .left handled⟩
    case h_3 tag len behind read =>
      split
      case isTrue => exact ⟨_, rfl, .left handled⟩
      case isFalse whole =>
        split
        case isTrue => exact ⟨_, rfl, .left handled⟩
        case isFalse calm =>
          exact ⟨_, rfl, .went tag len behind inside read (Int.not_lt.mp whole)
            (Bool.eq_false_iff.mpr calm)⟩

/-- The loop ends, each pass that goes on moves forward. -/
structure Ends (throws : Throws) (bytes : Bytes) : Prop where
  ends : ∃ passes handled, loop (throwingPass throws bytes) passes (0, []) = .ok handled
  forward : ∀ s next, Reached throws bytes s → throwingPass throws bytes s = .ok (.again next) →
    s.1 < next.1

/-- Each header that the loop reaches announces a length above minus its own size, unless
`handlePayload` throws for it. -/
def HeadersOutweigh (throws : Throws) (bytes : Bytes) : Prop :=
  ∀ s, Reached throws bytes s → ∀ tag len behind, readHeader bytes s.1 = .ok (some (tag, len, behind)) →
    throws s.2 (tag, subarray bytes behind (behind + len)) = false → -(behind - s.1) < len

theorem HeadersOutweigh.forward {throws : Throws} {bytes : Bytes} (outweigh : HeadersOutweigh throws bytes)
    {s next : Int × List (Int × Bytes)} (reached : Reached throws bytes s)
    (passed : Passed throws bytes s (.again next)) : s.1 < next.1 ∧ s.1 < bytes.length := by
  cases passed with
  | went tag len behind inside read whole calm =>
      have above := outweigh s reached tag len behind read calm
      exact ⟨by omega, inside⟩

/-- The bytes behind the offset are fewer with each pass. -/
theorem HeadersOutweigh.ends {throws : Throws} {bytes : Bytes} (outweigh : HeadersOutweigh throws bytes) :
    Ends throws bytes where
  ends := by
    have returns : Checked.Returns (loop (throwingPass throws bytes) (bytes.length + 1) (0, []))
        fun _ => True := by
      refine loop_returns (Reached throws bytes) (fun s => (bytes.length - s.1).toNat) ?_ .start ?_
      · intro s reached
        obtain ⟨pass, result, passed⟩ := throwingPass_passed throws bytes s
        refine ⟨pass, result, ?_⟩
        cases pass with
        | leave handled => trivial
        | again next =>
            obtain ⟨forward, inside⟩ := outweigh.forward reached passed
            exact ⟨.pass reached result, by omega⟩
      · simp only
        omega
    obtain ⟨handled, result, _⟩ := returns
    exact ⟨_, handled, result⟩
  forward s next reached again := by
    obtain ⟨pass, result, passed⟩ := throwingPass_passed throws bytes s
    rw [again] at result
    cases result
    exact (outweigh.forward reached passed).1

/-- The loop ends, and moves forward until then, if and only if no header that it reaches
announces a negative length that takes back the header. No varint keeps it from ending. -/
theorem decodeMessages_ends_iff (throws : Throws) (bytes : Bytes) :
    (Ends throws bytes ↔ HeadersOutweigh throws bytes) ∧
      ∀ offset, readVarint bytes offset ≠ Checked.abort .stuck := by
  refine ⟨⟨fun ends s reached tag len behind read calm => ?_, HeadersOutweigh.ends⟩, readVarint_ends bytes⟩
  have inside : s.1 < bytes.length := by
    by_contra beyond
    rw [readHeader_beyond (Int.not_lt.mp beyond)] at read
    cases read
  by_cases whole : behind + len > bytes.length
  · omega
  · have again : throwingPass throws bytes s =
        .ok (.again (behind + len, s.2 ++ [(tag, subarray bytes behind (behind + len))])) := by
      obtain ⟨offset, handled⟩ := s
      simp only at inside read calm
      unfold throwingPass
      simp only
      rw [if_pos inside, read]
      simp only
      rw [if_neg whole, calm]
      rfl
    have forward := ends.forward s _ reached again
    simp only at forward
    omega

/-- A header whose length, minus six, leads back to its beginning. -/
def circling : Bytes := [1, 0xfa, 0xff, 0xff, 0xff, 0x0f]

theorem decodeMessages_circles :
    ¬ ∃ passes handled, loop (decodePass circling) passes (0, []) = .ok handled := by
  have again (handled : List (Int × Bytes)) :
      decodePass circling (0, handled) = .ok (.again (0, handled ++ [(1, [])])) := rfl
  suffices stuck : ∀ passes handled,
      loop (decodePass circling) passes (0, handled) = .error (.panic .stuck) by
    rintro ⟨passes, handled, result⟩
    rw [stuck passes []] at result
    cases result
  intro passes
  induction passes with
  | zero => exact fun _ => rfl
  | succ passes ih =>
      intro handled
      rw [loop_again (again handled), ih]

end ExoBrowser.Web
