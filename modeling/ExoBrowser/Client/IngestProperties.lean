import ExoBrowser.Client.Core
import ExoBrowser.Library.Machine
import ExoBrowser.Link.ReceiveProperties

/-!
# Ingesting bytes

A call of `ingest_wire_bytes` applies what one pass over its buffer finds. After an
error it leaves the buffer as it was, so that the next call applies the same again.
-/

set_option autoImplicit false

namespace ExoBrowser.Client

open Library Proto Link

variable {build : Build} {target : Target}

/-! ## One call -/

theorem onePass_error {buf : Bytes} {stop : Stop Error}
    (found : (messageFraming target).front buf = .malformed stop) :
    ∃ error, Message.decode target buf = (.error (.err error), buf) := by
  have decoded := decodeFront_malformed_iff.mp found
  have outcome := decode_outcome target buf
  rw [decoded] at outcome
  cases outcome with
  | refused error stable => exact ⟨error, decoded⟩

private theorem ingestLoop_eq (inbuf : Bytes) {cur : Bytes} (rest : cur <:+ inbuf)
    (core : BrowserCore) (applied : List Message) {fuel : Nat} (enough : cur.length < fuel) :
    ∃ result : Except Error Nat, (result.isOk ↔ (onePass target cur).error = none) ∧
      loop (ingestPass build target inbuf) fuel (core, applied, cur) = do
        let next ← (onePass target cur).messages.foldlM (BrowserCore.applyMessage build) core
        return {
          core := next
          inbuf := if (onePass target cur).error.isSome then inbuf else (onePass target cur).left
          applied := applied ++ (onePass target cur).messages
          result } := by
  induction cur using Framing.drain.induct (messageFraming target) generalizing core applied fuel with
  | case1 cur found =>
      obtain ⟨fuel, rfl⟩ := Nat.exists_eq_succ_of_ne_zero (Nat.ne_zero_of_lt enough)
      obtain ⟨taken, rfl⟩ := rest
      have decoded := decodeFront_incomplete_iff.mp found
      have pass : ingestPass build target (taken ++ cur) (core, applied, cur) =
          .ok (.leave { core, inbuf := cur, applied, result := .ok applied.length }) := by
        rw [ingestPass, decoded]
        simp only [List.length_append, Nat.add_sub_cancel, List.drop_left]
        rfl
      refine ⟨.ok applied.length, ?_, ?_⟩
      · rw [onePass, Framing.drain_incomplete found]
        exact ⟨fun _ => rfl, fun _ => rfl⟩
      · rw [loop_leave pass, onePass, Framing.drain_incomplete found, List.append_nil]
        rfl
  | case2 cur stop found =>
      obtain ⟨fuel, rfl⟩ := Nat.exists_eq_succ_of_ne_zero (Nat.ne_zero_of_lt enough)
      obtain ⟨error, decoded⟩ := onePass_error found
      have pass : ingestPass build target inbuf (core, applied, cur) =
          .ok (.leave { core, inbuf, applied, result := .error error }) := by
        rw [ingestPass, decoded]
        rfl
      refine ⟨.error error, ?_, ?_⟩
      · rw [onePass, Framing.drain_malformed found]
        exact iff_of_false Bool.false_ne_true (Option.some_ne_none _)
      · rw [loop_leave pass, onePass, Framing.drain_malformed found, List.append_nil]
        rfl
  | case3 cur msg after found ih =>
      obtain ⟨fuel, rfl⟩ := Nat.exists_eq_succ_of_ne_zero (Nat.ne_zero_of_lt enough)
      have decoded := decodeFront_item_iff.mp found
      have shorter := (messageFraming target).item_shorter found
      have suffix : after <:+ cur := (decode_accepted decoded).1
      have drained : onePass target cur = (onePass target after).cons msg := Framing.drain_item found
      have remaining (next : BrowserCore) :=
        ih (suffix.trans rest) next (applied ++ [msg]) (by omega : after.length < fuel)
      cases applies : core.applyMessage build msg with
      | error stop =>
          obtain ⟨result, good, _⟩ := remaining core
          have pass : ingestPass build target inbuf (core, applied, cur) = .error stop := by
            rw [ingestPass, decoded]
            simp only [applies]
            rfl
          refine ⟨result, by rw [drained]; exact good, ?_⟩
          rw [loop_error pass, drained, Drained.cons, List.foldlM_cons, applies]
          rfl
      | ok next =>
          obtain ⟨result, good, runs⟩ := remaining next
          have pass : ingestPass build target inbuf (core, applied, cur) =
              .ok (.again (next, applied ++ [msg], after)) := by
            rw [ingestPass, decoded]
            simp only [applies]
            rfl
          refine ⟨result, by rw [drained]; exact good, ?_⟩
          rw [loop_again pass, runs, drained, Drained.cons, List.foldlM_cons, applies]
          simp only [List.append_assoc, List.singleton_append]
          rfl

/-- A call applies the messages of one pass, and drains what it takes or nothing. -/
theorem ingest_eq (build : Build) (target : Target) (core : BrowserCore) (inbuf : Bytes) :
    ∃ result : Except Error Nat, (result.isOk ↔ (onePass target inbuf).error = none) ∧
      core.ingestWireBytes build target inbuf = do
        let next ← (onePass target inbuf).messages.foldlM (BrowserCore.applyMessage build) core
        return {
          core := next
          inbuf := (messageFraming target).kept inbuf
          applied := (onePass target inbuf).messages
          result } :=
  ingestLoop_eq inbuf (List.suffix_refl inbuf) core [] (Nat.lt_succ_self _)

/-! ## Runs of calls -/

/-- Bytes are appended to the buffer, and a call returns. -/
def ingestStep (build : Build) (target : Target) : Step (BrowserCore × Bytes) Bytes Message :=
  fun state chunk applied next => ∃ result,
    state.1.ingestWireBytes build target (state.2 ++ chunk) =
      .ok { core := next.1, inbuf := next.2, applied, result }

theorem ingestStep_spec {state next : BrowserCore × Bytes} {chunk : Bytes} {applied : List Message}
    (stepped : ingestStep build target state chunk applied next) :
    applied = (onePass target (state.2 ++ chunk)).messages ∧
      next.2 = (messageFraming target).kept (state.2 ++ chunk) ∧
      applied.foldlM (BrowserCore.applyMessage build) state.1 = .ok next.1 := by
  obtain ⟨result, returned⟩ := stepped
  obtain ⟨_, _, spec⟩ := ingest_eq build target state.1 (state.2 ++ chunk)
  rw [returned] at spec
  cases applies : (onePass target (state.2 ++ chunk)).messages.foldlM
      (BrowserCore.applyMessage build) state.1 with
  | error stop =>
      rw [applies] at spec
      cases spec
  | ok core =>
      rw [applies] at spec
      obtain ⟨core_eq, left_eq, applied_eq, _⟩ := Ingested.mk.inj (Except.ok.inj spec)
      rw [applied_eq, core_eq]
      exact ⟨rfl, left_eq, applies⟩

theorem ingestStep_of_onePass {core next : BrowserCore} {inbuf chunk left after : Bytes}
    {messages : List Message} {error : Option (Stop Error)}
    (found : onePass target (inbuf ++ chunk) = ⟨messages, error, left⟩)
    (applies : messages.foldlM (BrowserCore.applyMessage build) core = .ok next)
    (keeps : (if error.isSome then inbuf ++ chunk else left) = after) :
    ingestStep build target (core, inbuf) chunk messages (next, after) := by
  obtain ⟨result, _, spec⟩ := ingest_eq build target core (inbuf ++ chunk)
  rw [Framing.kept, ← onePass, found, applies] at spec
  exact ⟨result, keeps ▸ spec⟩

theorem run_applied {start state : BrowserCore × Bytes} {chunks : List Bytes} {applied : List Message}
    (ran : Runs (ingestStep build target) start chunks applied state) :
    applied = (messageFraming target).keepingDrains start.2 chunks ∧
      state.2 = (messageFraming target).keptAfter start.2 chunks ∧
      applied.foldlM (BrowserCore.applyMessage build) start.1 = .ok state.1 := by
  induction ran with
  | start => exact ⟨rfl, rfl, rfl⟩
  | step _ stepped ih =>
      obtain ⟨applied_eq, left_eq, applies⟩ := ih
      obtain ⟨more_eq, next_eq, appliesMore⟩ := ingestStep_spec stepped
      rw [left_eq] at more_eq next_eq
      refine ⟨?_, ?_, ?_⟩
      · rw [Framing.keepingDrains_snoc, applied_eq, more_eq]
        rfl
      · rw [next_eq, Framing.keptAfter, Framing.keptAfter, List.foldl_append]
        rfl
      · rw [List.foldlM_append, applies]
        exact appliesMore

/-- The calls apply every well-formed frame before the first malformed one once, in order,
if and only if the first call that meets a malformed frame, unless it is the last call,
finds no frame in front of it that is new. The core is what the messages applied make it. -/
theorem ingest_exactly_once_iff {core final : BrowserCore} {left : Bytes} {chunks : List Bytes}
    {applied : List Message}
    (ran : Runs (ingestStep build target) (core, []) chunks applied (final, left)) :
    applied.foldlM (BrowserCore.applyMessage build) core = .ok final ∧
      (applied = (onePass target chunks.flatten).messages ↔
        (messageFraming target).ErrorAlone [] chunks) := by
  obtain ⟨applied_eq, _, applies⟩ := run_applied ran
  refine ⟨applies, ?_⟩
  have nothing : (messageFraming target).drain [] = ⟨[], none, []⟩ := Framing.drain_incomplete rfl
  have once := Framing.keepingDrains_once_iff (by rw [nothing]) chunks
  rw [nothing] at once
  rw [applied_eq]
  exact once

/-! ## Two calls -/

def opened : BrowserCore := .newNoStd 640 480 "https://example.com" false

def pixelUpdate : Message := .subframe 0 0 0 1 1 4 0 Compression.raw [1, 2, 3, 255]

def updateFrame : Bytes :=
  [65, 29, 0, 0, 0, 0, 0, 0, 0, 0, 0, 0, 0, 0, 1, 0, 1, 0, 4, 0, 0, 0, 0, 0, 0, 0, 0, 1, 2, 3, 255]

def noise : Bytes := [255, 255, 255, 255, 255]

private theorem isFrame_update : (messageFraming .bits64).IsFrame updateFrame pixelUpdate := by
  have decoded : Message.decode .bits64 updateFrame = (.ok (some pixelUpdate), []) := by
    decide +kernel
  exact Framing.isFrame_of_front (decodeFront_item_iff.mpr decoded)

theorem onePass_update : onePass .bits64 updateFrame = ⟨[pixelUpdate], none, []⟩ := by
  have found := isFrame_update []
  rw [List.append_nil] at found
  rw [onePass, Framing.drain_item found, Framing.drain_incomplete rfl]
  rfl

private theorem onePass_noise :
    onePass .bits64 noise = ⟨[], some (.err .varintOverflow), noise⟩ := by
  have decoded : Message.decode .bits64 noise = (.error (.err .varintOverflow), noise) := by
    decide +kernel
  exact Framing.drain_malformed (decodeFront_malformed_iff.mpr decoded)

private theorem onePass_update_noise : onePass .bits64 (updateFrame ++ noise) =
    ⟨[pixelUpdate], some (.err .varintOverflow), noise⟩ := by
  rw [onePass, Framing.drain_item (isFrame_update noise)]
  exact congrArg (Drained.cons pixelUpdate) onePass_noise

/-- The update is pending `count` times. -/
def updated (count : Nat) : BrowserCore :=
  { opened with
    pendingDamage := List.replicate count { x := 0, y := 0, w := 1, h := 1 }
    pendingSubframes := List.replicate count
      { x := 0, y := 0, w := 1, h := 1, stride := 4, pixels := [1, 2, 3, 255] }
    framesSeen := UInt64.ofNat count }

/-- The noise comes in a call of its own, and a third call changes nothing. -/
theorem ingest_once_noise_alone :
    [pixelUpdate].foldlM (BrowserCore.applyMessage ⟨true⟩) (updated 0) = .ok (updated 1) ∧
      ([pixelUpdate] = (onePass .bits64 [updateFrame, noise, []].flatten).messages ↔
        (messageFraming .bits64).ErrorAlone [] [updateFrame, noise, []]) := by
  have first : ingestStep ⟨true⟩ .bits64 (updated 0, []) updateFrame [pixelUpdate] (updated 1, []) :=
    ingestStep_of_onePass onePass_update rfl rfl
  have second : ingestStep ⟨true⟩ .bits64 (updated 1, []) noise [] (updated 1, noise) :=
    ingestStep_of_onePass onePass_noise rfl rfl
  have third : ingestStep ⟨true⟩ .bits64 (updated 1, noise) [] [] (updated 1, noise) :=
    ingestStep_of_onePass onePass_noise rfl rfl
  exact ingest_exactly_once_iff (((Runs.single first).trans (.single second)).trans (.single third))

/-- The second of two calls applies the update again, and counts a second frame. -/
theorem ingest_applies_twice :
    Runs (ingestStep ⟨true⟩ .bits64) (updated 0, []) [updateFrame ++ noise, []]
        [pixelUpdate, pixelUpdate] (updated 2, updateFrame ++ noise) ∧
      (onePass .bits64 [updateFrame ++ noise, []].flatten).messages = [pixelUpdate] ∧
      (updated 2).framesSeen = 2 := by
  have first : ingestStep ⟨true⟩ .bits64 (updated 0, []) (updateFrame ++ noise) [pixelUpdate]
      (updated 1, updateFrame ++ noise) := ingestStep_of_onePass onePass_update_noise rfl rfl
  have second : ingestStep ⟨true⟩ .bits64 (updated 1, updateFrame ++ noise) [] [pixelUpdate]
      (updated 2, updateFrame ++ noise) := ingestStep_of_onePass onePass_update_noise rfl rfl
  exact ⟨(Runs.single first).trans (.single second),
    congrArg Drained.messages onePass_update_noise, rfl⟩

end ExoBrowser.Client
