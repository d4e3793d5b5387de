import ExoBrowser.Link.Receive
import ExoBrowser.Proto.FrameProperties

/-!
# Receive loop laws

The loops hand out what one pass over the whole stream would, however the stream
is cut into reads.
-/

set_option autoImplicit false

namespace ExoBrowser.Link

open Library Proto

/-! ## `decode` as a framing -/

section Framing

variable {target : Target}

theorem decodeFront_item_iff {buf rest : Bytes} {msg : Message} :
    decodeFront target buf = .item msg rest ↔
      Message.decode target buf = (.ok (some msg), rest) := by
  unfold decodeFront
  constructor
  · intro found
    split at found
    case h_2 decoded =>
      cases found
      exact decoded
    all_goals cases found
  · intro decoded
    rw [decoded]

theorem decodeFront_malformed_iff {buf : Bytes} {stop : Stop Error} :
    decodeFront target buf = .malformed stop ↔
      Message.decode target buf = (.error stop, buf) := by
  have outcome := decode_outcome target buf
  unfold decodeFront
  generalize Message.decode target buf = result at outcome ⊢
  cases outcome with
  | incomplete => simp
  | refused error _ => simp
  | accepted msg frame rest _ _ _ _ => simp

theorem decodeFront_incomplete_iff {buf : Bytes} :
    decodeFront target buf = .incomplete ↔ Message.decode target buf = (.ok none, buf) := by
  have outcome := decode_outcome target buf
  unfold decodeFront
  generalize Message.decode target buf = result at outcome ⊢
  cases outcome with
  | incomplete => simp
  | refused error _ => simp
  | accepted msg frame rest _ _ _ _ => simp

variable (target)

def messageFraming : Framing UInt8 Message (Stop Error) where
  front := decodeFront target
  item_shorter := by
    intro buf msg rest found
    have decoded := decodeFront_item_iff.mp found
    have outcome := decode_outcome target buf
    rw [decoded] at outcome
    cases outcome with
    | accepted _ frame _ split header _ _ =>
        have lengths := congrArg List.length split
        rw [List.length_append] at lengths
        omega
  item_append := by
    intro buf msg rest found more
    have decoded := decodeFront_item_iff.mp found
    have outcome := decode_outcome target buf
    rw [decoded] at outcome
    cases outcome with
    | accepted _ frame _ split _ _ stable =>
        apply decodeFront_item_iff.mpr
        rw [split, List.append_assoc]
        exact stable (rest ++ more)
  malformed_append := by
    intro buf stop found more
    have decoded := decodeFront_malformed_iff.mp found
    have outcome := decode_outcome target buf
    rw [decoded] at outcome
    cases outcome with
    | refused error stable => exact decodeFront_malformed_iff.mpr (stable more)

def onePass (stream : Bytes) : Drained UInt8 Message (Stop Error) :=
  (messageFraming target).drain stream

end Framing

/-! ## The loops -/

section Loops

variable {target : Target}

/-- A return of a receive loop, told from all the bytes that were pending at its call. -/
inductive NextOutcome (target : Target) (pending : Bytes) : ReadReturn → Prop where
  | message (msg : Message) (consumed : Nat) (inbuf : Bytes) (chunks : List Bytes)
      (nonempty : ∀ chunk ∈ chunks, chunk ≠ [])
      (found : (messageFraming target).front pending = .item msg (inbuf ++ chunks.flatten))
      (counted : consumed + (inbuf ++ chunks.flatten).length = pending.length) :
      NextOutcome target pending
        { received := .message msg, consumed, inbuf, reads := chunks.map .data }
  | malformed (stop : Stop Error) (inbuf : Bytes) (reads : List ReadOutcome)
      (found : (messageFraming target).front pending = .malformed stop) :
      NextOutcome target pending { received := .failed (.decode stop), consumed := 0, inbuf, reads }
  | waiting (found : (messageFraming target).front pending = .incomplete) :
      NextOutcome target pending { received := .waiting, consumed := 0, inbuf := pending, reads := [] }

theorem arrival_data (reader : Reader) (inbuf : Bytes) {chunk : Bytes} (nonempty : chunk ≠ []) :
    reader.arrival inbuf (.data chunk) = .append chunk := by
  have notEmpty : chunk.isEmpty = false := by simpa using nonempty
  cases reader <;> simp [Reader.arrival, notEmpty]

section Calls

variable {reader : Reader} {inbuf rest : Bytes} {reads : List ReadOutcome}

theorem receiveNext_item {msg : Message}
    (decoded : Message.decode target inbuf = (.ok (some msg), rest)) :
    receiveNext reader target reads inbuf =
      { received := .message msg, consumed := inbuf.length - rest.length,
        inbuf := inbuf.drop (inbuf.length - rest.length), reads } := by
  cases reads <;> simp only [receiveNext, decoded]

theorem receiveNext_malformed {stop : Stop Error}
    (decoded : Message.decode target inbuf = (.error stop, inbuf)) :
    receiveNext reader target reads inbuf =
      { received := .failed (.decode stop), consumed := 0, inbuf, reads } := by
  cases reads <;> simp only [receiveNext, decoded]

theorem receiveNext_waiting (decoded : Message.decode target inbuf = (.ok none, inbuf)) :
    receiveNext reader target [] inbuf =
      { received := .waiting, consumed := 0, inbuf, reads := [] } := by
  simp only [receiveNext, decoded]

theorem receiveNext_append {chunk : Bytes} (nonempty : chunk ≠ [])
    (decoded : Message.decode target inbuf = (.ok none, inbuf)) :
    receiveNext reader target (.data chunk :: reads) inbuf =
      receiveNext reader target reads (inbuf ++ chunk) := by
  simp only [receiveNext, decoded, arrival_data reader inbuf nonempty]

end Calls

private theorem receiveNext_front_item {reader : Reader} {chunks : List Bytes}
    (nonempty : ∀ chunk ∈ chunks, chunk ≠ []) {inbuf rest : Bytes} {msg : Message}
    (found : decodeFront target inbuf = .item msg rest) :
    NextOutcome target (inbuf ++ chunks.flatten)
      (receiveNext reader target (chunks.map .data) inbuf) := by
  have decoded := decodeFront_item_iff.mp found
  have outcome := decode_outcome target inbuf
  have extended := (messageFraming target).item_append found chunks.flatten
  rw [decoded] at outcome
  cases outcome with
  | accepted _ frame _ split _ _ _ =>
      have taken : inbuf.length - rest.length = frame.length := by
        rw [split, List.length_append, Nat.add_sub_cancel]
      have left : inbuf.drop (inbuf.length - rest.length) = rest := by
        rw [taken, split, List.drop_left]
      rw [receiveNext_item decoded, left]
      refine .message msg _ rest chunks nonempty extended ?_
      rw [taken, split]
      simp only [List.length_append]
      omega

/-- By induction on the reads: each of them is either left for later or appended. -/
theorem receiveNext_outcome (target : Target) (reader : Reader) {chunks : List Bytes}
    (nonempty : ∀ chunk ∈ chunks, chunk ≠ []) (inbuf : Bytes) :
    NextOutcome target (inbuf ++ chunks.flatten)
      (receiveNext reader target (chunks.map .data) inbuf) := by
  induction chunks generalizing inbuf with
  | nil =>
      cases found : decodeFront target inbuf with
      | item msg rest => exact receiveNext_front_item nonempty found
      | malformed stop =>
          rw [receiveNext_malformed (decodeFront_malformed_iff.mp found)]
          exact .malformed stop inbuf _ ((messageFraming target).malformed_append found _)
      | incomplete =>
          rw [List.map_nil, receiveNext_waiting (decodeFront_incomplete_iff.mp found),
            List.flatten_nil, List.append_nil]
          exact .waiting found
  | cons chunk chunks ih =>
      cases found : decodeFront target inbuf with
      | item msg rest => exact receiveNext_front_item nonempty found
      | malformed stop =>
          rw [receiveNext_malformed (decodeFront_malformed_iff.mp found)]
          exact .malformed stop inbuf _ ((messageFraming target).malformed_append found _)
      | incomplete =>
          have appended := ih (fun other member => nonempty other (List.mem_cons_of_mem _ member))
            (inbuf ++ chunk)
          rw [List.append_assoc, ← List.flatten_cons] at appended
          rw [List.map_cons, receiveNext_append (nonempty chunk List.mem_cons_self)
            (decodeFront_incomplete_iff.mp found)]
          exact appended

def endOf : Option (Stop Error) → Received
  | none => .waiting
  | some stop => .failed (.decode stop)

theorem receiveLoop_chunks (target : Target) (reader : Reader) {fuel : Nat} {chunks : List Bytes}
    (nonempty : ∀ chunk ∈ chunks, chunk ≠ []) (inbuf : Bytes)
    (enough : (inbuf ++ chunks.flatten).length < fuel) :
    let run := receiveLoop reader target fuel (chunks.map .data) inbuf
    let whole := onePass target (inbuf ++ chunks.flatten)
    run.messages = whole.messages ∧ run.last.received = endOf whole.error ∧
      run.consumed + whole.left.length = (inbuf ++ chunks.flatten).length := by
  induction fuel generalizing chunks inbuf with
  | zero => exact absurd enough (Nat.not_lt_zero _)
  | succ fuel ih =>
      have outcome := receiveNext_outcome target reader nonempty inbuf
      generalize inbuf ++ chunks.flatten = pending at outcome enough ⊢
      rw [receiveLoop]
      generalize receiveNext reader target (chunks.map .data) inbuf = next at outcome ⊢
      cases outcome with
      | message msg consumed inbuf chunks nonempty found counted =>
          have shorter := (messageFraming target).item_shorter found
          obtain ⟨messages, ended, rest⟩ := ih nonempty inbuf (by omega)
          simp only [onePass, Framing.drain_item found, Drained.cons]
          refine ⟨congrArg (msg :: ·) messages, ended, ?_⟩
          simp only [onePass] at rest
          omega
      | malformed stop inbuf reads found =>
          simp only [onePass, Framing.drain_malformed found]
          exact ⟨trivial, rfl, by omega⟩
      | waiting found =>
          simp only [onePass, Framing.drain_incomplete found]
          exact ⟨trivial, rfl, by omega⟩

end Loops

/-! ## Chunk independence -/

def Encodable (encoder : Target) (m : Message) : Prop :=
  m.WireValid ∧ ∃ payload, encoded (m.encodePayload encoder) = .ok payload ∧
    payload.length ≤ maxMessageBytes

theorem Encodable.isFrame {encoder : Target} {m : Message} (encodable : Encodable encoder m)
    (target : Target) :
    ∃ frame, Emits (m.encode encoder) frame ∧ (messageFraming target).IsFrame frame m := by
  obtain ⟨valid, payload, encodes, small⟩ := encodable
  obtain ⟨emits, decodes⟩ := encode_frame encoder target valid encodes small
  exact ⟨_, emits, fun more => decodeFront_item_iff.mpr (decodes more)⟩

theorem onePass_encoded {encoder : Target} {messages : List Message}
    (encodable : ∀ m ∈ messages, Encodable encoder m) (target : Target) {stream : Bytes}
    (encodes : encoded (forM messages (Message.encode encoder)) = .ok stream) :
    onePass target stream = ⟨messages, none, []⟩ := by
  have framed : ∃ frames : List (Bytes × Message), frames.map Prod.snd = messages ∧
      (∀ frame ∈ frames, (messageFraming target).IsFrame frame.1 frame.2) ∧
      Emits (forM messages (Message.encode encoder)) (frames.map Prod.fst).flatten := by
    clear encodes
    induction messages with
    | nil => exact ⟨[], rfl, by simp, .pure⟩
    | cons m messages ih =>
        obtain ⟨frame, emits, isFrame⟩ := (encodable m List.mem_cons_self).isFrame target
        obtain ⟨frames, rfl, each, others⟩ :=
          ih fun other member => encodable other (List.mem_cons_of_mem _ member)
        refine ⟨(frame, m) :: frames, rfl, ?_, ?_⟩
        · intro other member
          rcases List.mem_cons.mp member with rfl | member
          · exact isFrame
          · exact each other member
        · rw [List.forM_cons]
          exact emits.seq others
  obtain ⟨frames, rfl, each, emits⟩ := framed
  have same : (frames.map Prod.fst).flatten = stream :=
    Except.ok.inj ((encoded_of_emits emits).symm.trans encodes)
  have nothing : (messageFraming target).front [] = .incomplete := rfl
  have drained := Framing.drain_frames each []
  rw [List.append_nil, same, Framing.drain_incomplete nothing] at drained
  rw [onePass, drained, Drained.after, List.append_nil]

/-- The loops do not depend on how the stream is cut: they hand out the messages of
one pass, stop with its error, and have drained what it takes. A strict part of a
frame is neither a message nor an error, and frames in a row are all there is. -/
theorem receiveAll_independent_of_chunks (target : Target) :
    (∀ (reader : Reader) (chunks : List Bytes), (∀ chunk ∈ chunks, chunk ≠ []) →
      let run := receiveAll reader target (chunks.map .data)
      let whole := onePass target chunks.flatten
      run.messages = whole.messages ∧ run.last.received = endOf whole.error ∧
        run.consumed + whole.left.length = chunks.flatten.length) ∧
    (∀ (frame : Bytes) (msg : Message), Message.decode target frame = (.ok (some msg), []) →
      ∀ count < frame.length,
        Message.decode target (frame.take count) = (.ok none, frame.take count)) ∧
    ∀ (encoder : Target) (messages : List Message) (stream : Bytes),
      (∀ m ∈ messages, Encodable encoder m) →
      encoded (forM messages (Message.encode encoder)) = .ok stream →
      onePass target stream = ⟨messages, none, []⟩ := by
  refine ⟨fun reader chunks nonempty => ?_, fun frame msg whole count strict => ?_,
    fun encoder messages stream encodable encodes => onePass_encoded encodable target encodes⟩
  · have bytes : delivered (chunks.map .data) = chunks.flatten := by
      simp [delivered, List.flatMap_map, ReadOutcome.bytes, List.flatMap_id']
    exact receiveLoop_chunks target reader nonempty [] (by rw [bytes]; exact Nat.lt_succ_self _)
  · have isFrame : (messageFraming target).IsFrame frame msg :=
      Framing.isFrame_of_front (decodeFront_item_iff.mpr whole)
    exact decodeFront_incomplete_iff.mp (isFrame.incomplete strict)

theorem receiveAll_two_frames :
    (receiveAll .tcp .bits64 [.data [7], .data [0, 6, 1], .data [3]]).messages =
        [.stop, .navAction 3] ∧
      Message.decode .bits64 [6, 1] = (.ok none, [6, 1]) := by
  obtain ⟨runs, parts, encodings⟩ := receiveAll_independent_of_chunks .bits64
  have encodable : ∀ m ∈ [Message.stop, .navAction 3], Encodable .bits64 m := by
    intro m member
    simp only [List.mem_cons, List.not_mem_nil, or_false] at member
    rcases member with rfl | rfl
    · exact ⟨trivial, [], rfl, by decide⟩
    · exact ⟨trivial, [3], rfl, by decide⟩
  have stream : encoded (forM [Message.stop, .navAction 3] (Message.encode .bits64)) =
      .ok [7, 0, 6, 1, 3] := by decide +kernel
  have whole := encodings .bits64 _ _ encodable stream
  obtain ⟨messages, _, _⟩ := runs .tcp [[7], [0, 6, 1], [3]] (by decide)
  refine ⟨?_, parts [6, 1, 3] (.navAction 3) rfl 2 (by decide)⟩
  exact messages.trans (congrArg Drained.messages whole)

end ExoBrowser.Link
