import ExoBrowser.Proto.CodecProperties

/-!
# Frame laws

A frame is decoded to the message it was encoded from. On any input `decode`
does one of three things, and each of them survives an extension of the input.
-/

set_option autoImplicit false

namespace ExoBrowser.Proto

open Library

/-! ## The in-place length patch -/

def frameBytes (tag : UInt32) (payload : Bytes) : Bytes :=
  leb128 tag.toNat ++ (leb128 payload.length ++ payload)

private theorem fillLenBuf_eq (passes : Nat) {v : UInt32} {lenBuf out : Bytes} {n : Nat}
    (room : n + passes ≤ lenBuf.length)
    (written : (writeVarintLoop passes v).run (lenBuf.take n) = .ok ((), out)) :
    ∃ buf, fillLenBuf passes v lenBuf n = .ok (buf, out.length) ∧ buf.take out.length = out := by
  induction passes generalizing v lenBuf n with
  | zero => cases written
  | succ passes ih =>
      have filled (byte : UInt8) : Checked.overwrite (ε := Error) lenBuf n [byte] =
          .ok (lenBuf.take n ++ [byte] ++ lenBuf.drop (n + 1)) :=
        Checked.overwrite_eq_ok (by rw [List.length_singleton]; omega)
      have position (byte : UInt8) : (lenBuf.take n ++ [byte]).length = n + 1 := by
        rw [List.length_append, List.length_take, List.length_singleton]
        omega
      rw [writeVarintLoop] at written
      rw [fillLenBuf]
      by_cases done : v >>> 7 = 0
      · simp only [done, if_true] at written ⊢
        cases written
        refine ⟨lenBuf.take n ++ [(v &&& 0x7f).toUInt8] ++ lenBuf.drop (n + 1), ?_,
          List.take_left⟩
        rw [filled, position]
        rfl
      · simp only [done, if_false] at written ⊢
        rw [filled]
        refine ih ?_ ?_
        · simp only [List.length_append, List.length_take, List.length_drop,
            List.length_singleton]
          omega
        · rw [List.take_left' (position _)]
          exact written

/-- The length that is announced is cut to 32 bits. -/
theorem patchLength_eq_ok (written payload : Bytes) :
    patchLength written.length (written ++ [0] ++ payload) =
      .ok (written ++ leb128 (payload.length % 2 ^ 32) ++ payload) := by
  have placed : (written ++ [0]).length = written.length + 1 := by simp
  have payloadLen : (written ++ [0] ++ payload).length - (written.length + 1) = payload.length := by
    rw [List.length_append, placed]
    omega
  unfold patchLength
  rw [Checked.sub_eq_ok (by rw [List.length_append, placed]; omega), payloadLen]
  simp only [bind, Except.bind]
  by_cases short : payload.length < 0x80
  · rw [if_pos short, Checked.overwrite_eq_ok (by simp), Nat.mod_eq_of_lt (by omega), leb128_of_lt short]
    have kept : (written ++ [0] ++ payload).take written.length = written := by
      rw [List.append_assoc, List.take_left]
    have behind : (written ++ [0] ++ payload).drop (written.length + 1) = payload :=
      List.drop_left' placed
    rw [kept, List.length_singleton, behind]
  · have varint := emits_writeVarint (UInt32.ofNat payload.length) []
    rw [UInt32.toNat_ofNat', List.nil_append] at varint
    obtain ⟨lenBuf, filled, buffered⟩ :=
      fillLenBuf_eq 5 (by simp : 0 + 5 ≤ (List.replicate 5 (0 : UInt8)).length) varint
    have lenBuf_length : (leb128 (payload.length % 2 ^ 32)).length ≤ lenBuf.length := by
      have := congrArg List.length buffered
      rw [List.length_take] at this
      omega
    have some_byte := length_leb128_pos (payload.length % 2 ^ 32)
    have extra : Checked.sub (ε := Error) (leb128 (payload.length % 2 ^ 32)).length 1 =
        .ok ((leb128 (payload.length % 2 ^ 32)).length - 1) := Checked.sub_eq_ok some_byte
    rw [if_neg short, filled]
    simp only [extra]
    generalize leb128 (payload.length % 2 ^ 32) = len at *
    have room : (written ++ [0] ++ payload ++ List.replicate (len.length - 1) 0).length =
        written.length + len.length + payload.length := by
      simp only [List.length_append, List.length_replicate, List.length_singleton]
      omega
    have moved : ((written ++ [0] ++ payload ++ List.replicate (len.length - 1) 0).drop
        (written.length + 1)).take (written.length + 1 + payload.length - (written.length + 1)) =
        payload := by
      rw [List.append_assoc, List.drop_left' placed, Nat.add_sub_cancel_left, List.take_left]
    rw [Checked.slice_eq_ok (by omega) (by omega), moved]
    simp only
    rw [Checked.overwrite_eq_ok (by omega)]
    simp only
    rw [Checked.slice_eq_ok (Nat.zero_le _) lenBuf_length, List.drop_zero, Nat.sub_zero, buffered]
    simp only
    rw [List.drop_of_length_le (by omega), List.append_nil]
    have header : ((written ++ [0] ++ payload ++ List.replicate (len.length - 1) 0).take
        (written.length + len.length)).length = written.length + len.length := by
      rw [List.length_take]
      omega
    rw [Checked.overwrite_eq_ok (by rw [List.length_append, header]; omega),
      List.take_append_of_le_length (by omega), List.take_take, Nat.min_eq_left (by omega),
      List.drop_left' header]
    simp only [List.append_assoc, List.take_left]

theorem emits_encode_cut {target : Target} {m : Message} {payload : Bytes}
    (emits : Emits (m.encodePayload target) payload) :
    Emits (m.encode target)
      (leb128 m.tag.toNat ++ (leb128 (payload.length % 2 ^ 32) ++ payload)) := by
  intro written
  have tagged := emits_writeVarint m.tag written
  have some_byte := length_leb128_pos m.tag.toNat
  have patched := patchLength_eq_ok (written ++ leb128 m.tag.toNat) payload
  have placeholder := emits_extend [0] (written ++ leb128 m.tag.toNat)
  have filled := emits (written ++ leb128 m.tag.toNat ++ [0])
  have grown : (written ++ leb128 m.tag.toNat ++ leb128 (payload.length % 2 ^ 32) ++ payload).length >
      written.length := by
    simp only [List.length_append]
    omega
  simp only [Message.encode, push, StateT.run_bind, StateT.run_get, pure_bind, tagged,
    placeholder, filled, Checked.ok_bind, patched]
  change StateT.run (if _ > _ then _ else _) _ = _
  rw [if_pos grown, ← List.append_assoc, ← List.append_assoc]
  rfl

theorem emits_encode {target : Target} {m : Message} {payload : Bytes}
    (emits : Emits (m.encodePayload target) payload) (announced : payload.length < 2 ^ 32) :
    Emits (m.encode target) (frameBytes m.tag payload) := by
  have framed := emits_encode_cut emits
  rwa [Nat.mod_eq_of_lt announced] at framed

/-- A message that has a frame has a payload. -/
theorem encoded_payload_of_encode {target : Target} {m : Message} {frame : Bytes}
    (encodes : encoded (m.encode target) = .ok frame) :
    ∃ payload, encoded (m.encodePayload target) = .ok payload := by
  have tagged := emits_writeVarint m.tag []
  have placeholder := emits_extend [0] (leb128 m.tag.toNat)
  have uniform := uniform_encodePayload target m (leb128 m.tag.toNat ++ [0]) []
  unfold encoded at encodes ⊢
  simp only [Message.encode, push, StateT.run_bind, StateT.run_get, pure_bind, tagged, placeholder,
    Checked.ok_bind, List.nil_append] at encodes
  rw [List.append_nil] at uniform
  rw [uniform] at encodes
  cases first : (m.encodePayload target).run [] with
  | error stop =>
      rw [first] at encodes
      cases encodes
  | ok result => exact ⟨result.2, rfl⟩

/-- Making room for the length behind the tag leaves what writing it there leaves: what was
written before, the tag, the length and the payload. -/
theorem encode_eq_plain (target : Target) (m : Message) {payload : Bytes}
    (encodes : encoded (m.encodePayload target) = .ok payload) (announced : payload.length < 2 ^ 32) :
    ∃ tag len, encoded (writeVarint m.tag) = .ok tag ∧
      encoded (writeVarint (UInt32.ofNat payload.length)) = .ok len ∧
      ∀ out, (m.encode target).run out = .ok ((), out ++ (tag ++ len ++ payload)) := by
  have value : (UInt32.ofNat payload.length).toNat = payload.length := by
    rw [UInt32.toNat_ofNat', Nat.mod_eq_of_lt announced]
  have len := encoded_of_emits (emits_writeVarint (UInt32.ofNat payload.length))
  rw [value] at len
  refine ⟨_, _, encoded_of_emits (emits_writeVarint m.tag), len, fun out => ?_⟩
  rw [List.append_assoc]
  exact emits_encode (emits_of_encoded encodes) announced out

/-- Two bytes of length, behind a byte that was there before. -/
theorem encode_eq_plain_two :
    ∃ tag len, encoded (writeVarint Tag.audioFrame) = .ok tag ∧
      encoded (writeVarint (UInt32.ofNat
        ([1, 0, 0, 0, 0, 0, 0, 0, 0, 2, 128, 187, 0, 0, 200, 1] ++ List.replicate 200 7 : Bytes).length)) =
          .ok len ∧
      ∀ out, (Message.encode .bits64 (.audioFrame 1 0 2 48000 (List.replicate 200 7))).run out =
        .ok ((), out ++ (tag ++ len ++
          ([1, 0, 0, 0, 0, 0, 0, 0, 0, 2, 128, 187, 0, 0, 200, 1] ++ List.replicate 200 7))) :=
  encode_eq_plain .bits64 (.audioFrame 1 0 2 48000 (List.replicate 200 7)) (by decide +kernel)
    (by decide +kernel)

/-! ## The header -/

def readHeader : Wire (UInt32 × UInt32) := do
  let tag ← readVarint
  let len ← readVarint
  return (tag, len)

section Header

variable {target : Target}

theorem decode_eq (buf : Bytes) :
    Message.decode target buf =
      match readHeader.run buf with
      | .error (.err .unexpectedEof) => (.ok none, buf)
      | .error halt => (.error halt, buf)
      | .ok ((tag, len), probe) =>
          if len.toNat > maxMessageBytes then (Checked.fail .messageTooLarge, buf)
          else if probe.length < len.toNat then (.ok none, buf)
          else match decodePayload target tag (probe.take len.toNat) with
            | .error halt => (.error halt, buf)
            | .ok msg => (.ok (some msg), probe.drop len.toNat) := by
  unfold Message.decode readHeader
  simp only [StateT.run_bind]
  match readVarint.run buf with
  | .error (.panic _) => rfl
  | .error (.err error) => cases error <;> rfl
  | .ok (tag, probe) =>
      simp only [Checked.ok_bind]
      match readVarint.run probe with
      | .error (.panic _) => rfl
      | .error (.err error) => cases error <;> rfl
      | .ok (len, probe) =>
          change (if len.toNat > maxMessageBytes then _ else _) = if len.toNat > maxMessageBytes then _ else _
          by_cases large : len.toNat > maxMessageBytes
          · rw [if_pos large, if_pos large]
          · rw [if_neg large, if_neg large]
            by_cases short : probe.length < len.toNat
            · rw [if_pos short, if_pos short]
            · rw [if_neg short, if_neg short]
              have remaining : (probe.drop len.toNat).take (probe.length - len.toNat) =
                  probe.drop len.toNat := by
                rw [← List.length_drop, List.take_length]
              rw [Checked.slice_eq_ok (Nat.zero_le _) (by omega),
                Checked.slice_eq_ok (by omega) (Nat.le_refl _), remaining]
              simp only [Checked.ok_bind, List.drop_zero, Nat.sub_zero]
              cases decodePayload target tag (probe.take len.toNat) <;> rfl

/-- The part of `decode` before the payload is read: its tag, the payload, and what follows. -/
def splitFrame (buf : Bytes) : Checked Error (Option (UInt32 × Bytes × Bytes)) :=
  match readHeader.run buf with
  | .error (.err .unexpectedEof) => .ok none
  | .error halt => .error halt
  | .ok ((tag, len), probe) =>
      if len.toNat > maxMessageBytes then Checked.fail .messageTooLarge
      else if probe.length < len.toNat then .ok none
      else .ok (some (tag, probe.take len.toNat, probe.drop len.toNat))

theorem decode_eq_splitFrame (buf : Bytes) :
    Message.decode target buf =
      match splitFrame buf with
      | .error halt => (.error halt, buf)
      | .ok none => (.ok none, buf)
      | .ok (some (tag, payload, rest)) =>
          match decodePayload target tag payload with
          | .error halt => (.error halt, buf)
          | .ok msg => (.ok (some msg), rest) := by
  rw [decode_eq, splitFrame]
  cases readHeader.run buf with
  | error halt =>
      cases halt with
      | panic panic => rfl
      | err error => cases error <;> rfl
  | ok result =>
      obtain ⟨⟨tag, len⟩, probe⟩ := result
      simp only
      by_cases large : len.toNat > maxMessageBytes
      · rw [if_pos large, if_pos large]
        rfl
      · rw [if_neg large, if_neg large]
        by_cases short : probe.length < len.toNat
        · rw [if_pos short, if_pos short]
        · rw [if_neg short, if_neg short]

theorem reads_readHeader (tag len : UInt32) :
    Reads readHeader (leb128 tag.toNat ++ leb128 len.toNat) (tag, len) := by
  exact (reads_readVarint tag).seq ((reads_readVarint len).last fun len => (tag, len))

private theorem local_readU8 : Local .unexpectedEof readU8 := by
  intro input
  cases input with
  | nil => exact .inl rfl
  | cons byte rest => exact ⟨[byte], rfl, reads_readU8 byte⟩

private theorem local_readVarintLoop (passes : Nat) (result shift : UInt32) :
    Local .unexpectedEof (readVarintLoop passes result shift) := by
  induction passes generalizing result shift with
  | zero => exact .fail _
  | succ passes ih =>
      exact local_readU8.bind fun byte => .ite (.fail _) (.ite (.pure _) (ih _ _))

theorem local_readVarint : Local .unexpectedEof readVarint := local_readVarintLoop 5 0 0

theorem local_readHeader : Local .unexpectedEof readHeader :=
  local_readVarint.bind fun _ => local_readVarint.bind fun _ => .pure _

private theorem readVarint_advances {input rest : Bytes} {v : UInt32}
    (read : readVarint.run input = .ok (v, rest)) : rest.length < input.length := by
  have taken := local_readVarint input
  rw [read] at taken
  obtain ⟨bytes, rfl, reads⟩ := taken
  have nonempty : bytes ≠ [] := by
    rintro rfl
    cases reads []
  have := List.length_pos_iff.mpr nonempty
  rw [List.length_append]
  omega

theorem two_le_header {taken : Bytes} {value : UInt32 × UInt32}
    (reads : Reads readHeader taken value) : 2 ≤ taken.length := by
  have whole := reads []
  rw [List.append_nil, readHeader, StateT.run_bind] at whole
  match first : readVarint.run taken with
  | .error halt =>
      rw [first] at whole
      cases whole
  | .ok (tag, probe) =>
      rw [first, Checked.ok_bind, StateT.run_bind] at whole
      match second : readVarint.run probe with
      | .error halt =>
          rw [second] at whole
          cases whole
      | .ok (len, rest) =>
          have := readVarint_advances first
          have := readVarint_advances second
          omega

theorem splitFrame_eq_some {buf payload rest : Bytes} {tag : UInt32}
    (split : splitFrame buf = .ok (some (tag, payload, rest))) :
    ∃ header, Reads readHeader header (tag, UInt32.ofNat payload.length) ∧
      buf = header ++ (payload ++ rest) ∧ payload.length ≤ maxMessageBytes := by
  have taken := local_readHeader buf
  unfold splitFrame at split
  split at split
  case h_1 => cases split
  case h_2 => cases split
  case h_3 tag' len probe found =>
    rw [found] at taken
    obtain ⟨header, rfl, reads⟩ := taken
    split at split
    case isTrue => cases split
    case isFalse small =>
      split at split
      case isTrue => cases split
      case isFalse whole =>
        cases split
        have length : (probe.take len.toNat).length = len.toNat :=
          List.length_take_of_le (Nat.not_lt.mp whole)
        refine ⟨header, ?_, by rw [List.take_append_drop], by rw [length]; exact Nat.not_lt.mp small⟩
        rw [length, UInt32.ofNat_toNat]
        exact reads

theorem splitFrame_of_reads {header payload : Bytes} {tag : UInt32}
    (reads : Reads readHeader header (tag, UInt32.ofNat payload.length))
    (small : payload.length ≤ maxMessageBytes) (rest : Bytes) :
    splitFrame (header ++ (payload ++ rest)) = .ok (some (tag, payload, rest)) := by
  have cap : maxMessageBytes = 16777216 := rfl
  have len : (UInt32.ofNat payload.length).toNat = payload.length := by
    rw [UInt32.toNat_ofNat', Nat.mod_eq_of_lt (by omega)]
  unfold splitFrame
  rw [reads (payload ++ rest)]
  simp only [len]
  rw [if_neg (Nat.not_lt.mpr small), if_neg (by rw [List.length_append]; omega), List.take_left,
    List.drop_left]

end Header

/-! ## Outcomes of `decode` -/

/-- What one call of `decode` can do, and what remains of it on longer inputs. -/
inductive DecodeOutcome (target : Target) (buf : Bytes) :
    Checked Error (Option Message) × Bytes → Prop where
  | incomplete : DecodeOutcome target buf (.ok none, buf)
  | refused (error : Error)
      (stable : ∀ more, Message.decode target (buf ++ more) = (.error (.err error), buf ++ more)) :
      DecodeOutcome target buf (.error (.err error), buf)
  | accepted (msg : Message) (frame rest : Bytes) (split : buf = frame ++ rest)
      (header : 2 ≤ frame.length) (exact : msg.Exact)
      (stable : ∀ more, Message.decode target (frame ++ more) = (.ok (some msg), more)) :
      DecodeOutcome target buf (.ok (some msg), rest)

section Outcomes

variable {target : Target}

/-- Behind a header the outcome is that of the payload, once it is complete. -/
theorem decode_of_header {header : Bytes} {tag len : UInt32}
    (reads : Reads readHeader header (tag, len)) (probe : Bytes) :
    Message.decode target (header ++ probe) =
      if len.toNat > maxMessageBytes then (Checked.fail .messageTooLarge, header ++ probe)
      else if probe.length < len.toNat then (.ok none, header ++ probe)
      else match decodePayload target tag (probe.take len.toNat) with
        | .error halt => (.error halt, header ++ probe)
        | .ok msg => (.ok (some msg), probe.drop len.toNat) := by
  rw [decode_eq, reads probe]

private theorem decode_of_header_error {buf : Bytes} {error : Error}
    (failed : readHeader.run buf = .error (.err error)) (fatal : error ≠ .unexpectedEof) :
    Message.decode target buf = (.error (.err error), buf) := by
  rw [decode_eq, failed]
  cases error with
  | unexpectedEof => exact absurd rfl fatal
  | _ => rfl

private theorem header_ne_panic (buf : Bytes) (panic : Panic) :
    readHeader.run buf ≠ .error (.panic panic) := by
  have consumes : Consumes buf.length readHeader fun _ => True :=
    consumes_readVarint.bind fun _ _ => consumes_readVarint.bind fun _ _ => .pure trivial
  exact (consumes buf (Nat.le_refl _)).ne_panic panic

theorem decode_outcome (target : Target) (buf : Bytes) : DecodeOutcome target buf (Message.decode target buf) := by
  have taken := local_readHeader buf
  match found : readHeader.run buf with
  | .error (.panic panic) => exact absurd found (header_ne_panic buf panic)
  | .error (.err error) =>
      rw [found] at taken
      by_cases starved : error = .unexpectedEof
      · rw [decode_eq, found, starved]
        exact .incomplete
      · have persists := taken.resolve_left fun same => starved (Stop.err.inj same)
        rw [decode_of_header_error found starved]
        exact .refused error fun more => decode_of_header_error (persists more) starved
  | .ok ((tag, len), probe) =>
      rw [found] at taken
      obtain ⟨header, rfl, reads⟩ := taken
      rw [decode_of_header reads]
      by_cases large : len.toNat > maxMessageBytes
      · rw [if_pos large]
        refine .refused .messageTooLarge fun more => ?_
        rw [List.append_assoc, decode_of_header reads, if_pos large]
        rfl
      · rw [if_neg large]
        by_cases short : probe.length < len.toNat
        · rw [if_pos short]
          exact .incomplete
        · rw [if_neg short]
          have whole : len.toNat ≤ probe.length := Nat.not_lt.mp short
          have size : (probe.take len.toNat).length = len.toNat := List.length_take_of_le whole
          have safe := decodePayload_safe target tag
            (size.trans_le (Nat.not_lt.mp large))
          match decoded : decodePayload target tag (probe.take len.toNat) with
          | .error (.panic _) => simp [decoded, Checked.Safe] at safe
          | .error (.err error) =>
              refine .refused error fun more => ?_
              rw [List.append_assoc, decode_of_header reads, if_neg large, if_neg (by
                rw [List.length_append]
                omega), List.take_append_of_le_length whole, decoded]
          | .ok msg =>
              refine .accepted msg (header ++ probe.take len.toNat) _ ?_ ?_ (safe.of_ok decoded)
                fun more => ?_
              · rw [List.append_assoc, List.take_append_drop]
              · have := two_le_header reads
                rw [List.length_append]
                omega
              · rw [List.append_assoc, decode_of_header reads, if_neg large, if_neg (by
                  rw [List.length_append, size]
                  omega), List.take_left' size, decoded, List.drop_left' size]

theorem decode_accepted {buf rest : Bytes} {msg : Message}
    (decoded : Message.decode target buf = (.ok (some msg), rest)) :
    rest <:+ buf ∧ rest.length + 2 ≤ buf.length ∧ msg.Exact := by
  have outcome := decode_outcome target buf
  rw [decoded] at outcome
  cases outcome with
  | accepted msg frame rest split header exact _ =>
      subst split
      constructor
      · exact List.suffix_append frame rest
      · constructor
        · rw [List.length_append]
          omega
        · exact exact

/-- Whatever the bytes are, `decode` returns, moves the cursor only past a message
it returns, and returns images of the announced size only. -/
theorem decode_robust (target : Target) (buf : Bytes) :
    (∀ panic, (Message.decode target buf).1 ≠ .error (.panic panic)) ∧
      ((∀ msg, (Message.decode target buf).1 ≠ .ok (some msg)) →
        (Message.decode target buf).2 = buf) ∧
      ∀ msg, (Message.decode target buf).1 = .ok (some msg) →
        (Message.decode target buf).2 <:+ buf ∧
          (Message.decode target buf).2.length + 2 ≤ buf.length ∧ msg.Exact := by
  refine ⟨?_, ?_, fun msg found => decode_accepted (Prod.ext found rfl)⟩
  · have outcome := decode_outcome target buf
    generalize Message.decode target buf = result at outcome
    cases outcome <;> exact nofun
  · intro none
    have outcome := decode_outcome target buf
    generalize Message.decode target buf = result at outcome none
    cases outcome with
    | incomplete => rfl
    | refused error stable => rfl
    | accepted msg frame rest split header exact _ => exact absurd rfl (none msg)

end Outcomes

/-! ## Round trip -/

section RoundTrip

variable {target encoder : Target}

private theorem reads_frameHeader (tag : UInt32) {payload : Bytes}
    (announced : payload.length < 2 ^ 32) :
    Reads readHeader (leb128 tag.toNat ++ leb128 payload.length) (tag, UInt32.ofNat payload.length) ∧
      (UInt32.ofNat payload.length).toNat = payload.length := by
  have len : (UInt32.ofNat payload.length).toNat = payload.length := by
    rw [UInt32.toNat_ofNat']
    omega
  have reads := reads_readHeader tag (UInt32.ofNat payload.length)
  rw [len] at reads
  exact ⟨reads, len⟩

theorem splitFrame_frameBytes {tag : UInt32} {payload : Bytes} (small : payload.length ≤ maxMessageBytes)
    (rest : Bytes) : splitFrame (frameBytes tag payload ++ rest) = .ok (some (tag, payload, rest)) := by
  have cap : maxMessageBytes = 16777216 := rfl
  obtain ⟨reads, _⟩ := reads_frameHeader tag (by omega : payload.length < 2 ^ 32)
  rw [frameBytes, ← List.append_assoc, List.append_assoc]
  exact splitFrame_of_reads reads small rest

theorem decode_frameBytes {tag : UInt32} {payload : Bytes} {msg : Message}
    (small : payload.length ≤ maxMessageBytes)
    (decoded : decodePayload target tag payload = .ok msg) (rest : Bytes) :
    Message.decode target (frameBytes tag payload ++ rest) = (.ok (some msg), rest) := by
  have cap : maxMessageBytes = 16777216 := rfl
  have announced : payload.length < 2 ^ 32 := by omega
  obtain ⟨reads, len⟩ := reads_frameHeader tag announced
  rw [frameBytes, ← List.append_assoc, List.append_assoc, decode_of_header reads, len,
    if_neg (by omega), if_neg (by rw [List.length_append]; omega), List.take_left, decoded,
    List.drop_left]

theorem decode_frameBytes_large {tag : UInt32} {payload : Bytes}
    (large : maxMessageBytes < payload.length) (announced : payload.length < 2 ^ 32) :
    Message.decode target (frameBytes tag payload) =
      (Checked.fail .messageTooLarge, frameBytes tag payload) := by
  obtain ⟨reads, len⟩ := reads_frameHeader tag announced
  rw [frameBytes, ← List.append_assoc, decode_of_header reads, len, if_pos large]

/-- A frame that is decoded as a whole holds the payload as it was encoded, whatever its length. -/
theorem decodePayload_of_accepted {m m' : Message} {frame rest : Bytes}
    (encodes : encoded (m.encode encoder) = .ok frame)
    (accepted : Message.decode target (frame ++ rest) = (.ok (some m'), rest)) :
    ∃ payload, encoded (m.encodePayload encoder) = .ok payload ∧ payload.length ≤ maxMessageBytes ∧
      decodePayload target m.tag payload = .ok m' := by
  obtain ⟨payload, payloads⟩ := encoded_payload_of_encode encodes
  refine ⟨payload, payloads, ?_⟩
  have shape := encoded_of_emits (emits_encode_cut (emits_of_encoded payloads))
  cases encodes.symm.trans shape
  have reads := reads_readHeader m.tag (UInt32.ofNat payload.length)
  rw [← UInt32.toNat_ofNat', ← List.append_assoc, List.append_assoc, decode_of_header reads] at accepted
  generalize UInt32.ofNat payload.length = len at accepted
  split at accepted
  case isTrue => cases accepted
  case isFalse small =>
    split at accepted
    case isTrue => cases accepted
    case isFalse whole =>
      cases decoded : decodePayload target m.tag ((payload ++ rest).take len.toNat) with
      | error halt =>
          rw [decoded] at accepted
          cases accepted
      | ok msg =>
          rw [decoded] at accepted
          obtain ⟨same, behind⟩ := Prod.mk.inj accepted
          cases same
          have consumed := congrArg List.length behind
          rw [List.length_append] at whole
          rw [List.length_drop, List.length_append] at consumed
          have exact : len.toNat = payload.length := by omega
          rw [exact, List.take_left] at decoded
          exact ⟨by omega, decoded⟩

/-- A wire-valid message has one frame, wherever it is written and whatever follows it. -/
theorem encode_frame (encoder target : Target) {m : Message} (valid : m.WireValid) {payload : Bytes}
    (encodes : encoded (m.encodePayload encoder) = .ok payload)
    (small : payload.length ≤ maxMessageBytes) :
    Emits (m.encode encoder) (frameBytes m.tag payload) ∧
      ∀ rest, Message.decode target (frameBytes m.tag payload ++ rest) = (.ok (some m), rest) := by
  obtain ⟨symbols, emits, reads⟩ := inverse_encodePayload target encoder valid
  have same : symbols = payload := Except.ok.inj ((encoded_of_emits emits).symm.trans encodes)
  subst same
  have cap : maxMessageBytes = 16777216 := rfl
  refine ⟨emits_encode emits (by omega), decode_frameBytes small ?_⟩
  rw [decodePayload, reads small]
  rfl

/-- Decoding what `encode` appended returns the message and leaves what follows. -/
theorem decode_encode (encoder target : Target) {m : Message} (valid : m.WireValid) {payload : Bytes}
    (encodes : encoded (m.encodePayload encoder) = .ok payload)
    (small : payload.length ≤ maxMessageBytes) (out rest : Bytes) :
    ∃ frame, (m.encode encoder).run out = .ok ((), out ++ frame) ∧
      Message.decode target (frame ++ rest) = (.ok (some m), rest) := by
  obtain ⟨emits, decodes⟩ := encode_frame encoder target valid encodes small
  exact ⟨frameBytes m.tag payload, emits out, decodes rest⟩

theorem decode_encode_delta :
    ∃ frame, (Message.encode .bits64 (.rawFrame 1 2 1 8 0 2 [9, 8, 7, 6, 5, 4, 3, 2])).run [1] =
        .ok ((), [1] ++ frame) ∧
      Message.decode .bits32 (frame ++ [0]) =
        (.ok (some (.rawFrame 1 2 1 8 0 2 [9, 8, 7, 6, 5, 4, 3, 2])), [0]) := by
  have stage : encoded (lz4EncodeInto (spatialFilterSubInto [9, 8, 7, 6, 5, 4, 3, 2] [])) =
      .ok [8, 0, 0, 0, 128, 9, 8, 7, 6, 252, 252, 252, 252] := by decide +kernel
  have valid : (Message.rawFrame 1 2 1 8 0 2 [9, 8, 7, 6, 5, 4, 3, 2]).WireValid := by
    refine ⟨rfl, .inr (.inr ⟨rfl, rfl, by decide, fun stage1 encodes => ?_⟩)⟩
    rw [stage] at encodes
    cases encodes
    decide
  have encodes : encoded (Message.encodePayload .bits64
      (.rawFrame 1 2 1 8 0 2 [9, 8, 7, 6, 5, 4, 3, 2])) =
      .ok [1, 0, 0, 0, 0, 0, 0, 0, 2, 0, 1, 0, 8, 0, 0, 0, 0, 0, 0, 0, 2, 13, 0, 0, 0, 208, 8,
        0, 0, 0, 128, 9, 8, 7, 6, 252, 252, 252, 252] := by decide +kernel
  exact decode_encode .bits64 .bits32 valid encodes (by decide) [1] [0]

/-- The fields of an image and its block. -/
theorem within_rawFrame (tsUs : UInt64) (width height : UInt16) (stride format : UInt32) (pixels : Bytes) :
    Within (Message.encodePayload encoder (.rawFrame tsUs width height stride format Compression.zstd pixels))
      (21 + (4 + pixels.length + pixels.length / 255 + 16)) := by
  have field (count value : Nat) : Within (extend (toLeBytes count value)) count :=
    ⟨_, emits_extend _, Nat.le_of_eq (length_toLeBytes count value)⟩
  have mark : Within (writeU8 Compression.zstd) 1 := ⟨_, emits_extend _, Nat.le_refl 1⟩
  exact ((field 8 _).seq <| (field 2 _).seq <| (field 2 _).seq <| (field 4 _).seq <|
    (field 4 _).seq <| mark.seq (within_lz4EncodeInto pixels)).mono (by omega)

/-- A block is little longer than its input at worst, so that an image whose worst case fits in a
message is decoded. -/
theorem lz4_expansion_bounded (encoder target : Target) :
    (∀ input out : Bytes, ∃ block, (lz4EncodeInto input).run out = .ok ((), out ++ block) ∧
      block.length ≤ 4 + input.length + input.length / 255 + 16) ∧
      ∀ (tsUs : UInt64) (width height : UInt16) (stride format : UInt32) (pixels : Bytes),
        pixels.length = stride.toNat * height.toNat →
        21 + (4 + pixels.length + pixels.length / 255 + 16) ≤ maxMessageBytes →
        ∀ out rest, ∃ frame,
          (Message.encode encoder (.rawFrame tsUs width height stride format Compression.zstd pixels)).run
              out = .ok ((), out ++ frame) ∧
            Message.decode target (frame ++ rest) =
              (.ok (some (.rawFrame tsUs width height stride format Compression.zstd pixels)), rest) := by
  constructor
  · intro input out
    obtain ⟨block, emits, short⟩ := within_lz4EncodeInto input
    exact ⟨block, emits out, by omega⟩
  · intro tsUs width height stride format pixels rows fits out rest
    have valid : (Message.rawFrame tsUs width height stride format Compression.zstd pixels).WireValid :=
      ⟨rows, .inr (.inl ⟨rfl, by omega⟩)⟩
    obtain ⟨payload, emits, short⟩ : Within (Message.encodePayload encoder
        (.rawFrame tsUs width height stride format Compression.zstd pixels)) _ :=
      within_rawFrame tsUs width height stride format pixels
    exact decode_encode encoder target valid (encoded_of_emits emits) (Nat.le_trans short fits) out rest

end RoundTrip

end ExoBrowser.Proto
