import ExoBrowser.Proto.FrameProperties
import ExoBrowser.Web.Framing

/-!
# The framing of the web page, against that of the protocol

Both write a number in the same bytes, and the page reads back what is less than `2 ^ 31`.
-/

set_option autoImplicit false

namespace ExoBrowser.Web

open Library Proto

/-! ## Reading -/

theorem getUint8_eq_ok {view : Bytes} {offset : Nat} {byte : UInt8} (found : view[offset]? = some byte) :
    getUint8 view offset = .ok byte := by
  rw [getUint8, if_pos (Int.natCast_nonneg offset), Int.toNat_natCast, Checked.index_eq_ok found]

theorem toInt_ofNat {value : Nat} (unsigned : value < 2 ^ 31) :
    (UInt32.ofNat value).toInt32.toInt = value := by
  have bits : (UInt32.ofNat value).toInt32.toBitVec.toNat = value := by
    change value % 2 ^ 32 = value
    exact Nat.mod_eq_of_lt (by omega)
  rw [Int32.toInt, BitVec.toInt_eq_toNat_of_lt (by rw [bits]; omega), bits]

/-- A pass puts the next group above the bits that are gathered. -/
theorem readVarintPass_eq {view : Bytes} {offset : Nat} {s : ReadState} {byte : UInt8}
    (here : view[offset + s.bytesRead]? = some byte) (below : s.result.toNat < 2 ^ s.shift)
    (position : s.shift < 32) (fits : byte.toNat % 128 * 2 ^ s.shift < 2 ^ 32) :
    readVarintPass view offset s =
      .ok (if byte.toNat < 128 then
          .leave (some {
            value := (UInt32.ofNat (s.result.toNat + byte.toNat % 128 * 2 ^ s.shift)).toInt32.toInt
            bytesRead := s.bytesRead + 1 })
        else .again {
          result := UInt32.ofNat (s.result.toNat + byte.toNat % 128 * 2 ^ s.shift)
          shift := s.shift + 7
          bytesRead := s.bytesRead + 1 }) := by
  have inside := (List.getElem?_eq_some_iff.mp here).1
  have shift : (UInt32.ofNat s.shift).toNat = s.shift := by
    rw [UInt32.toNat_ofNat']
    omega
  have group := group_value byte
  have joined : s.result ||| ((byte &&& 0x7f).toUInt32 <<< UInt32.ofNat s.shift) =
      UInt32.ofNat (s.result.toNat + byte.toNat % 128 * 2 ^ s.shift) := by
    have value := or_group (by omega : (UInt32.ofNat s.shift).toNat < 32)
      (by rwa [shift] : s.result.toNat < 2 ^ (UInt32.ofNat s.shift).toNat)
      (by rwa [shift, group] : (byte &&& 0x7f).toUInt32.toNat * 2 ^ (UInt32.ofNat s.shift).toNat < 2 ^ 32)
    rw [shift, group] at value
    rw [← value, UInt32.ofNat_toNat]
  have read : getUint8 view (↑offset + ↑s.bytesRead) = .ok byte := getUint8_eq_ok here
  unfold readVarintPass
  rw [if_neg (by omega), read, Checked.ok_bind]
  simp only [joined, last_group_iff]
  split
  · rfl
  · rfl

/-- The bits gathered so far are below `shift`, and all of them together below the sign. -/
theorem readVarintLoop_eq {view rest : Bytes} {offset : Nat} (n fuel : Nat) (s : ReadState)
    (ahead : view.drop (offset + s.bytesRead) = leb128 n ++ rest) (below : s.result.toNat < 2 ^ s.shift)
    (unsigned : s.result.toNat + n * 2 ^ s.shift < 2 ^ 31) (position : s.shift < 32)
    (enough : (leb128 n).length ≤ fuel) :
    loop (readVarintPass view offset) fuel s =
      .ok (some { value := ↑(s.result.toNat + n * 2 ^ s.shift)
                  bytesRead := s.bytesRead + (leb128 n).length }) := by
  induction n using leb128.induct generalizing fuel s with
  | case1 n small =>
      rw [leb128_of_lt small] at ahead enough ⊢
      obtain ⟨fuel, rfl⟩ := Nat.exists_eq_succ_of_ne_zero (Nat.ne_of_gt enough)
      obtain ⟨_, here, _⟩ := Checked.next_of_drop ahead
      have byte : (UInt8.ofNat n).toNat = n := by
        rw [UInt8.toNat_ofNat']
        omega
      have group : (UInt8.ofNat n).toNat % 128 = n := by
        rw [byte, Nat.mod_eq_of_lt small]
      have pass := readVarintPass_eq here below position (by rw [group]; omega)
      rw [byte, if_pos small, Nat.mod_eq_of_lt small, toInt_ofNat unsigned] at pass
      exact loop_leave pass
  | case2 n large ih =>
      rw [leb128_of_ge (Nat.not_lt.mp large)] at ahead enough ⊢
      obtain ⟨fuel, rfl⟩ := Nat.exists_eq_succ_of_ne_zero (Nat.ne_of_gt (Nat.zero_lt_of_lt enough))
      obtain ⟨_, here, following⟩ := Checked.next_of_drop ahead
      have byte : (UInt8.ofNat (128 + n % 128)).toNat = 128 + n % 128 := by
        rw [UInt8.toNat_ofNat']
        omega
      have group : (UInt8.ofNat (128 + n % 128)).toNat % 128 = n % 128 := by
        rw [byte]
        omega
      have whole : n * 2 ^ s.shift = n % 128 * 2 ^ s.shift + n / 128 * 2 ^ (s.shift + 7) := by
        have division := Nat.div_add_mod n 128
        calc n * 2 ^ s.shift = (128 * (n / 128) + n % 128) * 2 ^ s.shift := by rw [division]
          _ = n % 128 * 2 ^ s.shift + n / 128 * 2 ^ (s.shift + 7) := by ring
      have pass := readVarintPass_eq here below position (by rw [group]; omega)
      rw [group, if_neg (by rw [byte]; omega)] at pass
      have gathered : (UInt32.ofNat (s.result.toNat + n % 128 * 2 ^ s.shift)).toNat =
          s.result.toNat + n % 128 * 2 ^ s.shift := by
        rw [UInt32.toNat_ofNat', Nat.mod_eq_of_lt (by omega)]
      have wider : 2 ^ (s.shift + 7) = 128 * 2 ^ s.shift := by ring
      have low := Nat.mul_le_mul_right (2 ^ s.shift) (by omega : n % 128 + 1 ≤ 128)
      have high := Nat.mul_le_mul_right (2 ^ s.shift) (Nat.not_lt.mp large)
      have farther : s.shift + 7 < 31 := by
        apply (Nat.pow_lt_pow_iff_right (by decide : 1 < 2)).mp
        omega
      rw [Nat.add_mul] at low
      have value : s.result.toNat + n % 128 * 2 ^ s.shift + n / 128 * 2 ^ (s.shift + 7) =
          s.result.toNat + n * 2 ^ s.shift := by rw [whole, Nat.add_assoc]
      have bytesRead : s.bytesRead + 1 + (leb128 (n / 128)).length =
          s.bytesRead + ((leb128 (n / 128)).length + 1) := by rw [Nat.add_right_comm, Nat.add_assoc]
      have others := ih fuel
        { result := UInt32.ofNat (s.result.toNat + n % 128 * 2 ^ s.shift)
          shift := s.shift + 7
          bytesRead := s.bytesRead + 1 }
        following (by rw [gathered, wider]; omega) (by simp only [gathered]; omega) (by simp only; omega)
        (Nat.le_of_succ_le_succ enough)
      rw [gathered, value, bytesRead] at others
      rw [loop_again pass]
      exact others

theorem readVarint_eq {view rest : Bytes} {offset n : Nat} (ahead : view.drop offset = leb128 n ++ rest)
    (unsigned : n < 2 ^ 31) :
    readVarint view offset = .ok (some { value := n, bytesRead := (leb128 n).length }) := by
  have long := congrArg List.length ahead
  rw [List.length_drop, List.length_append] at long
  have read := readVarintLoop_eq n (view.length + 1) { result := 0, shift := 0, bytesRead := 0 }
    ahead (by decide) (by simpa using unsigned) (by decide) (by omega)
  simp only [UInt32.toNat_zero, Nat.zero_add, Nat.pow_zero, Nat.mul_one] at read
  exact read

theorem drop_append {view front rest : Bytes} {offset : Nat} (ahead : view.drop offset = front ++ rest) :
    view.drop (offset + front.length) = rest := by
  rw [← List.drop_drop, ahead, List.drop_left]

theorem readHeader_eq {bytes rest : Bytes} {offset tag len : Nat}
    (ahead : bytes.drop offset = leb128 tag ++ (leb128 len ++ rest)) (tag_unsigned : tag < 2 ^ 31)
    (len_unsigned : len < 2 ^ 31) :
    readHeader bytes offset =
      .ok (some (tag, len, ↑(offset + (leb128 tag).length + (leb128 len).length))) := by
  have first := readVarint_eq ahead tag_unsigned
  have second := readVarint_eq (drop_append ahead) len_unsigned
  unfold readHeader
  rw [first, Checked.ok_bind]
  simp only
  rw [← Int.natCast_add, second, Checked.ok_bind]
  rfl

theorem subarray_eq {bytes payload rest : Bytes} {offset : Nat}
    (ahead : bytes.drop offset = payload ++ rest) (inside : offset + payload.length ≤ bytes.length) :
    subarray bytes offset ↑(offset + payload.length) = payload := by
  have index {position : Nat} (within : position ≤ bytes.length) :
      relativeIndex bytes.length position = position := by
    rw [relativeIndex, if_neg (by omega), Int.toNat_natCast, Nat.min_eq_left within]
  rw [subarray, index (Nat.le_of_add_right_le inside), index inside, ahead, Nat.add_sub_cancel_left,
    List.take_left]

/-! ## Writing -/

theorem group_marked (v : UInt32) :
    ((v &&& 0x7f) ||| 0x80).toUInt8 = UInt8.ofNat (128 + v.toNat % 128) := by
  apply UInt8.toNat_inj.mp
  have mask : v.toNat &&& 127 = v.toNat % 128 := Nat.and_two_pow_sub_one_eq_mod v.toNat 7
  have disjoint := Nat.two_pow_add_eq_or_of_lt (by omega : v.toNat % 128 < 2 ^ 7) 1
  have marked : v.toNat % 128 ||| 128 = 128 + v.toNat % 128 := by
    rw [Nat.or_comm]
    simpa using disjoint.symm
  simp only [UInt32.toNat_toUInt8, UInt32.toNat_or, UInt32.toNat_and, UInt32.reduceToNat, mask, marked,
    UInt8.toNat_ofNat']

theorem loop_writeVarintPass (passes : Nat) (v : UInt32) (buf : Bytes) (small : v.toNat < 128 ^ passes)
    (some_pass : 0 < passes) :
    loop writeVarintPass passes (buf, v) = .ok (buf ++ leb128 v.toNat) := by
  induction passes generalizing v buf with
  | zero => exact absurd some_pass (Nat.lt_irrefl 0)
  | succ passes ih =>
      by_cases long : v ≥ 0x80
      · have high : 128 ≤ v.toNat := UInt32.le_iff_toNat_le.mp long
        have pass : writeVarintPass (buf, v) =
            .ok (.again (buf ++ [UInt8.ofNat (128 + v.toNat % 128)], v >>> 7)) := by
          rw [writeVarintPass, if_pos long, group_marked]
          rfl
        have shorter : (v >>> 7).toNat < 128 ^ passes := by
          rw [Nat.pow_succ] at small
          rw [varint_high]
          exact Nat.div_lt_of_lt_mul (by rwa [Nat.mul_comm])
        have left : 0 < passes := by
          refine Nat.pos_of_ne_zero fun none => ?_
          subst none
          omega
        rw [loop_again pass, ih _ _ shorter left, varint_high, leb128_of_ge high, List.append_assoc]
        rfl
      · have low : v.toNat < 128 := Nat.not_le.mp fun high => long (UInt32.le_iff_toNat_le.mpr high)
        have pass : writeVarintPass (buf, v) = .ok (.leave (buf ++ [UInt8.ofNat v.toNat])) := by
          rw [writeVarintPass, if_neg long]
          rfl
        rw [loop_leave pass, leb128_of_lt low]

theorem writeVarint_eq {val : Nat} (unsigned : val < 2 ^ 32) (buf : Bytes) :
    writeVarint buf val = .ok (buf ++ leb128 val) := by
  have value : (UInt32.ofNat val).toNat = val := by
    rw [UInt32.toNat_ofNat', Nat.mod_eq_of_lt unsigned]
  have written := loop_writeVarintPass 5 (UInt32.ofNat val) buf (by rw [value]; omega) (by decide)
  rw [value] at written
  exact written

theorem encodeMessage_eq {tag : Nat} {payload : Bytes} (tag_unsigned : tag < 2 ^ 32)
    (unsigned : payload.length < 2 ^ 32) :
    encodeMessage tag payload = .ok (frameBytes (UInt32.ofNat tag) payload) := by
  have value : (UInt32.ofNat tag).toNat = tag := by
    rw [UInt32.toNat_ofNat', Nat.mod_eq_of_lt tag_unsigned]
  rw [encodeMessage, writeVarint_eq tag_unsigned, Checked.ok_bind, writeVarint_eq unsigned,
    Checked.ok_bind, frameBytes, value, List.nil_append, List.append_assoc]
  rfl

/-! ## Frames -/

theorem decodePass_frame {bytes rest payload : Bytes} {offset : Nat} {tag : UInt32}
    (handled : List (Int × Bytes)) (ahead : bytes.drop offset = frameBytes tag payload ++ rest)
    (tag_unsigned : tag.toNat < 2 ^ 31) (unsigned : payload.length < 2 ^ 31) :
    decodePass bytes (offset, handled) =
      .ok (.again (↑(offset + (frameBytes tag payload).length),
        handled ++ [((tag.toNat : Int), payload)])) := by
  have long := congrArg List.length ahead
  have positive := length_leb128_pos tag.toNat
  rw [List.length_drop, List.length_append] at long
  have parts : bytes.drop offset =
      leb128 tag.toNat ++ (leb128 payload.length ++ (payload ++ rest)) := by
    rw [ahead, frameBytes, List.append_assoc, List.append_assoc]
  have behind := drop_append (drop_append parts)
  have length : (frameBytes tag payload).length =
      (leb128 tag.toNat).length + (leb128 payload.length).length + payload.length := by
    rw [frameBytes, List.length_append, List.length_append, Nat.add_assoc]
  rw [decodePass, if_pos (by omega), readHeader_eq parts tag_unsigned unsigned]
  simp only
  rw [if_neg (by omega), ← Int.natCast_add, subarray_eq behind (by omega), length]
  simp only [Nat.add_assoc]
  rfl

theorem loop_decodePass_frames {bytes : Bytes} (frames : List (UInt32 × Bytes))
    (small : ∀ frame ∈ frames, frame.1.toNat < 2 ^ 31 ∧ frame.2.length < 2 ^ 31)
    {offset fuel : Nat} (handled : List (Int × Bytes))
    (ahead : bytes.drop offset = (frames.map fun frame => frameBytes frame.1 frame.2).flatten)
    (enough : frames.length < fuel) :
    loop (decodePass bytes) fuel (offset, handled) =
      .ok (handled ++ frames.map fun frame => ((frame.1.toNat : Int), frame.2)) := by
  induction frames generalizing offset fuel handled with
  | nil =>
      obtain ⟨fuel, rfl⟩ := Nat.exists_eq_succ_of_ne_zero (Nat.ne_of_gt enough)
      have finished : bytes.length ≤ offset := List.drop_eq_nil_iff.mp ahead
      have pass : decodePass bytes (offset, handled) = .ok (.leave handled) := by
        rw [decodePass, if_neg (by omega)]
        rfl
      rw [List.map_nil, List.append_nil, loop_leave pass]
  | cons frame frames ih =>
      obtain ⟨fuel, rfl⟩ := Nat.exists_eq_succ_of_ne_zero (Nat.ne_of_gt (Nat.zero_lt_of_lt enough))
      obtain ⟨tag_unsigned, unsigned⟩ := small frame List.mem_cons_self
      rw [List.map_cons, List.flatten_cons] at ahead
      have others := ih (fun other member => small other (List.mem_cons_of_mem _ member))
        (handled ++ [((frame.1.toNat : Int), frame.2)]) (drop_append ahead) (Nat.lt_of_succ_lt_succ enough)
      rw [loop_again (decodePass_frame handled ahead tag_unsigned unsigned), others, List.map_cons,
        List.append_assoc]
      rfl

theorem decodeMessages_frames (frames : List (UInt32 × Bytes))
    (small : ∀ frame ∈ frames, frame.1.toNat < 2 ^ 31 ∧ frame.2.length < 2 ^ 31) :
    decodeMessages (frames.map fun frame => frameBytes frame.1 frame.2).flatten =
      .ok (frames.map fun frame => ((frame.1.toNat : Int), frame.2)) := by
  refine loop_decodePass_frames frames small [] List.drop_zero ?_
  have each : ∀ part ∈ frames.map fun frame => frameBytes frame.1 frame.2, 1 ≤ part.length := by
    intro part member
    obtain ⟨frame, _, rfl⟩ := List.mem_map.mp member
    have positive := length_leb128_pos frame.1.toNat
    rw [frameBytes, List.length_append]
    omega
  have long := List.length_le_sum_of_one_le ((frames.map fun frame => frameBytes frame.1 frame.2).map List.length)
    (List.forall_mem_map.mpr each)
  rw [← List.length_flatten, List.length_map, List.length_map] at long
  omega

/-! ## What the host sends -/

section Sending

variable {target : Target}

/-- An image with the mark for no compression. -/
def uncompressed : Message → Message
  | .rawFrame tsUs width height stride format _ pixels => .rawFrame tsUs width height stride format 0 pixels
  | .subframe tsUs x y w h stride format _ pixels => .subframe tsUs x y w h stride format 0 pixels
  | m => m

/-- The frames that the page is sent, with the tag and the payload of each. -/
inductive SentFrame (target : Target) : Bytes → UInt32 × Bytes → Prop where
  | message {m : Message} {frame payload : Bytes} : encoded (m.encodePayload target) = .ok payload →
      encoded (m.encode target) = .ok frame → SentFrame target frame (m.tag, payload)
  | item {item : BusItem target} {frame payload : Bytes} :
      encoded ((uncompressed item.msg).encodePayload target) = .ok payload →
      encodeWsItem item = .ok frame → SentFrame target frame (item.msg.tag, payload)

theorem tag_lt (m : Message) : m.tag.toNat < 2 ^ 31 := by
  cases m <;> exact of_decide_eq_true rfl

theorem encode_frame_eq {m : Message} {payload : Bytes}
    (payloads : encoded (m.encodePayload target) = .ok payload) (small : payload.length < 2 ^ 32) :
    encoded (m.encode target) = .ok (frameBytes m.tag payload) :=
  encoded_of_emits (emits_encode (emits_of_encoded payloads) small)

/-- The header and the fields of an image, whose length is announced without writing them. -/
theorem encoded_image {fields : Wire Unit} {tag len : UInt32} {bytes payload : Bytes}
    (emits : Emits fields bytes) (payloads : encoded fields = .ok payload)
    (announced : len = UInt32.ofNat bytes.length) (small : payload.length < 2 ^ 32) :
    encoded (do Proto.writeVarint tag; Proto.writeVarint len; fields) = .ok (frameBytes tag payload) := by
  have same : bytes = payload := Except.ok.inj ((encoded_of_emits emits).symm.trans payloads)
  subst same
  have framed : Emits (do Proto.writeVarint tag; Proto.writeVarint len; fields)
      (leb128 tag.toNat ++ (leb128 len.toNat ++ bytes)) :=
    (emits_writeVarint tag).seq ((emits_writeVarint len).seq emits)
  have value : (UInt32.ofNat bytes.length).toNat = bytes.length := by
    rw [UInt32.toNat_ofNat', Nat.mod_eq_of_lt small]
  rw [announced, value] at framed
  rw [announced]
  exact encoded_of_emits framed

/-- The fields of a frame take 21 bytes besides its pixels. -/
theorem emits_plainRawFrame (target : Target) (tsUs : UInt64) (width height : UInt16)
    (stride format : UInt32) (pixels : Bytes) :
    ∃ bytes, Emits ((Message.rawFrame tsUs width height stride format 0 pixels).encodePayload target)
      bytes ∧ bytes.length = 21 + pixels.length := by
  refine ⟨_, (emits_extend _).seq <| (emits_extend _).seq <| (emits_extend _).seq <|
    (emits_extend _).seq <| (emits_extend _).seq <| (emits_extend _).seq (emits_extend _), ?_⟩
  simp only [List.length_append, length_toLeBytes, List.length_singleton]
  omega

theorem emits_plainSubframe (target : Target) (tsUs : UInt64) (x y w h : UInt16)
    (stride format : UInt32) (pixels : Bytes) :
    ∃ bytes, Emits ((Message.subframe tsUs x y w h stride format 0 pixels).encodePayload target)
      bytes ∧ bytes.length = 25 + pixels.length := by
  refine ⟨_, (emits_extend _).seq <| (emits_extend _).seq <| (emits_extend _).seq <|
    (emits_extend _).seq <| (emits_extend _).seq <| (emits_extend _).seq <| (emits_extend _).seq <|
    (emits_extend _).seq (emits_extend _), ?_⟩
  simp only [List.length_append, length_toLeBytes, List.length_singleton]
  omega

/-- An image is framed for the page as `encode` frames it without compression. -/
theorem encodeWsItem_eq {item : BusItem target} {payload : Bytes}
    (payloads : encoded ((uncompressed item.msg).encodePayload target) = .ok payload)
    (small : payload.length < 2 ^ 32) : encodeWsItem item = .ok (frameBytes item.msg.tag payload) := by
  obtain ⟨msg, wireQuic, wire⟩ := item
  cases msg with
  | rawFrame tsUs width height stride format compression pixels =>
      obtain ⟨bytes, emits, length⟩ := emits_plainRawFrame target tsUs width height stride format pixels
      exact encoded_image emits payloads (by rw [length]) small
  | subframe tsUs x y w h stride format compression pixels =>
      obtain ⟨bytes, emits, length⟩ := emits_plainSubframe target tsUs x y w h stride format pixels
      exact encoded_image emits payloads (by rw [length]) small
  | _ => exact wire.symm.trans (encode_frame_eq payloads small)

theorem SentFrame.eq_frameBytes {frame : Bytes} {content : UInt32 × Bytes}
    (sent : SentFrame target frame content) (small : content.2.length < 2 ^ 31) :
    frame = frameBytes content.1 content.2 ∧ content.1.toNat < 2 ^ 31 := by
  have announced : content.2.length < 2 ^ 32 := by omega
  cases sent with
  | message payloads encodes =>
      exact ⟨Except.ok.inj (encodes.symm.trans (encode_frame_eq payloads announced)), tag_lt _⟩
  | item payloads encodes =>
      exact ⟨Except.ok.inj (encodes.symm.trans (encodeWsItem_eq payloads announced)), tag_lt _⟩

theorem uncompressed_tag (m : Message) : (uncompressed m).tag = m.tag := by
  cases m <;> rfl

/-- An item on the bus has a payload, and without compression it still has one. -/
theorem encoded_uncompressed (item : BusItem target) :
    ∃ payload, encoded ((uncompressed item.msg).encodePayload target) = .ok payload := by
  obtain ⟨msg, wireQuic, wire⟩ := item
  cases msg with
  | rawFrame tsUs width height stride format compression pixels =>
      obtain ⟨bytes, emits, _⟩ := emits_plainRawFrame target tsUs width height stride format pixels
      exact ⟨bytes, encoded_of_emits emits⟩
  | subframe tsUs x y w h stride format compression pixels =>
      obtain ⟨bytes, emits, _⟩ := emits_plainSubframe target tsUs x y w h stride format pixels
      exact ⟨bytes, encoded_of_emits emits⟩
  | _ => exact encoded_payload_of_encode wire

end Sending

/-- Without a copy of the pixels, the host writes for the page what `encode` writes for the same
message with the mark for no compression, or for the message itself if it is no image. -/
theorem encodeWsItem_eq_encode {target : Target} (item : BusItem target)
    (small : ∀ payload, encoded ((uncompressed item.msg).encodePayload target) = .ok payload →
      payload.length < 2 ^ 32) :
    ∃ frame, encodeWsItem item = .ok frame ∧ encoded ((uncompressed item.msg).encode target) = .ok frame := by
  obtain ⟨payload, payloads⟩ := encoded_uncompressed item
  refine ⟨_, encodeWsItem_eq payloads (small payload payloads), ?_⟩
  rw [← uncompressed_tag]
  exact encode_frame_eq payloads (small payload payloads)

/-- A pixel that is compressed on the bus. -/
def pixelItem : BusItem .bits64 where
  msg := .rawFrame 0 1 1 4 0 1 [9, 8, 7, 6]
  wireQuic := [0x40, 30, 0, 0, 0, 0, 0, 0, 0, 0, 1, 0, 1, 0, 4, 0, 0, 0, 0, 0, 0, 0, 1, 4, 0, 0, 0, 0x40,
    9, 8, 7, 6]
  encodes := by decide +kernel

theorem encodeWsItem_eq_encode_pixel :
    ∃ frame, encodeWsItem pixelItem = .ok frame ∧
      encoded ((uncompressed pixelItem.msg).encode .bits64) = .ok frame := by
  refine encodeWsItem_eq_encode pixelItem fun payload payloads => ?_
  have fields : encoded ((uncompressed pixelItem.msg).encodePayload .bits64) =
      .ok [0, 0, 0, 0, 0, 0, 0, 0, 1, 0, 1, 0, 4, 0, 0, 0, 0, 0, 0, 0, 0, 9, 8, 7, 6] := by decide +kernel
  cases fields.symm.trans payloads
  decide

/-- The page handles what the host sends it, frame by frame, and the host splits what the page
sends into the tag and the payload that it is made of. -/
theorem page_framing_agrees (target : Target) :
    (∀ frames : List (Bytes × UInt32 × Bytes),
      (∀ frame ∈ frames, SentFrame target frame.1 frame.2 ∧ frame.2.2.length < 2 ^ 31) →
      decodeMessages (frames.map fun frame => frame.1).flatten =
        .ok (frames.map fun frame => ((frame.2.1.toNat : Int), frame.2.2))) ∧
      ∀ (tag : Nat) (payload : Bytes), tag < 2 ^ 31 → payload.length ≤ maxMessageBytes →
        ∃ bytes, encodeMessage tag payload = .ok bytes ∧
          splitFrame bytes = .ok (some (UInt32.ofNat tag, payload, [])) := by
  constructor
  · intro frames sent
    have parts (frame : Bytes × UInt32 × Bytes) (member : frame ∈ frames) :=
      (sent frame member).1.eq_frameBytes (sent frame member).2
    have bytes : frames.map (fun frame => frame.1) =
        (frames.map Prod.snd).map fun content => frameBytes content.1 content.2 := by
      rw [List.map_map]
      exact List.map_congr_left fun frame member => (parts frame member).1
    rw [bytes, decodeMessages_frames _ (List.forall_mem_map.mpr fun frame member =>
      ⟨(parts frame member).2, (sent frame member).2⟩), List.map_map]
    rfl
  · intro tag payload tag_unsigned small
    have cap : maxMessageBytes = 16777216 := rfl
    have split : splitFrame (frameBytes (UInt32.ofNat tag) payload ++ []) =
        .ok (some (UInt32.ofNat tag, payload, [])) := splitFrame_frameBytes small []
    rw [List.append_nil] at split
    exact ⟨_, encodeMessage_eq (by omega) (by omega), split⟩

/-- A load state and an image of one pixel, and three bytes under tag 300. -/
theorem page_framing_agrees_sent :
    decodeMessages ([0x31, 1, 2] ++ ([0x40, 25, 0, 0, 0, 0, 0, 0, 0, 0, 1, 0, 1, 0, 4, 0, 0, 0, 0, 0, 0, 0,
        0, 9, 8, 7, 6] ++ [])) =
      .ok [(0x31, [2]), (0x40, [0, 0, 0, 0, 0, 0, 0, 0, 1, 0, 1, 0, 4, 0, 0, 0, 0, 0, 0, 0, 0, 9, 8, 7, 6])] ∧
      ∃ bytes, encodeMessage 300 [1, 2, 3] = .ok bytes ∧
        splitFrame bytes = .ok (some (UInt32.ofNat 300, [1, 2, 3], [])) := by
  let image : BusItem .bits64 :=
    { msg := .rawFrame 0 1 1 4 0 0 [9, 8, 7, 6]
      wireQuic := [0x40, 25, 0, 0, 0, 0, 0, 0, 0, 0, 1, 0, 1, 0, 4, 0, 0, 0, 0, 0, 0, 0, 0, 9, 8, 7, 6]
      encodes := by decide +kernel }
  have loadState : SentFrame .bits64 [0x31, 1, 2] (0x31, [2]) :=
    .message (by decide +kernel : encoded (Message.encodePayload .bits64 (.loadState 2)) = .ok [2])
      (by decide +kernel)
  have rawFrame : SentFrame .bits64 [0x40, 25, 0, 0, 0, 0, 0, 0, 0, 0, 1, 0, 1, 0, 4, 0, 0, 0, 0, 0, 0, 0,
      0, 9, 8, 7, 6] (0x40, [0, 0, 0, 0, 0, 0, 0, 0, 1, 0, 1, 0, 4, 0, 0, 0, 0, 0, 0, 0, 0, 9, 8, 7, 6]) :=
    .item (by decide +kernel : encoded ((uncompressed image.msg).encodePayload .bits64) = _)
      (by decide +kernel)
  have agrees := page_framing_agrees .bits64
  refine ⟨agrees.1 [([0x31, 1, 2], 0x31, [2]), (_, 0x40, _)] ?_, agrees.2 300 [1, 2, 3] (by decide) (by decide)⟩
  intro frame member
  rcases List.mem_cons.mp member with rfl | member
  · exact ⟨loadState, by decide⟩
  · rw [List.mem_singleton.mp member]
    exact ⟨rawFrame, by decide⟩

end ExoBrowser.Web
