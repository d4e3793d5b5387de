import ExoBrowser.Proto.Reencoding

/-!
# The spatial filter and its loss

The filter works on groups of four bytes. Bytes behind the last group are not copied, so that
an image that is filtered comes back without them.
-/

set_option autoImplicit false

namespace ExoBrowser.Proto

open Library

/-- The bytes behind the last group of four. -/
def leftover (bytes : Bytes) : Bytes := bytes.drop (bytes.length / 4 * 4)

def Message.pixels : Message → Bytes
  | .rawFrame _ _ _ _ _ _ pixels => pixels
  | .subframe _ _ _ _ _ _ _ _ pixels => pixels
  | .tileData _ _ _ _ _ _ pixels => pixels
  | _ => []

def Message.withPixels (pixels : Bytes) : Message → Message
  | .rawFrame tsUs width height stride format compression _ =>
      .rawFrame tsUs width height stride format compression pixels
  | .subframe tsUs x y w h stride format compression _ =>
      .subframe tsUs x y w h stride format compression pixels
  | .tileData hash w h stride format compression _ => .tileData hash w h stride format compression pixels
  | m => m

section Delta

variable {target encoder : Target}

theorem yields_delta (w h : UInt16) (pixels : Bytes) (width rows expectedLen : Nat) :
    YieldsAtEnd maxMessageBytes (writePayloadGeom encoder Compression.zstdDelta w h pixels)
      (readPayloadGeom target Compression.zstdDelta width rows expectedLen)
      fun read => read = spatialUnfilterSubInPlace (spatialFilterSubInto pixels []) := by
  obtain ⟨stage1, emits1, _⟩ := within_lz4EncodeInto (spatialFilterSubInto pixels [])
  obtain ⟨block, emits2, _⟩ := within_lz4EncodeInto stage1
  have stage : encoded (lz4EncodeInto (spatialFilterSubInto pixels [])) = .ok stage1 :=
    encoded_of_emits emits1
  have emits : Emits (writePayloadGeom encoder Compression.zstdDelta w h pixels) block := by
    intro written
    simp only [writePayloadGeom, stage]
    exact emits2 written
  refine ⟨block, emits, fun fits => ?_⟩
  rw [run_readPayloadGeom]
  refine .bind fun decoded returned => .ite (fun _ _ failed => by cases failed) fun _ => .pure ?_
  obtain ⟨outer, first, rest⟩ := Checked.bind_eq_ok returned
  obtain ⟨inner, second, last⟩ := Checked.bind_eq_ok rest
  have outer_small := ((lz4Decode_safe none fits).of_ok first).1
  have same := lz4Decode_of_emits emits2 fits first
  subst same
  have filtered := lz4Decode_of_emits emits1 outer_small second
  subst filtered
  exact (Except.ok.inj last).symm

theorem yields_deltaMessage {m : Message} (delta : m.compression = some Compression.zstdDelta) :
    YieldsAtEnd maxMessageBytes (m.encodePayload encoder) (decodeFields target m.tag) fun read =>
      read = m.withPixels (spatialUnfilterSubInPlace (spatialFilterSubInto m.pixels [])) := by
  have wrapped {emitter : Wire Unit} {reader : Wire Message} {wrap : Bytes → Message} {pixels : Bytes}
      (field : YieldsAtEnd maxMessageBytes emitter reader fun read =>
        ∃ decoded, decoded = pixels ∧ read = wrap decoded) :
      YieldsAtEnd maxMessageBytes emitter reader fun read => read = wrap pixels := by
    obtain ⟨symbols, emits, yields⟩ := field
    refine ⟨symbols, emits, fun fits result returned => ?_⟩
    obtain ⟨decoded, rfl, same⟩ := yields fits result returned
    exact same
  cases m with
  | rawFrame tsUs width height stride format compression pixels =>
      cases delta
      exact (inverse_u64 tsUs).seqYields <| (inverse_u16 width).seqYields <|
        (inverse_u16 height).seqYields <| (inverse_u32 stride).seqYields <|
        (inverse_u32 format).seqYields <| (inverse_u8 _).seqYields <|
        wrapped ((yields_delta width height pixels _ _ _).last _)
  | subframe tsUs x y w h stride format compression pixels =>
      cases delta
      exact (inverse_u64 tsUs).seqYields <| (inverse_u16 x).seqYields <| (inverse_u16 y).seqYields <|
        (inverse_u16 w).seqYields <| (inverse_u16 h).seqYields <| (inverse_u32 stride).seqYields <|
        (inverse_u32 format).seqYields <| (inverse_u8 _).seqYields <|
        wrapped ((yields_delta w h pixels _ _ _).last _)
  | tileData hash w h stride format compression pixels =>
      cases delta
      exact (inverse_u64 hash).seqYields <| (inverse_u16 w).seqYields <|
        (inverse_u16 h).seqYields <| (inverse_u32 stride).seqYields <|
        (inverse_u32 format).seqYields <| (inverse_u8 _).seqYields <|
        wrapped ((yields_delta w h pixels _ _ _).last _)
  | _ => cases delta

theorem decoded_delta {m m' : Message} {frame rest : Bytes}
    (delta : m.compression = some Compression.zstdDelta) (encodes : encoded (m.encode encoder) = .ok frame)
    (accepted : Message.decode target (frame ++ rest) = (.ok (some m'), rest)) :
    m' = m.withPixels (spatialUnfilterSubInPlace (spatialFilterSubInto m.pixels [])) := by
  obtain ⟨payload, payloads, small, decoded⟩ := decodePayload_of_accepted encodes accepted
  have yields : YieldsAtEnd maxMessageBytes (m.encodePayload encoder) (decodeFields target m.tag) _ :=
    yields_deltaMessage delta
  obtain ⟨symbols, emits, yields⟩ := yields
  cases (encoded_of_emits emits).symm.trans payloads
  unfold decodePayload at decoded
  obtain ⟨⟨read, p⟩, returned, finished⟩ := Checked.bind_eq_ok decoded
  simp only at finished
  split at finished
  case isFalse => cases finished
  case isTrue =>
    cases finished
    exact yields small (m', p) returned

end Delta

theorem withPixels_eq_iff {m : Message} (compressed : m.compression ≠ none) (pixels : Bytes) :
    m.withPixels pixels = m ↔ pixels = m.pixels := by
  cases m with
  | rawFrame tsUs width height stride format compression old => simp [Message.withPixels, Message.pixels]
  | subframe tsUs x y w h stride format compression old => simp [Message.withPixels, Message.pixels]
  | tileData hash w h stride format compression old => simp [Message.withPixels, Message.pixels]
  | _ => exact absurd rfl compressed

theorem leftover_zeros_iff (pixels : Bytes) :
    leftover (List.replicate pixels.length 0) = leftover pixels ↔ ∀ b ∈ leftover pixels, b = 0 := by
  unfold leftover
  rw [List.length_replicate, List.drop_replicate, eq_comm, List.eq_replicate_iff, List.length_drop]
  exact and_iff_right rfl

/-- The filter is undone exactly where the bytes behind the last group of four are those of the
buffer that it writes to, resized with zeros. An image that is filtered on the way is decoded to
itself exactly where these bytes are zeros. -/
theorem spatial_filter_lossless_iff (encoder target : Target) (pixels out : Bytes) (m : Message) :
    (spatialUnfilterSubInPlace (spatialFilterSubInto pixels out) = pixels ↔
      leftover (out.take pixels.length ++ List.replicate (pixels.length - out.length) 0) =
        leftover pixels) ∧
      ∀ (m' : Message) (frame rest : Bytes), m.compression = some Compression.zstdDelta →
        encoded (m.encode encoder) = .ok frame →
        Message.decode target (frame ++ rest) = (.ok (some m'), rest) →
          (m' = m ↔ ∀ b ∈ leftover m.pixels, b = 0) := by
  have buffers (pixels out : Bytes) :
      spatialUnfilterSubInPlace (spatialFilterSubInto pixels out) = pixels ↔
        leftover (out.take pixels.length ++ List.replicate (pixels.length - out.length) 0) =
          leftover pixels := by
    rw [spatialUnfilter_eq_iff, leftover, leftover, length_resized]
  refine ⟨buffers pixels out, fun m' frame rest delta encodes accepted => ?_⟩
  have fresh := buffers m.pixels []
  rw [List.take_nil, List.nil_append, List.length_nil, Nat.sub_zero, leftover_zeros_iff] at fresh
  have compressed : m.compression ≠ none := by
    rw [delta]
    exact Option.some_ne_none _
  rw [decoded_delta delta encodes accepted, withPixels_eq_iff compressed, fresh]

/-- A row of five bytes loses its last one. -/
theorem spatial_filter_loses_leftover :
    spatialUnfilterSubInPlace (spatialFilterSubInto [1, 2, 3, 4, 5] []) ≠ [1, 2, 3, 4, 5] ∧
      ∃ frame, encoded (Message.encode .bits64 (.rawFrame 0 1 1 5 0 2 [1, 2, 3, 4, 5])) = .ok frame ∧
        Message.decode .bits64 frame = (.ok (some (.rawFrame 0 1 1 5 0 2 [1, 2, 3, 4, 0])), []) := by
  refine ⟨by decide, [0x40, 36, 0, 0, 0, 0, 0, 0, 0, 0, 1, 0, 1, 0, 5, 0, 0, 0, 0, 0, 0, 0, 2, 10, 0, 0, 0,
    0xA0, 5, 0, 0, 0, 0x50, 1, 2, 3, 4, 0], by decide +kernel, by decide +kernel⟩

end ExoBrowser.Proto
