import ExoBrowser.Proto.BasicProperties
import ExoBrowser.Proto.Lz4DecoderProperties
import ExoBrowser.Proto.Pixels

/-!
# Pixel payload properties

The lossless payload formats are read back exactly, and on any input the reader
returns pixels of the announced length.
-/

set_option autoImplicit false

namespace ExoBrowser.Proto

open Library

/-! ## Spatial filter -/

section Filter

@[simp] theorem Chunk.length_toBytes (chunk : Chunk) : chunk.toBytes.length = 4 := rfl

theorem Chunk.wrappingAdd_wrappingSub (curr prev : Chunk) :
    (curr.wrappingSub prev).wrappingAdd prev = curr := by
  simp [Chunk.wrappingSub, Chunk.wrappingAdd]

theorem length_flatMap_toBytes (chunks : List Chunk) :
    (chunks.flatMap Chunk.toBytes).length = 4 * chunks.length := by
  induction chunks with
  | nil => rfl
  | cons chunk chunks ih =>
      rw [List.flatMap_cons, List.length_append, ih, Chunk.length_toBytes, List.length_cons]
      omega

theorem asChunks_eq (bytes : Bytes) :
    (asChunks bytes).1.flatMap Chunk.toBytes ++ (asChunks bytes).2 = bytes := by
  induction bytes using asChunks.induct with
  | case1 b g r a rest ih => simpa [asChunks, Chunk.toBytes] using ih
  | case2 short _ => simp [asChunks]

theorem length_asChunks (bytes : Bytes) :
    (asChunks bytes).1.length = bytes.length / 4 ∧ (asChunks bytes).2.length = bytes.length % 4 := by
  induction bytes using asChunks.induct with
  | case1 b g r a rest ih =>
      simp only [asChunks, List.length_cons, ih]
      omega
  | case2 short few =>
      have bounded : short.length < 4 := by
        match short, few with
        | [], _ | [_], _ | [_, _], _ | [_, _, _], _ => simp
        | b :: g :: r :: a :: rest, few => exact absurd rfl (few b g r a rest)
      simp only [asChunks, List.length_nil]
      omega

theorem asChunks_append (chunks : List Chunk) {tail : Bytes} (short : tail.length < 4) :
    asChunks (chunks.flatMap Chunk.toBytes ++ tail) = (chunks, tail) := by
  induction chunks with
  | nil =>
      match tail, short with
      | [], _ | [_], _ | [_, _], _ | [_, _, _], _ => rfl
  | cons chunk chunks ih =>
      simp only [List.flatMap_cons, Chunk.toBytes, List.cons_append, List.nil_append, asChunks]
      rw [ih]

theorem unfilterChunks_filterChunks (prev : Chunk) (chunks : List Chunk) :
    unfilterChunks prev (filterChunks prev chunks) = chunks := by
  induction chunks generalizing prev with
  | nil => rfl
  | cons curr chunks ih =>
      simp only [filterChunks, unfilterChunks, Chunk.wrappingAdd_wrappingSub, ih]

theorem length_filterChunks (prev : Chunk) (chunks : List Chunk) :
    (filterChunks prev chunks).length = chunks.length := by
  induction chunks generalizing prev with
  | nil => rfl
  | cons curr chunks ih => simp only [filterChunks, List.length_cons, ih]

theorem length_unfilterChunks (prev : Chunk) (chunks : List Chunk) :
    (unfilterChunks prev chunks).length = chunks.length := by
  induction chunks generalizing prev with
  | nil => rfl
  | cons chunk chunks ih => simp only [unfilterChunks, List.length_cons, ih]

theorem length_resized (count : Nat) (out : Bytes) :
    (out.take count ++ List.replicate (count - out.length) (0 : UInt8)).length = count := by
  rw [List.length_append, List.length_take, List.length_replicate]
  omega

theorem length_spatialFilterSubInto (pixels out : Bytes) :
    (spatialFilterSubInto pixels out).length = pixels.length := by
  have resized := length_resized pixels.length out
  have chunked := length_asChunks pixels
  unfold spatialFilterSubInto
  cases chunks : (asChunks pixels).1 with
  | nil => exact resized
  | cons first rest =>
      have counted : (first :: rest).length = pixels.length / 4 := chunks ▸ chunked.1
      simp only [List.length_append, length_flatMap_toBytes, List.length_cons,
        length_filterChunks, length_asChunks, resized]
      rw [List.length_cons] at counted
      simp only [List.length_append, List.length_take, List.length_replicate] at resized
      omega

theorem length_spatialUnfilterSubInPlace (buf : Bytes) :
    (spatialUnfilterSubInPlace buf).length = buf.length := by
  have whole := congrArg List.length (asChunks_eq buf)
  rw [List.length_append, length_flatMap_toBytes] at whole
  unfold spatialUnfilterSubInPlace
  match chunked : asChunks buf with
  | ([], tail) => simpa [chunked] using whole
  | (first :: rest, tail) =>
      simp only [chunked, List.length_cons] at whole
      simp only [List.length_append, length_flatMap_toBytes, List.length_cons,
        length_unfilterChunks]
      omega

/-- The chunks come back. Behind them stands what was there before the filter. -/
theorem spatialUnfilter_eq (pixels out : Bytes) :
    spatialUnfilterSubInPlace (spatialFilterSubInto pixels out) =
      (asChunks pixels).1.flatMap Chunk.toBytes ++
        (asChunks (out.take pixels.length ++ List.replicate (pixels.length - out.length) 0)).2 := by
  have resized := length_resized pixels.length out
  have short := (length_asChunks (out.take pixels.length ++
    List.replicate (pixels.length - out.length) (0 : UInt8))).2
  unfold spatialFilterSubInto
  simp only
  generalize out.take pixels.length ++ List.replicate (pixels.length - out.length) (0 : UInt8) = old
    at resized short
  cases chunks : (asChunks pixels).1 with
  | nil =>
      have few := (length_asChunks pixels).1
      rw [chunks, List.length_nil] at few
      have none : (asChunks old).1 = [] := by
        rw [← List.length_eq_zero_iff, (length_asChunks old).1, resized]
        exact few.symm
      unfold spatialUnfilterSubInPlace
      cases split : asChunks old with
      | mk first tail =>
          rw [split] at none
          subst none
          rfl
  | cons first rest =>
      unfold spatialUnfilterSubInPlace
      rw [asChunks_append _ (by rw [short]; exact Nat.mod_lt _ (by decide))]
      simp only [unfilterChunks_filterChunks]

theorem asChunks_tail (bytes : Bytes) : (asChunks bytes).2 = bytes.drop (bytes.length / 4 * 4) := by
  have chunks : ((asChunks bytes).1.flatMap Chunk.toBytes).length = bytes.length / 4 * 4 := by
    rw [length_flatMap_toBytes, (length_asChunks bytes).1, Nat.mul_comm]
  have whole := congrArg (List.drop (bytes.length / 4 * 4)) (asChunks_eq bytes)
  rw [← chunks, List.drop_left, chunks] at whole
  exact whole

/-- The filter is undone exactly where the bytes behind the last chunk were there before. -/
theorem spatialUnfilter_eq_iff (pixels out : Bytes) :
    spatialUnfilterSubInPlace (spatialFilterSubInto pixels out) = pixels ↔
      (out.take pixels.length ++ List.replicate (pixels.length - out.length) 0).drop
        (pixels.length / 4 * 4) = pixels.drop (pixels.length / 4 * 4) := by
  have resized := length_resized pixels.length out
  have before := asChunks_tail (out.take pixels.length ++ List.replicate (pixels.length - out.length) 0)
  rw [resized] at before
  rw [spatialUnfilter_eq, before, ← asChunks_tail pixels]
  constructor
  · intro same
    exact List.append_cancel_left (same.trans (asChunks_eq pixels).symm)
  · intro same
    rw [same, asChunks_eq]

theorem spatialUnfilter_spatialFilter {pixels : Bytes} (whole : pixels.length % 4 = 0) :
    spatialUnfilterSubInPlace (spatialFilterSubInto pixels []) = pixels := by
  have all : pixels.length / 4 * 4 = pixels.length := by omega
  rw [spatialUnfilter_eq_iff, all, List.drop_length, List.drop_of_length_le]
  exact Nat.le_of_eq (length_resized pixels.length [])

end Filter

/-! ## Half resolution -/

section HalfResolution

variable {target : Target}

theorem rowSlice_eq_ok {src : Bytes} {index width : Nat}
    (inside : index * width + width ≤ src.length) (small : src.length ≤ target.usizeMax) :
    rowSlice target src index width = .ok ((src.drop (index * width)).take width) := by
  unfold rowSlice
  rw [target.mul_of_le (by omega)]
  simp only [bind, Except.bind]
  rw [target.add_of_le (by omega)]
  exact Checked.slice_add_eq_ok inside

theorem rowSlice_returns {src : Bytes} {index width : Nat}
    (inside : index * width + width ≤ src.length) (small : src.length ≤ target.usizeMax) :
    Checked.Returns (rowSlice target src index width) fun row => row.length = width := by
  have available : width ≤ (src.drop (index * width)).length := by
    rw [List.length_drop]
    omega
  exact ⟨_, rowSlice_eq_ok inside small, List.length_take_of_le available⟩

theorem averagedPixel_returns {row0 row1 : Bytes} {x0 x1 : Nat} (same : row0.length = row1.length)
    (inside0 : x0 * 4 + 4 ≤ row0.length) (inside1 : x1 * 4 + 4 ≤ row0.length)
    (small : row0.length ≤ target.usizeMax) :
    Checked.Returns (averagedPixel target row0 row1 x0 x1) fun pixel => pixel.length = 4 := by
  unfold averagedPixel
  refine (rowSlice_returns inside0 small).bind fun p00 p00_length => ?_
  refine (rowSlice_returns inside1 small).bind fun p10 p10_length => ?_
  refine (rowSlice_returns (same ▸ inside0) (same ▸ small)).bind fun p01 p01_length => ?_
  refine (rowSlice_returns (same ▸ inside1) (same ▸ small)).bind fun p11 p11_length => ?_
  have channel : ∀ c < 4, ∃ value, (do
      return boxAverage (← Checked.index p00 c) (← Checked.index p10 c) (← Checked.index p01 c)
        (← Checked.index p11 c) : Checked Error UInt8) = .ok value := by
    intro c small
    rw [Checked.index_eq_ok (List.getElem?_eq_getElem (p00_length ▸ small)),
      Checked.index_eq_ok (List.getElem?_eq_getElem (p10_length ▸ small)),
      Checked.index_eq_ok (List.getElem?_eq_getElem (p01_length ▸ small)),
      Checked.index_eq_ok (List.getElem?_eq_getElem (p11_length ▸ small))]
    exact ⟨_, rfl⟩
  obtain ⟨blue, blue_eq⟩ := channel 0 (by decide)
  obtain ⟨green, green_eq⟩ := channel 1 (by decide)
  obtain ⟨red, red_eq⟩ := channel 2 (by decide)
  exact .step blue_eq (.step green_eq (.step red_eq ⟨_, rfl, rfl⟩))

theorem upsampleRow_safe {qrow0 qrow1 drow : Bytes} {w qw : Nat} (half : qw = (w + 1) / 2)
    (qrow0_length : qrow0.length = qw * 4) (qrow1_length : qrow1.length = qw * 4)
    (drow_length : drow.length = w * 4) (small : w * 4 ≤ 2 ^ 32 - 1) :
    Checked.Safe (upsampleRow target qrow0 qrow1 w qw drow) fun row => row.length = w * 4 := by
  have wide := target.usizeMax_ge
  refine Checked.Safe.foldlM _ (fun drow drow_length x member => ?_) drow_length
  have column := List.mem_range.mp member
  refine Checked.Safe.bind (averagedPixel_returns (by omega) (by omega) (by omega)
    (by omega)).safe fun pixel pixel_length => ?_
  refine .step (target.mul_eq_ok (by omega)) ?_
  exact (Checked.overwrite_returns (by omega)).safe.mono fun row row_length => by omega

private theorem halves {w h : Nat} :
    w * h ≤ 4 * ((w + 1) / 2 * ((h + 1) / 2)) := by
  have cols : w ≤ 2 * ((w + 1) / 2) := by omega
  have rows : h ≤ 2 * ((h + 1) / 2) := by omega
  calc w * h ≤ 2 * ((w + 1) / 2) * (2 * ((h + 1) / 2)) := Nat.mul_le_mul cols rows
    _ = 4 * ((w + 1) / 2 * ((h + 1) / 2)) := by ring

/-- The quarter-size buffer caps the enlarged one, so that no product overflows. -/
theorem upsample2x2Bgra_safe {qsrc : Bytes} {w h : Nat}
    (filled : qsrc.length = (w + 1) / 2 * ((h + 1) / 2) * 4)
    (small : qsrc.length ≤ maxMessageBytes) :
    Checked.Safe (upsample2x2Bgra target qsrc w h) fun out =>
      out.length = w * h * 4 ∧ out.length ≤ 4 * maxMessageBytes := by
  have cap : maxMessageBytes = 16777216 := rfl
  have wide := target.usizeMax_ge
  have area := halves (w := w) (h := h)
  have rowFits : ∀ (cols : Nat) {rows y : Nat}, y < rows → y * (cols * 4) + cols * 4 ≤ rows * cols * 4 := by
    intro cols rows y below
    calc y * (cols * 4) + cols * 4 = (y + 1) * cols * 4 := by ring
      _ ≤ rows * cols * 4 :=
        Nat.mul_le_mul_right 4 (Nat.mul_le_mul_right cols below)
  unfold upsample2x2Bgra
  refine .step (target.mul_eq_ok (by omega)) (.step (target.mul_eq_ok (by omega)) ?_)
  have blank : (List.replicate (w * h * 4) (0 : UInt8)).length = w * h * 4 := List.length_replicate
  by_cases empty : (w + 1) / 2 = 0 ∨ (h + 1) / 2 = 0
  · rw [if_pos empty]
    exact ⟨blank, by omega⟩
  · rw [if_neg empty]
    have qw_pos : 0 < (w + 1) / 2 := by omega
    have qh_pos : 0 < (h + 1) / 2 := by omega
    refine .step (target.mul_eq_ok (by omega)) (.step (target.mul_eq_ok (by omega)) ?_)
    rw [if_neg (by omega)]
    have qw_le : (w + 1) / 2 ≤ (w + 1) / 2 * ((h + 1) / 2) := Nat.le_mul_of_pos_right _ qh_pos
    refine .step (target.mul_eq_ok (by omega)) (.step (target.mul_eq_ok (by omega)) ?_)
    suffices rows : Checked.Safe _ fun out : Bytes => out.length = w * h * 4 from
      rows.mono fun out out_length => ⟨out_length, by omega⟩
    refine Checked.Safe.foldlM _ (fun out out_length y member => ?_) blank
    have row := List.mem_range.mp member
    have qrow0 := rowFits ((w + 1) / 2)
      (by omega : min (y / 2) ((h + 1) / 2 - 1) < (h + 1) / 2)
    have qrow1 := rowFits ((w + 1) / 2)
      (by omega : min (min (y / 2) ((h + 1) / 2 - 1) + y % 2) ((h + 1) / 2 - 1) < (h + 1) / 2)
    have drow := rowFits w row
    rw [Nat.mul_comm ((h + 1) / 2)] at qrow0 qrow1
    rw [Nat.mul_comm h] at drow
    refine Checked.Safe.bind (rowSlice_returns (by omega) (by omega)).safe
      fun first first_length => ?_
    refine Checked.Safe.bind (rowSlice_returns (by omega) (by omega)).safe
      fun second second_length => ?_
    refine Checked.Safe.bind (rowSlice_returns (by omega) (by omega)).safe
      fun blankRow blankRow_length => ?_
    refine (upsampleRow_safe rfl first_length second_length blankRow_length (by omega)).bind
      fun drawn drawn_length => ?_
    exact (Checked.overwrite_returns (by omega)).safe.mono fun next next_length => by omega

end HalfResolution

/-! ## Payload formats -/

theorem encoded_of_emits {emitter : Wire Unit} {bytes : Bytes} (emits : Emits emitter bytes) :
    encoded emitter = .ok bytes := by
  rw [encoded, emits []]
  rfl

section Payloads

variable {target : Target}

/-- What the lossless formats need of the pixels: whole chunks where they are
filtered, and stages that a decoder accepts. -/
def LosslessPayload (compression : UInt8) (pixels : Bytes) : Prop :=
  compression = Compression.raw ∨
    (compression = Compression.zstd ∧ pixels.length ≤ maxMessageBytes) ∨
    (compression = Compression.zstdDelta ∧ pixels.length % 4 = 0 ∧
      pixels.length ≤ maxMessageBytes ∧
      ∀ stage1, encoded (lz4EncodeInto (spatialFilterSubInto pixels [])) = .ok stage1 →
        stage1.length ≤ maxMessageBytes)

theorem run_readPayloadGeom (compression : UInt8) (w h expectedLen : Nat) (wire : Bytes) :
    (readPayloadGeom target compression w h expectedLen).run wire =
      decodePixels target compression w h expectedLen wire >>= fun pixels =>
        if pixels.length ≠ expectedLen then Checked.fail .invalidValue else .ok (pixels, []) := by
  simp only [readPayloadGeom, StateT.run_bind, StateT.run_get, StateT.run_set, pure_bind]
  cases decodePixels target compression w h expectedLen wire with
  | error stop => rfl
  | ok pixels =>
      change StateT.run (if pixels.length ≠ expectedLen then _ else _) _ = _
      by_cases wrong : pixels.length ≠ expectedLen
      · rw [if_pos wrong]
        exact (if_pos wrong).symm
      · rw [if_neg wrong]
        exact (if_neg wrong).symm

private theorem readPayloadGeom_readsAll {compression : UInt8} {w h expectedLen : Nat}
    {wire pixels : Bytes}
    (decodes : decodePixels target compression w h expectedLen wire = .ok pixels)
    (announced : pixels.length = expectedLen) :
    ReadsAll (readPayloadGeom target compression w h expectedLen) wire pixels := by
  rw [ReadsAll, run_readPayloadGeom, decodes]
  exact if_neg (not_not.mpr announced)

theorem inverse_payloadGeom {compression : UInt8} {pixels : Bytes}
    (lossless : LosslessPayload compression pixels) (encoder : Target) (w h : UInt16)
    {width height expectedLen : Nat}
    (announced : pixels.length ≤ maxMessageBytes → pixels.length = expectedLen) :
    InverseAtEnd maxMessageBytes (writePayloadGeom encoder compression w h pixels)
      (readPayloadGeom target compression width height expectedLen) pixels := by
  rcases lossless with rfl | ⟨rfl, small⟩ | ⟨rfl, whole, small, stageSmall⟩
  · exact ⟨pixels, emits_extend pixels, fun fits => readPayloadGeom_readsAll rfl (announced fits)⟩
  · obtain ⟨block, emits, _, decodes⟩ := lz4EncodeInto_inverse pixels small
    refine ⟨block, emits, fun _ => readPayloadGeom_readsAll (decodes target _ ?_) (announced small)⟩
    simpa using (announced small).symm
  · have filtered_length := length_spatialFilterSubInto pixels []
    obtain ⟨stage1, emits1, _, decodes1⟩ :=
      lz4EncodeInto_inverse (spatialFilterSubInto pixels []) (by omega)
    have stage : encoded (lz4EncodeInto (spatialFilterSubInto pixels [])) = .ok stage1 :=
      encoded_of_emits emits1
    obtain ⟨block, emits2, _, decodes2⟩ := lz4EncodeInto_inverse stage1 (stageSmall stage1 stage)
    refine ⟨block, ?_, fun _ => readPayloadGeom_readsAll ?_ (announced small)⟩
    · intro written
      simp only [writePayloadGeom, stage]
      exact emits2 written
    · have outer := decodes2 target none (by simp)
      have inner := decodes1 target (some expectedLen) (by simp [filtered_length, announced small])
      simp only [decodePixels, outer, inner, bind, Except.bind]
      rw [spatialUnfilter_spatialFilter whole]
      rfl

private theorem decodePixels_safe {compression : UInt8} {w h expectedLen : Nat} {wire : Bytes}
    (w_small : w ≤ 65535) (h_small : h ≤ 65535) (wire_small : wire.length ≤ maxMessageBytes) :
    Checked.Safe (decodePixels target compression w h expectedLen wire) fun pixels =>
      pixels.length ≤ if compression = Compression.lz4DeltaQ2 then 4 * maxMessageBytes
        else maxMessageBytes := by
  have cap : maxMessageBytes = 16777216 := rfl
  unfold decodePixels
  split
  · exact wire_small
  · exact (lz4Decode_safe _ wire_small).mono fun out property => property.1
  · refine (lz4Decode_safe none wire_small).bind fun stage1 stage1_small => ?_
    refine (lz4Decode_safe _ stage1_small.1).bind fun out out_small => ?_
    exact (length_spatialUnfilterSubInPlace out).trans_le out_small.1
  · refine (lz4Decode_safe _ wire_small).bind fun qbuf qbuf_small => ?_
    obtain ⟨qbuf_small, announced⟩ := qbuf_small
    have unfiltered := length_spatialUnfilterSubInPlace qbuf
    have area : (w + 1) / 2 * ((h + 1) / 2) ≤ 32768 * 32768 :=
      Nat.mul_le_mul (by omega) (by omega)
    have product := announced _ rfl
    rw [target.saturatingMul_eq (Nat.le_trans area (by decide)), eq_comm,
      target.saturatingMul_eq_iff (by omega)] at product
    refine (upsample2x2Bgra_safe (by omega) (by omega)).mono fun out property => ?_
    exact property.2
  · trivial

theorem consumes_payloadGeom (compression : UInt8) {w h : Nat} (w_small : w ≤ 65535)
    (h_small : h ≤ 65535) (expectedLen : Nat) :
    Consumes maxMessageBytes (readPayloadGeom target compression w h expectedLen) fun pixels =>
      pixels.length = expectedLen ∧
        pixels.length ≤ if compression = Compression.lz4DeltaQ2 then 4 * maxMessageBytes
          else maxMessageBytes := by
  intro wire wire_small
  rw [run_readPayloadGeom]
  refine (decodePixels_safe w_small h_small wire_small).bind fun pixels small => ?_
  by_cases wrong : pixels.length ≠ expectedLen
  · rw [if_pos wrong]
    trivial
  · rw [if_neg wrong]
    exact ⟨⟨not_not.mp wrong, small⟩, List.nil_suffix⟩

end Payloads

end ExoBrowser.Proto
