import ExoBrowser.Library.Recoding
import ExoBrowser.Proto.FrameProperties
import ExoBrowser.Proto.HalfResolution

/-!
# Decoding and encoding again

The decoder accepts more than the encoder writes: padded numbers, any byte for a flag, unknown
mask bits, foreign blocks. What it makes of them is written back without loss.
-/

set_option autoImplicit false

namespace ExoBrowser.Proto

open Library

/-! ## Fields -/

section Fields

/-- A flag or an enumeration is one byte, whatever byte was read. -/
theorem takes_readU8 : Takes readU8 fun _ taken => ∀ v, Within (writeU8 v) taken := by
  intro input value rest read
  cases input with
  | nil => cases read
  | cons byte input =>
      cases read
      exact ⟨1, Nat.add_comm _ 1, fun v => ⟨[v], emits_extend _, Nat.le_refl 1⟩⟩

theorem takes_readSlice (count : Nat) (missing : Error) :
    Takes (readSlice count missing) fun bytes taken => bytes.length = count ∧ taken = count := by
  intro input value rest read
  rw [run_readSlice] at read
  split at read
  case isTrue fits =>
    cases read
    refine ⟨count, ?_, List.length_take_of_le fits, rfl⟩
    rw [List.length_drop]
    omega
  case isFalse => cases read

theorem within_extend {bytes : Bytes} {size : Nat} (fits : bytes.length ≤ size) : Within (extend bytes) size :=
  ⟨bytes, emits_extend bytes, fits⟩

theorem takes_fixed {α : Type} (width : Nat) (convert : Nat → α) (value : α → Nat) :
    Takes (do return convert (ofLeBytes (← readSlice width .unexpectedEof)) : Wire α)
      fun read taken => Within (extend (toLeBytes width (value read))) taken := by
  refine (takes_readSlice width .unexpectedEof).bind fun bytes taken sized => .pure ?_
  exact within_extend (by rw [length_toLeBytes, sized.2]; exact Nat.le_refl _)

theorem takes_readU16 : Takes readU16 fun v taken => Within (writeU16 v) taken :=
  takes_fixed 2 UInt16.ofNat UInt16.toNat

theorem takes_readU32 : Takes readU32 fun v taken => Within (writeU32 v) taken :=
  takes_fixed 4 UInt32.ofNat UInt32.toNat

theorem takes_readU64 : Takes readU64 fun v taken => Within (writeU64 v) taken :=
  takes_fixed 8 UInt64.ofNat UInt64.toNat

theorem takes_readI32 : Takes readI32 fun v taken => Within (writeI32 v) taken :=
  takes_fixed 4 (fun value => (UInt32.ofNat value).toInt32) fun v => v.toUInt32.toNat

theorem takes_readBool : Takes readBool fun flag taken => Within (writeBool flag) taken :=
  takes_readU8.bind fun _ _ within => .pure (within _)

/-- After `taken` groups the value has at most seven bits for each, padding included. -/
theorem takes_readVarintLoop (passes : Nat) (result shift : UInt32)
    (position : shift.toNat + 7 * passes ≤ 35) (below : result.toNat < 2 ^ shift.toNat) :
    Takes (readVarintLoop passes result shift) fun v taken =>
      0 < taken ∧ v.toNat < 2 ^ (shift.toNat + 7 * taken) := by
  induction passes generalizing result shift with
  | zero => exact .throw _
  | succ passes ih =>
      intro input v rest read
      cases input with
      | nil => cases read
      | cons byte input =>
          change (if _ then _ else _ : Wire UInt32).run input = _ at read
          have width : 2 ^ (shift.toNat + 7) = 2 ^ shift.toNat * 128 := Nat.pow_add _ _ 7
          have group : ((byte &&& 0x7f).toUInt32 <<< shift).toNat < 2 ^ (shift.toNat + 7) := by
            have low := Nat.mul_lt_mul_of_pos_right (Nat.mod_lt byte.toNat (by decide : 0 < 128))
              (Nat.two_pow_pos shift.toNat)
            rw [UInt32.toNat_shiftLeft, group_value, Nat.mod_eq_of_lt (by omega : shift.toNat < 32),
              Nat.shiftLeft_eq, width, Nat.mul_comm (2 ^ shift.toNat)]
            exact Nat.lt_of_le_of_lt (Nat.mod_le _ _) low
          have gathered : (result ||| ((byte &&& 0x7f).toUInt32 <<< shift)).toNat < 2 ^ (shift.toNat + 7) := by
            rw [UInt32.toNat_or]
            refine Nat.or_lt_two_pow (Nat.lt_of_lt_of_le below ?_) group
            exact Nat.pow_le_pow_right (by decide) (Nat.le_add_right _ 7)
          split at read
          case isTrue => cases read
          case isFalse =>
            split at read
            case isTrue =>
              cases read
              exact ⟨1, Nat.add_comm _ 1, Nat.one_pos, gathered⟩
            case isFalse =>
              have next_shift : 0 < passes → (shift + 7).toNat = shift.toNat + 7 := by
                intro some_pass
                rw [UInt32.toNat_add]
                simp only [UInt32.reduceToNat]
                omega
              cases passes with
              | zero => cases read
              | succ passes =>
                  have shifted := next_shift (Nat.succ_pos passes)
                  obtain ⟨taken, length, _, small⟩ := ih _ (shift + 7) (by omega)
                    (by rw [shifted]; exact gathered) input v rest read
                  refine ⟨taken + 1, ?_, Nat.succ_pos _, ?_⟩
                  · rw [List.length_cons, length]
                    omega
                  · rw [shifted] at small
                    exact Nat.lt_of_lt_of_eq small (congrArg _ (by omega))

/-- No form of a number is shorter than the one that is written. -/
theorem takes_leb128 : Takes readVarint fun v taken => (leb128 v.toNat).length ≤ taken := by
  refine (takes_readVarintLoop 5 0 0 (by decide) (by decide)).mono fun v taken bounded => ?_
  obtain ⟨some_group, small⟩ := bounded
  rw [UInt32.toNat_zero, Nat.zero_add, Nat.pow_mul] at small
  exact length_leb128_le some_group small

theorem takes_readVarint : Takes readVarint fun v taken => Within (writeVarint v) taken :=
  takes_leb128.mono fun v _ short => ⟨_, emits_writeVarint v, short⟩

theorem takes_readData : Takes readData fun data taken => Within (writeData data) taken := by
  refine takes_readVarint.bind fun len taken within => ?_
  refine (takes_readSlice len.toNat .lengthOverflow).mono fun data more sized => ?_
  have same : UInt32.ofNat data.length = len := by rw [sized.1, UInt32.ofNat_toNat]
  rw [writeData, same]
  exact within.seq (within_extend (by rw [sized.1, sized.2]))

theorem strBytes_of_fromUTF8 {bytes : Bytes} {s : String}
    (valid : String.fromUTF8? ⟨bytes.toArray⟩ = some s) : strBytes s = bytes := by
  rw [String.fromUTF8?] at valid
  split at valid
  case isTrue =>
    cases valid
    rfl
  case isFalse => cases valid

theorem takes_readStr : Takes readStr fun s taken => Within (writeStr s) taken := by
  refine takes_readData.bind fun bytes taken within => ?_
  split
  case h_1 s valid =>
    refine .pure ?_
    rw [writeStr, strBytes_of_fromUTF8 valid]
    exact within
  case h_2 => exact .throw _

end Fields

/-! ## Parts of messages -/

section Parts

theorem takes_bytes32 : Takes readBytes32 fun bytes taken => Within (extend bytes) taken := by
  refine (takes_readSlice 32 .unexpectedEof).bind fun bytes taken sized => ?_
  rw [dif_pos sized.1]
  exact .pure (within_extend (by rw [sized.1, sized.2]))

theorem takes_transform :
    Takes readTransform fun transform taken => Within (forM transform.val writeI32) taken := by
  refine takes_readI32.bind fun a _ fitsA => takes_readI32.bind fun b _ fitsB =>
    takes_readI32.bind fun c _ fitsC => takes_readI32.bind fun d _ fitsD =>
    takes_readI32.bind fun e _ fitsE => takes_readI32.bind fun f _ fitsF => .pure ?_
  have emitters : forM [a, b, c, d, e, f] writeI32 = (do
      writeI32 a; writeI32 b; writeI32 c; writeI32 d; writeI32 e; writeI32 f) := by
    simp only [List.forM_cons, List.forM_nil, bind_pure_unit]
  simp only [emitters]
  exact fitsA.seq <| fitsB.seq <| fitsC.seq <| fitsD.seq <| fitsE.seq fitsF

theorem takes_scrollPhase (v : UInt8) : Takes (ScrollPhase.fromU8 v) fun _ taken => taken = 0 := by
  unfold ScrollPhase.fromU8
  split <;> first | exact .pure rfl | exact .throw _

theorem takes_layerKind (v : UInt8) : Takes (LayerKind.fromU8 v) fun _ taken => taken = 0 := by
  unfold LayerKind.fromU8
  split <;> first | exact .pure rfl | exact .throw _

theorem takes_cursorShape (v : UInt8) : Takes (CursorShape.fromU8 v) fun _ taken => taken = 0 := by
  unfold CursorShape.fromU8
  split <;> first | exact .pure rfl | exact .throw _

/-- An enumeration is written as one byte. -/
theorem takes_enumeration {α γ : Type} {convert : UInt8 → Wire α} {readers : α → Wire γ}
    {good : γ → Nat → Prop} (takes : ∀ v, Takes (convert v) fun _ taken => taken = 0) (toU8 : α → UInt8)
    (rest : ∀ value taken, Within (writeU8 (toU8 value)) taken →
      Takes (readers value) fun result more => good result (taken + more)) :
    Takes (readU8 >>= fun v => convert v >>= readers) good := by
  have field : Takes (readU8 >>= convert) fun value taken => Within (writeU8 (toU8 value)) taken :=
    takes_readU8.bind fun v taken within => (takes v).mono fun value more none_more => by
      subst none_more
      exact within (toU8 value)
  rw [← bind_assoc]
  exact field.bind rest

theorem takes_contentRef :
    Takes readContentRef fun content taken => Within (writeContentRef content) taken := by
  refine takes_readU8.bind fun v taken kind => ?_
  split
  case h_1 => exact .pure (kind 0)
  case h_2 => exact takes_readU32.bind fun rgba _ fits => .pure ((kind 1).seq fits)
  case h_3 => exact takes_readU64.bind fun track _ fits => .pure ((kind 2).seq fits)
  case h_4 => exact takes_bytes32.bind fun hash _ fits => .pure ((kind 3).seq fits)
  case h_5 => exact .throw _

theorem takes_drawCmd : Takes readDrawCmd fun cmd taken => Within (writeDrawCmd cmd) taken := by
  refine takes_readU8.bind fun v taken kind => ?_
  split
  case h_1 =>
    exact takes_readI32.bind fun x _ fitsX => takes_readI32.bind fun y _ fitsY =>
      takes_readU32.bind fun w _ fitsW => takes_readU32.bind fun h _ fitsH =>
      takes_readU32.bind fun rgba _ fits => .pure
        ((kind 1).seq <| fitsX.seq <| fitsY.seq <| fitsW.seq <| fitsH.seq fits)
  case h_2 =>
    exact takes_readI32.bind fun x _ fitsX => takes_readI32.bind fun y _ fitsY =>
      takes_readU32.bind fun w _ fitsW => takes_readU32.bind fun h _ fitsH =>
      takes_readU32.bind fun rgba _ fits => takes_readU16.bind fun lineWidth _ fitsLine => .pure
        ((kind 2).seq <| fitsX.seq <| fitsY.seq <| fitsW.seq <| fitsH.seq <| fits.seq fitsLine)
  case h_3 =>
    exact takes_readI32.bind fun x _ fitsX => takes_readI32.bind fun y _ fitsY =>
      takes_readU16.bind fun fontSize _ fitsSize => takes_readU32.bind fun rgba _ fits =>
      takes_readStr.bind fun text _ fitsText => .pure
        ((kind 3).seq <| fitsX.seq <| fitsY.seq <| fitsSize.seq <| fits.seq fitsText)
  case h_4 =>
    exact takes_readI32.bind fun x _ fitsX => takes_readI32.bind fun y _ fitsY =>
      takes_readU32.bind fun w _ fitsW => takes_readU32.bind fun h _ fitsH =>
      takes_bytes32.bind fun hash _ fits => .pure
        ((kind 4).seq <| fitsX.seq <| fitsY.seq <| fitsW.seq <| fitsH.seq fits)
  case h_5 =>
    exact takes_readI32.bind fun x _ fitsX => takes_readI32.bind fun y _ fitsY =>
      takes_readU32.bind fun w _ fitsW => takes_readU32.bind fun h _ fitsH => .pure
        ((kind 5).seq <| fitsX.seq <| fitsY.seq <| fitsW.seq fitsH)
  case h_6 => exact .pure (kind 6)
  case h_7 => exact .throw _

end Parts

/-! ## Images -/

/-- What the encoder needs of an image. Only halving looks at its sides. -/
def ImageFits (w h : UInt16) (compression : UInt8) (pixels : Bytes) : Prop :=
  compression = Compression.raw ∨ compression = Compression.zstd ∨ compression = Compression.zstdDelta ∨
    (compression = Compression.lz4DeltaQ2 ∧ pixels.length = w.toNat * h.toNat * 4)

section Images

variable {target encoder : Target}

theorem mul_eq {left right product : Nat} (returned : target.mul left right = .ok product) :
    product = left * right := by
  unfold Target.mul at returned
  split at returned
  case isTrue =>
    cases returned
    rfl
  case isFalse => cases returned

/-- An enlarged image is as large as announced, whatever it is made of. -/
theorem upsample_length (qsrc : Bytes) (w h : Nat) :
    Checked.Yields (upsample2x2Bgra target qsrc w h) fun out => out.length = w * h * 4 := by
  refine .bind fun pixels counted => .bind fun size sized => ?_
  have blank : (List.replicate size (0 : UInt8)).length = w * h * 4 := by
    rw [List.length_replicate, mul_eq sized, mul_eq counted]
  refine .ite (fun _ => .pure blank) fun _ => .bind fun _ _ => .bind fun _ _ => ?_
  refine .ite (fun _ => .pure blank) fun _ => .bind fun _ _ => .bind fun _ _ => ?_
  refine .foldlM (fun out : Bytes => out.length = w * h * 4) (fun out length y _ => ?_) blank
  refine .bind fun _ _ => .bind fun _ _ => .bind fun _ _ => .bind fun _ _ => ?_
  intro next overwritten
  exact (Checked.Yields.overwrite out _ _ next overwritten).trans length

theorem decodePixels_fits {w h : UInt16} {compression : UInt8} (expectedLen : Nat) (wire : Bytes) :
    Checked.Yields (decodePixels target compression w.toNat h.toNat expectedLen wire)
      (ImageFits w h compression) := by
  unfold decodePixels
  split
  case h_1 => exact .pure (.inl rfl)
  case h_2 => exact fun _ _ => .inr (.inl rfl)
  case h_3 => exact .bind fun _ _ => .bind fun _ _ => .pure (.inr (.inr (.inl rfl)))
  case h_4 =>
    refine .bind fun qbuf _ => ?_
    intro pixels enlarged
    exact .inr (.inr (.inr ⟨rfl, upsample_length _ _ _ pixels enlarged⟩))
  case h_5 =>
    intro pixels failed
    cases failed

theorem takes_payloadGeom (w h : UInt16) (compression : UInt8) (expectedLen : Nat) :
    Takes (readPayloadGeom target compression w.toNat h.toNat expectedLen) fun pixels _ =>
      ImageFits w h compression pixels := by
  intro wire pixels rest read
  rw [run_readPayloadGeom] at read
  obtain ⟨decoded, found, checked⟩ := Checked.bind_eq_ok read
  split at checked
  case isTrue => cases checked
  case isFalse =>
    cases checked
    exact ⟨wire.length, rfl, decodePixels_fits expectedLen wire pixels found⟩

/-- Halving needs the pixels of both sides and no others. There may be none. -/
theorem downsample_length {src : Bytes} {w h : Nat} (length : src.length = w * h * 4)
    (small : src.length ≤ 4 * maxMessageBytes) (w_le : w ≤ 65535) (h_le : h ≤ 65535) :
    Checked.Returns (downsample2x2Bgra encoder src w h) fun down => down.length ≤ src.length := by
  have cap : maxMessageBytes = 16777216 := rfl
  have wide := encoder.usizeMax_ge
  by_cases empty : w = 0 ∨ h = 0
  · have none : src.length = 0 := by
      rw [length]
      rcases empty with rfl | rfl <;> simp
    have quarter : (w + 1) / 2 * ((h + 1) / 2) * 4 = 0 := by
      rcases empty with rfl | rfl <;> simp
    have columns : (w + 1) / 2 * ((h + 1) / 2) = 0 := by omega
    refine .step (encoder.mul_of_le (by omega)) (.step (encoder.mul_of_le (by omega))
      (.step (encoder.mul_of_le (by omega)) ?_))
    refine (Checked.Returns.foldlM_range (fun _ (out : Bytes) => out = []) _ (fun qy qy_lt out drawn => ?_)
      rfl).mono fun out drawn => by rw [drawn]; exact Nat.zero_le _
    -- Without columns the rows are empty, and without rows there is no pass.
    have no_columns : w = 0 := empty.resolve_right (by omega)
    subst no_columns
    have row (y : Nat) : Checked.Returns (rowSlice encoder src y (0 * 4)) fun _ => True :=
      ⟨_, rowSlice_eq_ok (by omega) (by omega), trivial⟩
    exact (row _).bind fun _ _ => (row _).bind fun _ _ => ⟨out, rfl, drawn⟩
  · have area : w * h = h * w := Nat.mul_comm w h
    have sized : src.length = h * w * 4 := by omega
    refine (downsample2x2Bgra_draws (by omega) (by omega) (draws_channelsOf sized) sized (by omega)).mono
      fun down halved => ?_
    have half_le : (h + 1) / 2 * ((w + 1) / 2) ≤ h * w := Nat.mul_le_mul (by omega) (by omega)
    omega

/-- An image never grows much: three stages at most, and each of them adds little. -/
theorem within_payloadGeom {w h : UInt16} {compression : UInt8} {pixels : Bytes}
    (fits : ImageFits w h compression pixels) (small : pixels.length ≤ 4 * maxMessageBytes) :
    Within (writePayloadGeom encoder compression w h pixels) (2 * pixels.length + 24) := by
  have cap : maxMessageBytes = 16777216 := rfl
  have filtered (image : Bytes) : (spatialFilterSubInto image []).length = image.length :=
    length_spatialFilterSubInto image []
  have lift {α : Type} {computation : Checked Error α} {value : α} {emitter : α → Wire Unit} {size : Nat}
      (result : computation = .ok value) (within : Within (emitter value) size) :
      Within ((liftM computation : Wire α) >>= emitter) size := by
    subst result
    exact within
  rcases fits with rfl | rfl | rfl | ⟨rfl, length⟩
  · exact within_extend (by omega)
  · exact (within_lz4EncodeInto pixels).mono (by omega)
  · obtain ⟨stage1, emits, stage1_length⟩ := within_lz4EncodeInto (spatialFilterSubInto pixels [])
    have stage : encoded (lz4EncodeInto (spatialFilterSubInto pixels [])) = .ok stage1 :=
      encoded_of_emits emits
    rw [filtered] at stage1_length
    exact lift stage ((within_lz4EncodeInto stage1).mono (by omega))
  · have halves : Checked.Returns (downsample2x2Bgra encoder pixels w.toNat h.toNat) _ :=
      downsample_length length small (Nat.le_of_lt_succ w.toNat_lt) (Nat.le_of_lt_succ h.toNat_lt)
    obtain ⟨down, halving, down_length⟩ := halves
    have within := within_lz4EncodeInto (spatialFilterSubInto down [])
    rw [filtered] at within
    exact lift halving (within.mono (by omega))

end Images

/-! ## Messages -/

def Message.compression : Message → Option UInt8
  | .rawFrame _ _ _ _ _ compression _ => some compression
  | .subframe _ _ _ _ _ _ _ compression _ => some compression
  | .tileData _ _ _ _ _ compression _ => some compression
  | _ => none

def Message.ImageFits : Message → Prop
  | .rawFrame _ width height _ _ compression pixels => Proto.ImageFits width height compression pixels
  | .subframe _ _ _ w h _ _ compression pixels => Proto.ImageFits w h compression pixels
  | .tileData _ w h _ _ compression pixels => Proto.ImageFits w h compression pixels
  | _ => True

/-- What is decoded from `taken` bytes under a tag. -/
structure Recodes (encoder : Target) (tag : UInt32) (m : Message) (taken : Nat) : Prop where
  tag : m.tag = tag
  image : m.ImageFits
  plain : m.compression = none → m.WireValid ∧ Within (m.encodePayload encoder) taken

section Messages

variable {target encoder : Target}

theorem takes_decodeFields (tag : UInt32) :
    Takes (decodeFields target tag) (Recodes encoder tag) := by
  have u8 : Takes readU8 fun v taken => Within (writeU8 v) taken :=
    takes_readU8.mono fun v _ within => within v
  have u16 := takes_readU16
  have u32 := takes_readU32
  have u64 := takes_readU64
  have i32 := takes_readI32
  have bool := takes_readBool
  have str := takes_readStr
  have data := takes_readData
  have bytes32 := takes_bytes32
  have done {tag : UInt32} {m : Message} {taken : Nat} (same : m.tag = tag) (image : m.ImageFits)
      (valid : m.WireValid) (within : Within (m.encodePayload encoder) taken) :
      Recodes encoder tag m taken := ⟨same, image, fun _ => ⟨valid, within⟩⟩
  have image {tag : UInt32} {m : Message} {taken : Nat} (same : m.tag = tag) (image : m.ImageFits)
      (compressed : m.compression.isSome) : Recodes encoder tag m taken :=
    ⟨same, image, fun none => by rw [none] at compressed; cases compressed⟩
  unfold decodeFields
  split
  · exact u32.bind fun _ _ a => u16.bind fun _ _ b => u16.bind fun _ _ c => u16.bind fun _ _ d =>
      u32.bind fun _ _ e => str.bind fun _ _ f =>
      .pure (done rfl trivial trivial (a.seq <| b.seq <| c.seq <| d.seq <| e.seq f))
  · exact u32.bind fun _ _ a => u64.bind fun _ _ b => u32.bind fun _ _ c => u32.bind fun _ _ d =>
      str.bind fun _ _ e => .pure (done rfl trivial trivial (a.seq <| b.seq <| c.seq <| d.seq e))
  · exact u16.bind fun _ _ a => u16.bind fun _ _ b => u16.bind fun _ _ c =>
      .pure (done rfl trivial trivial (a.seq <| b.seq c))
  · exact str.bind fun _ _ a => .pure (done rfl trivial trivial a)
  · exact u8.bind fun _ _ a => .pure (done rfl trivial trivial a)
  · exact .pure (done rfl trivial trivial .pure)
  · exact u64.bind fun _ _ a => .pure (done rfl trivial trivial a)
  · exact u64.bind fun _ _ a => i32.bind fun _ _ b => i32.bind fun _ _ c => u32.bind fun _ _ d =>
      .pure (done rfl trivial trivial (a.seq <| b.seq <| c.seq d))
  · exact u64.bind fun _ _ a => i32.bind fun _ _ b => i32.bind fun _ _ c => u32.bind fun _ _ d =>
      bool.bind fun _ _ e => u32.bind fun _ _ f =>
      .pure (done rfl trivial trivial (a.seq <| b.seq <| c.seq <| d.seq <| e.seq f))
  · exact u64.bind fun _ _ a => u32.bind fun _ _ b => u32.bind fun _ _ c => bool.bind fun _ _ d =>
      .pure (done rfl trivial trivial (a.seq <| b.seq <| c.seq d))
  · exact u64.bind fun _ _ a => u32.bind fun _ _ b => i32.bind fun _ _ c => i32.bind fun _ _ d =>
      takes_enumeration takes_scrollPhase ScrollPhase.toU8 fun _ _ e =>
      .pure (done rfl trivial trivial (a.seq <| b.seq <| c.seq <| d.seq e))
  · exact u32.bind fun _ _ a => .pure (done rfl trivial trivial a)
  · exact takes_enumeration takes_cursorShape CursorShape.toU8 fun _ _ a => u16.bind fun _ _ b =>
      u16.bind fun _ _ c => u64.bind fun _ _ d =>
      .pure (done rfl trivial trivial (a.seq <| b.seq <| c.seq d))
  · exact u8.bind fun _ _ a => .pure (done rfl trivial trivial a)
  · exact str.bind fun _ _ a => .pure (done rfl trivial trivial a)
  · exact str.bind fun _ _ a => .pure (done rfl trivial trivial a)
  · exact u64.bind fun _ _ _ => u16.bind fun width _ _ => u16.bind fun height _ _ =>
      u32.bind fun _ _ _ => u32.bind fun _ _ _ => u8.bind fun compression _ _ =>
      (takes_payloadGeom width height compression _).bind fun _ _ fits => .pure (image rfl fits rfl)
  · exact u32.bind fun _ _ a => u32.bind fun _ _ b =>
      takes_enumeration takes_layerKind LayerKind.toU8 fun _ _ c => u16.bind fun _ _ d =>
      u16.bind fun _ _ e => takes_transform.bind fun _ _ f => u8.bind fun _ _ g =>
      takes_contentRef.bind fun _ _ i => .pure (done rfl trivial trivial
        (a.seq <| b.seq <| c.seq <| d.seq <| e.seq <| f.seq <| g.seq i))
  · have opacity : Takes readU8 fun v taken => Within (writeU8 v) taken := u8
    have size : Takes (do return (← readU16, ← readU16) : Wire (UInt16 × UInt16)) fun size taken =>
        Within (do writeU16 size.1; writeU16 size.2) taken :=
      u16.bind fun _ _ a => u16.bind fun _ _ b => .pure (a.seq b)
    have damage : Takes (do return (← readU16, ← readU16, ← readU16, ← readU16) :
          Wire (UInt16 × UInt16 × UInt16 × UInt16)) fun damage taken =>
        Within (do
          writeU16 damage.1; writeU16 damage.2.1
          writeU16 damage.2.2.1; writeU16 damage.2.2.2) taken :=
      u16.bind fun _ _ a => u16.bind fun _ _ b => u16.bind fun _ _ c => u16.bind fun _ _ d =>
        .pure (a.seq <| b.seq <| c.seq d)
    refine u32.bind fun _ _ a => u32.bind fun mask _ b => (Takes.when takes_transform).bind fun _ _ c =>
      (Takes.when opacity).bind fun _ _ d => (Takes.when size).bind fun _ _ e =>
      (Takes.when takes_contentRef).bind fun _ _ f => (Takes.when damage).bind fun _ _ g =>
      .pure (done rfl trivial ?_
        (a.seq <| b.seq <| c.2.seq <| d.2.seq <| e.2.seq <| f.2.seq g.2))
    have unmasked {bits : UInt32} (clear : mask &&& bits = 0) : ¬ mask &&& bits ≠ 0 := not_not_intro clear
    exact ⟨c.1 ∘ unmasked, d.1 ∘ unmasked, e.1 ∘ unmasked, f.1 ∘ unmasked, g.1 ∘ unmasked⟩
  · exact u32.bind fun _ _ a => .pure (done rfl trivial trivial a)
  · exact u64.bind fun _ _ a => .pure (done rfl trivial trivial a)
  · exact u64.bind fun _ _ _ => u16.bind fun _ _ _ => u16.bind fun _ _ _ => u16.bind fun w _ _ =>
      u16.bind fun h _ _ => u32.bind fun _ _ _ => u32.bind fun _ _ _ => u8.bind fun compression _ _ =>
      (takes_payloadGeom w h compression _).bind fun _ _ fits => .pure (image rfl fits rfl)
  · exact u64.bind fun _ _ _ => u16.bind fun w _ _ => u16.bind fun h _ _ =>
      u32.bind fun _ _ _ => u32.bind fun _ _ _ => u8.bind fun compression _ _ =>
      (takes_payloadGeom w h compression _).bind fun _ _ fits => .pure (image rfl fits rfl)
  · exact u64.bind fun _ _ a => u16.bind fun _ _ b => u16.bind fun _ _ c => u16.bind fun _ _ d =>
      u16.bind fun _ _ e => u64.bind fun _ _ f =>
      .pure (done rfl trivial trivial (a.seq <| b.seq <| c.seq <| d.seq <| e.seq f))
  · exact bytes32.bind fun _ _ a => u8.bind fun _ _ b => data.bind fun _ _ c =>
      .pure (done rfl trivial trivial (a.seq <| b.seq c))
  · refine u64.bind fun _ _ a => u32.bind fun _ _ b => takes_readVarint.bind fun count _ c =>
      (takes_drawCmd.readMany count.toNat).bind fun commands _ d =>
      .pure (done rfl trivial trivial (a.seq <| b.seq ?_))
    have counted : UInt32.ofNat commands.length = count := by rw [d.1, UInt32.ofNat_toNat]
    rw [counted]
    exact c.seq d.2
  · exact u64.bind fun _ _ a => u8.bind fun _ _ b => u8.bind fun _ _ c => u32.bind fun _ _ d =>
      data.bind fun _ _ e => .pure (done rfl trivial trivial (a.seq <| b.seq <| c.seq <| d.seq e))
  · exact u64.bind fun _ _ a => u32.bind fun _ _ b => bool.bind fun _ _ c => u8.bind fun _ _ d =>
      u32.bind fun _ _ e => data.bind fun _ _ f =>
      .pure (done rfl trivial trivial (a.seq <| b.seq <| c.seq <| d.seq <| e.seq f))
  · exact u32.bind fun _ _ a => str.bind fun _ _ b => .pure (done rfl trivial trivial (a.seq b))
  · exact u32.bind fun _ _ a => .pure (done rfl trivial trivial a)
  · exact u32.bind fun _ _ a => .pure (done rfl trivial trivial a)
  · exact u32.bind fun _ _ a => str.bind fun _ _ b => str.bind fun _ _ c =>
      .pure (done rfl trivial trivial (a.seq <| b.seq c))
  · exact u32.bind fun _ _ a => .pure (done rfl trivial trivial a)
  · exact u32.bind fun _ _ a => .pure (done rfl trivial trivial a)
  · exact u32.bind fun _ _ a => str.bind fun _ _ b => .pure (done rfl trivial trivial (a.seq b))
  · exact u32.bind fun _ _ a => str.bind fun _ _ b => .pure (done rfl trivial trivial (a.seq b))
  · exact bool.bind fun _ _ a => bool.bind fun _ _ b => bool.bind fun _ _ c =>
      .pure (done rfl trivial trivial (a.seq <| b.seq c))
  · exact bytes32.bind fun _ _ a => .pure (done rfl trivial trivial a)
  · exact bytes32.bind fun _ _ a => .pure (done rfl trivial trivial a)
  · exact str.bind fun _ _ a => .pure (done rfl trivial trivial a)
  · exact .throw _

/-- Every image that was decoded has a payload that a frame can hold. -/
theorem within_image {m : Message} (image : m.ImageFits) (exact : m.Exact)
    (compressed : m.compression ≠ none) : Within (m.encodePayload encoder) (2 ^ 31) := by
  have cap : maxMessageBytes = 16777216 := rfl
  have field (width value : Nat) : Within (extend (toLeBytes width value)) width :=
    within_extend (Nat.le_of_eq (length_toLeBytes width value))
  have mark (v : UInt8) : Within (writeU8 v) 1 := within_extend (Nat.le_refl 1)
  have pixels_small {stride : UInt32} {height : UInt16} {compression : UInt8} {pixels : Bytes}
      (exact : PixelsExact stride height compression pixels) : pixels.length ≤ 4 * maxMessageBytes := by
    have capped := exact.2
    split at capped <;> omega
  cases m with
  | rawFrame tsUs width height stride format compression pixels =>
      have small := pixels_small exact
      exact ((field 8 _).seq <| (field 2 _).seq <| (field 2 _).seq <| (field 4 _).seq <|
        (field 4 _).seq <| (mark compression).seq (within_payloadGeom image small)).mono (by omega)
  | subframe tsUs x y w h stride format compression pixels =>
      have small := pixels_small exact
      exact ((field 8 _).seq <| (field 2 _).seq <| (field 2 _).seq <| (field 2 _).seq <|
        (field 2 _).seq <| (field 4 _).seq <| (field 4 _).seq <|
        (mark compression).seq (within_payloadGeom image small)).mono (by omega)
  | tileData hash w h stride format compression pixels =>
      have small := pixels_small exact
      exact ((field 8 _).seq <| (field 2 _).seq <| (field 2 _).seq <| (field 4 _).seq <|
        (field 4 _).seq <| (mark compression).seq (within_payloadGeom image small)).mono (by omega)
  | _ => exact absurd rfl compressed

/-- An image that is sent as it is, or in one stage, is sent without loss. -/
theorem wireValid_of_exact {m : Message} (exact : m.Exact)
    (simple : m.compression = some Compression.raw ∨ m.compression = some Compression.zstd) :
    m.WireValid := by
  have pixelsValid {stride : UInt32} {height : UInt16} {compression : UInt8} {pixels : Bytes}
      (exact : PixelsExact stride height compression pixels)
      (simple : some compression = some Compression.raw ∨ some compression = some Compression.zstd) :
      PixelsValid stride height compression pixels := by
    refine ⟨exact.1, simple.imp Option.some.inj fun block => .inl ⟨Option.some.inj block, ?_⟩⟩
    have capped := exact.2
    rwa [Option.some.inj block] at capped
  cases m with
  | rawFrame tsUs width height stride format compression pixels => exact pixelsValid exact simple
  | subframe tsUs x y w h stride format compression pixels => exact pixelsValid exact simple
  | tileData hash w h stride format compression pixels => exact pixelsValid exact simple
  | _ => rcases simple with none | none <;> cases none

/-! ## Frames -/

theorem splitFrame_takes {buf payload rest : Bytes} {tag : UInt32}
    (split : splitFrame buf = .ok (some (tag, payload, rest))) :
    (frameBytes tag payload).length + rest.length ≤ buf.length ∧ payload.length ≤ maxMessageBytes := by
  have header : Takes readHeader fun header taken =>
      (leb128 header.1.toNat).length + (leb128 header.2.toNat).length ≤ taken :=
    takes_leb128.bind fun tag taken tag_length => takes_leb128.bind fun len more len_length =>
      .pure (Nat.add_le_add tag_length len_length)
  obtain ⟨bytes, reads, whole, small⟩ := splitFrame_eq_some split
  have cap : maxMessageBytes = 16777216 := rfl
  have announced : (UInt32.ofNat payload.length).toNat = payload.length := by
    rw [UInt32.toNat_ofNat', Nat.mod_eq_of_lt (by omega)]
  obtain ⟨taken, length, short⟩ := header bytes _ [] (by simpa using reads [])
  simp only [announced, List.length_nil] at short length
  refine ⟨?_, small⟩
  simp only [whole, frameBytes, List.length_append]
  omega

theorem splitFrame_of_accepted {buf rest : Bytes} {m : Message}
    (accepted : Message.decode target buf = (.ok (some m), rest)) :
    ∃ tag payload, splitFrame buf = .ok (some (tag, payload, rest)) ∧
      decodePayload target tag payload = .ok m := by
  rw [decode_eq_splitFrame] at accepted
  cases split : splitFrame buf with
  | error halt =>
      rw [split] at accepted
      cases accepted
  | ok found =>
      rw [split] at accepted
      cases found with
      | none => cases accepted
      | some parts =>
          obtain ⟨tag, payload, behind⟩ := parts
          simp only at accepted
          cases decoded : decodePayload target tag payload with
          | error halt =>
              rw [decoded] at accepted
              cases accepted
          | ok msg =>
              rw [decoded] at accepted
              cases accepted
              exact ⟨tag, payload, rfl, decoded⟩

theorem recodes_of_decodePayload {tag : UInt32} {payload : Bytes} {m : Message}
    (decoded : decodePayload target tag payload = .ok m) : Recodes encoder tag m payload.length := by
  unfold decodePayload at decoded
  obtain ⟨⟨msg, p⟩, read, finished⟩ := Checked.bind_eq_ok decoded
  simp only at finished
  split at finished
  case isFalse => cases finished
  case isTrue consumed =>
    cases finished
    obtain ⟨taken, length, recodes⟩ := takes_decodeFields tag payload m p read
    rw [List.isEmpty_iff.mp consumed, List.length_nil, Nat.add_zero] at length
    rwa [length]

end Messages

/-- Whatever a message was decoded from, it is encoded without a panic. Without pixels its frame
becomes no longer than it was, and is decoded to the same message. So is the frame of an image
that is sent as it is or in one stage, if its payload is not too long. -/
theorem decode_reencoded (target encoder : Target) {buf rest : Bytes} {m : Message}
    (accepted : Message.decode target buf = (.ok (some m), rest)) :
    ∃ payload, encoded (m.encodePayload encoder) = .ok payload ∧
      (∀ out, (m.encode encoder).run out = .ok ((), out ++ frameBytes m.tag payload)) ∧
      (m.compression = none → (frameBytes m.tag payload).length + rest.length ≤ buf.length ∧
        Message.decode target (frameBytes m.tag payload) = (.ok (some m), [])) ∧
      (m.compression = some Compression.raw ∨ m.compression = some Compression.zstd →
        payload.length ≤ maxMessageBytes →
          Message.decode target (frameBytes m.tag payload) = (.ok (some m), [])) := by
  have cap : maxMessageBytes = 16777216 := rfl
  have exact := (decode_accepted accepted).2.2
  obtain ⟨tag, original, split, decoded⟩ := splitFrame_of_accepted accepted
  obtain ⟨consumed, original_small⟩ := splitFrame_takes split
  have recodes : Recodes encoder tag m original.length := recodes_of_decodePayload decoded
  have written : Within (m.encodePayload encoder) (2 ^ 31) := by
    by_cases plain : m.compression = none
    · exact (recodes.plain plain).2.mono (by omega)
    · exact within_image recodes.image exact plain
  obtain ⟨payload, emits, payload_small⟩ := written
  have encodes : encoded (m.encodePayload encoder) = .ok payload := encoded_of_emits emits
  have decodes (valid : m.WireValid) (small : payload.length ≤ maxMessageBytes) :
      Message.decode target (frameBytes m.tag payload) = (.ok (some m), []) := by
    have round := (encode_frame encoder target valid encodes small).2 []
    rwa [List.append_nil] at round
  refine ⟨payload, encodes, emits_encode emits (by omega), fun plain => ?_, fun simple small => ?_⟩
  · obtain ⟨valid, again, emitsAgain, shorter⟩ := recodes.plain plain
    have same : again = payload := by
      have twice := (emitsAgain []).symm.trans (emits [])
      cases twice
      rfl
    subst same
    refine ⟨?_, decodes valid (by omega)⟩
    have shorter_length := length_leb128_mono shorter
    rw [recodes.tag]
    simp only [frameBytes, List.length_append] at consumed ⊢
    omega
  · exact decodes (wireValid_of_exact exact simple) small

/-- Padded numbers, and flags that are 7 and 2. -/
theorem decode_reencoded_padded :
    ∃ payload, encoded (Message.encodePayload .bits64 (.clearData true false true)) = .ok payload ∧
      (∀ out, (Message.encode .bits64 (.clearData true false true)).run out =
        .ok ((), out ++ frameBytes 0x80 payload)) ∧
      ((Message.clearData true false true).compression = none →
        (frameBytes 0x80 payload).length + [9].length ≤ [0x80, 0x81, 0x00, 0x83, 0x00, 7, 0, 2, 9].length ∧
        Message.decode .bits64 (frameBytes 0x80 payload) = (.ok (some (.clearData true false true)), [])) ∧
      ((Message.clearData true false true).compression = some Compression.raw ∨
          (Message.clearData true false true).compression = some Compression.zstd →
        payload.length ≤ maxMessageBytes →
          Message.decode .bits64 (frameBytes 0x80 payload) =
            (.ok (some (.clearData true false true)), [])) :=
  decode_reencoded .bits64 .bits64
    (by decide +kernel : Message.decode .bits64 [0x80, 0x81, 0x00, 0x83, 0x00, 7, 0, 2, 9] =
      (.ok (some (.clearData true false true)), [9]))

end ExoBrowser.Proto
