import ExoBrowser.Proto.Codec
import ExoBrowser.Proto.PixelsProperties

/-!
# Payload laws

Each decoder arm takes back what its encoder arm wrote, and on any payload no
arm panics or returns pixels of another size than it announces.
-/

set_option autoImplicit false

namespace ExoBrowser.Proto

open Library

/-! ## Parts of messages -/

section Parts

variable {bound : Nat}

theorem ScrollPhase.fromU8_toU8 (phase : ScrollPhase) : fromU8 phase.toU8 = pure phase := by
  cases phase <;> rfl

theorem LayerKind.fromU8_toU8 (kind : LayerKind) : fromU8 kind.toU8 = pure kind := by
  cases kind <;> rfl

theorem CursorShape.fromU8_toU8 (shape : CursorShape) : fromU8 shape.toU8 = pure shape := by
  cases shape <;> rfl

theorem inverse_bytes32 (bytes : Bytes32) : Inverse bound (extend bytes) readBytes32 bytes := by
  obtain ⟨bytes, length⟩ := bytes
  have field : Inverse bound (extend bytes) (readSlice 32 .unexpectedEof) bytes := by
    rw [← length]
    exact inverse_slice bytes .unexpectedEof
  exact field.convert (dif_pos length)

theorem inverse_transform (transform : Transform) :
    Inverse bound (forM transform.val writeI32) readTransform transform := by
  match transform with
  | ⟨[a, b, c, d, e, f], _⟩ =>
      have emitters : forM [a, b, c, d, e, f] writeI32 = (do
          writeI32 a; writeI32 b; writeI32 c; writeI32 d; writeI32 e; writeI32 f) := by
        simp only [List.forM_cons, List.forM_nil, bind_pure_unit]
      change Inverse bound (forM [a, b, c, d, e, f] writeI32) readTransform _
      rw [emitters]
      exact (inverse_i32 a).seq <| (inverse_i32 b).seq <| (inverse_i32 c).seq <|
        (inverse_i32 d).seq <| (inverse_i32 e).seq (inverse_i32 f).last

theorem inverse_contentRef (content : ContentRef) :
    Inverse bound (writeContentRef content) readContentRef content := by
  cases content with
  | none => exact (inverse_u8 0).convert rfl
  | solid rgba => exact (inverse_u8 1).seq (inverse_u32 rgba).last
  | trackId t => exact (inverse_u8 2).seq (inverse_u64 t).last
  | assetHash h => exact (inverse_u8 3).seq (inverse_bytes32 h).last

theorem inverse_drawCmd (small : bound < 2 ^ 32) (cmd : DrawCommand) :
    Inverse bound (writeDrawCmd cmd) readDrawCmd cmd := by
  cases cmd with
  | fillRect x y w h rgba =>
      exact (inverse_u8 1).seq <| (inverse_i32 x).seq <| (inverse_i32 y).seq <|
        (inverse_u32 w).seq <| (inverse_u32 h).seq (inverse_u32 rgba).last
  | strokeRect x y w h rgba lineWidth =>
      exact (inverse_u8 2).seq <| (inverse_i32 x).seq <| (inverse_i32 y).seq <|
        (inverse_u32 w).seq <| (inverse_u32 h).seq <| (inverse_u32 rgba).seq
        (inverse_u16 lineWidth).last
  | drawText x y fontSize rgba text =>
      exact (inverse_u8 3).seq <| (inverse_i32 x).seq <| (inverse_i32 y).seq <|
        (inverse_u16 fontSize).seq <| (inverse_u32 rgba).seq (inverse_str small text).last
  | drawImage x y w h assetHash =>
      exact (inverse_u8 4).seq <| (inverse_i32 x).seq <| (inverse_i32 y).seq <|
        (inverse_u32 w).seq <| (inverse_u32 h).seq (inverse_bytes32 assetHash).last
  | setClip x y w h =>
      exact (inverse_u8 5).seq <| (inverse_i32 x).seq <| (inverse_i32 y).seq <|
        (inverse_u32 w).seq (inverse_u32 h).last
  | clearClip => exact (inverse_u8 6).convert rfl

/-- No command is empty, so that a payload within the bound has a count that fits `u32`. -/
theorem inverse_drawCmds (small : bound < 2 ^ 32) (commands : List DrawCommand) :
    Inverse bound (forM commands writeDrawCmd)
      (readMany readDrawCmd (UInt32.ofNat commands.length).toNat) commands := by
  have starved : ∀ cmd, readDrawCmd.run [] ≠ .ok (cmd, []) := by
    rintro cmd ⟨⟩
  obtain ⟨symbols, emits, reads⟩ :=
    Inverse.counted (fun cmd (_ : cmd ∈ commands) => inverse_drawCmd small cmd) starved
  refine ⟨symbols, emits, fun fits => ?_⟩
  obtain ⟨counted, readsAll⟩ := reads fits
  have count : (UInt32.ofNat commands.length).toNat = commands.length := by
    rw [UInt32.toNat_ofNat']
    omega
  rwa [count]

end Parts

/-! ## Round trip of a payload -/

def PixelsValid (stride : UInt32) (height : UInt16) (compression : UInt8) (pixels : Bytes) : Prop :=
  pixels.length = stride.toNat * height.toNat ∧ LosslessPayload compression pixels

/-- What the wire format can express exactly. -/
def Message.WireValid : Message → Prop
  | .rawFrame _ _ height stride _ compression pixels => PixelsValid stride height compression pixels
  | .subframe _ _ _ _ h stride _ compression pixels => PixelsValid stride h compression pixels
  | .tileData _ _ h stride _ compression pixels => PixelsValid stride h compression pixels
  | .layerUpdate _ mask transform opacity size content damage =>
      (mask &&& LayerMask.transform = 0 → transform = transformIdentity) ∧
        (mask &&& LayerMask.opacity = 0 → opacity = 255) ∧
        (mask &&& LayerMask.size = 0 → size = (0, 0)) ∧
        (mask &&& LayerMask.contentRef = 0 → content = .none) ∧
        (mask &&& LayerMask.damage = 0 → damage = (0, 0, 0, 0))
  | _ => True

section RoundTrip

variable {target encoder : Target}

private theorem maxMessageBytes_lt : maxMessageBytes < 2 ^ 32 := by decide

private theorem announced_length {stride : UInt32} {height : UInt16} {pixels : Bytes}
    (rows : pixels.length = stride.toNat * height.toNat)
    (small : pixels.length ≤ maxMessageBytes) :
    pixels.length = target.saturatingMul stride.toNat height.toNat := by
  have := maxMessageBytes_lt
  rw [rows, target.saturatingMul_eq (by omega)]

private theorem inverse_pixels {stride : UInt32} {height : UInt16} {compression : UInt8}
    {pixels : Bytes} (valid : PixelsValid stride height compression pixels) (w h : UInt16)
    (width rows : Nat) :
    InverseAtEnd maxMessageBytes (writePayloadGeom encoder compression w h pixels)
      (readPayloadGeom target compression width rows
        (target.saturatingMul stride.toNat height.toNat)) pixels :=
  inverse_payloadGeom valid.2 encoder w h fun small => announced_length valid.1 small

theorem inverse_encodePayload (target encoder : Target) {m : Message} (valid : m.WireValid) :
    InverseAtEnd maxMessageBytes (m.encodePayload encoder) (decodeFields target m.tag) m := by
  have small := maxMessageBytes_lt
  cases m with
  | hello protoVersion viewportW viewportH dprHundredths clientName capabilities =>
      exact ((inverse_u32 protoVersion).seq <| (inverse_u16 viewportW).seq <|
        (inverse_u16 viewportH).seq <| (inverse_u16 dprHundredths).seq <|
        (inverse_u32 capabilities).seq (inverse_str small clientName).last).atEnd
  | welcome protoVersion sessionId features cursorTrackId currentUrl =>
      exact ((inverse_u32 protoVersion).seq <| (inverse_u64 sessionId).seq <|
        (inverse_u32 features).seq <| (inverse_u32 cursorTrackId).seq
        (inverse_str small currentUrl).last).atEnd
  | resize viewportW viewportH dprHundredths =>
      exact ((inverse_u16 viewportW).seq <| (inverse_u16 viewportH).seq
        (inverse_u16 dprHundredths).last).atEnd
  | nav url => exact (inverse_str small url).last.atEnd
  | navAction action => exact (inverse_u8 action).last.atEnd
  | stop => exact (Inverse.pure _).atEnd
  | heartbeat tsUs => exact (inverse_u64 tsUs).last.atEnd
  | inputPointer tsUs x y modifiers =>
      exact ((inverse_u64 tsUs).seq <| (inverse_i32 x).seq <| (inverse_i32 y).seq
        (inverse_u32 modifiers).last).atEnd
  | inputButton tsUs x y button pressed modifiers =>
      exact ((inverse_u64 tsUs).seq <| (inverse_i32 x).seq <| (inverse_i32 y).seq <|
        (inverse_u32 button).seq <| (inverse_bool pressed).seq
        (inverse_u32 modifiers).last).atEnd
  | inputKey tsUs keycode mods down =>
      exact ((inverse_u64 tsUs).seq <| (inverse_u32 keycode).seq <| (inverse_u32 mods).seq
        (inverse_bool down).last).atEnd
  | inputScroll tsUs layerId dxUnits dyUnits phase =>
      refine ((inverse_u64 tsUs).seq <| (inverse_u32 layerId).seq <| (inverse_i32 dxUnits).seq <|
        (inverse_i32 dyUnits).seq <| (inverse_u8 phase.toU8).convert ?_).atEnd
      rw [phase.fromU8_toU8, pure_bind]
  | setZoom levelMilli => exact (inverse_u32 levelMilli).last.atEnd
  | cursorState shape hotspotX hotspotY imageRef =>
      exact ((inverse_u8 shape.toU8).seqConverted shape.fromU8_toU8 <|
        (inverse_u16 hotspotX).seq <| (inverse_u16 hotspotY).seq (inverse_u64 imageRef).last).atEnd
  | loadState state => exact (inverse_u8 state).last.atEnd
  | title text => exact (inverse_str small text).last.atEnd
  | urlChanged url => exact (inverse_str small url).last.atEnd
  | layerAdd id parent kind size transform opacity content =>
      exact ((inverse_u32 id).seq <| (inverse_u32 parent).seq <|
        (inverse_u8 kind.toU8).seqConverted kind.fromU8_toU8 <| (inverse_u16 size.1).seq <|
        (inverse_u16 size.2).seq <| (inverse_transform transform).seq <| (inverse_u8 opacity).seq
        (inverse_contentRef content).last).atEnd
  | layerUpdate id mask transform opacity size content damage =>
      obtain ⟨noTransform, noOpacity, noSize, noContent, noDamage⟩ := valid
      have absent {bits : UInt32} : ¬ mask &&& bits ≠ 0 → mask &&& bits = 0 := not_not.mp
      refine ((inverse_u32 id).seq <| (inverse_u32 mask).seq <|
        (Inverse.when (fun _ => inverse_transform transform) (noTransform ∘ absent)).seq <|
        (Inverse.when (fun _ => inverse_u8 opacity) (noOpacity ∘ absent)).seq <|
        (Inverse.when (fun _ => ?size) (noSize ∘ absent)).seq <|
        (Inverse.when (fun _ => inverse_contentRef content) (noContent ∘ absent)).seq
        (Inverse.when (fun _ => ?damage) (noDamage ∘ absent)).last).atEnd
      case size => exact (inverse_u16 size.1).seq (inverse_u16 size.2).last
      case damage =>
        exact (inverse_u16 damage.1).seq <| (inverse_u16 damage.2.1).seq <|
          (inverse_u16 damage.2.2.1).seq (inverse_u16 damage.2.2.2).last
  | layerRemove id => exact (inverse_u32 id).last.atEnd
  | sceneCommit version => exact (inverse_u64 version).last.atEnd
  | rawFrame tsUs width height stride format compression pixels =>
      exact (inverse_u64 tsUs).seqAtEnd <| (inverse_u16 width).seqAtEnd <|
        (inverse_u16 height).seqAtEnd <| (inverse_u32 stride).seqAtEnd <|
        (inverse_u32 format).seqAtEnd <| (inverse_u8 compression).seqAtEnd
        (inverse_pixels valid width height _ _).last
  | subframe tsUs x y w h stride format compression pixels =>
      exact (inverse_u64 tsUs).seqAtEnd <| (inverse_u16 x).seqAtEnd <| (inverse_u16 y).seqAtEnd <|
        (inverse_u16 w).seqAtEnd <| (inverse_u16 h).seqAtEnd <| (inverse_u32 stride).seqAtEnd <|
        (inverse_u32 format).seqAtEnd <| (inverse_u8 compression).seqAtEnd
        (inverse_pixels valid w h _ _).last
  | tileData hash w h stride format compression pixels =>
      exact (inverse_u64 hash).seqAtEnd <| (inverse_u16 w).seqAtEnd <|
        (inverse_u16 h).seqAtEnd <| (inverse_u32 stride).seqAtEnd <|
        (inverse_u32 format).seqAtEnd <| (inverse_u8 compression).seqAtEnd
        (inverse_pixels valid w h _ _).last
  | tileRef tsUs x y w h hash =>
      exact ((inverse_u64 tsUs).seq <| (inverse_u16 x).seq <| (inverse_u16 y).seq <|
        (inverse_u16 w).seq <| (inverse_u16 h).seq (inverse_u64 hash).last).atEnd
  | assetRegister hash kind data =>
      exact ((inverse_bytes32 hash).seq <| (inverse_u8 kind).seq
        (inverse_data small data).last).atEnd
  | drawCommands tsUs layerId commands =>
      exact ((inverse_u64 tsUs).seq <| (inverse_u32 layerId).seq <| (inverse_varint _).seq
        (inverse_drawCmds small commands).last).atEnd
  | audioFrame ptsUs codec channels sampleRate data =>
      exact ((inverse_u64 ptsUs).seq <| (inverse_u8 codec).seq <| (inverse_u8 channels).seq <|
        (inverse_u32 sampleRate).seq (inverse_data small data).last).atEnd
  | videoChunk ptsUs durationUs isKeyframe codec layerId data =>
      exact ((inverse_u64 ptsUs).seq <| (inverse_u32 durationUs).seq <|
        (inverse_bool isKeyframe).seq <| (inverse_u8 codec).seq <| (inverse_u32 layerId).seq
        (inverse_data small data).last).atEnd
  | createTab tabId url =>
      exact ((inverse_u32 tabId).seq (inverse_str small url).last).atEnd
  | closeTab tabId => exact (inverse_u32 tabId).last.atEnd
  | switchTab tabId => exact (inverse_u32 tabId).last.atEnd
  | tabCreated tabId text url =>
      exact ((inverse_u32 tabId).seq <| (inverse_str small text).seq
        (inverse_str small url).last).atEnd
  | tabClosed tabId => exact (inverse_u32 tabId).last.atEnd
  | tabActivated tabId => exact (inverse_u32 tabId).last.atEnd
  | tabTitle tabId text =>
      exact ((inverse_u32 tabId).seq (inverse_str small text).last).atEnd
  | tabUrl tabId url =>
      exact ((inverse_u32 tabId).seq (inverse_str small url).last).atEnd
  | clearData clearCookies clearCache clearStorage =>
      exact ((inverse_bool clearCookies).seq <| (inverse_bool clearCache).seq
        (inverse_bool clearStorage).last).atEnd
  | authChallenge nonce => exact (inverse_bytes32 nonce).last.atEnd
  | authResponse tokenHash => exact (inverse_bytes32 tokenHash).last.atEnd
  | authSuccess nodeId => exact (inverse_str small nodeId).last.atEnd

end RoundTrip

/-! ## Hostile payloads -/

/-- The size of an accepted image: whole rows, capped by the format. -/
def PixelsExact (stride : UInt32) (height : UInt16) (compression : UInt8) (pixels : Bytes) : Prop :=
  pixels.length = stride.toNat * height.toNat ∧
    pixels.length ≤ if compression = Compression.lz4DeltaQ2 then 4 * maxMessageBytes
      else maxMessageBytes

def Message.Exact : Message → Prop
  | .rawFrame _ _ height stride _ compression pixels => PixelsExact stride height compression pixels
  | .subframe _ _ _ _ h stride _ compression pixels => PixelsExact stride h compression pixels
  | .tileData _ _ h stride _ compression pixels => PixelsExact stride h compression pixels
  | _ => True

section Hostile

variable {bound : Nat} {target : Target}

theorem consumes_bytes32 : Consumes bound readBytes32 fun _ => True := by
  refine (consumes_readSlice 32 _).bind fun bytes length => ?_
  rw [dif_pos length.1]
  exact .pure trivial

theorem consumes_transform : Consumes bound readTransform fun _ => True :=
  consumes_readI32.bind fun _ _ => consumes_readI32.bind fun _ _ =>
    consumes_readI32.bind fun _ _ => consumes_readI32.bind fun _ _ =>
    consumes_readI32.bind fun _ _ => consumes_readI32.bind fun _ _ => .pure trivial

theorem consumes_scrollPhase (v : UInt8) : Consumes bound (ScrollPhase.fromU8 v) fun _ => True := by
  unfold ScrollPhase.fromU8
  split <;> first | exact .pure trivial | exact .fail _

theorem consumes_layerKind (v : UInt8) : Consumes bound (LayerKind.fromU8 v) fun _ => True := by
  unfold LayerKind.fromU8
  split <;> first | exact .pure trivial | exact .fail _

theorem consumes_cursorShape (v : UInt8) : Consumes bound (CursorShape.fromU8 v) fun _ => True := by
  unfold CursorShape.fromU8
  split <;> first | exact .pure trivial | exact .fail _

theorem consumes_contentRef : Consumes bound readContentRef fun _ => True := by
  refine consumes_readU8.bind fun kind _ => ?_
  split
  · exact .pure trivial
  · exact consumes_readU32.bind fun _ _ => .pure trivial
  · exact consumes_readU64.bind fun _ _ => .pure trivial
  · exact consumes_bytes32.bind fun _ _ => .pure trivial
  · exact .fail _

theorem consumes_drawCmd : Consumes bound readDrawCmd fun _ => True := by
  have rectangle {wrap : Int32 → Int32 → UInt32 → UInt32 → Wire DrawCommand}
      (rest : ∀ x y w h, Consumes bound (wrap x y w h) fun _ => True) :
      Consumes bound (do wrap (← readI32) (← readI32) (← readU32) (← readU32)) fun _ => True :=
    consumes_readI32.bind fun _ _ => consumes_readI32.bind fun _ _ =>
      consumes_readU32.bind fun _ _ => consumes_readU32.bind fun _ _ => rest _ _ _ _
  refine consumes_readU8.bind fun kind _ => ?_
  split
  · exact rectangle fun _ _ _ _ => consumes_readU32.bind fun _ _ => .pure trivial
  · exact rectangle fun _ _ _ _ => consumes_readU32.bind fun _ _ =>
      consumes_readU16.bind fun _ _ => .pure trivial
  · exact consumes_readI32.bind fun _ _ => consumes_readI32.bind fun _ _ =>
      consumes_readU16.bind fun _ _ => consumes_readU32.bind fun _ _ =>
      consumes_readStr.bind fun _ _ => .pure trivial
  · exact rectangle fun _ _ _ _ => consumes_bytes32.bind fun _ _ => .pure trivial
  · exact rectangle fun _ _ _ _ => .pure trivial
  · exact .pure trivial
  · exact .fail _

/-- A saturated product exceeds every image that is accepted. -/
private theorem consumes_pixels (stride : UInt32) (w h : UInt16) (compression : UInt8) :
    Consumes maxMessageBytes (readPayloadGeom target compression w.toNat h.toNat
      (target.saturatingMul stride.toNat h.toNat)) (PixelsExact stride h compression) := by
  have w_small : w.toNat ≤ 65535 := Nat.le_of_lt_succ w.toNat_lt
  have h_small : h.toNat ≤ 65535 := Nat.le_of_lt_succ h.toNat_lt
  have cap : maxMessageBytes = 16777216 := rfl
  refine (consumes_payloadGeom compression w_small h_small _).mono fun pixels property => ?_
  obtain ⟨exact_length, capped⟩ := property
  have small : pixels.length < 2 ^ 32 - 1 := by
    split at capped <;> omega
  exact ⟨((target.saturatingMul_eq_iff small).mp exact_length.symm).symm, capped⟩

theorem consumes_decodeFields (tag : UInt32) :
    Consumes maxMessageBytes (decodeFields target tag) Message.Exact := by
  have u8 : Consumes maxMessageBytes readU8 fun _ => True := consumes_readU8
  have u16 : Consumes maxMessageBytes readU16 fun _ => True := consumes_readU16
  have u32 : Consumes maxMessageBytes readU32 fun _ => True := consumes_readU32
  have u64 : Consumes maxMessageBytes readU64 fun _ => True := consumes_readU64
  have i32 : Consumes maxMessageBytes readI32 fun _ => True := consumes_readI32
  have bool : Consumes maxMessageBytes readBool fun _ => True := consumes_readBool
  have str : Consumes maxMessageBytes readStr fun _ => True := consumes_readStr
  have data : Consumes maxMessageBytes readData fun _ => True :=
    consumes_readData.mono fun _ _ => trivial
  have done {m : Message} (exact : m.Exact) : Consumes maxMessageBytes (pure m : Wire Message)
      Message.Exact := .pure exact
  unfold decodeFields
  split
  · exact u32.bind fun _ _ => u16.bind fun _ _ => u16.bind fun _ _ => u16.bind fun _ _ =>
      u32.bind fun _ _ => str.bind fun _ _ => done trivial
  · exact u32.bind fun _ _ => u64.bind fun _ _ => u32.bind fun _ _ => u32.bind fun _ _ =>
      str.bind fun _ _ => done trivial
  · exact u16.bind fun _ _ => u16.bind fun _ _ => u16.bind fun _ _ => done trivial
  · exact str.bind fun _ _ => done trivial
  · exact u8.bind fun _ _ => done trivial
  · exact done trivial
  · exact u64.bind fun _ _ => done trivial
  · exact u64.bind fun _ _ => i32.bind fun _ _ => i32.bind fun _ _ => u32.bind fun _ _ =>
      done trivial
  · exact u64.bind fun _ _ => i32.bind fun _ _ => i32.bind fun _ _ => u32.bind fun _ _ =>
      bool.bind fun _ _ => u32.bind fun _ _ => done trivial
  · exact u64.bind fun _ _ => u32.bind fun _ _ => u32.bind fun _ _ => bool.bind fun _ _ =>
      done trivial
  · exact u64.bind fun _ _ => u32.bind fun _ _ => i32.bind fun _ _ => i32.bind fun _ _ =>
      u8.bind fun v _ => (consumes_scrollPhase v).bind fun _ _ => done trivial
  · exact u32.bind fun _ _ => done trivial
  · exact u8.bind fun v _ => (consumes_cursorShape v).bind fun _ _ => u16.bind fun _ _ =>
      u16.bind fun _ _ => u64.bind fun _ _ => done trivial
  · exact u8.bind fun _ _ => done trivial
  · exact str.bind fun _ _ => done trivial
  · exact str.bind fun _ _ => done trivial
  · exact u64.bind fun _ _ => u16.bind fun width _ => u16.bind fun height _ =>
      u32.bind fun stride _ => u32.bind fun _ _ => u8.bind fun compression _ =>
      (consumes_pixels stride width height compression).bind fun _ exact => done exact
  · exact u32.bind fun _ _ => u32.bind fun _ _ => u8.bind fun v _ =>
      (consumes_layerKind v).bind fun _ _ => u16.bind fun _ _ => u16.bind fun _ _ =>
      consumes_transform.bind fun _ _ => u8.bind fun _ _ => consumes_contentRef.bind fun _ _ =>
      done trivial
  · have masked {α : Type} {mask bits : UInt32} {reader : Wire α} {default : α}
        (field : Consumes maxMessageBytes reader fun _ => True) :
        Consumes maxMessageBytes (if mask &&& bits ≠ 0 then reader else pure default) fun _ => True :=
      .ite (fun _ => field) fun _ => .pure trivial
    exact u32.bind fun _ _ => u32.bind fun _ _ => (masked consumes_transform).bind fun _ _ =>
      (masked u8).bind fun _ _ =>
      (masked (u16.bind fun _ _ => u16.bind fun _ _ => .pure trivial)).bind fun _ _ =>
      (masked consumes_contentRef).bind fun _ _ =>
      (masked (u16.bind fun _ _ => u16.bind fun _ _ => u16.bind fun _ _ => u16.bind fun _ _ =>
        .pure trivial)).bind fun _ _ => done trivial
  · exact u32.bind fun _ _ => done trivial
  · exact u64.bind fun _ _ => done trivial
  · exact u64.bind fun _ _ => u16.bind fun _ _ => u16.bind fun _ _ => u16.bind fun w _ =>
      u16.bind fun h _ => u32.bind fun stride _ => u32.bind fun _ _ => u8.bind fun compression _ =>
      (consumes_pixels stride w h compression).bind fun _ exact => done exact
  · exact u64.bind fun _ _ => u16.bind fun w _ => u16.bind fun h _ => u32.bind fun stride _ =>
      u32.bind fun _ _ => u8.bind fun compression _ =>
      (consumes_pixels stride w h compression).bind fun _ exact => done exact
  · exact u64.bind fun _ _ => u16.bind fun _ _ => u16.bind fun _ _ => u16.bind fun _ _ =>
      u16.bind fun _ _ => u64.bind fun _ _ => done trivial
  · exact consumes_bytes32.bind fun _ _ => u8.bind fun _ _ => data.bind fun _ _ => done trivial
  · exact u64.bind fun _ _ => u32.bind fun _ _ => consumes_readVarint.bind fun count _ =>
      (consumes_drawCmd.readMany count.toNat).bind fun _ _ => done trivial
  · exact u64.bind fun _ _ => u8.bind fun _ _ => u8.bind fun _ _ => u32.bind fun _ _ =>
      data.bind fun _ _ => done trivial
  · exact u64.bind fun _ _ => u32.bind fun _ _ => bool.bind fun _ _ => u8.bind fun _ _ =>
      u32.bind fun _ _ => data.bind fun _ _ => done trivial
  · exact u32.bind fun _ _ => str.bind fun _ _ => done trivial
  · exact u32.bind fun _ _ => done trivial
  · exact u32.bind fun _ _ => done trivial
  · exact u32.bind fun _ _ => str.bind fun _ _ => str.bind fun _ _ => done trivial
  · exact u32.bind fun _ _ => done trivial
  · exact u32.bind fun _ _ => done trivial
  · exact u32.bind fun _ _ => str.bind fun _ _ => done trivial
  · exact u32.bind fun _ _ => str.bind fun _ _ => done trivial
  · exact bool.bind fun _ _ => bool.bind fun _ _ => bool.bind fun _ _ => done trivial
  · exact consumes_bytes32.bind fun _ _ => done trivial
  · exact consumes_bytes32.bind fun _ _ => done trivial
  · exact str.bind fun _ _ => done trivial
  · exact .fail _

/-- The payload of a frame, whatever its tag, is accepted with exact images or refused. -/
theorem decodePayload_safe (target : Target) (tag : UInt32) {payload : Bytes}
    (small : payload.length ≤ maxMessageBytes) :
    Checked.Safe (decodePayload target tag payload) Message.Exact := by
  refine (consumes_decodeFields tag payload small).bind ?_
  rintro ⟨msg, p⟩ ⟨exact, _⟩
  simp only
  split
  · exact exact
  · trivial

end Hostile

/-! ## What is written before a payload -/

section Uniform

theorem uniform_writeVarint (v : UInt32) : Uniform (writeVarint v) := (emits_writeVarint v).uniform

theorem uniform_lz4EncodeInto (input : Bytes) : Uniform (lz4EncodeInto input) := by
  obtain ⟨_, _, _, emits⟩ := emits_lz4EncodeInto input
  exact emits.uniform

theorem uniform_writeStr (s : String) : Uniform (writeStr s) :=
  (uniform_writeVarint _).seq (uniform_extend _)

theorem uniform_writeData (data : Bytes) : Uniform (writeData data) :=
  (uniform_writeVarint _).seq (uniform_extend _)

theorem uniform_writeContentRef (content : ContentRef) : Uniform (writeContentRef content) := by
  cases content with
  | none => exact uniform_extend _
  | solid rgba => exact (uniform_extend _).seq (uniform_extend _)
  | trackId t => exact (uniform_extend _).seq (uniform_extend _)
  | assetHash h => exact (uniform_extend _).seq (uniform_extend _)

theorem uniform_writePayloadGeom (target : Target) (compression : UInt8) (w h : UInt16)
    (pixels : Bytes) : Uniform (writePayloadGeom target compression w h pixels) := by
  unfold writePayloadGeom
  split
  case h_1 => exact uniform_extend _
  case h_2 => exact uniform_lz4EncodeInto _
  case h_3 => exact .lift fun _ => uniform_lz4EncodeInto _
  case h_4 => exact .lift fun _ => uniform_lz4EncodeInto _
  case h_5 => exact .throw _

theorem uniform_writeDrawCmd (cmd : DrawCommand) : Uniform (writeDrawCmd cmd) := by
  cases cmd <;> unfold writeDrawCmd <;> repeat' with_reducible refine Uniform.seq ?_ ?_
  all_goals first
    | with_reducible exact uniform_writeStr _
    | exact uniform_extend _

/-- No payload depends on what is written before it. -/
theorem uniform_encodePayload (target : Target) (m : Message) : Uniform (m.encodePayload target) := by
  cases m <;> unfold Message.encodePayload
  all_goals repeat' first
    | with_reducible refine Uniform.seq ?_ ?_
    | with_reducible refine Uniform.ite ?_ ?_
  all_goals first
    | with_reducible exact .pure
    | with_reducible exact uniform_writeStr _
    | with_reducible exact uniform_writeData _
    | with_reducible exact uniform_writeVarint _
    | with_reducible exact uniform_writePayloadGeom target _ _ _ _
    | with_reducible exact uniform_writeContentRef _
    | with_reducible exact .forM uniform_writeDrawCmd _
    | exact uniform_extend _
    | exact .forM (fun _ => uniform_extend _) _

theorem emits_of_encoded {target : Target} {m : Message} {payload : Bytes}
    (encodes : encoded (m.encodePayload target) = .ok payload) : Emits (m.encodePayload target) payload := by
  refine (uniform_encodePayload target m).emits ?_
  unfold encoded at encodes
  cases ran : (m.encodePayload target).run [] with
  | error stop =>
      rw [ran] at encodes
      cases encodes
  | ok result =>
      rw [ran] at encodes
      cases encodes
      rfl

end Uniform

end ExoBrowser.Proto
