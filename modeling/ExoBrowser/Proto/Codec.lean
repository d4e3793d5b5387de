import ExoBrowser.Proto.Pixels

/-!
# Message codec

The payload of each message, written and read field by field, and the frame
around it: tag, length, payload.
-/

set_option autoImplicit false

namespace ExoBrowser.Proto

open Library

/-! ## Parts of messages -/

/-- `p.get(..32)` copied into an array. `copy_from_slice` panics where the lengths differ. -/
def readBytes32 : Wire Bytes32 := do
  let bytes ← readSlice 32 .unexpectedEof
  if length : bytes.length = 32 then return ⟨bytes, length⟩ else throw (.panic .outOfRange)

def readTransform : Wire Transform := do
  return ⟨[← readI32, ← readI32, ← readI32, ← readI32, ← readI32, ← readI32], rfl⟩

def writeContentRef : ContentRef → Wire Unit
  | .none => push 0
  | .solid rgba => do push 1; writeU32 rgba
  | .trackId t => do push 2; writeU64 t
  | .assetHash h => do push 3; extend h

def readContentRef : Wire ContentRef := do
  match ← readU8 with
  | 0 => return .none
  | 1 => return .solid (← readU32)
  | 2 => return .trackId (← readU64)
  | 3 => return .assetHash (← readBytes32)
  | _ => throw (.err .invalidValue)

def writeDrawCmd : DrawCommand → Wire Unit
  | .fillRect x y w h rgba => do
      push 1
      writeI32 x; writeI32 y
      writeU32 w; writeU32 h
      writeU32 rgba
  | .strokeRect x y w h rgba lineWidth => do
      push 2
      writeI32 x; writeI32 y
      writeU32 w; writeU32 h
      writeU32 rgba; writeU16 lineWidth
  | .drawText x y fontSize rgba text => do
      push 3
      writeI32 x; writeI32 y
      writeU16 fontSize; writeU32 rgba
      writeStr text
  | .drawImage x y w h assetHash => do
      push 4
      writeI32 x; writeI32 y
      writeU32 w; writeU32 h
      extend assetHash
  | .setClip x y w h => do
      push 5
      writeI32 x; writeI32 y
      writeU32 w; writeU32 h
  | .clearClip => push 6

def readDrawCmd : Wire DrawCommand := do
  match ← readU8 with
  | 1 => return .fillRect (← readI32) (← readI32) (← readU32) (← readU32) (← readU32)
  | 2 => return .strokeRect (← readI32) (← readI32) (← readU32) (← readU32) (← readU32) (← readU16)
  | 3 => return .drawText (← readI32) (← readI32) (← readU16) (← readU32) (← readStr)
  | 4 => return .drawImage (← readI32) (← readI32) (← readU32) (← readU32) (← readBytes32)
  | 5 => return .setClip (← readI32) (← readI32) (← readU32) (← readU32)
  | 6 => return .clearClip
  | _ => throw (.err .invalidValue)

/-! ## Payloads -/

def Message.encodePayload (target : Target) : Message → Wire Unit
  | .hello protoVersion viewportW viewportH dprHundredths clientName capabilities => do
      writeU32 protoVersion
      writeU16 viewportW
      writeU16 viewportH
      writeU16 dprHundredths
      writeU32 capabilities
      writeStr clientName
  | .welcome protoVersion sessionId features cursorTrackId currentUrl => do
      writeU32 protoVersion
      writeU64 sessionId
      writeU32 features
      writeU32 cursorTrackId
      writeStr currentUrl
  | .resize viewportW viewportH dprHundredths => do
      writeU16 viewportW
      writeU16 viewportH
      writeU16 dprHundredths
  | .nav url => writeStr url
  | .navAction action => writeU8 action
  | .stop => pure ()
  | .heartbeat tsUs => writeU64 tsUs
  | .inputPointer tsUs x y modifiers => do
      writeU64 tsUs
      writeI32 x
      writeI32 y
      writeU32 modifiers
  | .inputButton tsUs x y button pressed modifiers => do
      writeU64 tsUs
      writeI32 x
      writeI32 y
      writeU32 button
      writeBool pressed
      writeU32 modifiers
  | .inputKey tsUs keycode mods down => do
      writeU64 tsUs
      writeU32 keycode
      writeU32 mods
      writeBool down
  | .inputScroll tsUs layerId dxUnits dyUnits phase => do
      writeU64 tsUs
      writeU32 layerId
      writeI32 dxUnits
      writeI32 dyUnits
      writeU8 phase.toU8
  | .setZoom levelMilli => writeU32 levelMilli
  | .cursorState shape hotspotX hotspotY imageRef => do
      writeU8 shape.toU8
      writeU16 hotspotX
      writeU16 hotspotY
      writeU64 imageRef
  | .loadState state => writeU8 state
  | .title text => writeStr text
  | .urlChanged url => writeStr url
  | .rawFrame tsUs width height stride format compression pixels => do
      writeU64 tsUs
      writeU16 width
      writeU16 height
      writeU32 stride
      writeU32 format
      writeU8 compression
      writePayloadGeom target compression width height pixels
  | .layerAdd id parent kind size transform opacity content => do
      writeU32 id
      writeU32 parent
      writeU8 kind.toU8
      writeU16 size.1
      writeU16 size.2
      forM transform.val writeI32
      writeU8 opacity
      writeContentRef content
  | .layerUpdate id mask transform opacity size content damage => do
      writeU32 id
      writeU32 mask
      (if mask &&& LayerMask.transform ≠ 0 then forM transform.val writeI32 else pure ())
      (if mask &&& LayerMask.opacity ≠ 0 then writeU8 opacity else pure ())
      (if mask &&& LayerMask.size ≠ 0 then do writeU16 size.1; writeU16 size.2 else pure ())
      (if mask &&& LayerMask.contentRef ≠ 0 then writeContentRef content else pure ())
      (if mask &&& LayerMask.damage ≠ 0 then do
        writeU16 damage.1; writeU16 damage.2.1
        writeU16 damage.2.2.1; writeU16 damage.2.2.2
      else pure ())
  | .layerRemove id => writeU32 id
  | .sceneCommit version => writeU64 version
  | .subframe tsUs x y w h stride format compression pixels => do
      writeU64 tsUs
      writeU16 x
      writeU16 y
      writeU16 w
      writeU16 h
      writeU32 stride
      writeU32 format
      writeU8 compression
      writePayloadGeom target compression w h pixels
  | .tileData hash w h stride format compression pixels => do
      writeU64 hash
      writeU16 w
      writeU16 h
      writeU32 stride
      writeU32 format
      writeU8 compression
      writePayloadGeom target compression w h pixels
  | .tileRef tsUs x y w h hash => do
      writeU64 tsUs
      writeU16 x
      writeU16 y
      writeU16 w
      writeU16 h
      writeU64 hash
  | .assetRegister hash kind data => do
      extend hash
      writeU8 kind
      writeData data
  | .drawCommands tsUs layerId commands => do
      writeU64 tsUs
      writeU32 layerId
      writeVarint (UInt32.ofNat commands.length)
      forM commands writeDrawCmd
  | .audioFrame ptsUs codec channels sampleRate data => do
      writeU64 ptsUs
      writeU8 codec
      writeU8 channels
      writeU32 sampleRate
      writeData data
  | .videoChunk ptsUs durationUs isKeyframe codec layerId data => do
      writeU64 ptsUs
      writeU32 durationUs
      writeBool isKeyframe
      writeU8 codec
      writeU32 layerId
      writeData data
  | .createTab tabId url => do
      writeU32 tabId
      writeStr url
  | .closeTab tabId => writeU32 tabId
  | .switchTab tabId => writeU32 tabId
  | .tabCreated tabId text url => do
      writeU32 tabId
      writeStr text
      writeStr url
  | .tabClosed tabId => writeU32 tabId
  | .tabActivated tabId => writeU32 tabId
  | .tabTitle tabId text => do
      writeU32 tabId
      writeStr text
  | .tabUrl tabId url => do
      writeU32 tabId
      writeStr url
  | .clearData clearCookies clearCache clearStorage => do
      writeBool clearCookies
      writeBool clearCache
      writeBool clearStorage
  | .authChallenge nonce => extend nonce
  | .authResponse tokenHash => extend tokenHash
  | .authSuccess nodeId => writeStr nodeId

def decodeFields (target : Target) : UInt32 → Wire Message
  | Tag.hello => do
      let protoVersion ← readU32
      let viewportW ← readU16
      let viewportH ← readU16
      let dprHundredths ← readU16
      let capabilities ← readU32
      let clientName ← readStr
      return .hello protoVersion viewportW viewportH dprHundredths clientName capabilities
  | Tag.welcome => do
      return .welcome (← readU32) (← readU64) (← readU32) (← readU32) (← readStr)
  | Tag.resize => do return .resize (← readU16) (← readU16) (← readU16)
  | Tag.nav => do return .nav (← readStr)
  | Tag.navAction => do return .navAction (← readU8)
  | Tag.stop => return .stop
  | Tag.heartbeat => do return .heartbeat (← readU64)
  | Tag.inputPointer => do
      return .inputPointer (← readU64) (← readI32) (← readI32) (← readU32)
  | Tag.inputButton => do
      return .inputButton (← readU64) (← readI32) (← readI32) (← readU32) (← readBool) (← readU32)
  | Tag.inputKey => do return .inputKey (← readU64) (← readU32) (← readU32) (← readBool)
  | Tag.inputScroll => do
      return .inputScroll (← readU64) (← readU32) (← readI32) (← readI32)
        (← ScrollPhase.fromU8 (← readU8))
  | Tag.setZoom => do return .setZoom (← readU32)
  | Tag.cursorState => do
      return .cursorState (← CursorShape.fromU8 (← readU8)) (← readU16) (← readU16) (← readU64)
  | Tag.loadState => do return .loadState (← readU8)
  | Tag.title => do return .title (← readStr)
  | Tag.urlChanged => do return .urlChanged (← readStr)
  | Tag.rawFrame => do
      let tsUs ← readU64
      let width ← readU16
      let height ← readU16
      let stride ← readU32
      let format ← readU32
      let compression ← readU8
      let pixels ← readPayloadGeom target compression width.toNat height.toNat
        (target.saturatingMul stride.toNat height.toNat)
      return .rawFrame tsUs width height stride format compression pixels
  | Tag.layerAdd => do
      let id ← readU32
      let parent ← readU32
      let kind ← LayerKind.fromU8 (← readU8)
      let size := (← readU16, ← readU16)
      let transform ← readTransform
      let opacity ← readU8
      let content ← readContentRef
      return .layerAdd id parent kind size transform opacity content
  | Tag.layerUpdate => do
      let id ← readU32
      let mask ← readU32
      let transform ← (if mask &&& LayerMask.transform ≠ 0 then readTransform
        else pure transformIdentity)
      let opacity ← (if mask &&& LayerMask.opacity ≠ 0 then readU8 else pure 255)
      let size ← (if mask &&& LayerMask.size ≠ 0 then do return (← readU16, ← readU16)
        else pure (0, 0))
      let content ← (if mask &&& LayerMask.contentRef ≠ 0 then readContentRef else pure .none)
      let damage ← (if mask &&& LayerMask.damage ≠ 0 then do
          return (← readU16, ← readU16, ← readU16, ← readU16)
        else pure (0, 0, 0, 0))
      return .layerUpdate id mask transform opacity size content damage
  | Tag.layerRemove => do return .layerRemove (← readU32)
  | Tag.sceneCommit => do return .sceneCommit (← readU64)
  | Tag.subframe => do
      let tsUs ← readU64
      let x ← readU16
      let y ← readU16
      let w ← readU16
      let h ← readU16
      let stride ← readU32
      let format ← readU32
      let compression ← readU8
      let pixels ← readPayloadGeom target compression w.toNat h.toNat
        (target.saturatingMul stride.toNat h.toNat)
      return .subframe tsUs x y w h stride format compression pixels
  | Tag.tileData => do
      let hash ← readU64
      let w ← readU16
      let h ← readU16
      let stride ← readU32
      let format ← readU32
      let compression ← readU8
      let pixels ← readPayloadGeom target compression w.toNat h.toNat
        (target.saturatingMul stride.toNat h.toNat)
      return .tileData hash w h stride format compression pixels
  | Tag.tileRef => do
      return .tileRef (← readU64) (← readU16) (← readU16) (← readU16) (← readU16) (← readU64)
  | Tag.assetRegister => do return .assetRegister (← readBytes32) (← readU8) (← readData)
  | Tag.drawCommands => do
      let tsUs ← readU64
      let layerId ← readU32
      let count ← readVarint
      let commands ← readMany readDrawCmd count.toNat
      return .drawCommands tsUs layerId commands
  | Tag.audioFrame => do
      return .audioFrame (← readU64) (← readU8) (← readU8) (← readU32) (← readData)
  | Tag.videoChunk => do
      return .videoChunk (← readU64) (← readU32) (← readBool) (← readU8) (← readU32) (← readData)
  | Tag.createTab => do return .createTab (← readU32) (← readStr)
  | Tag.closeTab => do return .closeTab (← readU32)
  | Tag.switchTab => do return .switchTab (← readU32)
  | Tag.tabCreated => do return .tabCreated (← readU32) (← readStr) (← readStr)
  | Tag.tabClosed => do return .tabClosed (← readU32)
  | Tag.tabActivated => do return .tabActivated (← readU32)
  | Tag.tabTitle => do return .tabTitle (← readU32) (← readStr)
  | Tag.tabUrl => do return .tabUrl (← readU32) (← readStr)
  | Tag.clearData => do return .clearData (← readBool) (← readBool) (← readBool)
  | Tag.authChallenge => do return .authChallenge (← readBytes32)
  | Tag.authResponse => do return .authResponse (← readBytes32)
  | Tag.authSuccess => do return .authSuccess (← readStr)
  | other => throw (.err (.unknownTag other))

def decodePayload (target : Target) (tag : UInt32) (payload : Bytes) : Checked Error Message := do
  let (msg, p) ← (decodeFields target tag).run payload
  if p.isEmpty then return msg else Checked.fail .trailingBytes

/-! ## Frames -/

def fillLenBuf : Nat → UInt32 → Bytes → Nat → Checked Error (Bytes × Nat)
  | 0, _, _, _ => Checked.abort .stuck
  | passes + 1, v, lenBuf, n => do
      let byte := (v &&& 0x7f).toUInt8
      let v := v >>> 7
      if v = 0 then return (← Checked.overwrite lenBuf n [byte], n + 1)
      else do
        let lenBuf ← Checked.overwrite lenBuf n [byte ||| 0x80]
        fillLenBuf passes v lenBuf (n + 1)

/-- Replace the placeholder at `lenPos` by the length of what follows it. -/
def patchLength (lenPos : Nat) (out : Bytes) : Checked Error Bytes := do
  let payloadLen ← Checked.sub out.length (lenPos + 1)
  if payloadLen < 0x80 then Checked.overwrite out lenPos [UInt8.ofNat payloadLen]
  else do
    let (lenBuf, n) ← fillLenBuf 5 (UInt32.ofNat payloadLen) (List.replicate 5 0) 0
    let extra ← Checked.sub n 1
    let out := out ++ List.replicate extra 0
    let moved ← Checked.slice out (lenPos + 1) (lenPos + 1 + payloadLen)
    let out ← Checked.overwrite out (lenPos + n) moved
    Checked.overwrite out lenPos (← Checked.slice lenBuf 0 n)

/-- Encode as a single wire frame: tag, length, payload. -/
def Message.encode (target : Target) (m : Message) : Wire Unit := do
  let start := (← get).length
  writeVarint m.tag
  let lenPos := (← get).length
  push 0
  m.encodePayload target
  set (← (patchLength lenPos (← get) : Checked Error Bytes))
  if (← get).length > start then pure () else throw (.panic .explicit)

/-- Read exactly one message off `buf`, and the cursor behind it. The cursor
moves only where a message is returned. -/
def Message.decode (target : Target) (buf : Bytes) : Checked Error (Option Message) × Bytes :=
  match readVarint.run buf with
  | .error (.err .unexpectedEof) => (.ok none, buf)
  | .error halt => (.error halt, buf)
  | .ok (tag, probe) =>
      match readVarint.run probe with
      | .error (.err .unexpectedEof) => (.ok none, buf)
      | .error halt => (.error halt, buf)
      | .ok (len, probe) =>
          if len.toNat > maxMessageBytes then (Checked.fail .messageTooLarge, buf)
          else if probe.length < len.toNat then (.ok none, buf)
          else
            let decoded : Checked Error (Message × Bytes) := do
              let payload ← Checked.slice probe 0 len.toNat
              let rest ← Checked.slice probe len.toNat probe.length
              return (← decodePayload target tag payload, rest)
            match decoded with
            | .error halt => (.error halt, buf)
            | .ok (msg, rest) => (.ok (some msg), rest)

end ExoBrowser.Proto
