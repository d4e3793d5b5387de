import ExoBrowser.Proto.Codec

/-!
# The framing of the web page

The page of the host reads and writes the frames of the protocol by itself, in 32-bit
arithmetic. The host re-encodes images for it.
-/

set_option autoImplicit false

namespace ExoBrowser.Web

open Library Proto

abbrev Run := Checked Empty

/-! ## Numbers -/

/-- Of `v` only the low 32 bits are written, as an unsigned number. -/
def writeVarintPass : Bytes × UInt32 → Run (Pass (Bytes × UInt32) Bytes)
  | (buf, v) =>
      if v ≥ 0x80 then return .again (buf ++ [((v &&& 0x7f) ||| 0x80).toUInt8], v >>> 7)
      else return .leave (buf ++ [v.toUInt8])

def writeVarint (buf : Bytes) (val : Nat) : Run Bytes := loop writeVarintPass 5 (buf, UInt32.ofNat val)

/-- `view.getUint8(offset)`, which throws outside of the view. -/
def getUint8 (view : Bytes) (offset : Int) : Run UInt8 :=
  if 0 ≤ offset then Checked.index view offset.toNat else Checked.abort .outOfRange

structure ReadState where
  result : UInt32
  shift : Nat
  bytesRead : Nat

/-- The value is signed. -/
structure VarintInfo where
  value : Int
  bytesRead : Nat
deriving DecidableEq

def readVarintPass (view : Bytes) (offset : Int) (s : ReadState) :
    Run (Pass ReadState (Option VarintInfo)) :=
  if offset + s.bytesRead ≥ view.length then return .leave none
  else do
    let byte ← getUint8 view (offset + s.bytesRead)
    let bytesRead := s.bytesRead + 1
    -- The shift takes the low five bits of its distance.
    let result := s.result ||| ((byte &&& 0x7f).toUInt32 <<< UInt32.ofNat s.shift)
    if byte &&& 0x80 = 0 then return .leave (some { value := result.toInt32.toInt, bytesRead })
    else return .again { result, shift := s.shift + 7, bytesRead }

def readVarint (view : Bytes) (offset : Int) : Run (Option VarintInfo) :=
  loop (readVarintPass view offset) (view.length + 1) { result := 0, shift := 0, bytesRead := 0 }

/-! ## Messages -/

def encodeMessage (tag : Nat) (payloadBytes : Bytes) : Run Bytes := do
  let header ← writeVarint [] tag
  let header ← writeVarint header payloadBytes.length
  return header ++ payloadBytes

/-- An index of `subarray`, which counts from the end if it is negative. -/
def relativeIndex (length : Nat) (position : Int) : Nat :=
  if position < 0 then (length + position).toNat else min position.toNat length

def subarray (bytes : Bytes) (start stop : Int) : Bytes :=
  let first := relativeIndex bytes.length start
  (bytes.drop first).take (relativeIndex bytes.length stop - first)

/-- The tag, the length, and the offset behind them. -/
def readHeader (bytes : Bytes) (offset : Int) : Run (Option (Int × Int × Int)) := do
  match ← readVarint bytes offset with
  | none => return none
  | some tagInfo =>
      let offset := offset + tagInfo.bytesRead
      match ← readVarint bytes offset with
      | none => return none
      | some lenInfo => return some (tagInfo.value, lenInfo.value, offset + lenInfo.bytesRead)

/-- What is thrown is caught outside of the loop, and what was handled stays handled. -/
def decodePass (bytes : Bytes) : Int × List (Int × Bytes) →
    Run (Pass (Int × List (Int × Bytes)) (List (Int × Bytes)))
  | (offset, handled) =>
      if offset < bytes.length then
        match readHeader bytes offset with
        | .error _ => return .leave handled
        | .ok none => return .leave handled
        | .ok (some (tag, len, offset)) =>
            if offset + len > bytes.length then return .leave handled
            else return .again (offset + len, handled ++ [(tag, subarray bytes offset (offset + len))])
      else return .leave handled

/-- The calls of `handlePayload`. More passes than offsets would be passes without end. -/
def decodeMessages (bytes : Bytes) : Run (List (Int × Bytes)) :=
  loop (decodePass bytes) (bytes.length + 2) (0, [])

/-! ## What the host sends -/

/-- An item of the bus is a message with its frame. -/
structure BusItem (target : Target) where
  msg : Message
  wireQuic : Bytes
  encodes : encoded (msg.encode target) = .ok wireQuic

/-- Images are sent as they are, with the mark for no compression. -/
def encodeWsItem {target : Target} (item : BusItem target) : Checked Error Bytes :=
  match item.msg with
  | .rawFrame tsUs width height stride format _ pixels => encoded do
      Proto.writeVarint Tag.rawFrame
      Proto.writeVarint (UInt32.ofNat (21 + pixels.length))
      writeU64 tsUs
      writeU16 width
      writeU16 height
      writeU32 stride
      writeU32 format
      push 0
      extend pixels
  | .subframe tsUs x y w h stride format _ pixels => encoded do
      Proto.writeVarint Tag.subframe
      Proto.writeVarint (UInt32.ofNat (25 + pixels.length))
      writeU64 tsUs
      writeU16 x
      writeU16 y
      writeU16 w
      writeU16 h
      writeU32 stride
      writeU32 format
      push 0
      extend pixels
  | _ => .ok item.wireQuic

end ExoBrowser.Web
