import ExoBrowser.Proto.Basic

/-!
# LZ4 block codec

The block behind a four-byte uncompressed length. Positions are indices into the
slices of the source, and every slice, index and addition is checked.
-/

set_option autoImplicit false

namespace ExoBrowser.Proto

open Library

/-! ## Lengths -/

/-- `while rem >= 255 { .. }`, for at most `passes` passes. -/
def writeLz4LenLoop : Nat → Nat → Wire Unit
  | 0, _ => throw (.panic .stuck)
  | passes + 1, rem =>
      if rem ≥ 255 then do
        push 255
        writeLz4LenLoop passes (rem - 255)
      else push (UInt8.ofNat rem)

def writeLz4Len (rem : Nat) : Wire Unit := writeLz4LenLoop (rem + 1) rem

def readLz4LenPass (target : Target) (src : Bytes) :
    Nat × Nat → Checked Error (Pass (Nat × Nat) (Nat × Nat))
  | (total, sp) =>
      match src[sp]? with
      | none => Checked.fail .invalidValue
      | some b => do
          let sp ← target.add sp 1
          match target.checkedAdd total b.toNat with
          | none => Checked.fail .invalidValue
          | some total => if b ≠ 255 then return .leave (total, sp) else return .again (total, sp)

def readLz4Len (target : Target) (src : Bytes) (sp : Nat) : Checked Error (Nat × Nat) :=
  loop (readLz4LenPass target src) (src.length + 1) (0, sp)

/-! ## Matching -/

/-- `u64::trailing_zeros`. -/
def trailingZeros (v : UInt64) : Nat := (List.range 64).findIdx fun i => v.toNat.testBit i

def loadU32 (bytes : Bytes) (i : Nat) : Checked Error UInt32 := do
  return UInt32.ofNat (ofLeBytes (← Checked.slice bytes i (i + 4)))

def loadU64 (bytes : Bytes) (i : Nat) : Checked Error UInt64 := do
  return UInt64.ofNat (ofLeBytes (← Checked.slice bytes i (i + 8)))

/-- The loop over eight-byte words. It returns from the function at a difference
and leaves for the byte loop otherwise. -/
def wordPass (a b : Bytes) (n i : Nat) : Checked Error (Pass Nat (Nat ⊕ Nat)) :=
  if i + 8 ≤ n then do
    let va ← loadU64 a i
    let vb ← loadU64 b i
    if va ≠ vb then return .leave (.inl (i + trailingZeros (va ^^^ vb) / 8))
    else return .again (i + 8)
  else return .leave (.inr i)

def bytePass (a b : Bytes) (n i : Nat) : Checked Error (Pass Nat Nat) :=
  if i < n then do
    let x ← Checked.index a i
    let y ← Checked.index b i
    if x = y then return .again (i + 1) else return .leave i
  else return .leave i

def commonPrefixLen (a b : Bytes) : Checked Error Nat := do
  let n := min a.length b.length
  match ← loop (wordPass a b n) (n + 1) 0 with
  | .inl result => return result
  | .inr i => loop (bytePass a b n) (n + 1) i

/-! ## Encoder -/

structure EncodeState where
  hashTable : List UInt32
  anchor : Nat
  ip : Nat
  out : Bytes

def EncodeState.start (out : Bytes) : EncodeState :=
  { hashTable := List.replicate 4096 0, anchor := 0, ip := 0, out }

/-- `(v.wrapping_mul(2654435761) >> 20) as usize`, a slot of the table. -/
def hashSlot (v : UInt32) : Nat := ((v * 2654435761) >>> 20).toNat

/-- Four equal bytes at `pos` and at `ip`, looked at only under `guard`. -/
def matchesAt (input : Bytes) (guard : Bool) (pos ip : Nat) : Checked Error Bool :=
  if guard then do
    let here ← Checked.slice input ip (ip + 4)
    let there ← Checked.slice input pos (pos + 4)
    return here == there
  else return false

/-- A repeated byte, a repeated four-byte pixel, or the position in the table. -/
def findMatch (input : Bytes) (ip refPos : Nat) : Checked Error (Option Nat) := do
  if ← matchesAt input (decide (ip ≥ 1)) (ip - 1) ip then return some (ip - 1)
  else if ← matchesAt input (decide (ip ≥ 4)) (ip - 4) ip then return some (ip - 4)
  else if ← matchesAt input (decide (ip > refPos ∧ ip - refPos ≤ 0xFFFF)) refPos ip then
    return some refPos
  else return none

def writeToken (litLen mlCode : Nat) : Wire Unit := do
  push ((UInt8.ofNat (min litLen 15) <<< 4) ||| UInt8.ofNat mlCode)
  if litLen ≥ 15 then writeLz4Len (litLen - 15) else pure ()

/-- A sequence with a match: `offset` is truncated to 16 bits as in the source. -/
def writeSequence (input : Bytes) (anchor ip offset matchLen : Nat) : Wire Unit := do
  let litLen ← (Checked.sub ip anchor : Checked Error Nat)
  writeToken litLen (min (matchLen - 4) 15)
  extend (← (Checked.slice input anchor ip : Checked Error Bytes))
  writeU16 (UInt16.ofNat offset)
  if matchLen - 4 ≥ 15 then writeLz4Len (matchLen - 4 - 15) else pure ()

def writeLastSequence (input : Bytes) (anchor : Nat) : Wire Unit := do
  let litLen ← (Checked.sub input.length anchor : Checked Error Nat)
  writeToken litLen 0
  extend (← (Checked.slice input anchor input.length : Checked Error Bytes))

def encodePass (input : Bytes) (limit matchLimit : Nat) (s : EncodeState) :
    Checked Error (Pass EncodeState EncodeState) :=
  if s.ip ≤ limit then do
    let slot := hashSlot (← loadU32 input s.ip)
    let refPos ← Checked.index s.hashTable slot
    let hashTable ← Checked.overwrite s.hashTable slot [UInt32.ofNat s.ip]
    match ← findMatch input s.ip refPos.toNat with
    | none => do
        let skipped ← Checked.sub s.ip s.anchor
        return .again { s with hashTable, ip := s.ip + (1 + (skipped >>> 5)) }
    | some mpos => do
        let older ← Checked.slice input (mpos + 4) matchLimit
        let newer ← Checked.slice input (s.ip + 4) matchLimit
        let matchLen := 4 + (← commonPrefixLen older newer)
        let offset ← Checked.sub s.ip mpos
        let ((), out) ← (writeSequence input s.anchor s.ip offset matchLen).run s.out
        let ip := s.ip + matchLen
        if ip ≤ limit then do
          let behind ← Checked.sub ip 2
          let slot := hashSlot (← loadU32 input behind)
          let hashTable ← Checked.overwrite hashTable slot [UInt32.ofNat behind]
          return .again { hashTable, anchor := ip, ip, out }
        else return .again { hashTable, anchor := ip, ip, out }
  else return .leave s

def lz4EncodeInto (input : Bytes) : Wire Unit := do
  writeU32 (UInt32.ofNat input.length)
  if input.length < 13 then do
    push (UInt8.ofNat input.length <<< 4)
    extend input
  else do
    let limit := input.length - 12
    let matchLimit := input.length - 5
    let final ← loop (encodePass input limit matchLimit) (input.length + 1) (.start (← get))
    set final.out
    writeLastSequence input final.anchor

/-! ## Decoder -/

structure DecodeState where
  sp : Nat
  out : Bytes

/-- A length from the token, with extension bytes where its nibble is full. -/
def readTokenLen (target : Target) (src : Bytes) (base : Nat) (full : Bool) (sp : Nat) :
    Checked Error (Nat × Nat) :=
  if full then do
    let (more, sp) ← readLz4Len target src sp
    match target.checkedAdd base more with
    | none => Checked.fail .invalidValue
    | some len => return (len, sp)
  else return (base, sp)

/-- `for i in 0..match_len { out.push(out[start + i]) }`. -/
def copyEach (start : Nat) : Nat → Bytes → Checked Error Bytes
  | 0, out => return out
  | count + 1, out => do
      let b ← Checked.index out start
      copyEach (start + 1) count (out ++ [b])

/-- The four ways in which the decoder copies a match. -/
def copyMatch (out : Bytes) (start offset matchLen : Nat) : Checked Error Bytes :=
  if offset ≥ matchLen then do
    return out ++ (← Checked.slice out start (start + matchLen))
  else if offset = 1 then do
    let b ← Checked.index out start
    return out ++ List.replicate matchLen b
  else if offset = 4 then do
    let pat := [← Checked.index out start, ← Checked.index out (start + 1),
      ← Checked.index out (start + 2), ← Checked.index out (start + 3)]
    let rest ← Checked.slice pat 0 (matchLen % 4)
    return out ++ (List.replicate (matchLen / 4) pat).flatten ++ rest
  else copyEach start matchLen out

def decodeMatch (target : Target) (src : Bytes) (uncompLen : Nat) (token : UInt8)
    (s : DecodeState) : Checked Error (Pass DecodeState Bytes) := do
  let behind ← target.add s.sp 2
  if behind > src.length then Checked.fail .invalidValue
  else do
    let low ← Checked.index src s.sp
    let high ← Checked.index src (s.sp + 1)
    let offset := ofLeBytes [low, high]
    if offset = 0 ∨ offset > s.out.length then Checked.fail .invalidValue
    else do
      let code := token &&& 0x0F
      let (matchLen, sp) ← readTokenLen target src (code.toNat + 4) (code == 15) behind
      if (← target.add s.out.length matchLen) > uncompLen then Checked.fail .invalidValue
      else do
        let start ← Checked.sub s.out.length offset
        let out ← copyMatch s.out start offset matchLen
        return .again { sp, out }

/-- One pass of the loop of `lz4_decode`, which is one sequence. -/
def decodePass (target : Target) (src : Bytes) (uncompLen : Nat) (s : DecodeState) :
    Checked Error (Pass DecodeState Bytes) :=
  if s.sp < src.length then do
    let token ← Checked.index src s.sp
    let sp ← target.add s.sp 1
    let (litLen, sp) ← readTokenLen target src (token >>> 4).toNat ((token >>> 4) == 15) sp
    let litEnd ← target.add sp litLen
    if litEnd > src.length then Checked.fail .invalidValue
    else do
      if (← target.add s.out.length litLen) > uncompLen then Checked.fail .invalidValue
      else do
        let literals ← Checked.slice src sp litEnd
        let s := { sp := litEnd, out := s.out ++ literals : DecodeState }
        if s.sp ≥ src.length then return .leave s.out
        else decodeMatch target src uncompLen token s
  else return .leave s.out

def decodeBlock (target : Target) (src : Bytes) (uncompLen : Nat) : Checked Error Bytes := do
  let out ← loop (decodePass target src uncompLen) (src.length + 1) { sp := 4, out := [] }
  if out.length ≠ uncompLen then Checked.fail .invalidValue else return out

def lz4Decode (target : Target) (src : Bytes) (expectedLen : Option Nat) :
    Checked Error Bytes :=
  if src.length < 4 then Checked.fail .invalidValue
  else do
    let uncompLen := ofLeBytes (← Checked.slice src 0 4)
    if uncompLen > maxMessageBytes then Checked.fail .messageTooLarge
    else if expectedLen.any (· ≠ uncompLen) then Checked.fail .invalidValue
    else decodeBlock target src uncompLen

end ExoBrowser.Proto
