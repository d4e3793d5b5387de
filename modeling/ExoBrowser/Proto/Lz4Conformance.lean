import ExoBrowser.Proto.Lz4Reference

/-!
# The encoder and the block format

A block is a list of sequences, each with a match, and one more of literals only. The format
bounds the offsets and keeps matches from the end of the output. A decoder of the format knows
the bytes of the block and nothing of the encoder.
-/

set_option autoImplicit false

namespace ExoBrowser.Proto

open Library

namespace Lz4Block

open Lz4Reference

/-- Literals, and a match of `matchLen` bytes at `offset` behind them. -/
structure Sequence where
  literals : Bytes
  offset : Nat
  matchLen : Nat
deriving DecidableEq, Repr

structure Block where
  sequences : List Sequence
  last : Bytes
deriving DecidableEq, Repr

def Sequence.bytes (s : Sequence) : Bytes := sequenceBytes s.literals s.offset s.matchLen

def Block.bytes (block : Block) : Bytes :=
  block.sequences.flatMap Sequence.bytes ++ lastSequenceBytes block.last

/-! ## Rules of the format -/

/-- The rules for a sequence behind `position` bytes of an output of `total` bytes. -/
structure Sequence.Conforms (s : Sequence) (total position : Nat) : Prop where
  back : 1 ≤ s.offset
  near : s.offset ≤ 65535
  reach : s.offset ≤ position + s.literals.length
  long : 4 ≤ s.matchLen
  starts : position + s.literals.length + 12 ≤ total
  ends : position + s.literals.length + s.matchLen + 5 ≤ total

/-- The bytes that sequences stand for. -/
def produced (sequences : List Sequence) : Nat :=
  (sequences.map fun s => s.literals.length + s.matchLen).sum

structure Block.Conforms (block : Block) (total : Nat) : Prop where
  whole : produced block.sequences + block.last.length = total
  each : ∀ before s behind, block.sequences = before ++ s :: behind → s.Conforms total (produced before)

/-! ## A decoder of the format -/

def readMatch (token : UInt8) (literals : Bytes) : Bytes → Except Error (Pass (Sequence × Bytes) Bytes)
  | low :: high :: rest => do
      let (more, rest) ← readNibble (token &&& 0x0F) rest
      return .again ({ literals, offset := ofLeBytes [low, high], matchLen := 4 + more }, rest)
  | _ => .error .invalidValue

/-- A sequence with a match, or the literals that end the block. -/
def readSequence : Bytes → Except Error (Pass (Sequence × Bytes) Bytes)
  | [] => .error .invalidValue
  | token :: src => do
      let (litLen, rest) ← readNibble (token >>> 4) src
      if rest.length < litLen then .error .invalidValue
      else if rest.length = litLen then return .leave rest
      else readMatch token (rest.take litLen) (rest.drop litLen)

/-- At most `count` sequences. -/
def readSequences : Nat → Bytes → Except Error Block
  | 0, _ => .error .invalidValue
  | count + 1, src => do
      match ← readSequence src with
      | .leave last => return { sequences := [], last }
      | .again (s, rest) => do
          let block ← readSequences count rest
          return { block with sequences := s :: block.sequences }

/-- A sequence takes a byte at least. -/
def readBlock (src : Bytes) : Except Error Block := readSequences src.length src

def Sequence.replay (out : Bytes) (s : Sequence) : Except Error Bytes :=
  let out := out ++ s.literals
  if s.offset = 0 ∨ s.offset > out.length then .error .invalidValue
  else return copyBytes s.offset s.matchLen out

def decode (src : Bytes) : Except Error Bytes := do
  let block ← readBlock src
  let out ← block.sequences.foldlM Sequence.replay []
  return out ++ block.last

/-! ## Reading what is written -/

theorem readLen_lz4LenBytes (len : Nat) (tail : Bytes) :
    readLen (lz4LenBytes len ++ tail) = .ok (len, tail) := by
  have full (count : Nat) {last : UInt8} (short : last ≠ 255) :
      readLen (List.replicate count 255 ++ [last] ++ tail) = .ok (255 * count + last.toNat, tail) := by
    induction count with
    | zero => simp [readLen, short, pure, Except.pure]
    | succ count ih =>
        rw [List.replicate_succ, List.cons_append, List.cons_append, readLen, if_pos rfl, ih]
        simp only [bind, Except.bind, pure, Except.pure, Except.ok.injEq, Prod.mk.injEq, and_true]
        omega
  have last : (UInt8.ofNat (len % 255)).toNat = len % 255 := by
    rw [UInt8.toNat_ofNat']
    omega
  have short : UInt8.ofNat (len % 255) ≠ 255 := by
    intro same
    rw [same] at last
    have : (255 : UInt8).toNat = 255 := rfl
    omega
  rw [lz4LenBytes, full (len / 255) short, last]
  congr 2
  omega

theorem readNibble_extensionBytes (len : Nat) (tail : Bytes) :
    readNibble (UInt8.ofNat (min len 15)) (extensionBytes len ++ tail) = .ok (len, tail) := by
  have code := toNat_nibble (Nat.min_le_right len 15)
  cases Nat.lt_or_ge len 15 with
  | inl short =>
      have whole : min len 15 = len := Nat.min_eq_left (Nat.le_of_lt short)
      have different : UInt8.ofNat (min len 15) ≠ 15 := by
        intro same
        rw [same] at code
        have : (15 : UInt8).toNat = 15 := rfl
        omega
      rw [readNibble, if_neg different, code, whole, extensionBytes, if_neg (Nat.not_le.mpr short)]
      rfl
  | inr long =>
      have whole : min len 15 = 15 := Nat.min_eq_right long
      rw [whole, readNibble, if_pos (by decide : UInt8.ofNat 15 = 15), extensionBytes, if_pos long, readLen_lz4LenBytes]
      simp only [bind, Except.bind, pure, Except.pure, Except.ok.injEq, Prod.mk.injEq, and_true]
      omega

theorem readSequence_bytes {s : Sequence} (near : s.offset ≤ 65535) (long : 4 ≤ s.matchLen)
    (tail : Bytes) : readSequence (s.bytes ++ tail) = .ok (.again (s, tail)) := by
  obtain ⟨literals, offset, matchLen⟩ := s
  simp only at near long
  have nibbles := token_nibbles (Nat.min_le_right literals.length 15) (Nat.min_le_right (matchLen - 4) 15)
  have shape : Sequence.bytes { literals, offset, matchLen } ++ tail =
      tokenByte literals.length (min (matchLen - 4) 15) :: (extensionBytes literals.length ++
        (literals ++ (toLeBytes 2 offset ++ (extensionBytes (matchLen - 4) ++ tail)))) := by
    simp [Sequence.bytes, sequenceBytes]
  have two : ∃ low high, toLeBytes 2 offset = [low, high] := ⟨_, _, rfl⟩
  obtain ⟨low, high, two⟩ := two
  have value : ofLeBytes [low, high] = offset := by
    rw [← two, ofLeBytes_toLeBytes, Nat.mod_eq_of_lt (by omega)]
  rw [shape, readSequence, tokenByte, nibbles.1, readNibble_extensionBytes]
  simp only [bind, Except.bind]
  rw [two, if_neg, if_neg, List.take_left, List.drop_left]
  · rw [List.cons_append, List.cons_append, List.nil_append, readMatch, nibbles.2,
      readNibble_extensionBytes]
    simp only [bind, Except.bind, pure, Except.pure, value]
    congr 4
    omega
  · simp
  · simp

theorem readSequence_last (last : Bytes) : readSequence (lastSequenceBytes last) = .ok (.leave last) := by
  have nibbles := token_nibbles (Nat.min_le_right last.length 15) (Nat.zero_le 15)
  rw [lastSequenceBytes, List.cons_append, readSequence, tokenByte, nibbles.1, readNibble_extensionBytes]
  simp [bind, Except.bind, pure, Except.pure]

theorem readSequences_bytes {block : Block}
    (each : ∀ s ∈ block.sequences, s.offset ≤ 65535 ∧ 4 ≤ s.matchLen) {count : Nat}
    (enough : block.sequences.length < count) : readSequences count block.bytes = .ok block := by
  obtain ⟨sequences, last⟩ := block
  induction sequences generalizing count with
  | nil =>
      cases count with
      | zero => cases enough
      | succ count =>
          rw [readSequences, Block.bytes, List.flatMap_nil, List.nil_append, readSequence_last]
          rfl
  | cons s sequences ih =>
      cases count with
      | zero => cases enough
      | succ count =>
          have first := each s List.mem_cons_self
          have others := ih (fun t inside => each t (List.mem_cons_of_mem s inside))
            (Nat.lt_of_succ_lt_succ enough)
          rw [readSequences, Block.bytes, List.flatMap_cons, List.append_assoc,
            readSequence_bytes first.1 first.2]
          simp only [Block.bytes] at others
          simp only [bind, Except.bind, others]
          rfl

theorem length_lt_bytes (block : Block) : block.sequences.length < block.bytes.length := by
  have each : block.sequences.length ≤ (block.sequences.flatMap Sequence.bytes).length := by
    have some_byte : ∀ n ∈ block.sequences.map fun s => s.bytes.length, 1 ≤ n := by
      intro n member
      obtain ⟨s, _, rfl⟩ := List.mem_map.mp member
      simp [Sequence.bytes, sequenceBytes]
    have bound := List.length_le_sum_of_one_le _ some_byte
    rwa [List.length_map, ← List.length_flatMap] at bound
  simp only [Block.bytes, List.length_append, lastSequenceBytes, List.length_cons]
  omega

theorem readBlock_bytes {block : Block} {total : Nat} (conforms : block.Conforms total) :
    readBlock block.bytes = .ok block := by
  refine readSequences_bytes ?_ (length_lt_bytes block)
  intro s inside
  obtain ⟨before, behind, split⟩ := List.append_of_mem inside
  have rules := conforms.each before s behind split
  exact ⟨rules.near, rules.long⟩

/-! ## What the encoder writes -/

theorem produced_snoc (sequences : List Sequence) (s : Sequence) :
    produced (sequences ++ [s]) = produced sequences + (s.literals.length + s.matchLen) := by
  simp [produced]

/-- The sequences of a block, up to some position of the input. -/
structure Sequenced (input : Bytes) (position : Nat) (block : Bytes) (sequences : List Sequence) :
    Prop where
  bytes : block = sequences.flatMap Sequence.bytes
  stands : produced sequences = position
  each : ∀ before s behind, sequences = before ++ s :: behind → s.Conforms input.length (produced before)
  replays : sequences.foldlM Sequence.replay [] = .ok (input.take position)

theorem sequenced_of_parsed {input block : Bytes} {position : Nat} (parsed : Parsed input position block) :
    ∃ sequences, Sequenced input position block sequences := by
  induction parsed with
  | start =>
      refine ⟨[], rfl, rfl, ?_, rfl⟩
      intro before s behind split
      cases before <;> cases split
  | @sequence anchor ip offset matchLen block _ ordered back reach near long starts ends agree ih =>
      obtain ⟨sequences, bytes, stands, each, replays⟩ := ih
      have length : ((input.drop anchor).take (ip - anchor)).length = ip - anchor := by
        rw [List.length_take, List.length_drop]
        omega
      have literals : input.take anchor ++ (input.drop anchor).take (ip - anchor) = input.take ip := by
        rw [← List.take_add, (by omega : anchor + (ip - anchor) = ip)]
      have taken : (input.take ip).length = ip := List.length_take_of_le (by omega)
      let s : Sequence := { literals := (input.drop anchor).take (ip - anchor), offset, matchLen }
      have rules : s.Conforms input.length anchor := by
        constructor <;> simp only [s, length] <;> omega
      have replay : s.replay (input.take anchor) = .ok (input.take (ip + matchLen)) := by
        have copied : copyBytes offset matchLen (input.take ip) = input.take (ip + matchLen) :=
          IsCopy.unique back (by omega) (copyBytes_isCopy back (by omega) matchLen)
            (isCopy_take reach (by omega) agree)
        simp only [Sequence.replay, s, literals, taken]
        rw [if_neg (by omega), copied]
        rfl
      refine ⟨sequences ++ [s], ?_, ?_, ?_, ?_⟩
      · rw [bytes, List.flatMap_append, List.flatMap_singleton]
        rfl
      · rw [produced_snoc, stands]
        simp only [s, length]
        omega
      · intro before t behind split
        rcases List.eq_nil_or_concat behind with rfl | ⟨behind, final, rfl⟩
        · obtain ⟨same, single⟩ := List.append_inj' split rfl
          cases single
          rw [← same, stands]
          exact rules
        · rw [List.concat_eq_append, ← List.cons_append, ← List.append_assoc] at split
          exact each before t behind (List.append_inj' split rfl).1
      · rw [List.foldlM_append, replays]
        simp only [bind, Except.bind, List.foldlM_cons, List.foldlM_nil, replay]
        rfl

end Lz4Block

open Lz4Block in
/-- Behind its header the encoder appends a block that conforms to the format, and a decoder of the
format reads its sequences and gives the input back. -/
theorem lz4EncodeInto_conforms (input : Bytes) :
    ∃ block : Block,
      Emits (lz4EncodeInto input) (toLeBytes 4 (UInt32.ofNat input.length).toNat ++ block.bytes) ∧
        block.Conforms input.length ∧ readBlock block.bytes = .ok block ∧
        decode block.bytes = .ok input := by
  obtain ⟨anchor, written, parsed, emits⟩ := emits_lz4EncodeInto input
  obtain ⟨sequences, bytes, stands, each, replays⟩ := sequenced_of_parsed parsed
  have inside := parsed.position_le
  have conforms : Block.Conforms { sequences, last := input.drop anchor } input.length := by
    refine ⟨?_, each⟩
    simp only [stands, List.length_drop]
    omega
  have read := readBlock_bytes conforms
  refine ⟨{ sequences, last := input.drop anchor }, ?_, conforms, read, ?_⟩
  · rw [bytes] at emits
    exact emits
  · rw [decode, read]
    simp only [bind, Except.bind, replays, List.take_append_drop]
    rfl

end ExoBrowser.Proto
