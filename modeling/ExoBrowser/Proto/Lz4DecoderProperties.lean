import ExoBrowser.Proto.Lz4EncoderProperties

/-!
# What the LZ4 decoder accepts

The decoder never panics on a message-sized input, and it inverts the encoder.
-/

set_option autoImplicit false

namespace ExoBrowser.Proto

open Library

/-! ## Copying a match -/

private theorem copyEach_isCopy {out : Bytes} {distance : Nat} (back : 0 < distance)
    (reach : distance ≤ out.length) (count : Nat) :
    Checked.Returns (copyEach (out.length - distance) count out) (IsCopy out distance count) := by
  induction count generalizing out with
  | zero => exact ⟨out, rfl, .refl out distance⟩
  | succ count ih =>
      obtain ⟨symbol, found⟩ : ∃ symbol, out[out.length - distance]? = some symbol :=
        ⟨_, List.getElem?_eq_getElem (by omega)⟩
      have longer : (out ++ [symbol]).length = out.length + 1 := by simp
      refine .step (Checked.index_eq_ok found) ?_
      obtain ⟨copy, copied, isCopy⟩ := ih (by omega : distance ≤ (out ++ [symbol]).length)
      rw [longer, (by omega : out.length + 1 - distance = out.length - distance + 1)] at copied
      refine ⟨copy, copied, ?_⟩
      rw [Nat.add_comm count 1]
      exact (isCopy_snoc back reach found).trans reach isCopy

/-- All four strategies of the decoder copy byte by byte. -/
theorem copyMatch_isCopy {out : Bytes} {distance : Nat} (back : 0 < distance)
    (reach : distance ≤ out.length) (count : Nat) :
    Checked.Returns (copyMatch out (out.length - distance) distance count)
      (IsCopy out distance count) := by
  unfold copyMatch
  by_cases separate : distance ≥ count
  · rw [if_pos separate]
    refine .step (Checked.slice_eq_ok (by omega) (by omega)) ⟨_, rfl, ?_⟩
    rw [Nat.add_sub_cancel_left]
    exact isCopy_block reach separate
  · rw [if_neg separate]
    by_cases one : distance = 1
    · subst one
      have single : (out.drop (out.length - 1)).length = 1 := by
        rw [List.length_drop]
        omega
      obtain ⟨p, pattern⟩ := List.length_eq_one_iff.mp single
      have found : out[out.length - 1]? = some p := by
        have first := congrArg (·[0]?) pattern
        simpa [List.getElem?_drop] using first
      rw [if_pos rfl]
      refine .step (Checked.index_eq_ok found) ⟨_, rfl, ?_⟩
      have cycle := isCopy_cycle count 0 (pattern ▸ List.drop_suffix _ out) (Nat.zero_le _)
      simpa using cycle
    · rw [if_neg one]
      by_cases four : distance = 4
      · subst four
        obtain ⟨p₀, p₁, p₂, p₃, pattern⟩ : ∃ p₀ p₁ p₂ p₃,
            out.drop (out.length - 4) = [p₀, p₁, p₂, p₃] := by
          have four : (out.drop (out.length - 4)).length = 4 := by
            rw [List.length_drop]
            omega
          match out.drop (out.length - 4), four with
          | [p₀, p₁, p₂, p₃], _ => exact ⟨p₀, p₁, p₂, p₃, rfl⟩
        have found (k : Nat) : out[out.length - 4 + k]? = [p₀, p₁, p₂, p₃][k]? := by
          rw [← pattern, List.getElem?_drop]
        rw [if_pos rfl]
        refine .step (Checked.index_eq_ok (found 0)) (.step (Checked.index_eq_ok (found 1)) ?_)
        refine .step (Checked.index_eq_ok (found 2)) (.step (Checked.index_eq_ok (found 3)) ?_)
        refine .step (Checked.slice_eq_ok (Nat.zero_le _) (by simp; omega)) ⟨_, rfl, ?_⟩
        have cycle := isCopy_cycle (count / 4) (count % 4) (pattern ▸ List.drop_suffix _ out)
          (by simp; omega)
        have total : count / 4 * [p₀, p₁, p₂, p₃].length + count % 4 = count := by
          have := Nat.div_add_mod count 4
          simp only [List.length_cons, List.length_nil]
          omega
        rw [total] at cycle
        simpa using cycle
      · rw [if_neg four]
        exact copyEach_isCopy back reach count

/-! ## Decoding what was encoded -/

section Decoding

variable (target : Target) {src tail : Bytes}

theorem token_nibbles {litCode mlCode : Nat} (litSmall : litCode ≤ 15)
    (mlSmall : mlCode ≤ 15) :
    (((UInt8.ofNat litCode <<< 4) ||| UInt8.ofNat mlCode) >>> 4) = UInt8.ofNat litCode ∧
      (((UInt8.ofNat litCode <<< 4) ||| UInt8.ofNat mlCode) &&& 0x0F) = UInt8.ofNat mlCode := by
  have nibbles : ∀ high low : Fin 16,
      (((UInt8.ofNat high <<< 4) ||| UInt8.ofNat low) >>> 4) = UInt8.ofNat high ∧
        (((UInt8.ofNat high <<< 4) ||| UInt8.ofNat low) &&& 0x0F) = UInt8.ofNat low := by
    decide +kernel
  exact nibbles ⟨litCode, by omega⟩ ⟨mlCode, by omega⟩

theorem toNat_nibble {code : Nat} (small : code ≤ 15) : (UInt8.ofNat code).toNat = code := by
  rw [UInt8.toNat_ofNat']
  omega

private theorem nibble_full (len : Nat) : (UInt8.ofNat (min len 15) == 15) = decide (len ≥ 15) := by
  have code := toNat_nibble (by omega : min len 15 ≤ 15)
  by_cases full : len ≥ 15
  · rw [(by omega : min len 15 = 15)]
    simpa using full
  · have different : UInt8.ofNat (min len 15) ≠ 15 := by
      intro same
      rw [same] at code
      have : (15 : UInt8).toNat = 15 := rfl
      omega
    simp [different, full]

private theorem readTokenLen_eq_ok {len sp : Nat} (extra : Nat)
    (ahead : src.drop sp = extensionBytes len ++ tail) (len_small : len + extra ≤ 2 ^ 32 - 1)
    (src_small : src.length ≤ 2 ^ 32 - 1) :
    readTokenLen target src (min len 15 + extra) (decide (len ≥ 15)) sp =
      .ok (len + extra, sp + (extensionBytes len).length) := by
  by_cases full : len ≥ 15
  · simp only [extensionBytes, full, if_true] at ahead ⊢
    simp only [readTokenLen, decide_true, if_true,
      readLz4Len_eq_ok target ahead (by omega) src_small, bind, Except.bind,
      target.checkedAdd_eq_some (by omega : min len 15 + extra + (len - 15) ≤ 2 ^ 32 - 1)]
    change Except.ok _ = Except.ok _
    congr 2
    omega
  · simp only [readTokenLen, extensionBytes, full, decide_false, if_false, Bool.false_eq_true]
    change Except.ok _ = Except.ok _
    simp only [List.length_nil, Nat.add_zero]
    congr 2
    omega

private theorem decodePass_literals {literals out : Bytes} {sp mlCode uncompLen : Nat}
    (ahead : src.drop sp =
      tokenByte literals.length mlCode :: extensionBytes literals.length ++ literals ++ tail)
    (code_small : mlCode ≤ 15) (fits : out.length + literals.length ≤ uncompLen)
    (src_small : src.length ≤ 2 ^ 32 - 1) (uncomp_small : uncompLen ≤ 2 ^ 32 - 1) :
    decodePass target src uncompLen { sp, out } =
      let behind := sp + 1 + (extensionBytes literals.length).length + literals.length
      if behind ≥ src.length then .ok (.leave (out ++ literals))
      else decodeMatch target src uncompLen (tokenByte literals.length mlCode)
        { sp := behind, out := out ++ literals } := by
  have total := congrArg List.length ahead
  simp only [List.length_drop, List.length_append, List.length_cons] at total
  obtain ⟨high, -⟩ := token_nibbles (by omega : min literals.length 15 ≤ 15) code_small
  have token : src[sp]? = some (tokenByte literals.length mlCode) := by
    have first := congrArg (·[0]?) ahead
    simpa [List.getElem?_drop] using first
  have ahead₁ : src.drop (sp + 1) = extensionBytes literals.length ++ (literals ++ tail) := by
    rw [← List.drop_drop, ahead]
    simp
  have ahead₂ : src.drop (sp + 1 + (extensionBytes literals.length).length) = literals ++ tail := by
    rw [← List.drop_drop, ahead₁, List.drop_left]
  have litLen := readTokenLen_eq_ok target 0 ahead₁ (by omega) src_small
  simp only [Nat.add_zero] at litLen
  have nibble : (tokenByte literals.length mlCode >>> 4).toNat = min literals.length 15 := by
    rw [tokenByte, high, toNat_nibble (by omega)]
  have isFull : (tokenByte literals.length mlCode >>> 4 == 15) = decide (literals.length ≥ 15) := by
    rw [tokenByte, high, nibble_full]
  have sliced : Checked.slice (ε := Error) src (sp + 1 + (extensionBytes literals.length).length)
      (sp + 1 + (extensionBytes literals.length).length + literals.length) = .ok literals := by
    rw [Checked.slice_add_eq_ok (by omega), ahead₂, List.take_left]
  have inside : sp < src.length := by omega
  have literalsInside : ¬ sp + 1 + (extensionBytes literals.length).length + literals.length >
      src.length := by omega
  have literalsFit : ¬ out.length + literals.length > uncompLen := by omega
  simp only [decodePass, inside, if_true, Checked.index_eq_ok token,
    target.add_eq_ok (by omega : sp + 1 ≤ 2 ^ 32 - 1), nibble, isFull, litLen, bind, Except.bind,
    target.add_eq_ok (by omega : sp + 1 + (extensionBytes literals.length).length +
      literals.length ≤ 2 ^ 32 - 1),
    literalsInside, if_false, target.add_eq_ok (by omega : out.length + literals.length ≤ 2 ^ 32 - 1),
    literalsFit, sliced]
  rfl

/-- A pass over a sequence that is not the last one performs its copy. -/
theorem decodePass_sequence {literals out copy : Bytes} {sp offset matchLen uncompLen : Nat}
    (ahead : src.drop sp = sequenceBytes literals offset matchLen ++ tail)
    (back : 0 < offset) (reach : offset ≤ (out ++ literals).length) (near : offset ≤ 0xFFFF)
    (matchLong : 4 ≤ matchLen) (copied : IsCopy (out ++ literals) offset matchLen copy)
    (fits : copy.length ≤ uncompLen) (src_small : src.length ≤ 2 ^ 32 - 1)
    (uncomp_small : uncompLen ≤ 2 ^ 32 - 1) :
    decodePass target src uncompLen { sp, out } =
      .ok (.again { sp := sp + (sequenceBytes literals offset matchLen).length, out := copy }) := by
  have copyLength := copied.length_eq
  have total := congrArg List.length ahead
  simp only [sequenceBytes, List.length_drop, List.length_append, List.length_cons,
    length_toLeBytes] at total copyLength reach
  obtain ⟨-, low⟩ := token_nibbles (by omega : min literals.length 15 ≤ 15)
    (by omega : min (matchLen - 4) 15 ≤ 15)
  have ahead' : src.drop sp = tokenByte literals.length (min (matchLen - 4) 15) ::
      extensionBytes literals.length ++ literals ++
        (toLeBytes 2 offset ++ (extensionBytes (matchLen - 4) ++ tail)) := by
    simpa [sequenceBytes] using ahead
  rw [decodePass_literals target ahead' (by omega) (by omega) src_small uncomp_small, if_neg (by omega)]
  have ahead₁ : src.drop (sp + 1 + (extensionBytes literals.length).length + literals.length) =
      toLeBytes 2 offset ++ (extensionBytes (matchLen - 4) ++ tail) := by
    have behind : (tokenByte literals.length (min (matchLen - 4) 15) ::
        extensionBytes literals.length ++ literals).length =
          1 + (extensionBytes literals.length).length + literals.length := by
      simp
      omega
    have position : sp + 1 + (extensionBytes literals.length).length + literals.length =
        sp + (1 + (extensionBytes literals.length).length + literals.length) := by omega
    rw [position, ← List.drop_drop, ahead', ← behind, List.drop_left]
  generalize behind_eq : sp + 1 + (extensionBytes literals.length).length + literals.length = behind
    at ahead₁
  have bytes : toLeBytes 2 offset = [UInt8.ofNat offset, UInt8.ofNat (offset / 256)] := rfl
  have first : src[behind]? = some (UInt8.ofNat offset) := by
    have byte := congrArg (·[0]?) ahead₁
    simpa [List.getElem?_drop, bytes] using byte
  have second : src[behind + 1]? = some (UInt8.ofNat (offset / 256)) := by
    have byte := congrArg (·[1]?) ahead₁
    simpa [List.getElem?_drop, bytes] using byte
  have read : ofLeBytes [UInt8.ofNat offset, UInt8.ofNat (offset / 256)] = offset := by
    rw [← bytes, ofLeBytes_toLeBytes]
    omega
  have ahead₂ : src.drop (behind + 2) = extensionBytes (matchLen - 4) ++ tail := by
    rw [← List.drop_drop, ahead₁]
    simp [bytes]
  have len := readTokenLen_eq_ok target 4 ahead₂ (by omega) src_small
  rw [(by omega : matchLen - 4 + 4 = matchLen)] at len
  obtain ⟨copy', copied', isCopy⟩ := copyMatch_isCopy back
    (by simpa using reach : offset ≤ (out ++ literals).length) matchLen
  have same : copy' = copy := isCopy.unique back (by simpa using reach) copied
  subst same
  have nibble : (tokenByte literals.length (min (matchLen - 4) 15) &&& 0x0F).toNat =
      min (matchLen - 4) 15 := by
    rw [tokenByte, low, toNat_nibble (by omega)]
  have isFull : (tokenByte literals.length (min (matchLen - 4) 15) &&& 0x0F == 15) =
      decide (matchLen - 4 ≥ 15) := by
    rw [tokenByte, low, nibble_full]
  have offsetInside : ¬ behind + 2 > src.length := by omega
  have reaches : ¬ (offset = 0 ∨ offset > out.length + literals.length) := by omega
  have matchFits : ¬ out.length + literals.length + matchLen > uncompLen := by omega
  simp only [decodeMatch, target.add_eq_ok (by omega : behind + 2 ≤ 2 ^ 32 - 1), bind, Except.bind,
    offsetInside, if_false, Checked.index_eq_ok first,
    Checked.index_eq_ok second, read, List.length_append,
    reaches, nibble, isFull, len,
    target.add_eq_ok (by omega : out.length + literals.length + matchLen ≤ 2 ^ 32 - 1),
    matchFits,
    Checked.sub_eq_ok (by omega : offset ≤ out.length + literals.length)]
  rw [List.length_append] at copied'
  rw [copied']
  change Except.ok (Pass.again _) = Except.ok (Pass.again _)
  congr 3
  simp only [sequenceBytes, List.length_append, List.length_cons, length_toLeBytes]
  omega

theorem decodePass_last {literals out : Bytes} {sp uncompLen : Nat}
    (ahead : src.drop sp = lastSequenceBytes literals)
    (fits : out.length + literals.length ≤ uncompLen) (src_small : src.length ≤ 2 ^ 32 - 1)
    (uncomp_small : uncompLen ≤ 2 ^ 32 - 1) :
    decodePass target src uncompLen { sp, out } = .ok (.leave (out ++ literals)) := by
  have total := congrArg List.length ahead
  simp only [List.length_drop, lastSequenceBytes, List.length_append, List.length_cons] at total
  have ahead' : src.drop sp =
      tokenByte literals.length 0 :: extensionBytes literals.length ++ literals ++ [] := by
    simpa [lastSequenceBytes] using ahead
  rw [decodePass_literals target ahead' (by omega) fits src_small uncomp_small, if_pos (by omega)]

/-- The decoder replays the sequences of a block up to the position they account for. -/
private theorem loop_parsed {input block header : Bytes} {anchor : Nat}
    (parsed : Parsed input anchor block) (headerLength : header.length = 4)
    (shape : src = header ++ (block ++ tail)) (src_small : src.length ≤ 2 ^ 32 - 1)
    (input_small : input.length ≤ 2 ^ 32 - 1) :
    ∃ fuel, src.length - (4 + block.length) < fuel ∧
      loop (decodePass target src input.length) (src.length + 1) { sp := 4, out := [] } =
        loop (decodePass target src input.length) fuel
          { sp := 4 + block.length, out := input.take anchor } := by
  induction parsed generalizing tail with
  | start => exact ⟨src.length + 1, by omega, rfl⟩
  | @sequence anchor ip offset matchLen block _ ordered back reach near matchLong limit inside
      agree ih =>
      have shorter : src = header ++ (block ++
          (sequenceBytes ((input.drop anchor).take (ip - anchor)) offset matchLen ++ tail)) := by
        rw [shape, List.append_assoc]
      obtain ⟨fuel, enough, replayed⟩ := ih shorter
      have total := congrArg List.length shape
      have positive : 0 < (sequenceBytes ((input.drop anchor).take (ip - anchor)) offset
          matchLen).length := by simp [sequenceBytes]
      simp only [List.length_append, headerLength] at total
      obtain ⟨fuel, rfl⟩ : ∃ n, fuel = n + 1 := ⟨fuel - 1, by omega⟩
      have ahead : src.drop (4 + block.length) =
          sequenceBytes ((input.drop anchor).take (ip - anchor)) offset matchLen ++ tail := by
        rw [shape, ← List.drop_drop, ← headerLength, List.drop_left, List.append_assoc,
          List.drop_left]
      have literals : input.take anchor ++ (input.drop anchor).take (ip - anchor) =
          input.take ip := by
        rw [← List.take_add, (by omega : anchor + (ip - anchor) = ip)]
      have taken : (input.take ip).length = ip := List.length_take_of_le (by omega)
      have copied : IsCopy (input.take anchor ++ (input.drop anchor).take (ip - anchor)) offset
          matchLen (input.take (ip + matchLen)) := by
        rw [literals]
        exact isCopy_take reach (by omega) agree
      have pass := decodePass_sequence target ahead back
        (by rw [literals, taken]; exact reach) near matchLong copied
        (List.length_take_le' (ip + matchLen) input) src_small input_small
      refine ⟨fuel, ?_, ?_⟩
      · rw [List.length_append]
        omega
      · rw [replayed, loop_again pass, List.length_append, Nat.add_assoc]

theorem decodeBlock_parsed {input block header : Bytes} {anchor : Nat}
    (parsed : Parsed input anchor block) (headerLength : header.length = 4)
    (shape : src = header ++ (block ++ lastSequenceBytes (input.drop anchor)))
    (src_small : src.length ≤ 2 ^ 32 - 1) (input_small : input.length ≤ 2 ^ 32 - 1) :
    decodeBlock target src input.length = .ok input := by
  obtain ⟨fuel, enough, replayed⟩ :=
    loop_parsed target parsed headerLength shape src_small input_small
  obtain ⟨fuel, rfl⟩ : ∃ n, fuel = n + 1 := ⟨fuel - 1, by omega⟩
  have ahead : src.drop (4 + block.length) = lastSequenceBytes (input.drop anchor) := by
    rw [shape, ← List.drop_drop, ← headerLength, List.drop_left, List.drop_left]
  have position := parsed.position_le
  have fits : (input.take anchor).length + (input.drop anchor).length ≤ input.length := by
    rw [List.length_take, List.length_drop]
    omega
  have pass := decodePass_last target ahead fits src_small input_small
  rw [decodeBlock, replayed, loop_leave pass, List.take_append_drop]
  simp [bind, Except.bind, pure, Except.pure]

end Decoding

/-- What the encoder appends is short, and every target decodes it to the input. -/
theorem lz4EncodeInto_inverse (input : Bytes) (small : input.length ≤ maxMessageBytes) :
    ∃ block, Emits (lz4EncodeInto input) block ∧
      block.length ≤ 4 + input.length + input.length / 255 + 2 ∧
      ∀ (target : Target) (expectedLen : Option Nat), (∀ len ∈ expectedLen, len = input.length) →
        lz4Decode target block expectedLen = .ok input := by
  obtain ⟨anchor, block, parsed, emits⟩ := emits_lz4EncodeInto input
  have cap : maxMessageBytes = 16777216 := rfl
  have header : (UInt32.ofNat input.length).toNat = input.length := by
    rw [UInt32.toNat_ofNat']
    omega
  rw [header] at emits
  have short := parsed.length_whole_le input.length
  refine ⟨_, emits, short, fun target expectedLen expected => ?_⟩
  have decoded := decodeBlock_parsed target parsed (length_toLeBytes 4 input.length) rfl
    (by omega) (by omega)
  have first : Checked.slice (ε := Error) (toLeBytes 4 input.length ++ (block ++ lastSequenceBytes
      (input.drop anchor))) 0 4 = .ok (toLeBytes 4 input.length) := by
    rw [Checked.slice_eq_ok (Nat.zero_le 4) (by simp), List.drop_zero,
      List.take_left' (length_toLeBytes 4 input.length)]
  have read : ofLeBytes (toLeBytes 4 input.length) = input.length := by
    rw [ofLeBytes_toLeBytes]
    omega
  have agreed : ¬ expectedLen.any (· ≠ input.length) = true := by
    cases expectedLen with
    | none => simp
    | some len => simpa using expected len rfl
  rw [lz4Decode, if_neg (by simp), first]
  simp only [bind, Except.bind, read, Nat.not_lt.mpr small, if_false, agreed]
  exact decoded

/-- What is decoded from a block that fits in a message is what was encoded, however long. -/
theorem lz4Decode_of_emits {target : Target} {input block out : Bytes} {expectedLen : Option Nat}
    (emits : Emits (lz4EncodeInto input) block) (small : block.length ≤ maxMessageBytes)
    (decoded : lz4Decode target block expectedLen = .ok out) : out = input := by
  have cap : maxMessageBytes = 16777216 := rfl
  obtain ⟨anchor, sequences, parsed, written⟩ := emits_lz4EncodeInto input
  have same {other : Bytes} (emitsOther : Emits (lz4EncodeInto input) other) : other = block := by
    cases (emitsOther []).symm.trans (emits [])
    rfl
  have shape := same written
  have announced : input.length < 2 ^ 32 := by
    have position := parsed.position_le
    have covered := parsed.position_le_block
    have sized := congrArg List.length shape
    simp only [lastSequenceBytes, List.length_append, List.length_cons, List.length_drop] at sized
    omega
  have header : block.take 4 = toLeBytes 4 input.length := by
    rw [UInt32.toNat_ofNat', Nat.mod_eq_of_lt announced] at shape
    rw [← shape, List.take_left' (length_toLeBytes 4 _)]
  have read : ofLeBytes (block.take 4) = input.length := by
    rw [header, ofLeBytes_toLeBytes]
    exact Nat.mod_eq_of_lt announced
  have long : 4 ≤ block.length := by
    have sized := congrArg List.length header
    rw [List.length_take, length_toLeBytes] at sized
    omega
  rw [lz4Decode, if_neg (Nat.not_lt.mpr long), Checked.slice_eq_ok (Nat.zero_le 4) long] at decoded
  simp only [Checked.ok_bind, List.drop_zero, Nat.sub_zero, read] at decoded
  split at decoded
  case isTrue => cases decoded
  case isFalse fits =>
    obtain ⟨again, emitsAgain, _, decodes⟩ := lz4EncodeInto_inverse input (Nat.not_lt.mp fits)
    have whole := decodes target none fun _ absent => by cases absent
    rw [same emitsAgain, lz4Decode, if_neg (Nat.not_lt.mpr long),
      Checked.slice_eq_ok (Nat.zero_le 4) long] at whole
    simp only [Checked.ok_bind, List.drop_zero, Nat.sub_zero, read] at whole
    rw [if_neg fits] at whole
    split at decoded
    case isTrue => cases decoded
    case isFalse => exact Except.ok.inj (decoded.symm.trans whole)

/-- Compressing behind any output and decompressing what was appended is the identity. -/
theorem lz4Decode_lz4EncodeInto (target : Target) {input : Bytes}
    (small : input.length ≤ maxMessageBytes) (out : Bytes) {expectedLen : Option Nat}
    (expected : expectedLen = none ∨ expectedLen = some input.length) :
    ∃ block, (lz4EncodeInto input).run out = .ok ((), out ++ block) ∧
      lz4Decode target block expectedLen = .ok input := by
  obtain ⟨block, emits, _, decodes⟩ := lz4EncodeInto_inverse input small
  refine ⟨block, emits out, decodes target expectedLen fun len member => ?_⟩
  rcases expected with rfl | rfl
  · cases member
  · exact (Option.mem_some_iff.mp member).symm

theorem lz4Decode_lz4EncodeInto_repeated :
    ∃ block, (lz4EncodeInto (List.replicate 20 7)).run [1, 2] = .ok ((), [1, 2] ++ block) ∧
      lz4Decode .bits32 block (some 20) = .ok (List.replicate 20 7) :=
  lz4Decode_lz4EncodeInto .bits32 (by decide) [1, 2] (.inr rfl)

/-! ## Hostile input -/

section Safety

variable {target : Target} {src : Bytes}

theorem readLz4Len_safe {sp : Nat} (inside : sp ≤ src.length)
    (src_small : src.length ≤ maxMessageBytes) :
    Checked.Safe (readLz4Len target src sp) fun result =>
      result.1 ≤ 255 * (result.2 - sp) ∧ sp < result.2 ∧ result.2 ≤ src.length := by
  have cap : maxMessageBytes = 16777216 := rfl
  refine loop_safe (fun state => state.1 ≤ 255 * (state.2 - sp) ∧ sp ≤ state.2 ∧
    state.2 ≤ src.length) (fun state => src.length - state.2) ?_
    ⟨Nat.zero_le _, Nat.le_refl sp, inside⟩ (by simp only; omega)
  rintro ⟨total, position⟩ ⟨total_small, behind, within⟩
  simp only at total_small behind within
  cases found : src[position]? with
  | none =>
      simp only [readLz4LenPass, found]
      trivial
  | some b =>
      have here := (List.getElem?_eq_some_iff.mp found).1
      have byte := b.toNat_lt
      simp only [readLz4LenPass, found]
      refine .step (target.add_eq_ok (by omega)) ?_
      simp only [target.checkedAdd_eq_some (by omega : total + b.toNat ≤ 2 ^ 32 - 1)]
      by_cases extended : b ≠ 255
      · rw [if_pos extended]
        exact ⟨by simp only; omega, by simp only; omega, by simp only; omega⟩
      · rw [if_neg extended]
        refine ⟨⟨by simp only; omega, by simp only; omega, by simp only; omega⟩, ?_⟩
        simp only
        omega

/-- The sums behind a length stay below `2 ^ 32` by a margin of about a thousand. -/
theorem readTokenLen_safe {base sp : Nat} (full : Bool) (base_small : base ≤ 19)
    (headed : 5 ≤ sp) (inside : sp ≤ src.length) (src_small : src.length ≤ maxMessageBytes) :
    Checked.Safe (readTokenLen target src base full sp) fun result =>
      base ≤ result.1 ∧ result.1 ≤ 19 + 255 * (result.2 - sp) ∧ sp ≤ result.2 ∧
        result.2 ≤ src.length := by
  have cap : maxMessageBytes = 16777216 := rfl
  unfold readTokenLen
  cases full with
  | false => exact ⟨Nat.le_refl _, by simp only; omega, Nat.le_refl _, inside⟩
  | true =>
      refine (readLz4Len_safe inside src_small).bind fun result property => ?_
      obtain ⟨more, behind⟩ := result
      obtain ⟨more_small, forward, within⟩ := property
      simp only at more_small forward within
      simp only [target.checkedAdd_eq_some (by omega : base + more ≤ 2 ^ 32 - 1)]
      exact ⟨by simp only; omega, by simp only; omega, by simp only; omega, within⟩

private theorem decodeMatch_safe {uncompLen : Nat} {token : UInt8} {s : DecodeState}
    (headed : 5 ≤ s.sp) (inside : s.sp < src.length) (src_small : src.length ≤ maxMessageBytes)
    (uncomp_small : uncompLen ≤ maxMessageBytes) (fits : s.out.length ≤ uncompLen) :
    Checked.Safe (decodeMatch target src uncompLen token s)
      (Pass.Meets (fun next => s.sp < next.sp ∧ next.sp ≤ src.length ∧
        next.out.length ≤ uncompLen) fun _ => False) := by
  have cap : maxMessageBytes = 16777216 := rfl
  unfold decodeMatch
  refine .step (target.add_eq_ok (by omega)) ?_
  by_cases short : s.sp + 2 > src.length
  · rw [if_pos short]
    trivial
  · rw [if_neg short]
    refine .step (Checked.index_eq_ok (List.getElem?_eq_getElem (by omega))) ?_
    refine .step (Checked.index_eq_ok (List.getElem?_eq_getElem (by omega))) ?_
    generalize ofLeBytes _ = offset
    by_cases bad : offset = 0 ∨ offset > s.out.length
    · rw [if_pos bad]
      trivial
    · have nibble : (token &&& 0x0F).toNat ≤ 15 := by
        rw [UInt8.toNat_and]
        exact Nat.and_le_right
      rw [if_neg bad]
      refine (readTokenLen_safe _ (by omega) (by omega) (by omega) src_small).bind ?_
      rintro ⟨matchLen, sp⟩ ⟨_, matchSmall, forward, within⟩
      simp only at matchSmall forward within
      refine .step (target.add_eq_ok (by omega)) ?_
      by_cases long : s.out.length + matchLen > uncompLen
      · rw [if_pos long]
        trivial
      · rw [if_neg long]
        refine .step (Checked.sub_eq_ok (by omega)) ?_
        refine (copyMatch_isCopy (by omega) (by omega) matchLen).safe.bind fun out copied => ?_
        have outLength := copied.length_eq
        exact ⟨by simp only; omega, within, by simp only; omega⟩

theorem decodePass_safe {uncompLen : Nat} {s : DecodeState}
    (headed : 4 ≤ s.sp) (src_small : src.length ≤ maxMessageBytes)
    (uncomp_small : uncompLen ≤ maxMessageBytes) (fits : s.out.length ≤ uncompLen) :
    Checked.Safe (decodePass target src uncompLen s)
      (Pass.Meets (fun next => s.sp < next.sp ∧ next.sp ≤ src.length ∧
        next.out.length ≤ uncompLen) fun _ => True) := by
  have cap : maxMessageBytes = 16777216 := rfl
  unfold decodePass
  by_cases more : s.sp < src.length
  · rw [if_pos more]
    refine .step (Checked.index_eq_ok (List.getElem?_eq_getElem more)) ?_
    refine .step (target.add_eq_ok (by omega)) ?_
    have nibble : (src[s.sp] >>> 4).toNat ≤ 15 := by
      have byte := src[s.sp].toNat_lt
      have shift : (src[s.sp] >>> 4).toNat = src[s.sp].toNat / 2 ^ 4 := by
        rw [UInt8.toNat_shiftRight, Nat.shiftRight_eq_div_pow]
        rfl
      omega
    refine (readTokenLen_safe _ (by omega) (by omega) (by omega) src_small).bind ?_
    rintro ⟨litLen, sp⟩ ⟨_, litSmall, forward, within⟩
    simp only at litSmall forward within
    refine .step (target.add_eq_ok (by omega)) ?_
    by_cases beyond : sp + litLen > src.length
    · rw [if_pos beyond]
      trivial
    · rw [if_neg beyond]
      refine .step (target.add_eq_ok (by omega)) ?_
      by_cases long : s.out.length + litLen > uncompLen
      · rw [if_pos long]
        trivial
      · rw [if_neg long]
        refine .step (Checked.slice_eq_ok (by omega) (by omega)) ?_
        by_cases done : sp + litLen ≥ src.length
        · rw [if_pos done]
          trivial
        · rw [if_neg done]
          have literals : (s.out ++ (src.drop sp).take (sp + litLen - sp)).length =
              s.out.length + litLen := by
            rw [List.length_append, List.length_take, List.length_drop]
            omega
          refine (decodeMatch_safe (by simp only; omega) (by simp only; omega) src_small
            uncomp_small (by rw [literals]; omega)).mono fun pass property => ?_
          cases pass with
          | again next => exact ⟨by have := property.1; simp only at this; omega, property.2⟩
          | leave result => trivial
  · rw [if_neg more]
    trivial

/-- On an input no longer than a message the decoder terminates without a panic,
and it returns exactly as many bytes as the header declares. -/
theorem lz4Decode_safe (expectedLen : Option Nat) (src_small : src.length ≤ maxMessageBytes) :
    Checked.Safe (lz4Decode target src expectedLen) fun out =>
      out.length ≤ maxMessageBytes ∧ ∀ len ∈ expectedLen, out.length = len := by
  unfold lz4Decode
  by_cases short : src.length < 4
  · rw [if_pos short]
    trivial
  · rw [if_neg short]
    refine .step (Checked.slice_eq_ok (Nat.zero_le 4) (by omega)) ?_
    generalize ofLeBytes _ = uncompLen
    by_cases large : uncompLen > maxMessageBytes
    · rw [if_pos large]
      trivial
    · rw [if_neg large]
      by_cases disagree : expectedLen.any (· ≠ uncompLen) = true
      · rw [if_pos disagree]
        trivial
      · rw [if_neg disagree, decodeBlock]
        have replayed : Checked.Safe (loop (decodePass target src uncompLen) (src.length + 1)
            { sp := 4, out := [] }) fun _ => True := by
          refine loop_safe (fun s => 4 ≤ s.sp ∧ s.sp ≤ src.length ∧ s.out.length ≤ uncompLen)
            (fun s => src.length - s.sp) (fun s invariant => ?_)
            ⟨Nat.le_refl 4, by simp only; omega, Nat.zero_le _⟩ (by simp only; omega)
          obtain ⟨headed, inside, fits⟩ := invariant
          refine (decodePass_safe headed src_small (Nat.not_lt.mp large) fits).mono
            fun pass property => ?_
          cases pass with
          | again next =>
              obtain ⟨forward, within, fitting⟩ := property
              exact ⟨⟨by omega, within, fitting⟩, by omega⟩
          | leave result => trivial
        refine replayed.bind fun out _ => ?_
        by_cases wrong : out.length ≠ uncompLen
        · rw [if_pos wrong]
          trivial
        · rw [if_neg wrong]
          have exact_length : out.length = uncompLen := not_not.mp wrong
          refine ⟨by omega, fun len member => ?_⟩
          cases member
          have agree : ¬ len ≠ uncompLen := fun different => disagree (decide_eq_true different)
          exact exact_length.trans (not_not.mp agree).symm

end Safety

end ExoBrowser.Proto
