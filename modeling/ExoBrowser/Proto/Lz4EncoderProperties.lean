import ExoBrowser.Library.Recoding
import ExoBrowser.Proto.Lz4Properties

/-!
# What the LZ4 encoder writes

The encoder writes a sequence of literals and verified matches that accounts for
the whole input. Nothing is assumed about the hash table: a candidate it yields
is compared before it is used.
-/

set_option autoImplicit false

namespace ExoBrowser.Proto

open Library

/-! ## Sequences -/

def extensionBytes (len : Nat) : Bytes := if len ≥ 15 then lz4LenBytes (len - 15) else []

def tokenByte (litLen mlCode : Nat) : UInt8 :=
  (UInt8.ofNat (min litLen 15) <<< 4) ||| UInt8.ofNat mlCode

/-- A sequence: literals, then a match of `matchLen` bytes at `offset`. -/
def sequenceBytes (literals : Bytes) (offset matchLen : Nat) : Bytes :=
  tokenByte literals.length (min (matchLen - 4) 15) :: extensionBytes literals.length ++
    literals ++ toLeBytes 2 offset ++ extensionBytes (matchLen - 4)

def lastSequenceBytes (literals : Bytes) : Bytes :=
  tokenByte literals.length 0 :: extensionBytes literals.length ++ literals

/-- `Parsed input position block`: the sequences of `block` account for the first
`position` bytes of the input, within the limits of the format. -/
inductive Parsed (input : Bytes) : Nat → Bytes → Prop where
  | start : Parsed input 0 []
  | sequence {anchor ip offset matchLen : Nat} {block : Bytes} :
      Parsed input anchor block → anchor ≤ ip →
      0 < offset → offset ≤ ip → offset ≤ 0xFFFF →
      4 ≤ matchLen → ip + 12 ≤ input.length → ip + matchLen + 5 ≤ input.length →
      (∀ j < matchLen, input[ip + j]? = input[ip - offset + j]?) →
      Parsed input (ip + matchLen)
        (block ++ sequenceBytes ((input.drop anchor).take (ip - anchor)) offset matchLen)

theorem Parsed.position_le {input block : Bytes} {position : Nat}
    (parsed : Parsed input position block) : position ≤ input.length := by
  cases parsed <;> omega

/-- Sequences cost at most one byte more than they stand for in every 255. -/
theorem Parsed.length_le {input block : Bytes} {position : Nat}
    (parsed : Parsed input position block) : block.length ≤ position + position / 255 := by
  induction parsed with
  | start => simp
  | @sequence anchor ip offset matchLen block _ ordered _ _ _ matchLong inside _ _ ih =>
      have literals : ((input.drop anchor).take (ip - anchor)).length = ip - anchor := by
        rw [List.length_take, List.length_drop]
        omega
      have extension : ∀ len, (extensionBytes len).length ≤
          (if len ≥ 15 then (len - 15) / 255 + 1 else 0) := by
        intro len
        unfold extensionBytes
        split <;> simp [length_lz4LenBytes]
      have left := extension (ip - anchor)
      have right := extension (matchLen - 4)
      simp only [List.length_append, sequenceBytes, List.length_cons, literals, length_toLeBytes]
      split at left <;> split at right <;> omega

/-- A byte of a block stands for 255 bytes at most. -/
theorem Parsed.position_le_block {input block : Bytes} {position : Nat}
    (parsed : Parsed input position block) : position ≤ 255 * block.length := by
  induction parsed with
  | start => exact Nat.zero_le _
  | @sequence anchor ip offset matchLen block _ ordered _ _ _ matchLong inside _ _ ih =>
      have literals : ((input.drop anchor).take (ip - anchor)).length = ip - anchor := by
        rw [List.length_take, List.length_drop]
        omega
      have extension : matchLen ≤ 4 + 14 + 255 * (extensionBytes (matchLen - 4)).length := by
        unfold extensionBytes
        split <;> simp only [length_lz4LenBytes, List.length_nil] <;> omega
      simp only [List.length_append, sequenceBytes, List.length_cons, literals, length_toLeBytes]
      omega

theorem length_lastSequenceBytes_le (literals : Bytes) :
    (lastSequenceBytes literals).length ≤ literals.length + literals.length / 255 + 2 := by
  unfold lastSequenceBytes extensionBytes
  split <;> simp only [List.length_append, List.length_cons, length_lz4LenBytes, List.length_nil] <;>
    omega

/-- A header, sequences and the rest of the input as literals. -/
theorem Parsed.length_whole_le {input block : Bytes} {anchor : Nat} (parsed : Parsed input anchor block)
    (announced : Nat) :
    (toLeBytes 4 announced ++ (block ++ lastSequenceBytes (input.drop anchor))).length ≤
      4 + input.length + input.length / 255 + 2 := by
  have position := parsed.position_le
  have blockLength := parsed.length_le
  have lastLength := length_lastSequenceBytes_le (input.drop anchor)
  rw [List.length_drop] at lastLength
  simp only [List.length_append, length_toLeBytes]
  omega

/-! ## The writers -/

private theorem emits_extension (len : Nat) :
    Emits (if len ≥ 15 then writeLz4Len (len - 15) else pure ()) (extensionBytes len) := by
  unfold extensionBytes
  split
  · exact emits_writeLz4Len _
  · exact .pure

theorem emits_writeToken (litLen mlCode : Nat) :
    Emits (writeToken litLen mlCode) (tokenByte litLen mlCode :: extensionBytes litLen) :=
  (emits_extend [tokenByte litLen mlCode]).seq (emits_extension litLen)

private theorem emits_lift {α : Type} {value : α} {computation : Checked Error α}
    {continuation : α → Wire Unit} {symbols : Bytes} (result : computation = .ok value)
    (emits : Emits (continuation value) symbols) :
    Emits ((liftM computation : Wire α) >>= continuation) symbols := by
  subst result
  exact emits

theorem emits_writeSequence {input : Bytes} {anchor ip offset matchLen : Nat}
    (ordered : anchor ≤ ip) (inside : ip ≤ input.length) (near : offset ≤ 0xFFFF) :
    Emits (writeSequence input anchor ip offset matchLen)
      (sequenceBytes ((input.drop anchor).take (ip - anchor)) offset matchLen) := by
  have literals : ((input.drop anchor).take (ip - anchor)).length = ip - anchor := by
    rw [List.length_take, List.length_drop]
    omega
  have offset16 : toLeBytes 2 (UInt16.ofNat offset).toNat = toLeBytes 2 offset := by
    rw [UInt16.toNat_ofNat', Nat.mod_eq_of_lt (by omega)]
  have shape : sequenceBytes ((input.drop anchor).take (ip - anchor)) offset matchLen =
      (tokenByte (ip - anchor) (min (matchLen - 4) 15) :: extensionBytes (ip - anchor)) ++
        ((input.drop anchor).take (ip - anchor) ++
          (toLeBytes 2 (UInt16.ofNat offset).toNat ++ extensionBytes (matchLen - 4))) := by
    rw [offset16]
    simp [sequenceBytes, literals]
  rw [shape]
  refine emits_lift (Checked.sub_eq_ok ordered) ((emits_writeToken _ _).seq ?_)
  refine emits_lift (Checked.slice_eq_ok ordered inside) ((emits_extend _).seq ?_)
  exact (emits_extend _).seq (emits_extension _)

theorem emits_writeLastSequence {input : Bytes} {anchor : Nat} (inside : anchor ≤ input.length) :
    Emits (writeLastSequence input anchor) (lastSequenceBytes (input.drop anchor)) := by
  have literals : (input.drop anchor).take (input.length - anchor) = input.drop anchor := by
    rw [← List.length_drop, List.take_length]
  have shape : lastSequenceBytes (input.drop anchor) =
      (tokenByte (input.length - anchor) 0 :: extensionBytes (input.length - anchor)) ++
        (input.drop anchor).take (input.length - anchor) := by
    simp [lastSequenceBytes, literals]
  rw [shape]
  refine emits_lift (Checked.sub_eq_ok inside) ((emits_writeToken _ _).seq ?_)
  exact emits_lift (Checked.slice_eq_ok inside (Nat.le_refl _)) (emits_extend _)

/-! ## The matching loop -/

private theorem loadU32_eq_ok {bytes : Bytes} {i : Nat} (inside : i + 4 ≤ bytes.length) :
    loadU32 bytes i = .ok (UInt32.ofNat (ofLeBytes ((bytes.drop i).take 4))) := by
  simp [loadU32, Checked.slice_add_eq_ok inside]

theorem hashSlot_lt (v : UInt32) : hashSlot v < 4096 := by
  have bound := (v * 2654435761).toNat_lt
  have shift : hashSlot v = (v * 2654435761).toNat / 2 ^ 20 := by
    rw [hashSlot, UInt32.toNat_shiftRight, Nat.shiftRight_eq_div_pow]
    rfl
  omega

private def FourAgree (input : Bytes) (pos ip : Nat) : Prop :=
  ∀ j < 4, input[pos + j]? = input[ip + j]?

private theorem matchesAt_returns {input : Bytes} {pos ip : Nat} {guard : Bool}
    (before : guard = true → pos < ip) (inside : ip + 4 ≤ input.length) :
    Checked.Returns (matchesAt input guard pos ip) fun found =>
      found = true → guard = true ∧ FourAgree input pos ip := by
  cases guard with
  | false => exact ⟨false, rfl, by simp⟩
  | true =>
      have behind := before rfl
      simp only [matchesAt, if_true, Checked.slice_add_eq_ok inside,
        Checked.slice_add_eq_ok (by omega : pos + 4 ≤ input.length)]
      refine ⟨_, rfl, fun equal => ⟨trivial, fun j low => ?_⟩⟩
      have words := congrArg (·[j]?) (beq_iff_eq.mp equal)
      simp only [List.getElem?_take_of_lt low, List.getElem?_drop] at words
      exact words.symm

/-- Whatever the table holds, a match is behind `ip`, near, and verified. -/
theorem findMatch_returns {input : Bytes} {ip : Nat} (refPos : Nat)
    (inside : ip + 4 ≤ input.length) :
    Checked.Returns (findMatch input ip refPos) fun found =>
      ∀ mpos, found = some mpos → mpos < ip ∧ ip - mpos ≤ 0xFFFF ∧ FourAgree input mpos ip := by
  unfold findMatch
  refine (matchesAt_returns (by simp; omega) inside).bind fun byte byteFound => ?_
  cases byte with
  | true =>
      obtain ⟨guard, agree⟩ := byteFound rfl
      refine ⟨_, rfl, fun mpos found => ?_⟩
      cases found
      simp only [decide_eq_true_eq] at guard
      exact ⟨by omega, by omega, agree⟩
  | false =>
      refine (matchesAt_returns (by simp; omega) inside).bind fun pixel pixelFound => ?_
      cases pixel with
      | true =>
          obtain ⟨guard, agree⟩ := pixelFound rfl
          refine ⟨_, rfl, fun mpos found => ?_⟩
          cases found
          simp only [decide_eq_true_eq] at guard
          exact ⟨by omega, by omega, agree⟩
      | false =>
          refine (matchesAt_returns (by simp; omega) inside).bind fun hash hashFound => ?_
          cases hash with
          | true =>
              obtain ⟨guard, agree⟩ := hashFound rfl
              refine ⟨_, rfl, fun mpos found => ?_⟩
              cases found
              simp only [decide_eq_true_eq] at guard
              exact ⟨guard.1, guard.2, agree⟩
          | false => exact ⟨_, rfl, by simp⟩

/-- The invariant of the matching loop: the output so far accounts for the input
up to `anchor`. -/
structure EncodeInvariant (input written : Bytes) (s : EncodeState) : Prop where
  table : s.hashTable.length = 4096
  ordered : s.anchor ≤ s.ip
  output : ∃ block, s.out = written ++ block ∧ Parsed input s.anchor block

private theorem overwrite_slot {hashTable : List UInt32} (table : hashTable.length = 4096)
    (v : UInt32) (entry : UInt32) :
    Checked.Returns (Checked.overwrite (ε := Error) hashTable (hashSlot v) [entry])
      fun updated => updated.length = 4096 := by
  have slot := hashSlot_lt v
  refine ⟨_, Checked.overwrite_eq_ok (by simp; omega), ?_⟩
  simp only [List.length_append, List.length_take, List.length_drop, List.length_singleton]
  omega

private theorem parsed_match {input block : Bytes} {anchor ip mpos count : Nat}
    (parsed : Parsed input anchor block) (ordered : anchor ≤ ip)
    (inside : ip + 12 ≤ input.length) (behind : mpos < ip) (near : ip - mpos ≤ 0xFFFF)
    (four : FourAgree input mpos ip)
    (common : IsCommonPrefix ((input.drop (mpos + 4)).take (input.length - 5 - (mpos + 4)))
      ((input.drop (ip + 4)).take (input.length - 5 - (ip + 4))) count) :
    Parsed input (ip + (4 + count)) (block ++
      sequenceBytes ((input.drop anchor).take (ip - anchor)) (ip - mpos) (4 + count)) := by
  have bound := common.within_right
  rw [List.length_take, List.length_drop] at bound
  refine .sequence parsed ordered (by omega) (by omega) near (by omega) inside (by omega)
    fun j below => ?_
  rw [(by omega : ip - (ip - mpos) = mpos)]
  by_cases early : j < 4
  · exact (four j early).symm
  · have same := common.agree (j - 4) (by omega)
    rw [List.getElem?_take_of_lt (by omega), List.getElem?_take_of_lt (by omega),
      List.getElem?_drop, List.getElem?_drop, (by omega : mpos + 4 + (j - 4) = mpos + j),
      (by omega : ip + 4 + (j - 4) = ip + j)] at same
    exact same.symm

theorem encodePass_returns {input written : Bytes} {s : EncodeState}
    (long : 13 ≤ input.length) (invariant : EncodeInvariant input written s) :
    Checked.Returns (encodePass input (input.length - 12) (input.length - 5) s)
      (Pass.Meets
        (fun next => EncodeInvariant input written next ∧
          input.length - next.ip < input.length - s.ip)
        (EncodeInvariant input written)) := by
  obtain ⟨table, ordered, block, output, parsed⟩ := invariant
  unfold encodePass
  by_cases inLimit : s.ip ≤ input.length - 12
  · rw [if_pos inLimit]
    have slot := hashSlot_lt (UInt32.ofNat (ofLeBytes ((input.drop s.ip).take 4)))
    obtain ⟨refPos, found⟩ : ∃ refPos,
        s.hashTable[hashSlot (UInt32.ofNat (ofLeBytes ((input.drop s.ip).take 4)))]? =
          some refPos := ⟨_, List.getElem?_eq_getElem (by omega)⟩
    refine .step (loadU32_eq_ok (by omega)) (.step (Checked.index_eq_ok found) ?_)
    refine (overwrite_slot table _ _).bind fun hashTable tableLength => ?_
    refine (findMatch_returns refPos.toNat (by omega)).bind fun candidate verified => ?_
    cases candidate with
    | none =>
        refine .step (Checked.sub_eq_ok ordered) ⟨_, rfl, ⟨tableLength, ?_, block, output, parsed⟩, ?_⟩
        · exact Nat.le_trans ordered (Nat.le_add_right _ _)
        · change input.length - (s.ip + (1 + _)) < _
          omega
    | some mpos =>
        obtain ⟨behind, near, four⟩ := verified mpos rfl
        refine .step (Checked.slice_eq_ok (by omega) (by omega)) ?_
        refine .step (Checked.slice_eq_ok (by omega) (by omega)) ?_
        refine (commonPrefixLen_returns _ _).bind fun count common => ?_
        refine .step (Checked.sub_eq_ok (by omega)) ?_
        refine .step (emits_writeSequence ordered (by omega) near s.out) ?_
        have next : ∃ extended, s.out ++ sequenceBytes ((input.drop s.anchor).take (s.ip - s.anchor))
            (s.ip - mpos) (4 + count) = written ++ extended ∧
            Parsed input (s.ip + (4 + count)) extended := by
          refine ⟨_, ?_, parsed_match parsed ordered (by omega) behind near four common⟩
          rw [output, List.append_assoc]
        by_cases again : s.ip + (4 + count) ≤ input.length - 12
        · simp only [again, if_true]
          refine .step (Checked.sub_eq_ok (by omega)) (.step (loadU32_eq_ok (by omega)) ?_)
          refine (overwrite_slot tableLength _ _).bind fun hashTable' tableLength' => ?_
          exact ⟨_, rfl, ⟨tableLength', Nat.le_refl _, next⟩, by simp only; omega⟩
        · simp only [again, if_false]
          exact ⟨_, rfl, ⟨tableLength, Nat.le_refl _, next⟩, by simp only; omega⟩
  · rw [if_neg inLimit]
    exact ⟨_, rfl, table, ordered, block, output, parsed⟩

/-! ## The output already written -/

theorem uniform_extend (bytes : Bytes) : Uniform (extend bytes) := by
  intro written out
  change Except.ok ((), written ++ out ++ bytes) = Except.ok ((), written ++ (out ++ bytes))
  rw [List.append_assoc]

private theorem uniform_writeLz4LenLoop (passes rem : Nat) :
    Uniform (writeLz4LenLoop passes rem) := by
  induction passes generalizing rem with
  | zero => exact .throw _
  | succ passes ih =>
      rw [writeLz4LenLoop]
      split
      · exact (uniform_extend _).seq (ih _)
      · exact uniform_extend _

private theorem uniform_extension (len : Nat) :
    Uniform (if len ≥ 15 then writeLz4Len (len - 15) else pure ()) := by
  split
  · exact uniform_writeLz4LenLoop _ _
  · exact .pure

private theorem uniform_writeToken (litLen mlCode : Nat) : Uniform (writeToken litLen mlCode) :=
  (uniform_extend _).seq (uniform_extension litLen)

private theorem uniform_writeSequence (input : Bytes) (anchor ip offset matchLen : Nat) :
    Uniform (writeSequence input anchor ip offset matchLen) := by
  refine .lift fun litLen => (uniform_writeToken _ _).seq (.lift fun literals => ?_)
  exact (uniform_extend _).seq ((uniform_extend _).seq (uniform_extension _))

private def EncodeState.behind (written : Bytes) (s : EncodeState) : EncodeState :=
  { s with out := written ++ s.out }

private theorem behind_start (written : Bytes) :
    (EncodeState.start []).behind written = .start written := by
  rw [EncodeState.behind, EncodeState.start, EncodeState.start, List.append_nil]

private theorem encodePass_behind (input : Bytes) (limit matchLimit : Nat) (written : Bytes)
    (s : EncodeState) :
    encodePass input limit matchLimit (s.behind written) =
      Pass.map (EncodeState.behind written) (EncodeState.behind written) <$>
        encodePass input limit matchLimit s := by
  unfold encodePass
  by_cases inLimit : s.ip ≤ limit
  · simp only [EncodeState.behind, inLimit, if_true, map_bind]
    refine bind_congr fun v => bind_congr fun refPos => bind_congr fun hashTable =>
      bind_congr fun candidate => ?_
    cases candidate with
    | none =>
        simp only [map_bind]
        exact bind_congr fun skipped => rfl
    | some mpos =>
        simp only [map_bind]
        refine bind_congr fun older => bind_congr fun newer => bind_congr fun count =>
          bind_congr fun offset => ?_
        rw [uniform_writeSequence, bind_map_left]
        refine bind_congr fun result => ?_
        by_cases again : s.ip + (4 + count) ≤ limit
        · simp only [again, if_true, map_bind]
          exact bind_congr fun behind => bind_congr fun v => bind_congr fun hashTable => rfl
        · simp only [again, if_false]
          rfl
  · simp only [EncodeState.behind, inLimit, if_false]
    rfl

/-! ## The whole block -/

/-- The encoder appends a header, sequences that account for the input up to some
position, and the rest of the input as literals. -/
theorem emits_lz4EncodeInto (input : Bytes) : ∃ anchor block, Parsed input anchor block ∧
    Emits (lz4EncodeInto input) (toLeBytes 4 (UInt32.ofNat input.length).toNat ++
      (block ++ lastSequenceBytes (input.drop anchor))) := by
  by_cases short : input.length < 13
  · refine ⟨0, [], .start, ?_⟩
    have token : lastSequenceBytes (input.drop 0) =
        [UInt8.ofNat input.length <<< 4] ++ input := by
      have small : min input.length 15 = input.length := by omega
      simp [lastSequenceBytes, tokenByte, extensionBytes, small, Nat.not_le.mpr
        (by omega : input.length < 15)]
    rw [token, List.nil_append]
    refine (emits_extend _).seq ?_
    rw [if_pos short]
    exact (emits_extend _).seq (emits_extend _)
  · have long : 13 ≤ input.length := Nat.not_lt.mp short
    have initial : EncodeInvariant input [] (.start []) :=
      ⟨List.length_replicate, Nat.le_refl 0, [], rfl, .start⟩
    obtain ⟨final, result, invariant⟩ := loop_returns (EncodeInvariant input [])
      (fun s => input.length - s.ip) (fun s => encodePass_returns long) initial
      (Nat.lt_succ_of_le (Nat.sub_le input.length 0))
    obtain ⟨block, output, parsed⟩ := invariant.output
    refine ⟨final.anchor, block, parsed, (emits_extend _).seq ?_⟩
    rw [if_neg short]
    intro written
    have framed := loop_map (EncodeState.behind written) (EncodeState.behind written)
      (encodePass_behind input (input.length - 12) (input.length - 5) written)
      (input.length + 1) (.start [])
    rw [result, behind_start] at framed
    have continued := emits_writeLastSequence parsed.position_le (written ++ final.out)
    simp only [StateT.run_bind, StateT.run_get, pure_bind]
    rw [framed]
    refine continued.trans ?_
    rw [output, List.nil_append, List.append_assoc]

theorem within_lz4EncodeInto (input : Bytes) :
    Within (lz4EncodeInto input) (4 + input.length + input.length / 255 + 2) := by
  obtain ⟨anchor, block, parsed, emits⟩ := emits_lz4EncodeInto input
  exact ⟨_, emits, parsed.length_whole_le _⟩

end ExoBrowser.Proto
