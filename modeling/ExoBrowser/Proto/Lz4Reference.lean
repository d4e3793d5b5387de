import ExoBrowser.Library.Agreement
import ExoBrowser.Proto.Lz4DecoderProperties

/-!
# A plain LZ4 decoder

It reads the same sequences without positions, checks or machine integers, and copies
every match byte by byte. What `lz4_decode` returns is what it returns.
-/

set_option autoImplicit false

namespace ExoBrowser.Proto

open Library Checked

namespace Lz4Reference

/-- A length goes on as long as its bytes are full. -/
def readLen : Bytes → Except Error (Nat × Bytes)
  | [] => .error .invalidValue
  | b :: rest =>
      if b = 255 then do
        let (more, rest) ← readLen rest
        return (255 + more, rest)
      else return (b.toNat, rest)

def readNibble (nibble : UInt8) (src : Bytes) : Except Error (Nat × Bytes) :=
  if nibble = 15 then do
    let (more, rest) ← readLen src
    return (15 + more, rest)
  else return (nibble.toNat, src)

def copyBytes (offset : Nat) : Nat → Bytes → Bytes
  | 0, out => out
  | count + 1, out => copyBytes offset count (out ++ out[out.length - offset]?.toList)

/-- The match behind the literals of a sequence. -/
def decodeMatch (uncompLen : Nat) (token : UInt8) (out : Bytes) :
    Bytes → Except Error (Pass (Bytes × Bytes) Bytes)
  | low :: high :: rest =>
      let offset := ofLeBytes [low, high]
      if offset = 0 ∨ offset > out.length then .error .invalidValue
      else do
        let (more, rest) ← readNibble (token &&& 0x0F) rest
        if out.length + (4 + more) > uncompLen then .error .invalidValue
        else return .again (rest, copyBytes offset (4 + more) out)
  | _ => .error .invalidValue

/-- One sequence, from what is left of the input and what is written. -/
def decodeSequence (uncompLen : Nat) : Bytes × Bytes → Except Error (Pass (Bytes × Bytes) Bytes)
  | ([], out) => return .leave out
  | (token :: src, out) => do
      let (litLen, rest) ← readNibble (token >>> 4) src
      if rest.length < litLen ∨ out.length + litLen > uncompLen then .error .invalidValue
      else if rest.length = litLen then return .leave (out ++ rest)
      else decodeMatch uncompLen token (out ++ rest.take litLen) (rest.drop litLen)

theorem readLen_shorter {src rest : Bytes} {len : Nat} (read : readLen src = .ok (len, rest)) :
    rest.length ≤ src.length := by
  induction src generalizing len with
  | nil => cases read
  | cons b src ih =>
      rw [readLen] at read
      split at read
      · cases more : readLen src with
        | error error =>
            rw [more] at read
            cases read
        | ok result =>
            rw [more] at read
            cases read
            exact Nat.le_succ_of_le (ih more)
      · cases read
        exact Nat.le_succ _

theorem readNibble_shorter {nibble : UInt8} {src rest : Bytes} {len : Nat}
    (read : readNibble nibble src = .ok (len, rest)) : rest.length ≤ src.length := by
  rw [readNibble] at read
  split at read
  · cases more : readLen src with
    | error error =>
        rw [more] at read
        cases read
    | ok result =>
        rw [more] at read
        cases read
        exact readLen_shorter more
  · cases read
    exact Nat.le_refl _

theorem decodeMatch_shorter {uncompLen : Nat} {token : UInt8} {out src : Bytes} {next : Bytes × Bytes}
    (taken : decodeMatch uncompLen token out src = .ok (.again next)) :
    next.1.length < src.length := by
  cases src with
  | nil => cases taken
  | cons low src =>
      cases src with
      | nil => cases taken
      | cons high rest =>
          rw [decodeMatch] at taken
          split at taken
          · cases taken
          · cases read : readNibble (token &&& 0x0F) rest with
            | error error =>
                rw [read] at taken
                cases taken
            | ok result =>
                rw [read] at taken
                simp only [bind, Except.bind] at taken
                split at taken
                · cases taken
                · cases taken
                  have shorter := readNibble_shorter read
                  exact Nat.lt_succ_of_lt (Nat.lt_succ_of_le shorter)

theorem decodeSequence_shorter {uncompLen : Nat} {state next : Bytes × Bytes}
    (taken : decodeSequence uncompLen state = .ok (.again next)) : next.1.length < state.1.length := by
  obtain ⟨src, out⟩ := state
  cases src with
  | nil => cases taken
  | cons token src =>
      rw [decodeSequence] at taken
      cases read : readNibble (token >>> 4) src with
      | error error =>
          rw [read] at taken
          cases taken
      | ok result =>
          rw [read] at taken
          simp only [bind, Except.bind] at taken
          split at taken
          · cases taken
          · split at taken
            · cases taken
            · have shorter := readNibble_shorter read
              have further := decodeMatch_shorter taken
              rw [List.length_drop] at further
              exact Nat.lt_succ_of_lt (Nat.lt_of_lt_of_le further (Nat.le_trans (Nat.sub_le _ _) shorter))

def decodeSequences (uncompLen : Nat) (state : Bytes × Bytes) : Except Error Bytes :=
  match _taken : decodeSequence uncompLen state with
  | .error error => .error error
  | .ok (.leave out) => .ok out
  | .ok (.again next) => decodeSequences uncompLen next
termination_by state.1.length
decreasing_by exact decodeSequence_shorter ‹_›

def decode (expectedLen : Option Nat) (src : Bytes) : Except Error Bytes :=
  if src.length < 4 then .error .invalidValue
  else
    let uncompLen := ofLeBytes (src.take 4)
    if uncompLen > maxMessageBytes then .error .messageTooLarge
    else if expectedLen.any (· ≠ uncompLen) then .error .invalidValue
    else do
      let out ← decodeSequences uncompLen (src.drop 4, [])
      if out.length ≠ uncompLen then .error .invalidValue else return out

/-! ## Copies -/

theorem copyBytes_isCopy {offset : Nat} {out : Bytes} (back : 0 < offset) (reach : offset ≤ out.length)
    (count : Nat) : IsCopy out offset count (copyBytes offset count out) := by
  induction count generalizing out with
  | zero => exact .refl out offset
  | succ count ih =>
      obtain ⟨symbol, found⟩ : ∃ symbol, out[out.length - offset]? = some symbol :=
        ⟨_, List.getElem?_eq_getElem (by omega)⟩
      rw [copyBytes, found, Nat.add_comm count 1]
      have once := isCopy_snoc back reach found
      exact once.trans reach (ih (by rw [List.length_append]; omega))

/-- Whichever way a match is copied in, it is copied as if byte by byte. -/
theorem copyMatch_eq_ok {out : Bytes} {offset : Nat} (back : 0 < offset)
    (reach : offset ≤ out.length) (count : Nat) :
    copyMatch out (out.length - offset) offset count = .ok (copyBytes offset count out) := by
  obtain ⟨copy, copied, isCopy⟩ := copyMatch_isCopy back reach count
  rw [copied, isCopy.unique back reach (copyBytes_isCopy back reach count)]

/-! ## Agreement -/

section Agreement

variable (target : Target) {src : Bytes}

theorem readLz4LenLoop_agrees {rest : Bytes} {total sp fuel : Nat} (ahead : src.drop sp = rest)
    (enough : rest.length < fuel) (small : total + 255 * rest.length ≤ 2 ^ 32 - 1)
    (src_small : src.length ≤ maxMessageBytes) :
    Agrees (loop (readLz4LenPass target src) fuel (total, sp)) (readLen rest)
      fun result plain => result.1 = total + plain.1 ∧ src.drop result.2 = plain.2 := by
  have cap : maxMessageBytes = 16777216 := rfl
  induction rest generalizing total sp fuel with
  | nil =>
      obtain ⟨fuel, rfl⟩ := Nat.exists_eq_succ_of_ne_zero (Nat.ne_of_gt enough)
      have beyond : src[sp]? = none := List.getElem?_eq_none (List.drop_eq_nil_iff.mp ahead)
      have pass : readLz4LenPass target src (total, sp) = .error (.err .invalidValue) := by
        simp only [readLz4LenPass, beyond, fail]
      rw [loop_error pass]
      exact .fail _
  | cons b rest ih =>
      obtain ⟨fuel, rfl⟩ := Nat.exists_eq_succ_of_ne_zero (Nat.ne_of_gt (Nat.zero_lt_of_lt enough))
      obtain ⟨inside, here, following⟩ := next_of_drop ahead
      have byte := b.toNat_lt
      rw [List.length_cons] at enough small
      have pass : readLz4LenPass target src (total, sp) =
          if b ≠ 255 then .ok (.leave (total + b.toNat, sp + 1)) else .ok (.again (total + b.toNat, sp + 1)) := by
        simp only [readLz4LenPass, here, target.add_eq_ok (by omega : sp + 1 ≤ 2 ^ 32 - 1),
          target.checkedAdd_eq_some (by omega : total + b.toNat ≤ 2 ^ 32 - 1)]
        rfl
      rw [readLen]
      by_cases full : b = 255
      · subst full
        rw [if_neg (not_not_intro rfl)] at pass
        rw [loop_again pass, if_pos rfl]
        have more := ih following (Nat.lt_of_succ_lt_succ enough)
          (by omega : total + 255 + 255 * rest.length ≤ 2 ^ 32 - 1)
        refine more.andThen fun result plain both => ⟨?_, both.2⟩
        rw [both.1, Nat.add_assoc]
      · rw [if_pos full] at pass
        rw [loop_leave pass, if_neg full]
        exact ⟨rfl, following⟩

theorem readLz4Len_agrees {sp : Nat} (inside : sp ≤ src.length)
    (src_small : src.length ≤ maxMessageBytes) :
    Agrees (readLz4Len target src sp) (readLen (src.drop sp)) fun result plain =>
      (result.1 = plain.1 ∧ src.drop result.2 = plain.2) ∧ result.1 ≤ 255 * src.length := by
  have cap : maxMessageBytes = 16777216 := rfl
  have agrees : Agrees (readLz4Len target src sp) (readLen (src.drop sp)) fun result plain =>
      result.1 = 0 + plain.1 ∧ src.drop result.2 = plain.2 := by
    refine readLz4LenLoop_agrees target rfl ?_ ?_ src_small
    · rw [List.length_drop]
      omega
    · rw [List.length_drop]
      omega
  refine (agrees.and_safe (readLz4Len_safe inside src_small)).mono fun result plain both => ?_
  obtain ⟨⟨len, behind⟩, bound, _, within⟩ := both
  exact ⟨⟨len.trans (Nat.zero_add _), behind⟩, by omega⟩

theorem readTokenLen_agrees {sp : Nat} (nibble : UInt8) (extra : Nat) (extra_small : extra ≤ 4)
    (inside : sp ≤ src.length) (src_small : src.length ≤ maxMessageBytes) :
    Agrees (readTokenLen target src (nibble.toNat + extra) (nibble == 15) sp)
      (readNibble nibble (src.drop sp))
      fun result plain => result.1 = extra + plain.1 ∧ src.drop result.2 = plain.2 := by
  have cap : maxMessageBytes = 16777216 := rfl
  unfold readTokenLen readNibble
  by_cases full : nibble = 15
  · subst full
    rw [if_pos (by decide : ((15 : UInt8) == 15) = true), if_pos rfl]
    refine (readLz4Len_agrees target inside src_small).bind fun result plain both => ?_
    obtain ⟨more, sp⟩ := result
    obtain ⟨⟨len, behind⟩, bound⟩ := both
    have fifteen : (15 : UInt8).toNat = 15 := rfl
    simp only at len behind bound
    simp only [fifteen, target.checkedAdd_eq_some (by omega : 15 + extra + more ≤ 2 ^ 32 - 1)]
    refine ⟨?_, behind⟩
    simp only
    omega
  · rw [if_neg full, if_neg (by simpa using full)]
    exact ⟨Nat.add_comm _ _, rfl⟩

theorem decodeMatch_agrees {uncompLen : Nat} {token : UInt8} {s : DecodeState}
    (headed : 5 ≤ s.sp) (inside : s.sp < src.length) (src_small : src.length ≤ maxMessageBytes)
    (uncomp_small : uncompLen ≤ maxMessageBytes) (fits : s.out.length ≤ uncompLen) :
    Agrees (Proto.decodeMatch target src uncompLen token s)
      (decodeMatch uncompLen token s.out (src.drop s.sp))
      (Pass.Both fun next following => src.drop next.sp = following.1 ∧ next.out = following.2) := by
  have cap : maxMessageBytes = 16777216 := rfl
  unfold Proto.decodeMatch
  refine .step (target.add_eq_ok (by omega)) ?_
  obtain ⟨low, ahead⟩ : ∃ low, src.drop s.sp = low :: src.drop (s.sp + 1) :=
    ⟨_, List.drop_eq_getElem_cons inside⟩
  obtain ⟨_, first, _⟩ := next_of_drop ahead
  rw [ahead]
  by_cases short : s.sp + 2 > src.length
  · have last : src.drop (s.sp + 1) = [] := List.drop_eq_nil_iff.mpr (by omega)
    rw [if_pos short, last]
    exact .fail _
  · obtain ⟨high, ahead⟩ : ∃ high, src.drop (s.sp + 1) = high :: src.drop (s.sp + 2) :=
      ⟨_, List.drop_eq_getElem_cons (by omega)⟩
    obtain ⟨_, second, _⟩ := next_of_drop ahead
    rw [if_neg short, ahead]
    refine .step (index_eq_ok first) (.step (index_eq_ok second) ?_)
    unfold decodeMatch
    simp only
    by_cases bad : ofLeBytes [low, high] = 0 ∨ ofLeBytes [low, high] > s.out.length
    · rw [if_pos bad, if_pos bad]
      exact .fail _
    · rw [if_neg bad, if_neg bad]
      generalize ofLeBytes [low, high] = offset at bad
      have nibble : (token &&& 0x0F).toNat ≤ 15 := by
        rw [UInt8.toNat_and]
        exact Nat.and_le_right
      have agrees := (readTokenLen_agrees target (token &&& 0x0F) 4 (Nat.le_refl 4)
        (by omega : s.sp + 2 ≤ src.length) src_small).and_safe
          (readTokenLen_safe _ (by omega) (by omega) (by omega) src_small)
      refine agrees.bind fun result plain both => ?_
      obtain ⟨matchLen, sp⟩ := result
      obtain ⟨more, rest⟩ := plain
      obtain ⟨⟨len, behind⟩, _, bound, _, within⟩ := both
      simp only at len behind bound within ⊢
      subst len
      refine .step (target.add_eq_ok (by omega)) ?_
      by_cases long : s.out.length + (4 + more) > uncompLen
      · rw [if_pos long, if_pos long]
        exact .fail _
      · rw [if_neg long, if_neg long]
        refine .step (sub_eq_ok (by omega)) ?_
        refine .step (copyMatch_eq_ok (by omega) (by omega) (4 + more)) ?_
        exact ⟨behind, rfl⟩

theorem decodePass_agrees {uncompLen : Nat} {s : DecodeState}
    (headed : 4 ≤ s.sp) (src_small : src.length ≤ maxMessageBytes)
    (uncomp_small : uncompLen ≤ maxMessageBytes) (fits : s.out.length ≤ uncompLen) :
    Agrees (decodePass target src uncompLen s) (decodeSequence uncompLen (src.drop s.sp, s.out))
      (Pass.Both fun next following => src.drop next.sp = following.1 ∧ next.out = following.2) := by
  have cap : maxMessageBytes = 16777216 := rfl
  unfold decodePass
  by_cases more : s.sp < src.length
  · obtain ⟨token, ahead⟩ : ∃ token, src.drop s.sp = token :: src.drop (s.sp + 1) :=
      ⟨_, List.drop_eq_getElem_cons more⟩
    obtain ⟨_, here, _⟩ := next_of_drop ahead
    rw [if_pos more, ahead]
    refine .step (index_eq_ok here) (.step (target.add_eq_ok (by omega)) ?_)
    unfold decodeSequence
    have nibble : (token >>> 4).toNat ≤ 15 := by
      have byte := token.toNat_lt
      have shift : (token >>> 4).toNat = token.toNat / 2 ^ 4 := by
        rw [UInt8.toNat_shiftRight, Nat.shiftRight_eq_div_pow]
        rfl
      omega
    have agrees := (readTokenLen_agrees target (token >>> 4) 0 (Nat.zero_le 4)
      (by omega : s.sp + 1 ≤ src.length) src_small).and_safe
        (readTokenLen_safe _ (by omega) (by omega) (by omega) src_small)
    refine agrees.bind fun result plain both => ?_
    obtain ⟨litLen, sp⟩ := result
    obtain ⟨len, rest⟩ := plain
    obtain ⟨⟨same, behind⟩, _, bound, forward, within⟩ := both
    simp only [Nat.zero_add] at same behind bound forward within ⊢
    subst same behind
    rw [List.length_drop]
    refine .step (target.add_eq_ok (by omega)) ?_
    by_cases beyond : sp + litLen > src.length
    · rw [if_pos beyond, if_pos (.inl (by omega))]
      exact .fail _
    · rw [if_neg beyond]
      refine .step (target.add_eq_ok (by omega)) ?_
      by_cases long : s.out.length + litLen > uncompLen
      · rw [if_pos long, if_pos (.inr long)]
        exact .fail _
      · rw [if_neg long, if_neg (not_or.mpr ⟨by omega, long⟩)]
        refine .step (slice_add_eq_ok (by omega)) ?_
        by_cases done : sp + litLen ≥ src.length
        · have all : (src.drop sp).take litLen = src.drop sp :=
            List.take_of_length_le (by rw [List.length_drop]; omega)
          rw [if_pos done, if_pos (by omega), all]
          exact .pure rfl
        · have literals : (s.out ++ (src.drop sp).take litLen).length = s.out.length + litLen := by
            rw [List.length_append, List.length_take, List.length_drop]
            omega
          rw [if_neg done, if_neg (by omega), List.drop_drop]
          refine decodeMatch_agrees target ?_ ?_ src_small uncomp_small ?_
          · simp only
            omega
          · simp only
            omega
          · rw [literals]
            omega
  · have done : src.drop s.sp = [] := List.drop_eq_nil_iff.mpr (Nat.not_lt.mp more)
    rw [if_neg more, done]
    exact .pure rfl

theorem decodeSequences_stops {uncompLen : Nat} (state : Bytes × Bytes) (error : Error)
    (stops : decodeSequence uncompLen state = .error error) :
    decodeSequences uncompLen state = .error error := by
  rw [decodeSequences]
  split
  case h_1 other taken =>
    cases taken.symm.trans stops
    rfl
  case h_2 out taken => cases taken.symm.trans stops
  case h_3 next taken => cases taken.symm.trans stops

theorem decodeSequences_leaves {uncompLen : Nat} (state : Bytes × Bytes) (out : Bytes)
    (leaves : decodeSequence uncompLen state = .ok (.leave out)) :
    decodeSequences uncompLen state = .ok out := by
  rw [decodeSequences]
  split
  case h_1 other taken => cases taken.symm.trans leaves
  case h_2 other taken =>
    cases taken.symm.trans leaves
    rfl
  case h_3 next taken => cases taken.symm.trans leaves

theorem decodeSequences_goesOn {uncompLen : Nat} (state next : Bytes × Bytes)
    (goesOn : decodeSequence uncompLen state = .ok (.again next)) :
    decodeSequences uncompLen state = decodeSequences uncompLen next := by
  rw [decodeSequences]
  split
  case h_1 other taken => cases taken.symm.trans goesOn
  case h_2 other taken => cases taken.symm.trans goesOn
  case h_3 other taken =>
    cases taken.symm.trans goesOn
    rfl

/-- What the loop is at, and what is left of the input and written in the plain decoder. -/
structure Tracks (src : Bytes) (uncompLen : Nat) (s : DecodeState) (state : Bytes × Bytes) : Prop where
  rest : src.drop s.sp = state.1
  written : s.out = state.2
  headed : 4 ≤ s.sp
  inside : s.sp ≤ src.length
  fits : s.out.length ≤ uncompLen

theorem loop_decodePass_agrees {uncompLen : Nat} (four : 4 ≤ src.length)
    (src_small : src.length ≤ maxMessageBytes) (uncomp_small : uncompLen ≤ maxMessageBytes) :
    Agrees (loop (decodePass target src uncompLen) (src.length + 1) { sp := 4, out := [] })
      (decodeSequences uncompLen (src.drop 4, [])) Eq := by
  refine loop_agrees (Tracks src uncompLen) (fun s => src.length - s.sp) decodeSequences_stops
    decodeSequences_leaves decodeSequences_goesOn ?_ ⟨rfl, rfl, Nat.le_refl 4, four, Nat.zero_le _⟩
    (Nat.lt_succ_of_le (Nat.sub_le _ _))
  intro s state tracks
  obtain ⟨rest, written⟩ := state
  obtain ⟨ahead, same, headed, inside, fits⟩ := tracks
  cases ahead
  cases same
  refine ((decodePass_agrees target headed src_small uncomp_small fits).and_safe
    (decodePass_safe headed src_small uncomp_small fits)).mono ?_
  intro pass plain both
  obtain ⟨agree, safe⟩ := both
  cases pass with
  | leave out =>
      cases plain with
      | leave other => exact agree
      | again following => exact agree
  | again next =>
      cases plain with
      | leave other => exact agree
      | again following =>
          obtain ⟨forward, within, fitting⟩ := safe
          exact ⟨⟨agree.1, agree.2, by omega, within, fitting⟩, by omega⟩

theorem lz4Decode_agrees (src_small : src.length ≤ maxMessageBytes) (expectedLen : Option Nat) :
    Agrees (lz4Decode target src expectedLen) (decode expectedLen src) Eq := by
  unfold lz4Decode decode
  by_cases short : src.length < 4
  · rw [if_pos short, if_pos short]
    exact .fail _
  · rw [if_neg short, if_neg short]
    refine .step (slice_eq_ok (Nat.zero_le 4) (Nat.not_lt.mp short)) ?_
    simp only [List.drop_zero, Nat.sub_zero]
    generalize ofLeBytes (src.take 4) = uncompLen
    by_cases large : uncompLen > maxMessageBytes
    · rw [if_pos large, if_pos large]
      exact .fail _
    · rw [if_neg large, if_neg large]
      by_cases disagree : expectedLen.any (· ≠ uncompLen) = true
      · rw [if_pos disagree, if_pos disagree]
        exact .fail _
      · rw [if_neg disagree, if_neg disagree, decodeBlock]
        have block := loop_decodePass_agrees target (Nat.not_lt.mp short) src_small (Nat.not_lt.mp large)
        refine block.bind fun out other same => ?_
        subst same
        by_cases wrong : out.length ≠ uncompLen
        · rw [if_pos wrong, if_pos wrong]
          exact .fail _
        · rw [if_neg wrong, if_neg wrong]
          exact .pure rfl

theorem decode_length {expectedLen : Option Nat} {out : Bytes} (decoded : decode expectedLen src = .ok out) :
    out.length = ofLeBytes (src.take 4) := by
  unfold decode at decoded
  split at decoded
  case isTrue => cases decoded
  case isFalse =>
    simp only at decoded
    split at decoded
    case isTrue => cases decoded
    case isFalse =>
      split at decoded
      case isTrue => cases decoded
      case isFalse =>
        cases sequences : decodeSequences (ofLeBytes (src.take 4)) (src.drop 4, []) with
        | error error =>
            rw [sequences] at decoded
            cases decoded
        | ok written =>
            rw [sequences] at decoded
            simp only [bind, Except.bind] at decoded
            split at decoded
            case isTrue => cases decoded
            case isFalse same =>
              cases decoded
              exact not_not.mp same

end Agreement

end Lz4Reference

/-- `lz4_decode` returns what the plain decoder returns, on all bytes that fit in a message and
with a `usize` of 32 bits or more: it ends, it leaves no range and no sum overflows. What it
decodes is as long as the header says. -/
theorem lz4_decode_eq_reference (target : Target) (src : Bytes) (expectedLen : Option Nat)
    (src_small : src.length ≤ maxMessageBytes) :
    lz4Decode target src expectedLen = (Lz4Reference.decode expectedLen src).mapError .err ∧
      ∀ out, lz4Decode target src expectedLen = .ok out → out.length = ofLeBytes (src.take 4) := by
  have agrees := Lz4Reference.lz4Decode_agrees target src_small expectedLen
  refine ⟨agrees.eq_mapError, fun out decoded => ?_⟩
  rw [decoded] at agrees
  cases plain : Lz4Reference.decode expectedLen src with
  | error error =>
      rw [plain] at agrees
      cases agrees
  | ok other =>
      rw [plain] at agrees
      cases agrees
      exact Lz4Reference.decode_length plain

/-- A literal and a match at distance 1, with a `usize` of 32 bits. -/
theorem lz4_decode_eq_reference_run :
    lz4Decode .bits32 [6, 0, 0, 0, 0x11, 7, 1, 0] (some 6) =
        (Lz4Reference.decode (some 6) [6, 0, 0, 0, 0x11, 7, 1, 0]).mapError .err ∧
      ∀ out, lz4Decode .bits32 [6, 0, 0, 0, 0x11, 7, 1, 0] (some 6) = .ok out →
        out.length = ofLeBytes ([6, 0, 0, 0, 0x11, 7, 1, 0].take 4) :=
  lz4_decode_eq_reference .bits32 [6, 0, 0, 0, 0x11, 7, 1, 0] (some 6) (by decide)

end ExoBrowser.Proto
