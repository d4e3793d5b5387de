import ExoBrowser.Proto.Reencoding

/-!
# What the decoder reserves

Room for drawing commands is reserved by the count in front of them, before the first of them
is read. Every other length is compared with the bytes that are there before it is used.
-/

set_option autoImplicit false

namespace ExoBrowser.Proto

open Library

/-- What is read before room is reserved: the time, the layer and the count. -/
def drawCommandsHeader : Wire (UInt64 × UInt32 × UInt32) := do
  let tsUs ← readU64
  let layerId ← readU32
  let count ← readVarint
  return (tsUs, layerId, count)

/-- Room for `count` commands, with `unread` bytes of the payload behind the count. -/
structure Reservation where
  count : Nat
  unread : Nat
deriving DecidableEq, Repr

def Reservation.Bounded (r : Reservation) : Prop := r.count ≤ r.unread

/-- `Vec::with_capacity(count)`, which runs whatever becomes of the commands. -/
def Message.reservation (buf : Bytes) : Option Reservation :=
  match splitFrame buf with
  | .ok (some (tag, payload, _)) =>
      if tag = Tag.drawCommands then
        match drawCommandsHeader.run payload with
        | .ok ((_, _, count), unread) => some { count := count.toNat, unread := unread.length }
        | .error _ => none
      else none
  | _ => none

theorem decodeFields_drawCommands (target : Target) :
    decodeFields target Tag.drawCommands = (do
      let (tsUs, layerId, count) ← drawCommandsHeader
      let commands ← readMany readDrawCmd count.toNat
      return .drawCommands tsUs layerId commands) := by
  simp only [drawCommandsHeader, bind_assoc, pure_bind]
  rfl

/-- The frame is complete and small enough, but announces more commands than bytes follow. -/
structure Overannounced (header fields announced commands : Bytes) (count : UInt32) : Prop where
  header : Reads readHeader header
    (Tag.drawCommands, UInt32.ofNat (fields ++ announced ++ commands).length)
  small : (fields ++ announced ++ commands).length ≤ maxMessageBytes
  fields : fields.length = 12
  announced : Reads readVarint announced count
  more : commands.length < count.toNat

theorem run_fixed {α : Type} (width : Nat) (convert : Nat → α) (input : Bytes) :
    (do return convert (ofLeBytes (← readSlice width .unexpectedEof)) : Wire α).run input =
      if width ≤ input.length then .ok (convert (ofLeBytes (input.take width)), input.drop width)
      else .error (.err .unexpectedEof) := by
  rw [StateT.run_bind, run_readSlice]
  split
  case isTrue => rfl
  case isFalse => rfl

/-- The count stands behind twelve bytes. -/
theorem run_drawCommandsHeader {payload : Bytes} (long : 12 ≤ payload.length) :
    drawCommandsHeader.run payload = readVarint.run (payload.drop 12) >>= fun result =>
      .ok ((UInt64.ofNat (ofLeBytes (payload.take 8)),
        UInt32.ofNat (ofLeBytes ((payload.drop 8).take 4)), result.1), result.2) := by
  have time := run_fixed 8 UInt64.ofNat payload
  have layer := run_fixed 4 UInt32.ofNat (payload.drop 8)
  rw [if_pos (by omega)] at time
  rw [List.length_drop, if_pos (by omega), List.drop_drop] at layer
  unfold drawCommandsHeader
  rw [StateT.run_bind, readU64, time, Checked.ok_bind, StateT.run_bind, readU32, layer, Checked.ok_bind]
  rfl

theorem run_drawCommandsHeader_short {payload : Bytes} (short : payload.length < 12) :
    drawCommandsHeader.run payload = .error (.err .unexpectedEof) := by
  have time := run_fixed 8 UInt64.ofNat payload
  unfold drawCommandsHeader
  rw [StateT.run_bind, readU64, time]
  split
  case isFalse => rfl
  case isTrue =>
    have layer := run_fixed 4 UInt32.ofNat (payload.drop 8)
    rw [List.length_drop, if_neg (by omega)] at layer
    rw [Checked.ok_bind, StateT.run_bind, readU32, layer]
    rfl

/-- Room is reserved where a complete frame of drawing commands has a count. -/
theorem reservation_eq_some_iff {buf : Bytes} {r : Reservation} :
    Message.reservation buf = some r ↔
      ∃ payload rest count unread, splitFrame buf = .ok (some (Tag.drawCommands, payload, rest)) ∧
        12 ≤ payload.length ∧ readVarint.run (payload.drop 12) = .ok (count, unread) ∧
        r = { count := count.toNat, unread := unread.length } := by
  unfold Message.reservation
  constructor
  · intro reserved
    split at reserved
    case h_2 => cases reserved
    case h_1 tag payload rest split =>
      by_cases commands : tag = Tag.drawCommands
      · subst commands
        rw [if_pos rfl] at reserved
        by_cases long : 12 ≤ payload.length
        · rw [run_drawCommandsHeader long] at reserved
          cases read : readVarint.run (payload.drop 12) with
          | error stop =>
              rw [read] at reserved
              cases reserved
          | ok result =>
              rw [read] at reserved
              cases reserved
              exact ⟨payload, rest, result.1, result.2, split, long, read, rfl⟩
        · rw [run_drawCommandsHeader_short (Nat.not_le.mp long)] at reserved
          cases reserved
      · rw [if_neg commands] at reserved
        cases reserved
  · rintro ⟨payload, rest, count, unread, split, long, read, rfl⟩
    rw [split]
    simp only [if_true, run_drawCommandsHeader long, read]
    rfl

/-- Every command is at least a byte, so that a list of commands that is read has bytes enough. -/
theorem takes_commands (count : Nat) :
    Takes (readMany readDrawCmd count) fun _ taken => count ≤ taken := by
  have command : Takes readDrawCmd fun _ taken => 0 < taken := by
    intro input cmd rest read
    obtain ⟨taken, length, symbols, emits, short⟩ := takes_drawCmd input cmd rest read
    obtain ⟨same, emitsSame, reads⟩ := inverse_drawCmd (by decide : 0 < 2 ^ 32) cmd
    cases (emitsSame []).symm.trans (emits [])
    refine ⟨taken, length, Nat.pos_of_ne_zero fun none_taken => ?_⟩
    subst none_taken
    have nothing : symbols = [] := List.length_eq_zero_iff.mp (Nat.le_zero.mp short)
    subst nothing
    cases reads (Nat.le_refl 0) []
  induction count with
  | zero => exact .pure (Nat.le_refl 0)
  | succ count ih =>
      exact command.bind fun _ taken some_byte => ih.bind fun _ more enough => .pure (by omega)

/-- The bytes of a frame that announces more commands than there are bytes for. -/
theorem not_bounded_iff {buf : Bytes} :
    (∃ r, Message.reservation buf = some r ∧ ¬ r.Bounded) ↔
      ∃ header fields announced commands rest count,
        buf = header ++ (fields ++ announced ++ commands ++ rest) ∧
          Overannounced header fields announced commands count := by
  constructor
  · rintro ⟨r, reserved, exceeds⟩
    obtain ⟨payload, rest, count, unread, split, long, read, rfl⟩ := reservation_eq_some_iff.mp reserved
    obtain ⟨header, reads, rfl, small⟩ := splitFrame_eq_some split
    have taken := local_readVarint (payload.drop 12)
    rw [read] at taken
    obtain ⟨announced, behind, readsCount⟩ := taken
    have whole : payload.take 12 ++ announced ++ unread = payload := by
      rw [List.append_assoc, ← behind, List.take_append_drop]
    refine ⟨header, payload.take 12, announced, unread, rest, count, by rw [whole], ?_⟩
    exact {
      header := by rwa [whole]
      small := by rwa [whole]
      fields := List.length_take_of_le long
      announced := readsCount
      more := Nat.not_le.mp exceeds }
  · rintro ⟨header, fields, announced, commands, rest, count, rfl, announces⟩
    have split := splitFrame_of_reads announces.header announces.small rest
    refine ⟨_, reservation_eq_some_iff.mpr ⟨_, rest, count, commands, split, ?_, ?_, rfl⟩,
      Nat.not_le.mpr announces.more⟩
    · simp only [List.length_append, announces.fields]
      omega
    · rw [List.append_assoc, List.drop_left' announces.fields]
      exact announces.announced commands

/-- A message that is accepted has as many bytes as commands. -/
theorem bounded_of_accepted {target : Target} {buf rest : Bytes} {m : Message} {r : Reservation}
    (accepted : Message.decode target buf = (.ok (some m), rest))
    (reserved : Message.reservation buf = some r) : r.Bounded := by
  obtain ⟨payload, behind, count, unread, split, long, read, rfl⟩ := reservation_eq_some_iff.mp reserved
  obtain ⟨tag, same, split', decoded⟩ := splitFrame_of_accepted accepted
  cases split.symm.trans split'
  unfold decodePayload at decoded
  obtain ⟨⟨msg, p⟩, fields, _⟩ := Checked.bind_eq_ok decoded
  rw [decodeFields_drawCommands, StateT.run_bind, run_drawCommandsHeader long, read] at fields
  obtain ⟨⟨header, p₁⟩, headed, behindHeader⟩ := Checked.bind_eq_ok fields
  cases headed
  obtain ⟨⟨commands, p'⟩, listed, _⟩ := Checked.bind_eq_ok behindHeader
  obtain ⟨taken, length, enough⟩ := takes_commands count.toNat unread commands p' listed
  change count.toNat ≤ unread.length
  omega

/-- What is reserved is bounded by what is left of the payload, unless a complete frame of drawing
commands announces more of them than there are bytes behind the count. Such a frame is refused, but
only behind the reservation. -/
theorem reservation_bounded_iff (buf : Bytes) :
    ((∀ r, Message.reservation buf = some r → r.Bounded) ↔
      ¬ ∃ header fields announced commands rest count,
        buf = header ++ (fields ++ announced ++ commands ++ rest) ∧
          Overannounced header fields announced commands count) ∧
      ∀ (target : Target) (m : Message) (rest : Bytes),
        Message.decode target buf = (.ok (some m), rest) →
          ∀ r, Message.reservation buf = some r → r.Bounded := by
  refine ⟨?_, fun target m rest accepted r reserved => bounded_of_accepted accepted reserved⟩
  rw [← not_bounded_iff]
  constructor
  · rintro bounded ⟨r, reserved, exceeds⟩
    exact exceeds (bounded r reserved)
  · intro none_exceeds r reserved
    by_contra exceeds
    exact none_exceeds ⟨r, reserved, exceeds⟩

/-- Twenty bytes ask for room for more than four thousand million commands. -/
theorem reservation_unbounded :
    ∃ r, Message.reservation [0x51, 18, 0, 0, 0, 0, 0, 0, 0, 0, 0, 0, 0, 0, 0xff, 0xff, 0xff, 0xff, 0x0f, 6] =
      some r ∧ r.count = 4294967295 ∧ ¬ r.Bounded := by
  refine ⟨{ count := 4294967295, unread := 1 }, by decide +kernel, rfl, ?_⟩
  exact Nat.not_le.mpr (by decide)

end ExoBrowser.Proto
