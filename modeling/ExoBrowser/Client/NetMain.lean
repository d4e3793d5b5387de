import ExoBrowser.Client.IngestProperties
import ExoBrowser.Proto.Varint

/-!
# The network client

The receive loop of the client that is built with `std`, behind the handshake. It drains
its buffer, reads, and starts again.
-/

set_option autoImplicit false

namespace ExoBrowser.Client

open Library Proto Link Checked

/-! ## The loop -/

/-- A pass of the inner loop over a buffer of which `cur` is left. Behind an error, which it
only logs, it goes on as where bytes are missing. -/
def drainPass (target : Target) :
    List RenderEvent × Bytes → Run (Pass (List RenderEvent × Bytes) (List RenderEvent × Bytes))
  | (sent, cur) =>
      match Message.decode target cur with
      | (.ok (some msg), rest) =>
          return .again (sent ++ (RenderEvent.fromProtoMessage msg).toList, rest)
      | (.ok none, rest) => return .leave (sent, rest)
      | (.error (.err _), rest) => return .leave (sent, rest)
      | (.error (.panic panic), _) => Checked.abort panic

/-- The events that are sent on, and the buffer without what was decoded. -/
def drainInbuf (target : Target) (inbuf : Bytes) : Run (List RenderEvent × Bytes) := do
  let (sent, cur) ← loop (drainPass target) (inbuf.length + 1) ([], inbuf)
  return (sent, inbuf.drop (inbuf.length - cur.length))

def chunkBytes : Nat := 32 * 1024

/-- One turn of the loop, if the read brings bytes. It ends at a read of no bytes, at an error
and at the stop flag. -/
def netStep (target : Target) : Step Bytes Bytes RenderEvent :=
  fun inbuf chunk sent next => ∃ left, drainInbuf target inbuf = .ok (sent, left) ∧
    chunk ≠ [] ∧ chunk.length ≤ chunkBytes ∧ next = left ++ chunk

variable {target : Target}

/-! ## What is left -/

theorem onePass_left_suffix (target : Target) (buf : Bytes) : (onePass target buf).left <:+ buf := by
  unfold onePass
  induction buf using Framing.drain.induct (messageFraming target) with
  | case1 buf found =>
      rw [Framing.drain_incomplete found]
  | case2 buf stop found =>
      rw [Framing.drain_malformed found]
  | case3 buf msg rest found ih =>
      rw [Framing.drain_item found]
      exact ih.trans (decode_accepted (decodeFront_item_iff.mp found)).1

theorem drainLoop_eq (cur : Bytes) (sent : List RenderEvent) {fuel : Nat} (enough : cur.length < fuel) :
    loop (drainPass target) fuel (sent, cur) =
      .ok (sent ++ (onePass target cur).messages.filterMap RenderEvent.fromProtoMessage,
        (onePass target cur).left) := by
  unfold onePass
  induction cur using Framing.drain.induct (messageFraming target) generalizing sent fuel with
  | case1 cur found =>
      obtain ⟨fuel, rfl⟩ := Nat.exists_eq_succ_of_ne_zero (Nat.ne_zero_of_lt enough)
      have pass : drainPass target (sent, cur) = .ok (.leave (sent, cur)) := by
        rw [drainPass, decodeFront_incomplete_iff.mp found]
        rfl
      rw [loop_leave pass, Framing.drain_incomplete found]
      simp only [List.filterMap_nil, List.append_nil]
  | case2 cur stop found =>
      obtain ⟨fuel, rfl⟩ := Nat.exists_eq_succ_of_ne_zero (Nat.ne_zero_of_lt enough)
      obtain ⟨error, decoded⟩ := onePass_error found
      have pass : drainPass target (sent, cur) = .ok (.leave (sent, cur)) := by
        rw [drainPass, decoded]
        rfl
      rw [loop_leave pass, Framing.drain_malformed found]
      simp only [List.filterMap_nil, List.append_nil]
  | case3 cur msg rest found ih =>
      obtain ⟨fuel, rfl⟩ := Nat.exists_eq_succ_of_ne_zero (Nat.ne_zero_of_lt enough)
      have shorter := (messageFraming target).item_shorter found
      have pass : drainPass target (sent, cur) =
          .ok (.again (sent ++ (RenderEvent.fromProtoMessage msg).toList, rest)) := by
        rw [drainPass, decodeFront_item_iff.mp found]
        rfl
      rw [loop_again pass, ih _ (by omega : rest.length < fuel), Framing.drain_item found,
        List.append_assoc]
      simp only [Drained.cons, List.filterMap_cons]
      cases RenderEvent.fromProtoMessage msg <;> rfl

/-- What the inner loop drains is what one pass takes, with an error or without. -/
theorem drainInbuf_eq (inbuf : Bytes) :
    drainInbuf target inbuf =
      .ok ((onePass target inbuf).messages.filterMap RenderEvent.fromProtoMessage,
        (onePass target inbuf).left) := by
  have left := List.suffix_iff_eq_drop.mp (onePass_left_suffix target inbuf)
  unfold drainInbuf
  rw [drainLoop_eq inbuf [] (Nat.lt_succ_self _)]
  simp only [Checked.ok_bind, List.nil_append, ← left]
  rfl

theorem run_left {initial inbuf : Bytes} {chunks : List Bytes} {sent : List RenderEvent}
    (ran : Runs (netStep target) initial chunks sent inbuf) :
    (onePass target inbuf).left = (onePass target (initial ++ chunks.flatten)).left := by
  induction ran with
  | start => rw [List.flatten_nil, List.append_nil]
  | step _ stepped ih =>
      obtain ⟨left, drained, _, _, rfl⟩ := stepped
      rw [drainInbuf_eq] at drained
      obtain ⟨_, rfl⟩ := Prod.mk.inj (Except.ok.inj drained)
      rw [ih, List.flatten_append, List.flatten_singleton, ← List.append_assoc]
      exact Framing.left_drain_left _ _

/-! ## Bounds -/

/-- A header is two varints of at most five bytes. -/
theorem readHeader_takes {buf probe : Bytes} {tag len : UInt32}
    (read : readHeader.run buf = .ok ((tag, len), probe)) : buf.length ≤ probe.length + 10 := by
  unfold readHeader at read
  rw [StateT.run_bind] at read
  obtain ⟨⟨tag', middle⟩, first, read⟩ := Checked.bind_eq_ok read
  rw [StateT.run_bind] at read
  obtain ⟨⟨len', rest⟩, second, read⟩ := Checked.bind_eq_ok read
  cases read
  rw [readVarint_eq] at first second
  obtain ⟨last, few, _, _, _, rfl⟩ := leb128Of_eq_ok first
  obtain ⟨next, fewer, _, _, _, rfl⟩ := leb128Of_eq_ok second
  simp only [List.length_drop]
  omega

theorem readHeader_starved {buf : Bytes}
    (starved : readHeader.run buf = .error (.err .unexpectedEof)) : buf.length < 10 := by
  unfold readHeader at starved
  rw [StateT.run_bind] at starved
  cases first : readVarint.run buf with
  | error stop =>
      rw [first] at starved
      cases starved
      rw [readVarint_eq] at first
      have few := leb128Of_starved first
      omega
  | ok result =>
      obtain ⟨tag, middle⟩ := result
      rw [first, Checked.ok_bind, StateT.run_bind] at starved
      rw [readVarint_eq] at first
      obtain ⟨last, few, _, _, _, rfl⟩ := leb128Of_eq_ok first
      cases second : readVarint.run (buf.drop (last + 1)) with
      | error stop =>
          simp only at starved
          rw [second] at starved
          cases starved
          rw [readVarint_eq] at second
          have fewer := leb128Of_starved second
          rw [List.length_drop] at fewer
          omega
      | ok result =>
          simp only at starved
          rw [second] at starved
          cases starved

def headerBytes : Nat := 10

/-- More is needed only within a header, or of a payload that is small enough. -/
theorem incomplete_short {buf : Bytes} (found : decodeFront target buf = .incomplete) :
    buf.length < maxMessageBytes + headerBytes := by
  have decoded := decodeFront_incomplete_iff.mp found
  rw [decode_eq] at decoded
  unfold headerBytes
  cases read : readHeader.run buf with
  | error stop =>
      rw [read] at decoded
      split at decoded
      case h_1 starved =>
        cases starved
        have few := readHeader_starved read
        omega
      case h_2 => cases decoded
      case h_3 impossible => cases impossible
  | ok result =>
      obtain ⟨⟨tag, len⟩, probe⟩ := result
      have header := readHeader_takes read
      rw [read] at decoded
      simp only at decoded
      split at decoded
      case isTrue => cases decoded
      case isFalse small =>
        split at decoded
        case isTrue short => omega
        case isFalse => split at decoded <;> cases decoded

/-- Behind whole frames the stream has one that is refused, and fewer bytes from it on than a
frame may have. Streams without such a frame are among them. -/
def ShortBehindError (target : Target) (stream : Bytes) : Prop :=
  ∀ good bad, stream = good ++ bad → (onePass target good).error = none →
    (onePass target good).left = [] → (∃ stop, decodeFront target bad = .malformed stop) →
    bad.length < maxMessageBytes + headerBytes

/-- The undecoded bytes just before the next read. -/
def Bounded (target : Target) (inbuf : Bytes) : Prop :=
  ∀ sent left, drainInbuf target inbuf = .ok (sent, left) →
    left.length < maxMessageBytes + headerBytes

theorem bounded_iff_left (inbuf : Bytes) :
    Bounded target inbuf ↔ (onePass target inbuf).left.length < maxMessageBytes + headerBytes := by
  unfold Bounded
  rw [drainInbuf_eq]
  constructor
  · exact fun bounded => bounded _ _ rfl
  · rintro bounded _ _ ⟨⟩
    exact bounded

/-- What one pass takes is whole frames. -/
theorem onePass_split (target : Target) (stream : Bytes) :
    ∃ good, stream = good ++ (onePass target stream).left ∧ (onePass target good).error = none ∧
      (onePass target good).left = [] := by
  have nothing : (messageFraming target).front [] = .incomplete := rfl
  have empty : onePass target [] = ⟨[], none, []⟩ := Framing.drain_incomplete nothing
  unfold onePass at empty ⊢
  induction stream using Framing.drain.induct (messageFraming target) with
  | case1 buf found =>
      rw [Framing.drain_incomplete found]
      exact ⟨[], rfl, by rw [empty], by rw [empty]⟩
  | case2 buf stop found =>
      rw [Framing.drain_malformed found]
      exact ⟨[], rfl, by rw [empty], by rw [empty]⟩
  | case3 buf msg rest found ih =>
      obtain ⟨good, split, clean, whole⟩ := ih
      have decoded := decodeFront_item_iff.mp found
      have outcome := decode_outcome target buf
      rw [decoded] at outcome
      cases outcome with
      | accepted _ frame _ framed _ _ stable =>
          have whole_frame : (messageFraming target).front (frame ++ good) = .item msg good :=
            decodeFront_item_iff.mpr (stable good)
          have front := Framing.drain_item whole_frame
          refine ⟨frame ++ good, ?_, ?_, ?_⟩
          · rw [Framing.drain_item found, List.append_assoc]
            exact framed.trans (congrArg (frame ++ ·) split)
          · rw [front]
            exact clean
          · rw [front]
            exact whole

theorem left_of_split {good bad : Bytes} {stop : Stop Error}
    (clean : (onePass target good).error = none) (whole : (onePass target good).left = [])
    (refused : (messageFraming target).front bad = .malformed stop) :
    (onePass target (good ++ bad)).left = bad := by
  unfold onePass at clean whole ⊢
  rw [Framing.drain_append, clean]
  simp only [whole, List.nil_append, Drained.after]
  rw [Framing.drain_malformed refused]

theorem left_short_iff (stream : Bytes) :
    (onePass target stream).left.length < maxMessageBytes + headerBytes ↔
      ShortBehindError target stream := by
  constructor
  · rintro short good bad rfl clean whole ⟨stop, refused⟩
    rwa [left_of_split clean whole refused] at short
  · intro short
    have ended : (messageFraming target).front (onePass target stream).left = _ :=
      Framing.front_left stream
    obtain ⟨good, split, clean, whole⟩ := onePass_split target stream
    cases failed : (onePass target stream).error with
    | none =>
        rw [onePass] at failed
        rw [failed] at ended
        exact incomplete_short ended
    | some stop =>
        rw [onePass] at failed
        rw [failed] at ended
        exact short good _ split clean whole ⟨stop, ended⟩

/-- In every state that the loop reaches, fewer bytes are left than a frame may have if and only
if the stream has been short behind the first frame that is refused, if there was one. -/
theorem receive_buffer_bounded_iff (target : Target) {initial inbuf : Bytes} {chunks : List Bytes}
    {sent : List RenderEvent} (ran : Runs (netStep target) initial chunks sent inbuf) :
    Bounded target inbuf ↔ ShortBehindError target (initial ++ chunks.flatten) := by
  rw [bounded_iff_left, run_left ran, left_short_iff]

/-- The loop goes on whatever comes. -/
theorem netStep_returns (target : Target) (inbuf : Bytes) {chunk : Bytes} (some_bytes : chunk ≠ [])
    (few : chunk.length ≤ chunkBytes) : ∃ sent next, netStep target inbuf chunk sent next :=
  ⟨_, _, _, drainInbuf_eq inbuf, some_bytes, few, rfl⟩

theorem runs_netStep {chunks : List Bytes} (some_bytes : ∀ chunk ∈ chunks, chunk ≠ [])
    (few : ∀ chunk ∈ chunks, chunk.length ≤ chunkBytes) (initial : Bytes) :
    ∃ sent inbuf, Runs (netStep target) initial chunks sent inbuf := by
  induction chunks generalizing initial with
  | nil => exact ⟨[], initial, .start⟩
  | cons chunk chunks ih =>
      obtain ⟨some_here, some_later⟩ := List.forall_mem_cons.mp some_bytes
      obtain ⟨few_here, few_later⟩ := List.forall_mem_cons.mp few
      obtain ⟨sent, next, stepped⟩ := netStep_returns target initial some_here few_here
      obtain ⟨more, inbuf, ran⟩ := ih some_later few_later next
      exact ⟨_, inbuf, (Runs.single stepped).trans ran⟩

/-! ## Runs -/

/-- A frame arrives in two reads, with the next one begun. -/
theorem receive_buffer_bounded_iff_stop :
    ∃ sent inbuf, Runs (netStep .bits64) [] [[6, 1], [3, 7]] sent inbuf ∧ Bounded .bits64 inbuf := by
  have filled : ∀ chunk ∈ ([[6, 1], [3, 7]] : List Bytes), chunk ≠ [] := by decide
  have few : ∀ chunk ∈ ([[6, 1], [3, 7]] : List Bytes), chunk.length ≤ chunkBytes := by decide
  obtain ⟨sent, inbuf, ran⟩ := runs_netStep filled few []
  refine ⟨sent, inbuf, ran, (receive_buffer_bounded_iff .bits64 ran).mpr fun good bad split _ _ _ => ?_⟩
  have length : 4 = good.length + bad.length := by simpa using congrArg List.length split
  unfold maxMessageBytes headerBytes
  omega

/-- Noise stays in the buffer, with all that follows it. -/
private theorem left_noise (more : Bytes) : (onePass .bits64 (noise ++ more)).left = noise ++ more := by
  have front : (messageFraming .bits64).front noise = .malformed (.err .varintOverflow) := rfl
  have refused : (messageFraming .bits64).front (noise ++ more) = .malformed (.err .varintOverflow) :=
    (messageFraming .bits64).malformed_append front more
  rw [onePass, Framing.drain_malformed refused]

/-- Reads of one size behind noise, none of whose bytes is ever drained. -/
private theorem runs_noise (count size : Nat) (some_bytes : 0 < size) (few : size ≤ chunkBytes) :
    ∃ sent inbuf,
      Runs (netStep .bits64) noise (List.replicate count (List.replicate size 0)) sent inbuf ∧
      (onePass .bits64 inbuf).left.length = 5 + count * size := by
  have length (chunk : Bytes) (member : chunk ∈ List.replicate count (List.replicate size 0)) :
      chunk.length = size := by
    rw [(List.mem_replicate.mp member).2, List.length_replicate]
  have filled (chunk : Bytes) (member : chunk ∈ List.replicate count (List.replicate size 0)) :
      chunk ≠ [] := by
    rintro rfl
    exact absurd (length [] member) (Nat.ne_of_lt some_bytes)
  obtain ⟨sent, inbuf, ran⟩ := runs_netStep filled
    (fun chunk member => (length chunk member).trans_le few) noise
  refine ⟨sent, inbuf, ran, ?_⟩
  rw [run_left ran, left_noise, List.length_append, List.length_flatten, List.map_replicate,
    List.sum_replicate, List.length_replicate]
  rfl

/-- A varint that does not fit, and 16 MiB behind it. -/
theorem receive_buffer_grows :
    ∃ sent inbuf, Runs (netStep .bits64) noise (List.replicate 513 (List.replicate 32768 0)) sent inbuf ∧
      ¬ Bounded .bits64 inbuf := by
  obtain ⟨sent, inbuf, ran, length⟩ := runs_noise 513 32768 (by decide) (by decide)
  refine ⟨sent, inbuf, ran, fun bounded => ?_⟩
  rw [bounded_iff_left, length] at bounded
  exact absurd bounded (by decide)

end ExoBrowser.Client
