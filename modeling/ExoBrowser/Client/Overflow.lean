import ExoBrowser.Client.RenderSafety
import ExoBrowser.Proto.Reencoding

/-!
# Overflow

Which messages have the client compute a number that does not fit its word.
-/

set_option autoImplicit false

namespace ExoBrowser.Client

open Library Proto Link Checked

/-! ## Operations -/

namespace Build

/-- The build in which an overflow panics. -/
def checked : Build := ⟨true⟩

theorem checked_add32 (left right : UInt32) :
    PanicsUnless .overflow (checked.add32 left right) (left.toNat + right.toNat < 2 ^ 32)
      fun _ => True := by
  constructor
  · exact fun fits => ⟨left + right, if_pos (.inl fits), trivial⟩
  · exact fun overflows => if_neg (not_or.mpr ⟨overflows, Bool.noConfusion⟩)

theorem checked_add64 (left right : UInt64) :
    PanicsUnless .overflow (checked.add64 left right) (left.toNat + right.toNat < 2 ^ 64)
      fun sum => sum.toNat = left.toNat + right.toNat := by
  constructor
  · intro fits
    have sum : (left + right).toNat = left.toNat + right.toNat := by
      rw [UInt64.toNat_add, Nat.mod_eq_of_lt fits]
    exact ⟨left + right, if_pos (.inl fits), sum⟩
  · exact fun overflows => if_neg (not_or.mpr ⟨overflows, Bool.noConfusion⟩)

theorem mul64_returns (build : Build) {left right : UInt64} (fits : left.toNat * right.toNat < 2 ^ 64) :
    Returns (build.mul64 left right) fun product => product.toNat = left.toNat * right.toNat := by
  have product : (left * right).toNat = left.toNat * right.toNat := by
    rw [UInt64.toNat_mul, Nat.mod_eq_of_lt fits]
  exact ⟨left * right, if_pos (.inl fits), product⟩

end Build

/-! ## Events -/

/-- The length of audio in microseconds. -/
def audioDuration (channels : UInt8) (sampleRate : UInt32) (data : Bytes) : Nat :=
  data.length / (max channels.toNat 1 * 2) * 1000000 / (max sampleRate 1).toNat

namespace RenderEvent

/-- There is a tab id behind the one that the event tells of, and the audio ends before the
last microsecond that a clock can show. -/
def InRange : RenderEvent → Prop
  | .audio ptsUs channels sampleRate data =>
      ptsUs.toNat + audioDuration channels sampleRate data < 2 ^ 64
  | .tabCreated tabId _ _ => tabId.toNat + 1 < 2 ^ 32
  | _ => True

/-- How many pictures the event adds to those that were seen. -/
def pictures : RenderEvent → Nat
  | .frame f => if f.width = 0 ∨ f.height = 0 then 0 else 1
  | .subframe s => if s.w = 0 ∨ s.h = 0 then 0 else 1
  | _ => 0

theorem pictures_frame (f : GfxFrame) :
    (frame f).pictures = if f.width = 0 ∨ f.height = 0 then 0 else 1 := rfl

theorem pictures_subframe (s : GfxSubframe) :
    (subframe s).pictures = if s.w = 0 ∨ s.h = 0 then 0 else 1 := rfl

/-- The size that a picture is expected to have is a `usize`. -/
def SizeFits (target : Target) : RenderEvent → Prop
  | .frame f => f.stride.toNat * f.height.toNat ≤ target.usizeMax
  | .subframe s => s.stride.toNat * s.h.toNat ≤ target.usizeMax
  | _ => True

/-- What the decoder has made sure of. -/
def Measured : RenderEvent → Prop
  | .frame f =>
      f.pixels.length = f.stride.toNat * f.height.toNat ∧ f.pixels.length ≤ 4 * maxMessageBytes
  | .subframe s =>
      s.pixels.length = s.stride.toNat * s.h.toNat ∧ s.pixels.length ≤ 4 * maxMessageBytes
  | .audio _ _ _ data => data.length ≤ maxMessageBytes
  | _ => True

theorem Measured.sizeFits {event : RenderEvent} (measured : event.Measured) (target : Target) :
    event.SizeFits target := by
  have cap : maxMessageBytes = 16777216 := rfl
  have wide := target.usizeMax_ge
  cases event with
  | frame f =>
      obtain ⟨length, small⟩ := measured
      change f.stride.toNat * f.height.toNat ≤ target.usizeMax
      omega
  | subframe s =>
      obtain ⟨length, small⟩ := measured
      change s.stride.toNat * s.h.toNat ≤ target.usizeMax
      omega
  | _ => trivial

end RenderEvent

namespace BrowserCore

variable {core : BrowserCore}

/-- The count of a picture that is taken. -/
theorem checked_onFrame {f : GfxFrame} (measured : (RenderEvent.frame f).Measured) :
    PanicsUnless .overflow (core.onFrame Build.checked f)
      (core.framesSeen.toNat + (RenderEvent.frame f).pictures < 2 ^ 64)
      fun next => next.framesSeen.toNat = core.framesSeen.toNat + (RenderEvent.frame f).pictures := by
  rw [RenderEvent.pictures_frame]
  by_cases empty : f.width = 0 ∨ f.height = 0
  · have dropped : ¬ f.Taken := fun taken => empty.elim taken.1 taken.2.1
    rw [onFrame_of_not_taken dropped, if_pos empty]
    exact .pure core.framesSeen.toNat_lt rfl
  · obtain ⟨wide, tall⟩ := not_or.mp empty
    rw [onFrame_of_taken ⟨wide, tall, Nat.le_of_eq measured.1.symm⟩, if_neg empty]
    exact (Build.checked_add64 core.framesSeen 1).andThen fun seen counted => ⟨_, rfl, counted⟩

theorem checked_onSubframe {s : GfxSubframe} (measured : (RenderEvent.subframe s).Measured) :
    PanicsUnless .overflow (core.onSubframe Build.checked s)
      (core.framesSeen.toNat + (RenderEvent.subframe s).pictures < 2 ^ 64)
      fun next =>
        next.framesSeen.toNat = core.framesSeen.toNat + (RenderEvent.subframe s).pictures := by
  rw [RenderEvent.pictures_subframe]
  by_cases empty : s.w = 0 ∨ s.h = 0
  · have dropped : ¬ s.Taken := fun taken => empty.elim taken.1 taken.2.1
    rw [onSubframe_of_not_taken dropped, if_pos empty]
    exact .pure core.framesSeen.toNat_lt rfl
  · obtain ⟨wide, tall⟩ := not_or.mp empty
    rw [onSubframe_of_taken ⟨wide, tall, Nat.le_of_eq measured.1.symm⟩, if_neg empty]
    exact (Build.checked_add64 core.framesSeen 1).andThen fun seen counted => ⟨_, rfl, counted⟩

/-- The samples of a message are few enough to be multiplied. -/
theorem checked_onAudio {ptsUs : UInt64} {channels : UInt8} {sampleRate : UInt32} {data : Bytes}
    (small : data.length ≤ maxMessageBytes) :
    PanicsUnless .overflow (core.onAudio Build.checked ptsUs channels sampleRate data)
      (RenderEvent.audio ptsUs channels sampleRate data).InRange
      fun next => next.framesSeen.toNat = core.framesSeen.toNat := by
  have cap : maxMessageBytes = 16777216 := rfl
  have few : data.length / (max channels.toNat 1 * 2) ≤ data.length := Nat.div_le_self _ _
  have samples : (UInt64.ofNat (data.length / (max channels.toNat 1 * 2))).toNat =
      data.length / (max channels.toNat 1 * 2) := by
    rw [UInt64.toNat_ofNat', Nat.mod_eq_of_lt (by omega)]
  have micro : (1000000 : UInt64).toNat = 1000000 := rfl
  have fits : (UInt64.ofNat (data.length / (max channels.toNat 1 * 2))).toNat *
      (1000000 : UInt64).toNat < 2 ^ 64 := by
    rw [samples, micro]
    omega
  obtain ⟨product, result, value⟩ := Build.mul64_returns Build.checked fits
  have lasts : (product / (max sampleRate 1).toUInt64).toNat =
      audioDuration channels sampleRate data := by
    rw [UInt64.toNat_div, value, samples, micro, UInt32.toNat_toUInt64]
    rfl
  have range : (RenderEvent.audio ptsUs channels sampleRate data).InRange ↔
      ptsUs.toNat + (product / (max sampleRate 1).toUInt64).toNat < 2 ^ 64 := by
    rw [lasts]
    exact Iff.rfl
  unfold onAudio
  simp only [result, Checked.ok_bind, range]
  exact (Build.checked_add64 _ _).andThen fun _ _ => ⟨_, rfl, rfl⟩

theorem checked_onTabCreated {tabId : UInt32} {newTitle url : String} :
    PanicsUnless .overflow (core.onTabCreated Build.checked tabId newTitle url)
      (RenderEvent.tabCreated tabId newTitle url).InRange
      fun next => next.framesSeen.toNat = core.framesSeen.toNat :=
  (Build.checked_add32 tabId 1).andThen fun _ _ => ⟨_, rfl, rfl⟩

/-- The core that an event leaves. -/
def handled (build : Build) (core : BrowserCore) (event : RenderEvent) : Run BrowserCore := do
  return (← core.handleRenderEvent build event).1

theorem PanicsUnless.handled {step : Run BrowserCore} {fits : Prop} {good : BrowserCore → Prop}
    (decides : PanicsUnless .overflow step fits good) :
    PanicsUnless .overflow (do return (← (do return (← step, true) : Run (BrowserCore × Bool))).1)
      fits good := by
  have answered : PanicsUnless .overflow (do return (← step, true) : Run (BrowserCore × Bool)) fits
      fun answer => good answer.1 := decides.andThen fun next property => ⟨(next, true), rfl, property⟩
  exact answered.andThen fun answer property => ⟨answer.1, rfl, property⟩

theorem checked_handled {event : RenderEvent} (measured : event.Measured) :
    PanicsUnless .overflow (handled Build.checked core event)
      (event.InRange ∧ core.framesSeen.toNat + event.pictures < 2 ^ 64)
      fun next => next.framesSeen.toNat = core.framesSeen.toNat + event.pictures := by
  have room : core.framesSeen.toNat < 2 ^ 64 := core.framesSeen.toNat_lt
  have silent {next : BrowserCore} (seen : next.framesSeen = core.framesSeen) :
      PanicsUnless .overflow (pure next : Run BrowserCore)
        (True ∧ core.framesSeen.toNat + 0 < 2 ^ 64)
        fun next => next.framesSeen.toNat = core.framesSeen.toNat + 0 :=
    .pure ⟨trivial, room⟩ (congrArg UInt64.toNat seen)
  cases event with
  | frame f =>
      exact (PanicsUnless.handled (checked_onFrame measured)).congr
        (Iff.of_eq (true_and _)).symm
  | subframe s =>
      exact (PanicsUnless.handled (checked_onSubframe measured)).congr
        (Iff.of_eq (true_and _)).symm
  | audio ptsUs channels sampleRate data =>
      exact (PanicsUnless.handled (checked_onAudio measured)).congr (and_iff_left room).symm
  | tabCreated tabId newTitle url =>
      exact (PanicsUnless.handled checked_onTabCreated).congr (and_iff_left room).symm
  | tileData hash pixels =>
      refine silent ?_
      unfold onTileData
      split <;> rfl
  | tileRef x y w h hash =>
      refine silent ?_
      unfold onTileRef
      split <;> rfl
  | tabClosed tabId => exact silent (samePictures_onTabClosed tabId).framesSeen
  | tabActivated tabId => exact silent (samePictures_onTabActivated tabId).framesSeen
  | tabTitle tabId newTitle => exact silent (samePictures_onTabTitle tabId newTitle).framesSeen
  | tabUrl tabId url => exact silent (samePictures_onTabUrl tabId url).framesSeen
  | _ => exact silent rfl

/-- One step adds its pictures, so a run of steps adds them all. -/
theorem checked_foldlM {events : List RenderEvent} (measured : ∀ event ∈ events, event.Measured)
    (core : BrowserCore) :
    PanicsUnless .overflow (events.foldlM (handled Build.checked) core)
      ((∀ event ∈ events, event.InRange) ∧
        core.framesSeen.toNat + (events.map RenderEvent.pictures).sum < 2 ^ 64)
      fun _ => True := by
  induction events generalizing core with
  | nil =>
      refine .pure ⟨fun event absent => absurd absent List.not_mem_nil, ?_⟩ trivial
      exact core.framesSeen.toNat_lt
  | cons event events ih =>
      obtain ⟨here, later⟩ := List.forall_mem_cons.mp measured
      rw [List.foldlM_cons]
      have rest (next : BrowserCore)
          (seen : next.framesSeen.toNat = core.framesSeen.toNat + event.pictures) :
          PanicsUnless .overflow (events.foldlM (handled Build.checked) next)
            ((∀ event ∈ events, event.InRange) ∧
              core.framesSeen.toNat + event.pictures + (events.map RenderEvent.pictures).sum < 2 ^ 64)
            fun _ => True := by
        rw [← seen]
        exact ih later next
      refine ((checked_handled here).bind rest).congr ?_
      rw [List.forall_mem_cons, List.map_cons, List.sum_cons, ← Nat.add_assoc]
      constructor
      · rintro ⟨⟨inRange, _⟩, others, fits⟩
        exact ⟨⟨inRange, others⟩, fits⟩
      · rintro ⟨⟨inRange, others⟩, fits⟩
        exact ⟨⟨inRange, by omega⟩, others, fits⟩

end BrowserCore

/-! ## Buffers -/

section Buffers

variable (target : Target)

/-- The events that a buffer brings. -/
def wireEvents (inbuf : Bytes) : List RenderEvent :=
  (onePass target inbuf).messages.filterMap RenderEvent.fromProtoMessage

variable {target}

theorem foldlM_applyMessage (build : Build) (messages : List Message) (core : BrowserCore) :
    messages.foldlM (BrowserCore.applyMessage build) core =
      (messages.filterMap RenderEvent.fromProtoMessage).foldlM (BrowserCore.handled build) core := by
  induction messages generalizing core with
  | nil => rfl
  | cons msg messages ih =>
      rw [List.foldlM_cons, List.filterMap_cons, BrowserCore.applyMessage]
      cases RenderEvent.fromProtoMessage msg with
      | none => exact ih core
      | some event =>
          rw [List.foldlM_cons]
          exact congrArg (BrowserCore.handled build core event >>= ·) (funext ih)

/-- Audio is read from a payload, and is no longer than it. -/
theorem audio_small {buf rest : Bytes} {ptsUs : UInt64} {codec channels : UInt8}
    {sampleRate : UInt32} {data : Bytes}
    (decoded : Message.decode target buf =
      (.ok (some (.audioFrame ptsUs codec channels sampleRate data)), rest)) :
    data.length ≤ maxMessageBytes := by
  obtain ⟨tag, payload, split, read⟩ := splitFrame_of_accepted decoded
  have small := (splitFrame_takes split).2
  have recoded : Recodes target tag _ payload.length := recodes_of_decodePayload read
  have same : Tag.audioFrame = tag := recoded.tag
  subst same
  have fields : Consumes maxMessageBytes (decodeFields target Tag.audioFrame) fun msg =>
      ∃ ptsUs codec channels sampleRate data,
        msg = .audioFrame ptsUs codec channels sampleRate data ∧ data.length ≤ maxMessageBytes :=
    consumes_readU64.bind fun ptsUs _ => consumes_readU8.bind fun codec _ =>
      consumes_readU8.bind fun channels _ => consumes_readU32.bind fun sampleRate _ =>
      consumes_readData.bind fun data length =>
      .pure ⟨ptsUs, codec, channels, sampleRate, data, rfl, length⟩
  unfold decodePayload at read
  obtain ⟨⟨msg, p⟩, taken, finished⟩ := Checked.bind_eq_ok read
  obtain ⟨⟨_, _, _, _, _, shape, length⟩, _⟩ := (fields payload small).of_ok taken
  simp only at finished
  split at finished
  case isFalse => cases finished
  case isTrue =>
    cases finished
    cases shape
    exact length

theorem measured_of_decoded {buf rest : Bytes} {msg : Message} {event : RenderEvent}
    (decoded : Message.decode target buf = (.ok (some msg), rest))
    (told : RenderEvent.fromProtoMessage msg = some event) : event.Measured := by
  have exact_size := (decode_accepted decoded).2.2
  have measured {stride : UInt32} {height : UInt16} {compression : UInt8} {pixels : Bytes}
      (size : PixelsExact stride height compression pixels) :
      pixels.length = stride.toNat * height.toUInt32.toNat ∧
        pixels.length ≤ 4 * maxMessageBytes := by
    obtain ⟨length, capped⟩ := size
    rw [UInt16.toNat_toUInt32]
    refine ⟨length, ?_⟩
    split at capped <;> omega
  cases msg with
  | rawFrame =>
      cases told
      exact measured exact_size
  | subframe =>
      cases told
      exact measured exact_size
  | audioFrame =>
      cases told
      exact audio_small decoded
  | welcome _ _ _ _ currentUrl =>
      rw [RenderEvent.fromProtoMessage] at told
      split at told <;> cases told
      trivial
  | _ => cases told <;> trivial

theorem measured_wireEvents (target : Target) (inbuf : Bytes) :
    ∀ event ∈ wireEvents target inbuf, event.Measured := by
  intro event listed
  obtain ⟨msg, member, told⟩ := List.mem_filterMap.mp listed
  have each : ∀ msg ∈ (onePass target inbuf).messages,
      ∀ event, RenderEvent.fromProtoMessage msg = some event → event.Measured :=
    Framing.forall_mem_drain
      (fun _ _ _ found _ => measured_of_decoded (decodeFront_item_iff.mp found)) inbuf
  exact each msg member event told

/-- The call returns where every overflow panics, and its sizes are of the type `usize`. -/
def IngestsInRange (target : Target) (core : BrowserCore) (inbuf : Bytes) : Prop :=
  (∃ ingested, core.ingestWireBytes Build.checked target inbuf = .ok ingested) ∧
    ∀ event ∈ wireEvents target inbuf, event.SizeFits target

/-- A buffer is handled without an overflow if and only if it tells of no tab with the last
id and of no audio that ends behind the last microsecond, and the pictures can be counted. -/
theorem ingest_in_range_iff (target : Target) (core : BrowserCore) (inbuf : Bytes) :
    IngestsInRange target core inbuf ↔
      (∀ event ∈ wireEvents target inbuf, event.InRange) ∧
        core.framesSeen.toNat + ((wireEvents target inbuf).map RenderEvent.pictures).sum < 2 ^ 64 := by
  have measured := measured_wireEvents target inbuf
  have sizes : ∀ event ∈ wireEvents target inbuf, event.SizeFits target :=
    fun event member => (measured event member).sizeFits target
  unfold IngestsInRange
  rw [and_iff_left sizes, ← (BrowserCore.checked_foldlM measured core).returns_iff]
  obtain ⟨result, _, ingests⟩ := ingest_eq Build.checked target core inbuf
  rw [ingests, foldlM_applyMessage]
  change _ ↔ ∃ next, (wireEvents target inbuf).foldlM (BrowserCore.handled Build.checked) core = _
  rw [← wireEvents]
  cases (wireEvents target inbuf).foldlM (BrowserCore.handled Build.checked) core with
  | ok next => exact iff_of_true ⟨_, rfl⟩ ⟨next, rfl⟩
  | error stop =>
      refine iff_of_false ?_ ?_
      · rintro ⟨_, returned⟩
        cases returned
      · rintro ⟨_, returned⟩
        cases returned

end Buffers

def lastTab : Bytes := [0x73, 6, 255, 255, 255, 255, 0, 0]

/-- One second of audio. -/
def lastAudio : Bytes :=
  [0x48, 17, 255, 255, 255, 255, 255, 255, 255, 255, 0, 1, 1, 0, 0, 0, 2, 7, 7]

/-- The last tab id, and audio that starts with the last microsecond. -/
theorem ingest_overflows :
    opened.ingestWireBytes Build.checked .bits64 lastTab = abort .overflow ∧
      opened.ingestWireBytes Build.checked .bits64 lastAudio = abort .overflow ∧
      ¬ IngestsInRange .bits64 opened lastTab ∧ ¬ IngestsInRange .bits64 opened lastAudio := by
  have tab : opened.ingestWireBytes Build.checked .bits64 lastTab = abort .overflow := rfl
  have audio : opened.ingestWireBytes Build.checked .bits64 lastAudio = abort .overflow := rfl
  refine ⟨tab, audio, ?_, ?_⟩
  · rintro ⟨⟨_, returned⟩, _⟩
    rw [tab] at returned
    cases returned
  · rintro ⟨⟨_, returned⟩, _⟩
    rw [audio] at returned
    cases returned

end ExoBrowser.Client
