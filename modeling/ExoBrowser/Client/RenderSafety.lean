import ExoBrowser.Client.IngestProperties
import ExoBrowser.Client.RenderProperties
import ExoBrowser.Client.TabProperties

/-!
# Rendering what was received

The client ingests bytes, is resized and renders, in any order. Whatever the bytes
are, a render goes out of range only where a pending picture has too short a stride.
-/

set_option autoImplicit false

namespace ExoBrowser.Client

open Library Proto Link Checked

variable {build : Build} {target : Target} {painter : Painter}

/-! ## The client -/

inductive ClientEvent where
  | received (chunk : Bytes)
  | resized (w h : UInt32)
  | rendered (buffer : List UInt32)

/-- A step of the client: a call that returns. It emits the messages it applies. -/
inductive ClientStep (build : Build) (target : Target) (painter : Painter) :
    Step (BrowserCore × Bytes) ClientEvent Message where
  | received {state next chunk applied} : ingestStep build target state chunk applied next →
      ClientStep build target painter state (.received chunk) applied next
  | resized {core inbuf w h} :
      ClientStep build target painter (core, inbuf) (.resized w h) [] (core.onResize w h, inbuf)
  | rendered {core next : BrowserCore} {inbuf buffer drawn damage} :
      core.renderInto build painter buffer = .ok (next, drawn, damage) →
      ClientStep build target painter (core, inbuf) (.rendered buffer) [] (next, inbuf)

/-! ## What decoded messages say -/

/-- The frame or subframe of an event satisfies `frame` or `subframe`, and a tile lies
where a message can put it. -/
def RenderEvent.Holds (frame : GfxFrame → Prop) (subframe : GfxSubframe → Prop) :
    RenderEvent → Prop
  | .frame f => frame f
  | .subframe s => subframe s
  | .tileRef x y _ _ _ => Window.Narrow x ∧ Window.Narrow y
  | _ => True

def MessageHolds (frame : GfxFrame → Prop) (subframe : GfxSubframe → Prop) (msg : Message) : Prop :=
  ∀ event, RenderEvent.fromProtoMessage msg = some event → event.Holds frame subframe

private theorem narrow_toUInt32 (value : UInt16) : Window.Narrow value.toUInt32 := by
  have small := value.toNat_lt
  rw [Window.Narrow, UInt16.toNat_toUInt32]
  omega

private theorem frameSound_of_exact {stride : UInt32} {width height : UInt16} {compression : UInt8}
    {pixels : Bytes} (exact : PixelsExact stride height compression pixels) :
    Window.FrameSound
      { width := width.toUInt32, height := height.toUInt32, stride, pixels } := by
  constructor
  rw [UInt16.toNat_toUInt32]
  exact exact.1

private theorem subframeSound_of_exact {stride : UInt32} {x y w h : UInt16} {compression : UInt8}
    {pixels : Bytes} (exact : PixelsExact stride h compression pixels) :
    Window.SubframeSound
      { x := x.toUInt32, y := y.toUInt32, w := w.toUInt32, h := h.toUInt32, stride, pixels } where
  length := by
    rw [UInt16.toNat_toUInt32]
    exact exact.1
  x := narrow_toUInt32 x
  y := narrow_toUInt32 y
  w := narrow_toUInt32 w
  h := narrow_toUInt32 h

/-- Of a decoded message only the stride of a picture is not checked. -/
theorem holds_of_exact {frame : GfxFrame → Prop} {subframe : GfxSubframe → Prop} {msg : Message}
    (exact : msg.Exact)
    (pixels : match msg with
      | .rawFrame _ width height stride _ _ pixels =>
          let f : GfxFrame := { width := width.toUInt32, height := height.toUInt32, stride, pixels }
          Window.FrameSound f → frame f
      | .subframe _ x y w h stride _ _ pixels =>
          let s : GfxSubframe :=
            { x := x.toUInt32, y := y.toUInt32, w := w.toUInt32, h := h.toUInt32, stride, pixels }
          Window.SubframeSound s → subframe s
      | _ => True) : MessageHolds frame subframe msg := by
  intro event found
  cases msg with
  | rawFrame =>
      cases found
      exact pixels (frameSound_of_exact exact)
  | subframe =>
      cases found
      exact pixels (subframeSound_of_exact exact)
  | tileRef tsUs x y w h hash =>
      cases found
      exact ⟨narrow_toUInt32 x, narrow_toUInt32 y⟩
  | welcome _ _ _ _ currentUrl =>
      rw [RenderEvent.fromProtoMessage] at found
      split at found <;> cases found
      trivial
  | _ => cases found <;> trivial

/-- The rows of a picture lie one after the other in its pixels. -/
def RowsInStride : Message → Prop
  | .rawFrame _ width _ stride _ _ _ => width.toNat * 4 ≤ stride.toNat
  | .subframe _ _ _ w _ stride _ _ _ => w.toNat * 4 ≤ stride.toNat
  | _ => True

theorem exact_of_onePass (target : Target) (buf : Bytes) :
    ∀ msg ∈ (onePass target buf).messages, msg.Exact :=
  Framing.forall_mem_drain (fun _ _ _ found => (decode_accepted (decodeFront_item_iff.mp found)).2.2) buf

/-! ## Events -/

namespace BrowserCore.Holds

variable {frame : GfxFrame → Prop} {subframe : GfxSubframe → Prop} {core next : BrowserCore}

theorem newNoStd (width height : UInt32) (initialUrl : String) (editing : Bool) :
    (BrowserCore.newNoStd width height initialUrl editing).Holds frame subframe where
  frames := nofun
  subframes := nofun
  tiles := nofun
  cached := nofun
  activeBuf := rfl
  tabComposites _ := rfl

theorem onResize (sound : core.Holds frame subframe) (w h : UInt32) :
    (core.onResize w h).Holds frame subframe := by
  unfold BrowserCore.onResize
  simp only
  split
  case isTrue => exact { sound with }
  case isFalse => exact sound

theorem onFrame (sound : core.Holds frame subframe) {f : GfxFrame} (pixels : frame f)
    (returned : core.onFrame build f = .ok next) : next.Holds frame subframe := by
  obtain rfl | ⟨_, seen, rfl⟩ := onFrame_eq_ok returned
  · exact sound
  · exact {
      sound with
      frames := List.forall_mem_singleton.mpr pixels
      subframes := nofun
      tiles := nofun }

theorem onSubframe (sound : core.Holds frame subframe) {s : GfxSubframe} (pixels : subframe s)
    (returned : core.onSubframe build s = .ok next) : next.Holds frame subframe := by
  obtain rfl | ⟨_, seen, rfl⟩ := onSubframe_eq_ok returned
  · exact sound
  · exact {
      sound with
      subframes := List.forall_mem_append.mpr
        ⟨sound.subframes, List.forall_mem_singleton.mpr pixels⟩ }

theorem onTileData (sound : core.Holds frame subframe) (hash : UInt64) (pixels : Bytes) :
    (core.onTileData hash pixels).Holds frame subframe := by
  unfold BrowserCore.onTileData
  split
  case isTrue =>
    refine { sound with cached := ?_ }
    intro key tile found
    simp only at found
    split at found
    case isTrue =>
      rw [← Option.some.inj found, length_copyBgraRowToU32, List.length_replicate]
      rfl
    case isFalse => exact sound.cached key tile found
  case isFalse => exact sound

theorem onTileRef (sound : core.Holds frame subframe) {x y : UInt32} (x_narrow : Window.Narrow x)
    (y_narrow : Window.Narrow y) (w h : UInt32) (hash : UInt64) :
    (core.onTileRef x y w h hash).Holds frame subframe := by
  unfold BrowserCore.onTileRef
  split
  case isTrue =>
    exact {
      sound with
      tiles := List.forall_mem_append.mpr
        ⟨sound.tiles, List.forall_mem_singleton.mpr ⟨x_narrow, y_narrow⟩⟩ }
  case isFalse => exact sound

theorem same (sound : core.Holds frame subframe) (same : SamePictures core next) :
    next.Holds frame subframe where
  frames := same.pendingFrames ▸ sound.frames
  subframes := same.pendingSubframes ▸ sound.subframes
  tiles := same.pendingTiles ▸ sound.tiles
  cached := same.tileCache ▸ sound.cached
  activeBuf := (same.unbuffered ⟨sound.activeBuf, sound.tabComposites⟩).1
  tabComposites := (same.unbuffered ⟨sound.activeBuf, sound.tabComposites⟩).2

theorem handleRenderEvent (sound : core.Holds frame subframe) {event : RenderEvent} {goesOn : Bool}
    (pixels : event.Holds frame subframe)
    (returned : core.handleRenderEvent build event = .ok (next, goesOn)) : next.Holds frame subframe := by
  cases event with
  | frame f =>
      obtain ⟨updated, handled, result⟩ := bind_eq_ok returned
      cases result
      exact sound.onFrame pixels handled
  | subframe s =>
      obtain ⟨updated, handled, result⟩ := bind_eq_ok returned
      cases result
      exact sound.onSubframe pixels handled
  | tileData hash bytes =>
      cases returned
      exact sound.onTileData hash bytes
  | tileRef x y w h hash =>
      cases returned
      exact sound.onTileRef pixels.1 pixels.2 w h hash
  | _ => exact sound.same (samePictures_handleRenderEvent (by trivial) _ returned)

theorem applyMessage (sound : core.Holds frame subframe) {msg : Message}
    (pixels : MessageHolds frame subframe msg)
    (returned : core.applyMessage build msg = .ok next) : next.Holds frame subframe := by
  unfold BrowserCore.applyMessage at returned
  cases found : RenderEvent.fromProtoMessage msg with
  | none =>
      rw [found] at returned
      cases returned
      exact sound
  | some event =>
      rw [found] at returned
      obtain ⟨⟨updated, goesOn⟩, handled, result⟩ := bind_eq_ok returned
      cases result
      exact sound.handleRenderEvent (pixels event found) handled

theorem applyMessages (sound : core.Holds frame subframe) {messages : List Message}
    (pixels : ∀ msg ∈ messages, MessageHolds frame subframe msg)
    (returned : messages.foldlM (BrowserCore.applyMessage build) core = .ok next) :
    next.Holds frame subframe := by
  refine Yields.foldlM (BrowserCore.Holds frame subframe) ?_ sound next returned
  intro core sound msg inside updated applied
  exact sound.applyMessage (pixels msg inside) applied

end BrowserCore.Holds

/-! ## Runs -/

section Runs

variable {start state : BrowserCore × Bytes} {events : List ClientEvent} {applied : List Message}

theorem run_exact (ran : Runs (ClientStep build target painter) start events applied state) :
    ∀ msg ∈ applied, msg.Exact := by
  refine Runs.invariant (fun applied _ => ∀ msg ∈ applied, msg.Exact) nofun ?_ ran
  intro emitted state event added next decoded stepped
  refine List.forall_mem_append.mpr ⟨decoded, ?_⟩
  cases stepped with
  | received call =>
      rw [(ingestStep_spec call).1]
      exact exact_of_onePass target _
  | resized => exact nofun
  | rendered => exact nofun

theorem run_holds {frame : GfxFrame → Prop} {subframe : GfxSubframe → Prop}
    (initial : start.1.Holds frame subframe)
    (ran : Runs (ClientStep build target painter) start events applied state)
    (pixels : ∀ msg ∈ applied, MessageHolds frame subframe msg) : state.1.Holds frame subframe := by
  refine Runs.invariant (fun applied state => (∀ msg ∈ applied, MessageHolds frame subframe msg) →
    state.1.Holds frame subframe) (fun _ => initial) ?_ ran pixels
  intro emitted state event added next kept stepped pixels
  obtain ⟨before, here⟩ := List.forall_mem_append.mp pixels
  have holds := kept before
  cases stepped with
  | received call => exact holds.applyMessages here (ingestStep_spec call).2.2
  | resized => exact holds.onResize _ _
  | rendered returned => exact holds.renderInto returned

theorem run_sound (initial : start.1.Sound)
    (ran : Runs (ClientStep build target painter) start events applied state) : state.1.Sound := by
  refine run_holds initial ran fun msg member => holds_of_exact (run_exact ran msg member) ?_
  cases msg <;> first | exact id | trivial

/-- Nothing goes out of range while the rows of every picture lie in its stride. -/
theorem run_fits {width height : UInt32} {initialUrl : String} {editing : Bool}
    (ran : Runs (ClientStep build target painter)
      (.newNoStd width height initialUrl editing, []) events applied state)
    (wide : ∀ msg ∈ applied, RowsInStride msg) : state.1.PixelsFit := by
  have holds : state.1.Holds (fun f => f.width.toNat * 4 ≤ f.stride.toNat)
      (fun s => s.w.toNat * 4 ≤ s.stride.toNat) := by
    refine run_holds (.newNoStd _ _ _ _) ran fun msg member => ?_
    have rows := wide msg member
    refine holds_of_exact (run_exact ran msg member) ?_
    cases msg with
    | rawFrame tsUs width =>
        intro _
        rw [UInt16.toNat_toUInt32]
        exact rows
    | subframe tsUs x y w =>
        intro _
        rw [UInt16.toNat_toUInt32]
        exact rows
    | _ => trivial
  constructor
  · intro f last
    exact Window.fits_of_stride (holds.frames f (List.mem_of_getLast? last))
  · intro s member
    exact Window.fits_of_stride (holds.subframes s member)

/-- In every state that a run reaches, a render stays inside the pixels if and only if what
it gets to of the pending pictures fits. -/
theorem render_in_range_iff {width height : UInt32} {initialUrl : String} {editing : Bool}
    (ran : Runs (ClientStep build target painter)
      (.newNoStd width height initialUrl editing, []) events applied state)
    {buffer : List UInt32}
    (holds : state.1.winSize.1.toNat * state.1.winSize.2.toNat ≤ buffer.length) :
    state.1.renderInto build painter buffer ≠ .error (.panic .outOfRange) ↔
      state.1.StopsEarly build painter buffer ∨ state.1.PixelsFit :=
  BrowserCore.renderInto_ne_outOfRange_iff (run_sound (.newNoStd _ _ _ _) ran) holds

end Runs

/-! ## Two renders -/

def Painter.blank : Painter where
  chrome _ buffer := some ⟨buffer, rfl⟩
  toast _ _ buffer := some (⟨buffer, rfl⟩, { x := 0, y := 0, w := 0, h := 0 })
  cursor _ _ buffer := some ⟨buffer, rfl⟩

def screen : List UInt32 := List.replicate (640 * 480) 0

private theorem screen_holds : 640 * 480 ≤ screen.length := by
  rw [screen, List.length_replicate]

/-- A visible pixel that was received is drawn. -/
theorem render_update_in_range :
    (updated 1).renderInto ⟨true⟩ .blank screen ≠ .error (.panic .outOfRange) := by
  have received : ClientStep ⟨true⟩ .bits64 .blank (opened, []) (.received updateFrame)
      [pixelUpdate] (updated 1, []) := .received (ingestStep_of_onePass onePass_update rfl rfl)
  refine (render_in_range_iff (Runs.single received) screen_holds).mpr (.inr ⟨nofun, ?_⟩)
  refine List.forall_mem_singleton.mpr ?_
  unfold Window.SubframeFits
  decide

/-- A frame whose only row is no bytes wide. -/
def strideless : Message := .rawFrame 0 1 1 0 0 Compression.raw []

def stridelessFrame : Bytes :=
  [64, 21, 0, 0, 0, 0, 0, 0, 0, 0, 1, 0, 1, 0, 0, 0, 0, 0, 0, 0, 0, 0, 0]

private theorem onePass_strideless :
    onePass .bits64 stridelessFrame = ⟨[strideless], none, []⟩ := by
  have decoded : Message.decode .bits64 stridelessFrame = (.ok (some strideless), []) := by
    decide +kernel
  rw [onePass, Framing.drain_item (decodeFront_item_iff.mpr decoded), Framing.drain_incomplete rfl]
  rfl

def framed : BrowserCore :=
  { opened with
    pendingFrames := [{ width := 1, height := 1, stride := 0, pixels := [] }]
    framesSeen := 1 }

/-- The frame decodes and is kept, and the render copies four bytes out of none. -/
theorem render_strideless_out_of_range :
    Runs (ClientStep ⟨true⟩ .bits64 .blank) (opened, []) [.received stridelessFrame] [strideless]
        (framed, []) ∧
      640 * 480 ≤ screen.length ∧
      framed.renderInto ⟨true⟩ .blank screen = .error (.panic .outOfRange) := by
  have received : ClientStep ⟨true⟩ .bits64 .blank (opened, []) (.received stridelessFrame)
      [strideless] (framed, []) := .received (ingestStep_of_onePass onePass_strideless rfl rfl)
  have ran := Runs.single received
  refine ⟨ran, screen_holds, Classical.not_not.mp fun inRange => ?_⟩
  rcases (BrowserCore.renderInto_ne_outOfRange_iff (run_sound (.newNoStd _ _ _ _) ran)
    screen_holds).mp inRange with (⟨_, fails⟩ | ⟨_, noFrame, _⟩) | ⟨fits, _⟩
  · cases fails
  · cases noFrame
  · have rows : framed.window.Fits 0 0 1 1 0 := fits _ rfl
    revert rows
    decide

end ExoBrowser.Client
