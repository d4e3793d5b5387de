import ExoBrowser.Client.Damage

/-!
# Composition

However frames and subframes are grouped into renders, the content area ends as the
picture they make one after the other.
-/

set_option autoImplicit false

namespace ExoBrowser.Client

open Library Proto Checked

variable {build : Build} {painter : Painter}

/-! ## Pictures of events -/

namespace Window

variable (window : Window)

def blank : Picture UInt32 where
  width := window.bw.toNat
  height := window.contentH.toNat
  pixel _ _ := background

def framed (f : GfxFrame) : Picture UInt32 where
  width := window.bw.toNat
  height := window.contentH.toNat
  pixel := framePixel f

def overlaid (picture : Picture UInt32) (s : GfxSubframe) : Picture UInt32 :=
  picture.patch ⟨s.x.toNat, s.y.toNat, s.w.toNat, s.h.toNat⟩ fun col row =>
    bgrWord s.pixels (row * s.stride.toNat + 4 * col)

/-- What an event makes of the picture in the content area. -/
def pictured (picture : Picture UInt32) : RenderEvent → Picture UInt32
  | .frame f => window.framed f
  | .subframe s => overlaid picture s
  | _ => picture

/-- The content area of a canvas shows a picture of its size. -/
structure Presents (window : Window) (canvas : List UInt32) (picture : Picture UInt32) : Prop where
  width : picture.width = window.bw.toNat
  height : picture.height = window.contentH.toNat
  pixel : ∀ col < window.bw.toNat, ∀ row < window.contentH.toNat,
    canvas[cell window.bw.toNat col (chromeH.toNat + row)]? = some (picture.pixel col row)

end Window

/-- A frame or a subframe as the wire carries it, with all of its pixels. -/
def RenderEvent.Pictorial : RenderEvent → Prop
  | .frame f => f.width ≠ 0 ∧ f.height ≠ 0 ∧
      Window.Whole f.width.toNat f.height.toNat f.stride.toNat f.pixels
  | .subframe s => s.w ≠ 0 ∧ s.h ≠ 0 ∧ Window.Whole s.w.toNat s.h.toNat s.stride.toNat s.pixels ∧
      Window.Narrow s.x ∧ Window.Narrow s.y ∧ Window.Narrow s.w ∧ Window.Narrow s.h
  | _ => False

/-! ## Calls -/

/-- What a backend does with a core and one buffer. -/
inductive Call where
  | deliver (event : RenderEvent)
  | render

def Call.event? : Call → Option RenderEvent
  | .deliver event => some event
  | .render => none

/-- The events of the calls, in the order of their arrival. -/
def delivered (calls : List Call) : List RenderEvent := calls.filterMap Call.event?

def Call.play (build : Build) (painter : Painter) (state : BrowserCore × List UInt32) :
    Call → Run (BrowserCore × List UInt32)
  | .deliver event => return ((← state.1.handleRenderEvent build event).1, state.2)
  | .render => do
      let (core, drawn, _) ← state.1.renderInto build painter state.2
      return (core, drawn)

theorem Build.add64_one_returnsIf (count : UInt64) :
    ReturnsIf (build.overflowChecks = true → count.toNat + 1 < 2 ^ 64) (build.add64 count 1)
      fun next => next.toNat ≤ count.toNat + 1 := by
  unfold Build.add64
  split
  case isTrue =>
    refine .pure ?_
    rw [UInt64.toNat_add]
    exact Nat.mod_le _ _
  case isFalse overflows =>
    refine ⟨fun fits => ?_, nofun⟩
    simp only [not_or, Bool.not_eq_true', Bool.not_eq_false] at overflows
    exact absurd (fits overflows.2) overflows.1

/-! ## The content stage -/

namespace Window

variable {window : Window}

/-- A subframe that is drawn is laid over what was shown. -/
theorem Presents.overlaid {s : GfxSubframe} {canvas next : List UInt32 × List DamageRect}
    {picture : Picture UInt32} {region : Nat → Nat → Prop} (shown : window.Presents canvas.1 picture)
    (drawn : window.PatchedRect s.x s.y s.w s.h
      (fun col row => subframePixel s col (row - chromeH.toNat)) canvas next region)
    (inX : s.x.toNat + s.w.toNat < 2 ^ 32) (inY : s.y.toNat + s.h.toNat < 2 ^ 32) :
    window.Presents next.1 (Window.overlaid picture s) where
  width := shown.width
  height := shown.height
  pixel := fun col col_lt row row_lt => by
    have height := chromeH_add_contentH (by omega : 0 < window.contentH.toNat)
    have exact := drawn.exact inX inY col col_lt (chromeH.toNat + row)
    unfold Inside Content at exact
    rw [Nat.add_sub_cancel_left] at exact
    unfold Window.overlaid Picture.patch
    simp only [shown.width, shown.height]
    by_cases inside : Rect.Contains ⟨s.x.toNat, s.y.toNat, s.w.toNat, s.h.toNat⟩ col row
    · have within := exact.mpr ⟨⟨by omega, by omega⟩, inside⟩
      rw [if_pos ⟨inside, col_lt, row_lt⟩, drawn.patched.painted.inside col col_lt _ within,
        Nat.add_sub_cancel_left]
      rfl
    · have outside : ¬ region col (chromeH.toNat + row) := fun within => inside (exact.mp within).2
      rw [if_neg fun within => inside within.1, drawn.patched.painted.outside col col_lt _ outside,
        shown.pixel col col_lt row row_lt]

end Window

namespace BrowserCore

variable {core : BrowserCore} {buffer : List UInt32}

/-- The picture below the pending subframes: what the content area is redrawn with, or
what it shows. -/
def underlay (core : BrowserCore) (buffer : List UInt32) : Picture UInt32 where
  width := core.window.bw.toNat
  height := core.window.contentH.toNat
  pixel := match core.wholePixel with
    | some pixel => pixel
    | none => fun col row => buffer.getD (cell core.window.bw.toNat col (chromeH.toNat + row)) 0

/-- The picture that the content area shows after the next render. -/
def due (core : BrowserCore) (buffer : List UInt32) : Picture UInt32 :=
  core.pendingSubframes.foldl Window.overlaid (core.underlay buffer)

theorem Redrawn.presents {damage : List DamageRect} {next : List UInt32 × List DamageRect}
    (redrawn : core.Redrawn (buffer, damage) next) (holds : core.window.needed ≤ buffer.length) :
    core.window.Presents next.1 (core.underlay buffer) where
  width := rfl
  height := rfl
  pixel := fun col col_lt row row_lt => by
    have height := Window.chromeH_add_contentH (by omega : 0 < core.window.contentH.toNat)
    unfold Redrawn at redrawn
    unfold underlay
    cases whole : core.wholePixel with
    | some pixel =>
        rw [whole] at redrawn
        have inside : core.window.Content col (chromeH.toNat + row) := ⟨by omega, by omega⟩
        rw [redrawn.painted.inside col col_lt _ inside, Nat.add_sub_cancel_left]
    | none =>
        rw [whole] at redrawn
        have line_lt : chromeH.toNat + row < core.window.bh.toNat := by omega
        have fits := Window.cell_le_needed (by omega : col + 1 ≤ core.window.bw.toNat) line_lt
        have stored : cell core.window.bw.toNat col (chromeH.toNat + row) < buffer.length := by
          unfold cell at fits ⊢
          omega
        rw [redrawn]
        simp only
        rw [List.getD_eq_getElem?_getD, List.getElem?_eq_getElem stored, Option.getD_some]

theorem Redrawn.length {damage : List DamageRect} {next : List UInt32 × List DamageRect}
    (redrawn : core.Redrawn (buffer, damage) next) : next.1.length = buffer.length := by
  unfold Redrawn at redrawn
  cases whole : core.wholePixel with
  | some pixel =>
      rw [whole] at redrawn
      exact redrawn.painted.length
  | none =>
      rw [whole] at redrawn
      rw [redrawn]

theorem renderContent_presents (intact : core.Intact) (rows : core.RowsFit) (narrow : core.Narrow)
    (subframes : ∀ s ∈ core.pendingSubframes,
      s.x.toNat + s.w.toNat < 2 ^ 32 ∧ s.y.toNat + s.h.toNat < 2 ^ 32)
    (noTiles : core.pendingTiles = []) (some : 0 < core.window.contentH.toNat)
    (holds : core.window.needed ≤ buffer.length) (damage : List DamageRect) :
    Returns (core.renderContent build buffer damage) fun next =>
      next.1.length = buffer.length ∧ core.window.Presents next.1 (core.due buffer) := by
  unfold renderContent
  rw [noTiles]
  refine (renderWhole_returns intact rows narrow some holds damage).bind fun whole redrawn => ?_
  have overlays : Returns (core.pendingSubframes.foldlM (core.window.drawSubframe build) whole)
      fun next => next.1.length = buffer.length ∧ core.window.Presents next.1 (core.due buffer) := by
    refine Returns.foldlM_append
      (fun done (next : List UInt32 × List DamageRect) => next.1.length = buffer.length ∧
        core.window.Presents next.1 (done.foldl Window.overlaid (core.underlay buffer))) ?_
      ⟨redrawn.length, redrawn.presents holds⟩
    intro done s rest split canvas ⟨length, shown⟩
    have member : s ∈ core.pendingSubframes := by
      rw [split]
      exact List.mem_append_right _ List.mem_cons_self
    have inside := subframes s member
    have drew : ReturnsIf _ (core.window.drawSubframe build canvas s) _ :=
      Window.drawSubframe_patches (whole_subframe intact rows member) (length ▸ holds)
    refine (drew.of_calm fun _ => inside).mono fun next ⟨region, drawn⟩ => ?_
    rw [List.foldl_append]
    exact ⟨drawn.patched.painted.length.trans length, shown.overlaid drawn inside.1 inside.2⟩
  exact overlays.bind fun next shown => ⟨next, rfl, shown⟩

/-! ## Renders -/

/-- A core with nothing but frames and subframes to draw, whose next render shows the
picture. The toolbar is drawn only below content that is drawn too. -/
structure Composes (core : BrowserCore) (window : Window) (buffer : List UInt32)
    (picture : Picture UInt32) : Prop where
  window : core.window = window
  tabs : core.tabs.length = 1
  intact : core.Intact
  rows : core.RowsFit
  subframes : ∀ s ∈ core.pendingSubframes,
    s.x.toNat + s.w.toNat < 2 ^ 32 ∧ s.y.toNat + s.h.toNat < 2 ^ 32
  tiles : core.pendingTiles = []
  toast : core.statusToastFramesLeft = 0
  audio : core.audioPlayingFramesLeft = 0
  chrome : core.chromeDirty = true → core.fullContentDirty = true
  length : buffer.length = core.window.needed
  due : (core.due buffer).Shows picture.width picture.height picture.pixel

theorem tickAudio_of_none (silent : core.audioPlayingFramesLeft = 0) : core.tickAudio = core := by
  unfold tickAudio
  rw [silent]
  rfl

/-- What is drawn beside the content does not matter, or the content is drawn anew. -/
theorem underlay_drawn {other : BrowserCore} (window : other.window = core.window)
    (whole : other.wholePixel = core.wholePixel) {drawn : List UInt32}
    (covered : drawn = buffer ∨ core.fullContentDirty = true) :
    other.underlay drawn = core.underlay buffer := by
  unfold underlay
  rw [window, whole]
  rcases covered with rfl | dirty
  · rfl
  · cases redrawn : core.wholePixel with
    | some pixel => rfl
    | none =>
        unfold wholePixel at redrawn
        rw [dirty] at redrawn
        cases last : core.pendingFrames.getLast? with
        | some f => simp [last] at redrawn
        | none => simp [last] at redrawn

/-- A core with a toolbar drawn has the same picture due. -/
theorem due_chromeDrawn {drawn : List UInt32} (covered : drawn = buffer ∨ core.fullContentDirty = true) :
    BrowserCore.due { core with chromeDirty := false } drawn = core.due buffer := by
  unfold due
  congr 1
  exact underlay_drawn rfl rfl covered

end BrowserCore

/-- The painter draws the toolbar of a window with one tab. -/
def Painter.Draws (painter : Painter) (window : Window) : Prop :=
  ∀ core : BrowserCore, core.window = window → core.tabs.length = 1 →
    ∀ canvas : List UInt32, canvas.length = window.needed → (painter.chrome core canvas).isSome

namespace BrowserCore

variable {core : BrowserCore} {buffer : List UInt32} {window : Window} {picture : Picture UInt32}

theorem due_size (core : BrowserCore) (buffer : List UInt32) :
    (core.due buffer).width = core.window.bw.toNat ∧
      (core.due buffer).height = core.window.contentH.toNat := by
  unfold due
  induction core.pendingSubframes using List.reverseRecOn with
  | nil => exact ⟨rfl, rfl⟩
  | append_singleton subframes s ih =>
      rw [List.foldl_append]
      exact ih

theorem Composes.presents (composes : core.Composes window buffer picture) {canvas : List UInt32}
    (shown : core.window.Presents canvas (core.due buffer)) : window.Presents canvas picture := by
  obtain ⟨width_eq, height_eq, same⟩ := composes.due
  have width := shown.width
  have height := shown.height
  obtain rfl := composes.window
  refine ⟨by rw [← width_eq, width], by rw [← height_eq, height], fun col col_lt row row_lt => ?_⟩
  rw [shown.pixel col col_lt row row_lt, same col (by omega) row (by omega)]

/-- The toolbar may be drawn anywhere, if the content is drawn after it. -/
theorem Composes.chromeDrawn (composes : core.Composes window buffer picture) {drawn : List UInt32}
    (length : drawn.length = buffer.length) (dirty : core.fullContentDirty = true) :
    BrowserCore.Composes { core with chromeDirty := false } window drawn picture := by
  have due := composes.due
  rw [← due_chromeDrawn (.inr dirty)] at due
  exact { composes with
    intact := { composes.intact with }
    rows := { composes.rows with }
    chrome := nofun
    length := length.trans composes.length
    due }

theorem painted_returnsIf {α : Type} (drawn : Option α) :
    ReturnsIf drawn.isSome (painted drawn) fun value => drawn = some value := by
  cases drawn with
  | none => exact ⟨nofun, nofun⟩
  | some value => exact .pure rfl

theorem renderChrome_composes (composes : core.Composes window buffer picture) :
    ReturnsIf (painter.Draws window) (core.renderChrome painter buffer) fun next =>
      next.1.Composes window next.2.1 picture ∧ next.1.chromeDirty = false ∧
        next.1.framesSeen = core.framesSeen := by
  unfold renderChrome
  cases dirty : core.chromeDirty with
  | false =>
      rw [if_neg nofun]
      exact .pure ⟨composes, dirty, rfl⟩
  | true =>
      rw [if_pos rfl]
      refine ((painted_returnsIf (painter.chrome core buffer)).weaken fun draws =>
        draws core composes.window composes.tabs buffer
          (composes.window ▸ composes.length)).bind fun drawn _ => .pure ?_
      exact ⟨composes.chromeDrawn drawn.property (composes.chrome dirty), rfl, rfl⟩

/-- What a canvas presents is due after everything is drawn. -/
theorem Composes.contentDone (composes : core.Composes window buffer picture) {drawn : List UInt32}
    (length : drawn.length = buffer.length) (presents : window.Presents drawn picture)
    (clean : core.chromeDirty = false) : core.contentDone.Composes window drawn picture where
  window := composes.window
  tabs := composes.tabs
  intact := { composes.intact with frames := nofun, subframes := nofun }
  rows := ⟨nofun, nofun⟩
  subframes := nofun
  tiles := rfl
  toast := composes.toast
  audio := composes.audio
  chrome := fun dirty => by
    change core.chromeDirty = true at dirty
    rw [clean] at dirty
    cases dirty
  length := length.trans composes.length
  due := by
    have same : core.contentDone.window = window := composes.window
    refine ⟨?_, ?_, fun col col_lt row row_lt => ?_⟩
    · rw [presents.width, ← same]
      rfl
    · rw [presents.height, ← same]
      rfl
    · rw [presents.width] at col_lt
      rw [presents.height] at row_lt
      change drawn.getD (cell core.contentDone.window.bw.toNat col (chromeH.toNat + row)) 0 = _
      rw [same, List.getD_eq_getElem?_getD, presents.pixel col col_lt row row_lt, Option.getD_some]

theorem renderInto_composes (narrow : core.Narrow) (tall : chromeH.toNat < window.bh.toNat)
    (composes : core.Composes window buffer picture) :
    ReturnsIf (painter.Draws window) (core.renderInto build painter buffer) fun next =>
      next.1.Composes window next.2.1 picture ∧ window.Presents next.2.1 picture ∧
        next.1.framesSeen = core.framesSeen := by
  obtain rfl := composes.window
  have visible : 0 < core.window.contentH.toNat := by
    rw [Window.contentH, toNat_contentHeight]
    omega
  unfold renderInto
  split
  case isTrue refused =>
    have noWidth : core.window.bw.toNat = 0 := by
      have length := composes.length
      rcases refused with noWidth | noHeight | short
      · rw [noWidth]
        rfl
      · rw [noHeight] at tall
        cases tall
      · omega
    obtain ⟨width_eq, height_eq, _⟩ := composes.due
    have size := due_size core buffer
    refine .pure ⟨composes, ⟨?_, ?_, fun col col_lt => by omega⟩, rfl⟩
    · rw [← width_eq, size.1]
    · rw [← height_eq, size.2]
  case isFalse =>
    rw [tickAudio_of_none composes.audio]
    refine (renderChrome_composes composes).bind ?_
    rintro ⟨base, drawn, damage⟩ ⟨based, clean, seen⟩
    have same : base.window = core.window := based.window
    have shows : core.window.contentH > 0 := UInt32.lt_iff_toNat_lt.mpr visible
    simp only at based clean seen ⊢
    rw [same, if_pos shows]
    rw [← same] at visible
    have narrowBase : base.Narrow := ⟨same ▸ narrow.wide, same ▸ narrow.tall⟩
    have content : Returns (base.renderContent build drawn damage) _ :=
      renderContent_presents based.intact based.rows narrowBase based.subframes based.tiles visible
        (Nat.le_of_eq based.length.symm) damage
    refine (ReturnsIf.of_returns content).bind ?_
    rintro ⟨content, damaged⟩ ⟨length, shown⟩
    have presents := based.presents shown
    have done := based.contentDone length presents clean
    rw [renderOverlay_of_none done.toast done.intact.synthCursor]
    exact .pure ⟨done, presents, seen⟩

/-! ## Events -/

theorem onFrame_composes (composes : core.Composes window buffer picture) {f : GfxFrame}
    (pictorial : (RenderEvent.frame f).Pictorial) :
    ReturnsIf (build.overflowChecks = true → core.framesSeen.toNat + 1 < 2 ^ 64)
      (core.onFrame build f) fun next =>
        next.Composes window buffer (window.framed f) ∧
          next.framesSeen.toNat ≤ core.framesSeen.toNat + 1 := by
  obtain ⟨wide, tall, whole⟩ := pictorial
  obtain rfl := composes.window
  rw [onFrame_of_taken ⟨wide, tall, whole.tall⟩]
  refine (Build.add64_one_returnsIf core.framesSeen).bind fun seen counted => .pure ⟨?_, counted⟩
  exact { composes with
    intact := { composes.intact with
      frames := List.forall_mem_singleton.mpr whole.tall
      subframes := nofun }
    rows := ⟨List.forall_mem_singleton.mpr whole.wide, nofun⟩
    subframes := nofun
    tiles := rfl
    chrome := fun _ => rfl
    due := ⟨rfl, rfl, fun _ _ _ _ => rfl⟩ }

theorem onSubframe_composes (composes : core.Composes window buffer picture) {s : GfxSubframe}
    (pictorial : (RenderEvent.subframe s).Pictorial) :
    ReturnsIf (build.overflowChecks = true → core.framesSeen.toNat + 1 < 2 ^ 64)
      (core.onSubframe build s) fun next =>
        next.Composes window buffer (Window.overlaid picture s) ∧
          next.framesSeen.toNat ≤ core.framesSeen.toNat + 1 := by
  obtain ⟨wide, tall, whole, x, y, w, h⟩ := pictorial
  rw [onSubframe_of_taken ⟨wide, tall, whole.tall⟩]
  refine (Build.add64_one_returnsIf core.framesSeen).bind fun seen counted => .pure ⟨?_, counted⟩
  have inside : s.x.toNat + s.w.toNat < 2 ^ 32 ∧ s.y.toNat + s.h.toNat < 2 ^ 32 :=
    ⟨by omega, by omega⟩
  have due : (Window.overlaid (core.due buffer) s).Shows picture.width picture.height
      (Window.overlaid picture s).pixel := composes.due.patch _ _
  exact { composes with
    intact := { composes.intact with
      subframes := List.forall_mem_append.mpr
        ⟨composes.intact.subframes, List.forall_mem_singleton.mpr whole.tall⟩ }
    rows := ⟨composes.rows.frames, List.forall_mem_append.mpr
      ⟨composes.rows.subframes, List.forall_mem_singleton.mpr whole.wide⟩⟩
    subframes := List.forall_mem_append.mpr
      ⟨composes.subframes, List.forall_mem_singleton.mpr inside⟩
    due := by
      rw [BrowserCore.due, takeSubframe_pendingSubframes, List.foldl_append]
      exact due }

theorem handleRenderEvent_composes (composes : core.Composes window buffer picture)
    {event : RenderEvent} (pictorial : event.Pictorial) :
    ReturnsIf (build.overflowChecks = true → core.framesSeen.toNat + 1 < 2 ^ 64)
      (core.handleRenderEvent build event) fun result =>
        result.1.Composes window buffer (window.pictured picture event) ∧
          result.1.framesSeen.toNat ≤ core.framesSeen.toNat + 1 := by
  cases event with
  | frame f => exact (onFrame_composes composes pictorial).bind fun next after => .pure after
  | subframe s => exact (onSubframe_composes composes pictorial).bind fun next after => .pure after
  | _ => exact pictorial.elim

end BrowserCore

/-! ## Runs -/

/-- The events that come still fit the counter of frames, or nothing checks it. -/
def BrowserCore.Counts (build : Build) (core : BrowserCore) (events : Nat) : Prop :=
  build.overflowChecks = true → core.framesSeen.toNat + events < 2 ^ 64

section Runs

variable {core : BrowserCore} {buffer : List UInt32} {window : Window} {picture : Picture UInt32}

theorem deliver_composes (composes : core.Composes window buffer picture) {event : RenderEvent}
    (pictorial : event.Pictorial) (rest : Nat) :
    ReturnsIf (core.Counts build (rest + 1)) ((Call.deliver event).play build painter (core, buffer))
      fun next => next.1.Composes window next.2 (window.pictured picture event) ∧
        (core.Counts build (rest + 1) → next.1.Counts build rest) := by
  have handled : ReturnsIf _ (core.handleRenderEvent build event) _ :=
    BrowserCore.handleRenderEvent_composes composes pictorial
  refine (handled.weaken fun counts checked => ?_).bind fun result after => .pure ⟨after.1, ?_⟩
  · have room := counts checked
    omega
  · intro counts checked
    have room := counts checked
    have seen := after.2
    simp only
    omega

theorem render_composes (wide : window.bw.toNat ≤ 65535) (tall : window.bh.toNat ≤ 65535)
    (visible : chromeH.toNat < window.bh.toNat) (composes : core.Composes window buffer picture) :
    ReturnsIf (painter.Draws window) (Call.render.play build painter (core, buffer)) fun next =>
      next.1.Composes window next.2 picture ∧ window.Presents next.2 picture ∧
        next.1.framesSeen = core.framesSeen := by
  have narrow : core.Narrow := ⟨composes.window ▸ wide, composes.window ▸ tall⟩
  have drew : ReturnsIf (painter.Draws window) (core.renderInto build painter buffer) _ :=
    BrowserCore.renderInto_composes narrow visible composes
  refine drew.bind ?_
  rintro ⟨next, drawn, damage⟩ after
  exact .pure after

/-- The core and its buffer compose the picture of what is delivered. -/
theorem play_composes (wide : window.bw.toNat ≤ 65535) (tall : window.bh.toNat ≤ 65535)
    (visible : chromeH.toNat < window.bh.toNat) (calls : List Call)
    (pictorial : ∀ event ∈ delivered calls, event.Pictorial)
    (composes : core.Composes window buffer picture) :
    ReturnsIf (painter.Draws window ∧ core.Counts build calls.length)
      (calls.foldlM (Call.play build painter) (core, buffer)) fun next =>
        next.1.Composes window next.2 ((delivered calls).foldl window.pictured picture) := by
  induction calls generalizing core buffer picture with
  | nil => exact .pure composes
  | cons call calls ih =>
      rw [List.foldlM_cons]
      cases call with
      | deliver event =>
          have each : ∀ other ∈ event :: delivered calls, other.Pictorial := pictorial
          have here : ReturnsIf _ ((Call.deliver event).play build painter (core, buffer)) _ :=
            deliver_composes composes (each event List.mem_cons_self) calls.length
          refine (here.weaken And.right).bind fun next ⟨after, counted⟩ => ?_
          have rest := ih (fun other member => each other (List.mem_cons_of_mem _ member)) after
          exact rest.weaken fun ⟨draws, counts⟩ => ⟨draws, counted counts⟩
      | render =>
          have drew : ReturnsIf (painter.Draws window) (Call.render.play build painter (core, buffer)) _ :=
            render_composes wide tall visible composes
          refine (drew.weaken And.left).bind fun next ⟨after, _, seen⟩ => ?_
          refine (ih pictorial after).weaken fun ⟨draws, counts⟩ => ⟨draws, fun checked => ?_⟩
          have room := counts checked
          rw [List.length_cons] at room
          rw [seen]
          omega

end Runs

theorem noStdPainter_draws {font : BasicFonts} {window : Window} (wide : window.bw.toNat ≤ 65535)
    (tall : window.bh.toNat ≤ 65535) : (noStdPainter build font).Draws window := by
  rintro core rfl single canvas length
  obtain ⟨drawn, result, _⟩ :=
    noStdPainter_chrome_returns ⟨wide, tall⟩ (by omega) (Nat.le_of_eq length.symm)
  rw [result]
  rfl

/-- However the frames and subframes that arrive are grouped into renders, the last one
leaves in the content area the picture they make one after the other. -/
theorem composition_independent_of_renders {width height : UInt32} (wide : width.toNat ≤ 65535)
    (tall : height.toNat ≤ 65535) (visible : chromeH.toNat < height.toNat) (initialUrl : String)
    (editing : Bool) {events : List RenderEvent} (pictorial : ∀ event ∈ events, event.Pictorial)
    {calls : List Call} (arrived : delivered calls = events) {buffer : List UInt32}
    (sized : buffer.length = width.toNat * height.toNat) :
    let window : Window := { bw := width, bh := height }
    let picture := events.foldl window.pictured window.blank
    ReturnsIf (painter.Draws window ∧ (build.overflowChecks = true → calls.length < 2 ^ 64))
      ((calls ++ [Call.render]).foldlM (Call.play build painter)
        (.newNoStd width height initialUrl editing, buffer)) fun (_, drawn) =>
        ∀ col < width.toNat, ∀ row < (contentHeight height).toNat,
          drawn[cell width.toNat col (chromeH.toNat + row)]? = some (picture.pixel col row) := by
  intro window picture
  subst arrived
  have start : (BrowserCore.newNoStd width height initialUrl editing).Composes window buffer
      window.blank := {
    window := rfl
    tabs := rfl
    intact := .newNoStd width height initialUrl editing
    rows := ⟨nofun, nofun⟩
    subframes := nofun
    tiles := rfl
    toast := rfl
    audio := rfl
    chrome := fun _ => rfl
    length := sized
    due := ⟨rfl, rfl, fun _ _ _ _ => rfl⟩ }
  have played : ReturnsIf _ (calls.foldlM (Call.play build painter) _) _ :=
    play_composes wide tall visible calls pictorial start
  rw [List.foldlM_append]
  have counted : painter.Draws window ∧ (build.overflowChecks = true → calls.length < 2 ^ 64) →
      painter.Draws window ∧
        (BrowserCore.newNoStd width height initialUrl editing).Counts build calls.length :=
    fun ⟨draws, few⟩ => ⟨draws, fun checked => (Nat.zero_add calls.length).symm ▸ few checked⟩
  refine (played.weaken counted).bind ?_
  rintro ⟨core, canvas⟩ composes
  rw [List.foldlM_cons]
  have drew : ReturnsIf (painter.Draws window) (Call.render.play build painter (core, canvas)) _ :=
    render_composes wide tall visible composes
  refine (drew.weaken And.left).bind fun next ⟨_, presents, _⟩ => .pure ?_
  exact presents.pixel

/-- A frame of one pixel is rendered before a subframe arrives beside it. -/
theorem composition_independent_of_renders_pixels :
    let frame : GfxFrame := { width := 1, height := 1, stride := 4, pixels := [1, 2, 3, 255] }
    let subframe : GfxSubframe :=
      { x := 1, y := 0, w := 1, h := 1, stride := 4, pixels := [4, 5, 6, 255] }
    let calls : List Call := [.deliver (.frame frame), .render, .deliver (.subframe subframe), .render]
    ∃ core drawn, calls.foldlM (Call.play ⟨true⟩ (noStdPainter ⟨true⟩ fun _ => none))
        (.newNoStd 64 160 "https://example.com" false, List.replicate (64 * 160) 0) = .ok (core, drawn) ∧
      drawn[64 * 96]? = some 0x030201 ∧ drawn[64 * 96 + 1]? = some 0x060504 ∧
        drawn[64 * 96 + 2]? = some 0x0F0F12 := by
  intro frame subframe calls
  have pictorial : ∀ event ∈ [RenderEvent.frame frame, .subframe subframe], event.Pictorial := by
    simp only [List.forall_mem_cons, RenderEvent.Pictorial]
    refine ⟨⟨by decide, by decide, by decide, by decide⟩, ⟨by decide, by decide, ?_⟩, nofun⟩
    exact ⟨⟨by decide, by decide⟩, by decide, by decide, by decide, by decide⟩
  have arrived : delivered [.deliver (.frame frame), .render, .deliver (.subframe subframe)] =
      [.frame frame, .subframe subframe] := rfl
  have sized : (List.replicate (64 * 160) (0 : UInt32)).length =
      (64 : UInt32).toNat * (160 : UInt32).toNat := List.length_replicate
  have composed : ReturnsIf _ (calls.foldlM (Call.play ⟨true⟩ (noStdPainter ⟨true⟩ fun _ => none)) _) _ :=
    composition_independent_of_renders (by decide) (by decide) (by decide) "https://example.com" false
      pictorial arrived sized
  obtain ⟨⟨core, drawn⟩, returned⟩ := composed.returns
    ⟨noStdPainter_draws (by decide) (by decide), fun _ => by decide⟩
  have shown := composed.good _ returned
  simp only at shown
  have first := shown 0 (by decide) 0 (by decide)
  have second := shown 1 (by decide) 0 (by decide)
  have third := shown 2 (by decide) 0 (by decide)
  refine ⟨core, drawn, returned, ?_, ?_, ?_⟩
  · refine first.trans (congrArg some ?_)
    decide
  · refine second.trans (congrArg some ?_)
    decide
  · refine third.trans (congrArg some ?_)
    decide

end ExoBrowser.Client
