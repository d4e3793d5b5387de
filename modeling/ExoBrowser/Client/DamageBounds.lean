import ExoBrowser.Client.Damage

/-!
# Damage in the window

The rectangles that a render returns end in the window, but for that of a toast, which
begins beside the left edge and may be as wide as the window.
-/

set_option autoImplicit false

namespace ExoBrowser.Client

open Library Proto Checked

variable {build : Build} {font : BasicFonts}

/-! ## Content -/

/-- The rectangle ends in the window. -/
def DamageRect.Inside (window : Window) (rect : DamageRect) : Prop :=
  rect.x.toNat + rect.w.toNat ≤ window.bw.toNat ∧ rect.y.toNat + rect.h.toNat ≤ window.bh.toNat

namespace Window

variable {window : Window}

def Encloses (window : Window) (damage : List DamageRect) : Prop :=
  ∀ rect ∈ damage, rect.Inside window

theorem Encloses.append {damage : List DamageRect} (within : window.Encloses damage)
    {rect : DamageRect} (inside : rect.Inside window) : window.Encloses (damage ++ [rect]) :=
  List.forall_mem_append.mpr ⟨within, List.forall_mem_singleton.mpr inside⟩

theorem contentRect_inside (some : 0 < window.contentH.toNat) :
    window.contentRect.Inside window := by
  have height : window.contentH.toNat = window.bh.toNat - 96 := toNat_contentHeight window.bh
  have left : window.contentRect.x.toNat = 0 := rfl
  have top : window.contentRect.y.toNat = 96 := rfl
  constructor
  · rw [left, Nat.zero_add]
    exact Nat.le_refl _
  · rw [top]
    change 96 + window.contentH.toNat ≤ window.bh.toNat
    omega

/-- Whatever the ends come to in 32 bits, they are cut off at those of the content area. -/
theorem clip_encloses (x y w h : UInt32) :
    Yields (window.clip build x y w h) fun clipped => ∀ part ∈ clipped,
      part.x0.toNat + part.copyW.toNat ≤ window.bw.toNat ∧
        part.y0.toNat + part.copyH.toNat ≤ window.contentH.toNat := by
  refine .bind fun right _ => .bind fun bottom _ => .pure ?_
  have endX := toNat_min32 right window.bw
  have endY := toNat_min32 bottom window.contentH
  split
  case isTrue visible =>
      rintro part ⟨⟩
      have columns := toNat_sub32 (Nat.le_of_lt (UInt32.lt_iff_toNat_lt.mp visible.1))
      have rows := toNat_sub32 (Nat.le_of_lt (UInt32.lt_iff_toNat_lt.mp visible.2))
      have left := UInt32.lt_iff_toNat_lt.mp visible.1
      have top := UInt32.lt_iff_toNat_lt.mp visible.2
      simp only
      rw [columns, rows]
      omega
  case isFalse => exact nofun

theorem clip_bind {x y w h : UInt32} {draw : Option Clip → Run (List UInt32 × List DamageRect)}
    {good : List UInt32 × List DamageRect → Prop} (hidden : Yields (draw none) good)
    (shown : ∀ part : Clip, part.x0.toNat + part.copyW.toNat ≤ window.bw.toNat →
      part.y0.toNat + part.copyH.toNat ≤ window.contentH.toNat → Yields (draw (some part)) good) :
    Yields (window.clip build x y w h >>= draw) good := by
  refine .bind fun clipped clips => ?_
  have bounds := clip_encloses x y w h clipped clips
  cases clipped with
  | none => exact hidden
  | some part => exact shown part (bounds part rfl).1 (bounds part rfl).2

theorem drawClip_encloses {part : Clip} {row : Nat → Nat → List UInt32 → Run (List UInt32)}
    {canvas : List UInt32 × List DamageRect} (within : window.Encloses canvas.2)
    (columns : part.x0.toNat + part.copyW.toNat ≤ window.bw.toNat)
    (rows : part.y0.toNat + part.copyH.toNat ≤ window.contentH.toNat) (some : 0 < window.contentH.toNat) :
    Yields (window.drawClip build part row canvas.1 canvas.2) fun next => window.Encloses next.2 := by
  refine .bind fun drawn _ => .bind fun top added => .pure ?_
  refine within.append ⟨columns, ?_⟩
  have height : window.contentH.toNat = window.bh.toNat - 96 := toNat_contentHeight window.bh
  have chrome : chromeH.toNat = 96 := rfl
  have bound := window.bh.toNat_lt
  have small : chromeH.toNat + part.y0.toNat < 2 ^ 32 := by omega
  rw [Build.add32_eq_ok small] at added
  cases added
  simp only
  rw [toNat_add32 small]
  omega

theorem drawSubframe_encloses {canvas : List UInt32 × List DamageRect}
    (within : window.Encloses canvas.2) (some : 0 < window.contentH.toNat) (s : GfxSubframe) :
    Yields (window.drawSubframe build canvas s) fun next => window.Encloses next.2 := by
  exact clip_bind (.pure within) fun part columns rows => drawClip_encloses within columns rows some

theorem drawTile_encloses {tileCache : UInt64 → Option (List UInt32)}
    {canvas : List UInt32 × List DamageRect} (within : window.Encloses canvas.2)
    (some : 0 < window.contentH.toNat) (pending : UInt32 × UInt32 × UInt64) :
    Yields (window.drawTile build tileCache canvas pending) fun next => window.Encloses next.2 := by
  obtain ⟨tx, ty, hash⟩ := pending
  unfold drawTile
  simp only
  split
  case h_1 tile _ =>
      exact clip_bind (.pure within) fun part columns rows =>
        drawClip_encloses within columns rows some
  case h_2 => exact .pure within

end Window

namespace BrowserCore

variable {core : BrowserCore} {buffer : List UInt32} {damage : List DamageRect}

theorem renderWhole_encloses (within : core.window.Encloses damage)
    (some : 0 < core.window.contentH.toNat) :
    Yields (core.renderWhole build buffer damage) fun canvas => core.window.Encloses canvas.2 := by
  have whole := within.append (Window.contentRect_inside some)
  unfold renderWhole
  split
  case h_1 => exact .bind fun _ _ => .pure whole
  case h_2 =>
    refine .ite (fun _ => ?_) fun _ => .pure within
    split
    case h_1 => exact .bind fun _ _ => .pure whole
    case h_2 => exact .bind fun _ _ => .bind fun _ _ => .pure whole

theorem renderContent_encloses (within : core.window.Encloses damage)
    (some : 0 < core.window.contentH.toNat) :
    Yields (core.renderContent build buffer damage) fun canvas => core.window.Encloses canvas.2 := by
  refine .bind fun whole drawn => .bind fun subframes placed => ?_
  have first := renderWhole_encloses within some whole drawn
  have second := Yields.foldlM (fun canvas : List UInt32 × List DamageRect =>
    core.window.Encloses canvas.2) (fun canvas within s _ =>
      Window.drawSubframe_encloses within some s) first subframes placed
  exact Yields.foldlM (fun canvas : List UInt32 × List DamageRect => core.window.Encloses canvas.2)
    (fun canvas within pending _ => Window.drawTile_encloses within some pending) second

theorem renderChrome_encloses (painter : Painter) (core : BrowserCore) (buffer : List UInt32) :
    Yields (core.renderChrome painter buffer) fun next =>
      core.window.Encloses next.2.2 ∧ ∃ dirty, next.1 = { core with chromeDirty := dirty } := by
  unfold renderChrome
  refine .ite (fun _ => .bind fun drawn _ => .pure ⟨?_, false, rfl⟩) fun _ => .pure ⟨nofun, _, rfl⟩
  refine List.forall_mem_singleton.mpr ⟨Nat.le_of_eq (Nat.zero_add _), ?_⟩
  simp only
  rw [toNat_min32]
  change 0 + min chromeH.toNat core.window.bh.toNat ≤ core.window.bh.toNat
  omega

end BrowserCore

/-! ## The toast -/

/-- A value that is too large for an `i32` wraps, if nothing checks that. -/
theorem Build.i32_yields (build : Build) (value : Int) :
    Yields (build.i32 value) fun wrapped => wrapped = value.bmod (2 ^ 32) := by
  refine .ite (fun _ => .pure rfl) fun _ => ?_
  rintro _ ⟨⟩

/-- The toast stands near the bottom, wherever 32 bits put that. -/
theorem toast_bottom {height : Nat} (tall : 24 ≤ height) (bounded : height < 2 ^ 32) {ty : Int}
    (top : build.i32 (asI32 height - 36) = .ok ty) : asU32 (max ty 0) + 24 ≤ height := by
  have position : ty = ((height : Int) - 36).bmod (2 ^ 32) :=
    (build.i32_yields (asI32 height - 36) ty top).trans Int.bmod_sub_bmod
  -- A wrap goes down: up it would leave the 32 bits.
  have below : ty ≤ (height : Int) - 36 := by
    have wraps := Int.bmod_add_bdiv ((height : Int) - 36) (2 ^ 32)
    have signed := Int.bmod_lt (x := (height : Int) - 36) (m := 2 ^ 32) (by decide)
    rw [← position] at wraps signed
    generalize ((height : Int) - 36).bdiv (2 ^ 32) = turns at wraps
    norm_num at wraps signed
    omega
  have low : max ty 0 < 2 ^ 32 := by omega
  rw [asU32_eq (by omega) low]
  omega

/-- The rectangle that `render_into` reports for a toast. -/
def Window.toastRect (build : Build) (window : Window) (msg : String) : Run DamageRect := do
  let tw ← build.i32 ((← build.i32 (asI32 msg.utf8ByteSize * 7)) + 24)
  let ty ← build.i32 (asI32 window.bh.toNat - 36)
  return {
    x := 12, y := UInt32.ofNat (asU32 (max ty 0))
    w := min (UInt32.ofNat (asU32 tw)) window.bw, h := 24 }

/-- A painter reports this rectangle for a toast, whatever it draws there. -/
def Painter.ReportsToast (build : Build) (painter : Painter) : Prop :=
  ∀ window : Window, ∀ msg buffer drawn rect,
    painter.toast (window.bw, window.bh) msg buffer = some (drawn, rect) →
      window.toastRect build msg = .ok rect

/-- The rectangle of the only toast there is begins 12 pixels from the left. -/
theorem toastRect_inside_iff {window : Window} (tall : 24 ≤ window.bh.toNat) :
    Yields (window.toastRect build clearedToast) fun rect =>
      rect.Inside window ↔ 260 ≤ window.bw.toNat := by
  unfold Window.toastRect
  rw [clearedToast_size, asI32_eq (by decide)]
  simp only [Nat.cast_ofNat]
  refine .bind fun scaled text => .bind fun tw padded => ?_
  rw [Build.i32_eq_ok (by decide) (by decide)] at text
  cases text
  rw [Build.i32_eq_ok (by decide) (by decide)] at padded
  cases padded
  refine .bind fun ty top => .pure ?_
  have bounded := window.bh.toNat_lt
  have bottom := toast_bottom tall bounded top
  have width : (min (UInt32.ofNat (asU32 (32 * 7 + 24))) window.bw).toNat =
      min 248 window.bw.toNat := by
    rw [toNat_min32]
    rfl
  unfold DamageRect.Inside
  simp only
  rw [width, UInt32.toNat_ofNat_of_lt' (by change _ < 2 ^ 32; omega)]
  constructor
  · rintro ⟨right, -⟩
    change 12 + min 248 window.bw.toNat ≤ window.bw.toNat at right
    omega
  · intro wide
    constructor
    · change 12 + min 248 window.bw.toNat ≤ window.bw.toNat
      omega
    · exact bottom

theorem drawToast_reports (window : Window) (msg : String) (buf : List UInt32) :
    Yields (window.drawToast build font msg buf) fun drawn => window.toastRect build msg = .ok drawn.2 := by
  unfold Window.drawToast Window.toastRect
  refine .bind fun scaled text => .bind fun tw padded => .bind fun ty top => .bind fun _ _ =>
    .bind fun _ _ => .bind fun _ _ => .bind fun _ _ => .pure ?_
  rw [text, ok_bind, padded, ok_bind, top]
  rfl

theorem eq_some_of_painted {α : Type} {drawn : Option α} {value : α}
    (returned : painted drawn = .ok value) : drawn = some value := by
  cases drawn with
  | none => cases returned
  | some drawn =>
      cases returned
      rfl

theorem toastOnto_eq_some {buffer : List UInt32} {drew : Run (List UInt32 × DamageRect)}
    {drawn : Drawn buffer} {rect : DamageRect} (result : toastOnto buffer drew = some (drawn, rect)) :
    ∃ words, drew = .ok (words, rect) := by
  unfold toastOnto at result
  split at result
  case h_1 words _ =>
      obtain ⟨_, _, same⟩ := Option.map_eq_some_iff.mp result
      cases same
      exact ⟨words, rfl⟩
  case h_2 => cases result

theorem noStdPainter_reportsToast : (noStdPainter build font).ReportsToast build := by
  intro window msg buffer drawn rect result
  unfold noStdPainter at result
  simp only at result
  obtain ⟨words, drew⟩ := toastOnto_eq_some result
  exact drawToast_reports window msg buffer _ drew

/-! ## A render -/

namespace BrowserCore

variable {painter : Painter} {core : BrowserCore} {buffer : List UInt32} {damage : List DamageRect}

/-- A toast is left to show. -/
def Toasts (core : BrowserCore) : Prop :=
  core.statusToastFramesLeft > 0 ∧ core.statusToastText.isSome = true

theorem renderToast_encloses_iff (reports : painter.ReportsToast build) (intact : core.Intact)
    (tall : 24 ≤ core.window.bh.toNat) (within : core.window.Encloses damage) :
    Yields (core.renderToast painter buffer damage) fun next =>
      core.window.Encloses next.2.2 ↔ (core.Toasts → 260 ≤ core.window.bw.toNat) := by
  unfold renderToast
  refine .ite (fun running => ?_) fun stopped => .pure ?_
  case refine_2 => exact iff_of_true within fun toasts => absurd toasts.1 stopped
  cases text : core.statusToastText with
  | none =>
      refine .pure (iff_of_true within fun toasts => ?_)
      have shown := toasts.2
      rw [text] at shown
      cases shown
  | some msg =>
      cases intact.toast msg text
      have toasts : core.Toasts := ⟨running, by rw [text]; rfl⟩
      refine .bind fun (drawn, rect) painting => .pure ?_
      have inside : rect.Inside core.window ↔ 260 ≤ core.window.bw.toNat := by
        have drew := eq_some_of_painted painting
        exact toastRect_inside_iff tall rect (reports core.window _ _ _ _ drew)
      simp only
      unfold Window.Encloses
      rw [List.forall_mem_append, List.forall_mem_singleton, inside]
      exact ⟨fun both _ => both.2, fun wide => ⟨within, wide toasts⟩⟩

theorem renderOverlay_encloses_iff (reports : painter.ReportsToast build) (intact : core.Intact)
    (tall : 24 ≤ core.window.bh.toNat) (within : core.window.Encloses damage) :
    Yields (core.renderOverlay painter buffer damage) fun next =>
      core.window.Encloses next.2.2 ↔ (core.Toasts → 260 ≤ core.window.bw.toNat) := by
  refine .bind fun toasted shown => ?_
  have exact_iff := renderToast_encloses_iff reports intact tall within toasted shown
  simp only
  split
  case h_1 => exact .bind fun _ _ => .pure exact_iff
  case h_2 => exact .pure exact_iff

theorem renderInto_encloses_iff (reports : painter.ReportsToast build) (intact : core.Intact)
    (tall : 24 ≤ core.window.bh.toNat) :
    Yields (core.renderInto build painter buffer) fun next =>
      core.window.Encloses next.2.2 ↔
        (core.Accepts buffer.length → core.Toasts → 260 ≤ core.window.bw.toNat) := by
  unfold renderInto
  refine .ite (fun refused => .pure ?_) fun accepts => ?_
  case refine_1 => exact iff_of_true nofun fun takes => absurd refused takes
  obtain ⟨left, dirty, ticked⟩ := tickAudio_eq core
  rw [ticked]
  refine .bind fun (base, drawn, damage) chrome => ?_
  obtain ⟨within, clean, same⟩ := renderChrome_encloses _ _ _ _ chrome
  simp only at same within
  subst same
  refine .ite (fun visible => .bind fun (content, damaged) drew => ?_) fun _ => ?_
  · have some := UInt32.lt_iff_toNat_lt.mp visible
    have enclosed := renderContent_encloses within some _ drew
    have intactDone : (BrowserCore.contentDone { core with
        audioPlayingFramesLeft := left, chromeDirty := clean }).Intact :=
      { intact with frames := nofun, subframes := nofun }
    intro next overlay
    exact (renderOverlay_encloses_iff reports intactDone tall enclosed next overlay).trans
      ⟨fun wide _ => wide, fun wide => wide accepts⟩
  · have intactBase : BrowserCore.Intact { core with
        audioPlayingFramesLeft := left, chromeDirty := clean } := { intact with }
    intro next overlay
    exact (renderOverlay_encloses_iff reports intactBase tall within next overlay).trans
      ⟨fun wide _ => wide, fun wide => wide accepts⟩

end BrowserCore

/-- In every state that calls reach, the rectangles that a render returns end in the window
exactly if the render draws no toast or the toast fits beside the left edge. How text is drawn
makes no difference. -/
theorem damage_inside_iff {painter : Painter} (reports : painter.ReportsToast build) {target : Target}
    {width height : UInt32} {initialUrl : String} {editing : Bool} {events : List CoreEvent}
    {encoded : List Message} {core : BrowserCore}
    (reached : Runs (coreStep build target painter) (.newNoStd width height initialUrl editing) events
      encoded core)
    (tall : chromeH.toNat + 64 ≤ core.window.bh.toNat) {buffer drawn : List UInt32}
    {next : BrowserCore} {damage : List DamageRect}
    (returned : core.renderInto build painter buffer = .ok (next, drawn, damage)) :
    (∀ rect ∈ damage, rect.Inside core.window) ↔
      (core.Accepts buffer.length → core.Toasts → 260 ≤ core.window.bw.toNat) := by
  have high : 24 ≤ core.window.bh.toNat := by omega
  exact BrowserCore.renderInto_encloses_iff reports (intact_of_reached reached) high _ returned

/-- The data was cleared, and then the window made as small as it gets. -/
def cleared : BrowserCore :=
  { (BrowserCore.newNoStd 640 480 "a" false).emitInput (.clearData true true true) with
    statusToastText := some clearedToast, statusToastFramesLeft := 60, chromeDirty := true }

theorem clicked_cleared (painter : Painter) :
    coreStep ⟨true⟩ .bits64 painter (.newNoStd 640 480 "a" false) (.clicked 600 50 1) [] cleared :=
  rfl

theorem cleared_reached (painter : Painter) (w h : UInt32) :
    Runs (coreStep ⟨true⟩ .bits64 painter) (.newNoStd 640 480 "a" false)
      [.clicked 600 50 1, .reported (.resize w h)] [] (cleared.onResize w h) :=
  .step (.single (clicked_cleared painter)) rfl

/-- The first render of the window that holds the toast. -/
theorem cleared_renders (w h : UInt32) (narrow : (cleared.onResize w h).Narrow)
    {buffer : List UInt32} (accepts : (cleared.onResize w h).Accepts buffer.length) :
    ∃ next drawn damage, (cleared.onResize w h).renderInto ⟨true⟩
      (noStdPainter ⟨true⟩ fun _ => none) buffer = .ok (next, drawn, damage) := by
  have intact := intact_of_reached (cleared_reached (noStdPainter ⟨true⟩ fun _ => none) w h)
  have quiet : (cleared.onResize w h).pendingFrames = [] ∧
      (cleared.onResize w h).pendingSubframes = [] ∧ (cleared.onResize w h).pendingTiles = [] ∧
      (cleared.onResize w h).tabs.length = 1 := by
    unfold BrowserCore.onResize
    simp only
    split
    · exact ⟨rfl, rfl, rfl, rfl⟩
    · exact ⟨rfl, rfl, rfl, rfl⟩
  generalize cleared.onResize w h = core at narrow accepts intact quiet ⊢
  obtain ⟨frames, subframes, tiles, one⟩ := quiet
  have rows : core.RowsFit := by
    constructor
    · rw [frames]
      exact List.forall_mem_nil _
    · rw [subframes]
      exact List.forall_mem_nil _
  have calm : core.Calm ⟨true⟩ := by
    intro _
    rw [subframes, tiles]
    exact ⟨List.forall_mem_nil _, List.forall_mem_nil _⟩
  have few : core.tabs.length < 2 ^ 20 := by rw [one]; decide
  obtain ⟨⟨next, drawn, damage⟩, returned⟩ :=
    (BrowserCore.renderInto_reported intact rows narrow few accepts).returns calm
  exact ⟨next, drawn, damage, returned⟩

/-- A window that is wide enough for the toast. -/
theorem damage_inside_iff_wide :
    let core := cleared.onResize 260 160
    ∃ next drawn damage, core.renderInto ⟨true⟩ (noStdPainter ⟨true⟩ fun _ => none)
        (List.replicate (260 * 160) 0) = .ok (next, drawn, damage) ∧
      ∀ rect ∈ damage, rect.Inside core.window := by
  intro core
  have accepts : core.Accepts (List.replicate (260 * 160) (0 : UInt32)).length := by
    rw [List.length_replicate, BrowserCore.Accepts]
    decide
  obtain ⟨next, drawn, damage, returned⟩ := cleared_renders 260 160 ⟨by decide, by decide⟩ accepts
  exact ⟨next, drawn, damage, returned,
    (damage_inside_iff noStdPainter_reportsToast (cleared_reached _ 260 160) (by decide) returned).mpr fun _ _ => by decide⟩

/-- In the smallest window, the rectangle of the toast ends 12 pixels behind the right edge. -/
theorem toast_leaves_window :
    let core := cleared.onResize 64 160
    (∃ events encoded, Runs (coreStep ⟨true⟩ .bits64 (noStdPainter ⟨true⟩ fun _ => none))
      (.newNoStd 640 480 "a" false) events encoded core) ∧
    core.window.bw = 64 ∧ core.window.bh = chromeH + 64 ∧
    ∃ next drawn damage, core.renderInto ⟨true⟩ (noStdPainter ⟨true⟩ fun _ => none)
        (List.replicate (64 * 160) 0) = .ok (next, drawn, damage) ∧
      ¬ ∀ rect ∈ damage, rect.Inside core.window := by
  intro core
  have accepts : core.Accepts (List.replicate (64 * 160) (0 : UInt32)).length := by
    rw [List.length_replicate, BrowserCore.Accepts]
    decide
  have toasts : core.Toasts := ⟨by decide, rfl⟩
  obtain ⟨next, drawn, damage, returned⟩ := cleared_renders 64 160 ⟨by decide, by decide⟩ accepts
  have reached := cleared_reached (noStdPainter ⟨true⟩ fun _ => none) 64 160
  refine ⟨⟨_, _, reached⟩, rfl, rfl, next, drawn, damage, returned, fun inside => ?_⟩
  have exact_iff := BrowserCore.renderInto_encloses_iff noStdPainter_reportsToast
    (intact_of_reached reached) (by decide) _ returned
  exact absurd (exact_iff.mp inside accepts toasts) (by decide)

end ExoBrowser.Client
