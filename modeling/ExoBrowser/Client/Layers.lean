import ExoBrowser.Client.Composition

/-!
# Layers

What the content area shows at a pixel: the picture below, the pending subframes over it one
after the other, and the pending tiles over all of them.
-/

set_option autoImplicit false

namespace ExoBrowser.Client

open Library Proto Checked

variable {build : Build} {painter : Painter}

theorem Build.mul32_returnsIf (left right : UInt32) :
    ReturnsIf (build.overflowChecks = true → left.toNat * right.toNat < 2 ^ 32) (build.mul32 left right)
      fun product => product = left * right := by
  unfold Build.mul32
  split
  case isTrue => exact .pure rfl
  case isFalse overflows =>
    refine ⟨fun calm => ?_, nofun⟩
    simp only [not_or, Bool.not_eq_true', Bool.not_eq_false] at overflows
    exact absurd (calm overflows.2) overflows.1

namespace Window

variable {window : Window}

/-! ## Pixels -/

/-- A rectangle of the content area is drawn over a pixel, if the window shows it. -/
def Covers (x y w h : UInt32) (col row : Nat) : Prop :=
  Unwrapped x y w h ∧ Rect.Contains ⟨x.toNat, y.toNat, w.toNat, h.toNat⟩ col row

instance (x y w h : UInt32) (col row : Nat) : Decidable (Covers x y w h col row) :=
  inferInstanceAs (Decidable (_ ∧ _))

/-- A subframe over a pixel. -/
def underSubframe (col row : Nat) (colour : UInt32) (s : GfxSubframe) : UInt32 :=
  if Covers s.x s.y s.w s.h col row then subframePixel s col row else colour

/-- A tile over a pixel, with the pixels that the cache has for it. -/
def underTile (tileCache : UInt64 → Option (List UInt32)) (col row : Nat) (colour : UInt32)
    (pending : UInt32 × UInt32 × UInt64) : UInt32 :=
  match tileCache pending.2.2 with
  | some tile =>
      if Covers pending.1 pending.2.1 64 64 col row then tilePixel tile pending.1 pending.2.1 col row
      else colour
  | none => colour

/-- The colours that a canvas has in the content area. -/
def Displays (window : Window) (canvas : List UInt32) (colour : Nat → Nat → UInt32) : Prop :=
  ∀ col < window.bw.toNat, ∀ row < window.contentH.toNat,
    canvas[cell window.bw.toNat col (chromeH.toNat + row)]? = some (colour col row)

theorem copied_iff {x y w h : UInt32} {col row : Nat} (row_lt : row < window.contentH.toNat) :
    window.Copied x y w h col (chromeH.toNat + row) ↔ Covers x y w h col row := by
  have height := chromeH_add_contentH (by omega : 0 < window.contentH.toNat)
  unfold Copied Covers Inside Content
  rw [Nat.add_sub_cancel_left]
  have within : chromeH.toNat ≤ chromeH.toNat + row ∧ chromeH.toNat + row < window.bh.toNat :=
    ⟨by omega, by omega⟩
  rw [and_iff_right within]

/-- What is drawn of a rectangle covers what was shown. -/
theorem Displays.patched {x y w h : UInt32} {canvas next : List UInt32 × List DamageRect}
    {colour pixel : Nat → Nat → UInt32} (shown : window.Displays canvas.1 colour)
    (patched : window.Patched (window.Copied x y w h)
      (fun col row => pixel col (row - chromeH.toNat)) canvas next) :
    window.Displays next.1 fun col row =>
      if Covers x y w h col row then pixel col row else colour col row := by
  intro col col_lt row row_lt
  simp only
  by_cases covered : Covers x y w h col row
  · rw [if_pos covered, patched.painted.inside col col_lt _ ((copied_iff row_lt).mpr covered),
      Nat.add_sub_cancel_left]
  · rw [if_neg covered, patched.painted.outside col col_lt _ fun inside =>
      covered ((copied_iff row_lt).mp inside)]
    exact shown col col_lt row row_lt

end Window

namespace BrowserCore

variable {core : BrowserCore} {buffer : List UInt32}

/-- What is pending over a pixel. -/
def overlaid (core : BrowserCore) (col row : Nat) (colour : UInt32) : UInt32 :=
  core.pendingTiles.foldl (Window.underTile core.tileCache col row)
    (core.pendingSubframes.foldl (Window.underSubframe col row) colour)

/-- What is pending can be drawn: the rows of the subframes lie in their pixels, and no sum or
product that is checked overflows. -/
structure Drawable (build : Build) (core : BrowserCore) : Prop where
  whole : ∀ s ∈ core.pendingSubframes, Window.Whole s.w.toNat s.h.toNat s.stride.toNat s.pixels
  background : build.overflowChecks = true → chromeH.toNat * core.window.bw.toNat < 2 ^ 32
  subframes : build.overflowChecks = true →
    ∀ s ∈ core.pendingSubframes, Window.Unwrapped s.x s.y s.w s.h
  tiles : build.overflowChecks = true →
    ∀ pending ∈ core.pendingTiles, Window.Unwrapped pending.1 pending.2.1 64 64

/-! ## The content stage -/

/-- The whole area is redrawn from its first word on. Where the product wraps around, the
toolbar is filled too. -/
theorem fill_shown (holds : core.window.needed ≤ buffer.length) {start : Nat}
    (early : start ≤ chromeH.toNat * core.window.bw.toNat) (some : 0 < core.window.contentH.toNat) :
    Returns (Checked.fill (ε := Empty) buffer start core.window.needed background) fun drawn =>
      drawn.length = buffer.length ∧ core.window.Displays drawn fun _ _ => background := by
  have height := Window.chromeH_add_contentH some
  have whole : core.window.needed = core.window.bh.toNat * core.window.bw.toNat := Nat.mul_comm _ _
  have below : chromeH.toNat * core.window.bw.toNat ≤ core.window.needed := by
    rw [whole]
    exact Nat.mul_le_mul_right _ (by omega)
  obtain ⟨count, ends⟩ := Nat.exists_eq_add_of_le (Nat.le_trans early below)
  have count_eq : (List.replicate count background).length = count := List.length_replicate
  have fits : start + (List.replicate count background).length ≤ buffer.length := by omega
  rw [ends, fill_eq_overwrite (by omega)]
  obtain ⟨drawn, result, length⟩ := overwrite_returns (ε := Empty) fits
  refine ⟨drawn, result, length, fun col col_lt row row_lt => ?_⟩
  cases result.symm.trans (overwrite_eq_ok fits)
  have place := (row_lt_of_cell col_lt).mpr
    ⟨Nat.le_add_right chromeH.toNat row, (by omega : chromeH.toNat + row < core.window.bh.toNat)⟩
  rw [← whole] at place
  rw [getElem?_overwrite fits, if_pos (by omega), List.getElem?_replicate_of_lt (by omega)]

theorem renderWhole_shown (activeBuf : core.activeBuf = none) (some : 0 < core.window.contentH.toNat)
    (whole : ∀ f ∈ core.pendingFrames, Window.Whole f.width.toNat f.height.toNat f.stride.toNat f.pixels)
    (holds : core.window.needed ≤ buffer.length) (damage : List DamageRect) :
    ReturnsIf (build.overflowChecks = true → chromeH.toNat * core.window.bw.toNat < 2 ^ 32)
      (core.renderWhole build buffer damage) fun next =>
        next.1.length = buffer.length ∧ core.window.Displays next.1 (core.underlay buffer).pixel := by
  have height := Window.chromeH_add_contentH some
  unfold renderWhole underlay wholePixel
  cases last : core.pendingFrames.getLast? with
  | some f =>
      refine .of_returns ((Window.drawFrame_paints (whole f (List.mem_of_getLast? last)) holds some).bind
        fun drawn painted => ⟨_, rfl, painted.length, fun col col_lt row row_lt => ?_⟩)
      have inside : core.window.Content col (chromeH.toNat + row) := ⟨by omega, by omega⟩
      rw [painted.inside col col_lt _ inside, Nat.add_sub_cancel_left]
  | none =>
      simp only
      cases dirty : core.fullContentDirty with
      | true =>
          rw [activeBuf]
          refine (Build.mul32_returnsIf chromeH core.window.bw).bind ?_
          rintro _ rfl
          have early : (chromeH * core.window.bw).toNat ≤ chromeH.toNat * core.window.bw.toNat := by
            rw [UInt32.toNat_mul]
            exact Nat.mod_le _ _
          refine .of_returns ((fill_shown holds early some).bind fun drawn shown => ⟨_, rfl, ?_⟩)
          exact shown
      | false =>
          refine .pure ⟨rfl, fun col col_lt row row_lt => ?_⟩
          have line_lt : chromeH.toNat + row < core.window.bh.toNat := by omega
          have fits := Window.cell_le_needed (by omega : col + 1 ≤ core.window.bw.toNat) line_lt
          have stored : cell core.window.bw.toNat col (chromeH.toNat + row) < buffer.length := by
            unfold cell at fits ⊢
            omega
          change buffer[_]? = Option.some (buffer.getD _ 0)
          rw [List.getD_eq_getElem?_getD, List.getElem?_eq_getElem stored, Option.getD_some]

theorem drawTile_shown {tileCache : UInt64 → Option (List UInt32)} {window : Window}
    (cached : ∀ hash tile, tileCache hash = some tile → tile.length = 64 * 64)
    {canvas : List UInt32 × List DamageRect} {colour : Nat → Nat → UInt32}
    (holds : window.needed ≤ canvas.1.length) (shown : window.Displays canvas.1 colour)
    (pending : UInt32 × UInt32 × UInt64) :
    ReturnsIf (build.overflowChecks = true → Window.Unwrapped pending.1 pending.2.1 64 64)
      (window.drawTile build tileCache canvas pending) fun next => next.1.length = canvas.1.length ∧
        window.Displays next.1 fun col row => Window.underTile tileCache col row (colour col row) pending := by
  obtain ⟨tx, ty, hash⟩ := pending
  unfold Window.underTile
  cases found : tileCache hash with
  | some tile =>
      exact (Window.drawTile_returnsIf found (cached hash tile found) holds).mono fun next patched =>
        ⟨patched.painted.length, shown.patched patched⟩
  | none =>
      unfold Window.drawTile
      simp only [found]
      exact .pure ⟨rfl, shown⟩

/-- The content stage draws what is pending over what was there. -/
theorem renderContent_shown (intact : core.Intact)
    (whole : ∀ f ∈ core.pendingFrames, Window.Whole f.width.toNat f.height.toNat f.stride.toNat f.pixels)
    (some : 0 < core.window.contentH.toNat) (holds : core.window.needed ≤ buffer.length)
    (damage : List DamageRect) :
    ReturnsIf (core.Drawable build) (core.renderContent build buffer damage) fun next =>
      next.1.length = buffer.length ∧ core.window.Displays next.1 fun col row =>
        core.overlaid col row ((core.underlay buffer).pixel col row) := by
  unfold renderContent
  refine ((renderWhole_shown intact.activeBuf some whole holds damage).weaken
    Drawable.background).bind fun canvas ⟨length, shown⟩ => ?_
  have subframes : ReturnsIf (core.Drawable build)
      (core.pendingSubframes.foldlM (core.window.drawSubframe build) canvas) fun next =>
        next.1.length = buffer.length ∧ core.window.Displays next.1 fun col row =>
          core.pendingSubframes.foldl (Window.underSubframe col row) ((core.underlay buffer).pixel col row) := by
    refine ReturnsIf.foldlM_append (fun done (next : List UInt32 × List DamageRect) =>
      next.1.length = buffer.length ∧ core.window.Displays next.1 fun col row =>
        done.foldl (Window.underSubframe col row) ((core.underlay buffer).pixel col row)) ?_ ⟨length, shown⟩
    intro done s rest split next ⟨length, shown⟩
    have member : s ∈ core.pendingSubframes := by
      rw [split]
      exact List.mem_append_right _ List.mem_cons_self
    refine ((Window.drawSubframe_returnsIf (by omega)).weaken fun drawable =>
      ⟨drawable.whole s member, fun checked => drawable.subframes checked s member⟩).mono
      fun after patched => ⟨patched.painted.length.trans length, ?_⟩
    simp only [List.foldl_append, List.foldl_cons, List.foldl_nil]
    exact shown.patched patched
  refine subframes.bind fun canvas ⟨length, shown⟩ => ?_
  refine ReturnsIf.foldlM_append (fun done (next : List UInt32 × List DamageRect) =>
    next.1.length = buffer.length ∧ core.window.Displays next.1 fun col row =>
      done.foldl (Window.underTile core.tileCache col row) (core.pendingSubframes.foldl
        (Window.underSubframe col row) ((core.underlay buffer).pixel col row))) ?_ ⟨length, shown⟩
  intro done pending rest split next ⟨length, shown⟩
  have member : pending ∈ core.pendingTiles := by
    rw [split]
    exact List.mem_append_right _ List.mem_cons_self
  refine ((drawTile_shown intact.cached (by omega) shown pending).weaken fun drawable checked =>
    drawable.tiles checked pending member).mono fun after ⟨kept, shown⟩ => ⟨kept.trans length, ?_⟩
  simp only [List.foldl_append, List.foldl_cons, List.foldl_nil]
  exact shown

/-! ## Renders -/

/-- The stages of `render_into` below the toast. -/
def renderLayers (build : Build) (painter : Painter) (core : BrowserCore) (buffer : List UInt32) :
    Run (BrowserCore × List UInt32 × List DamageRect) := do
  let (core, buffer, damage) ← core.tickAudio.renderChrome painter buffer
  let (drawn, damaged) ← core.renderContent build buffer damage
  return (core.contentDone, drawn, damaged)

theorem renderChrome_returnsIf (core : BrowserCore) (buffer : List UInt32) :
    ReturnsIf (core.chromeDirty = true → (painter.chrome core buffer).isSome)
      (core.renderChrome painter buffer) fun next =>
        next.1 = { core with chromeDirty := false } ∧ next.2.1.length = buffer.length ∧
          (next.2.1 = buffer ∨ core.chromeDirty = true) := by
  unfold renderChrome
  cases dirty : core.chromeDirty with
  | false =>
      rw [if_neg nofun]
      refine .pure ⟨?_, rfl, .inl rfl⟩
      rw [← dirty]
  | true =>
      rw [if_pos rfl]
      refine ((painted_returnsIf (painter.chrome core buffer)).weaken fun draws => draws rfl).bind ?_
      exact fun drawn _ => .pure ⟨rfl, drawn.property, .inr rfl⟩

theorem renderInto_eq_layers (accepts : core.Accepts buffer.length)
    (visible : 0 < core.window.contentH.toNat) : core.renderInto build painter buffer =
      core.renderLayers build painter buffer >>= fun next => next.1.renderOverlay painter next.2.1 next.2.2 := by
  unfold renderInto renderLayers
  rw [if_neg accepts, bind_assoc]
  have chrome : Yields (core.tickAudio.renderChrome painter buffer) _ :=
    (renderChrome_returnsIf core.tickAudio buffer).good
  cases drawn : core.tickAudio.renderChrome painter buffer with
  | error stop => rfl
  | ok next =>
      obtain ⟨base, canvas, damage⟩ := next
      obtain ⟨same, _, _⟩ := chrome _ drawn
      obtain ⟨left, dirty, ticked⟩ := tickAudio_eq core
      simp only at same
      have window : base.window = core.window := by
        rw [same, ticked]
        rfl
      have shows : base.window.contentH > 0 := by
        rw [window]
        exact UInt32.lt_iff_toNat_lt.mpr visible
      simp only [ok_bind, if_pos shows, bind_assoc, pure_bind]

/-- A render shows what is pending over the picture below, as long as a toolbar is drawn only when
the content is drawn anew. -/
theorem renderLayers_shown (intact : core.Intact)
    (whole : ∀ f ∈ core.pendingFrames, Window.Whole f.width.toNat f.height.toNat f.stride.toNat f.pixels)
    (visible : 0 < core.window.contentH.toNat) (holds : core.window.needed ≤ buffer.length)
    (covered : core.tickAudio.chromeDirty = true → core.fullContentDirty = true) :
    ReturnsIf (core.Drawable build ∧
        (core.tickAudio.chromeDirty = true → (painter.chrome core.tickAudio buffer).isSome))
      (core.renderLayers build painter buffer) fun next =>
        next.1 = { core.tickAudio.contentDone with chromeDirty := false } ∧
          next.2.1.length = buffer.length ∧ core.window.Displays next.2.1 fun col row =>
            core.overlaid col row ((core.underlay buffer).pixel col row) := by
  unfold renderLayers
  refine ((renderChrome_returnsIf core.tickAudio buffer).weaken And.right).bind ?_
  rintro ⟨base, drawn, damage⟩ ⟨same, length, below⟩
  obtain ⟨left, dirty, ticked⟩ := tickAudio_eq core
  simp only at same length below ⊢
  rw [ticked] at same below covered
  subst same
  have based : BrowserCore.Intact { core with audioPlayingFramesLeft := left, chromeDirty := false } :=
    { intact with }
  have under : BrowserCore.underlay { core with audioPlayingFramesLeft := left, chromeDirty := false } drawn =
      core.underlay buffer := underlay_drawn rfl rfl (below.imp_right covered)
  have content : ReturnsIf _ (BrowserCore.renderContent build _ drawn damage) _ :=
    renderContent_shown based whole visible (Nat.le_trans holds (Nat.le_of_eq length.symm)) damage
  rw [under] at content
  refine (content.weaken fun calm => { calm.1 with }).bind fun next ⟨kept, shown⟩ => .pure ?_
  refine ⟨?_, kept.trans length, shown⟩
  rw [ticked]
  rfl

/-- Without a toast nothing is drawn over the layers. -/
theorem renderInto_shown (intact : core.Intact)
    (whole : ∀ f ∈ core.pendingFrames, Window.Whole f.width.toNat f.height.toNat f.stride.toNat f.pixels)
    (visible : 0 < core.window.contentH.toNat) (accepts : core.Accepts buffer.length)
    (covered : core.tickAudio.chromeDirty = true → core.fullContentDirty = true)
    (quiet : core.statusToastFramesLeft = 0) :
    ReturnsIf (core.Drawable build ∧
        (core.tickAudio.chromeDirty = true → (painter.chrome core.tickAudio buffer).isSome))
      (core.renderInto build painter buffer) fun next =>
        next.1 = { core.tickAudio.contentDone with chromeDirty := false } ∧
          next.2.1.length = buffer.length ∧ core.window.Displays next.2.1 fun col row =>
            core.overlaid col row ((core.underlay buffer).pixel col row) := by
  have holds : core.window.needed ≤ buffer.length := by
    unfold Accepts at accepts
    omega
  rw [renderInto_eq_layers accepts visible]
  refine (renderLayers_shown intact whole visible holds covered).bind ?_
  intro next ⟨same, shown⟩
  obtain ⟨left, dirty, ticked⟩ := tickAudio_eq core
  have noToast : next.1.statusToastFramesLeft = 0 := by
    rw [same, ticked]
    exact quiet
  have noCursor : next.1.synthCursor = none := by
    rw [same, ticked]
    exact intact.synthCursor
  rw [renderOverlay_of_none noToast noCursor]
  exact .pure ⟨same, shown⟩

end BrowserCore

end ExoBrowser.Client
