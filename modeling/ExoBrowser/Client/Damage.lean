import ExoBrowser.Client.ChromeProperties
import ExoBrowser.Client.Reach

/-!
# Damage

What a render changes lies in the rectangles it returns. When nothing is left to tick
down, a render after it changes nothing.
-/

set_option autoImplicit false

namespace ExoBrowser.Client

open Library Proto Checked

variable {build : Build} {font : BasicFonts}

/-! ## Reports -/

/-- Every pixel that differs from the start lies in a rectangle of the damage. -/
structure Window.Reported (window : Window) (start : List UInt32)
    (canvas : List UInt32 × List DamageRect) : Prop where
  length : canvas.1.length = start.length
  covered : ∀ col < window.bw.toNat, ∀ row,
    canvas.1[cell window.bw.toNat col row]? ≠ start[cell window.bw.toNat col row]? →
      ∃ rect ∈ canvas.2, rect.Covers col row

namespace Window.Reported

variable {window : Window} {start : List UInt32} {before after : List UInt32 × List DamageRect}

theorem refl (window : Window) (start : List UInt32) (damage : List DamageRect) :
    window.Reported start (start, damage) := ⟨rfl, fun _ _ _ differs => absurd rfl differs⟩

/-- What is changed in a reported region is reported. -/
theorem confined {region : Nat → Nat → Prop} (reported : window.Reported start before)
    (confined : Confined window.bw.toNat region before.1 after.1)
    (kept : ∀ rect ∈ before.2, rect ∈ after.2)
    (covered : ∀ col < window.bw.toNat, ∀ row, region col row → ∃ rect ∈ after.2, rect.Covers col row) :
    window.Reported start after where
  length := confined.length.trans reported.length
  covered := fun col col_lt row differs => by
    by_cases inside : region col row
    · exact covered col col_lt row inside
    · rw [confined.outside col col_lt row inside] at differs
      obtain ⟨rect, member, covers⟩ := reported.covered col col_lt row differs
      exact ⟨rect, kept rect member, covers⟩

theorem patched {region : Nat → Nat → Prop} {value : Nat → Nat → UInt32}
    (reported : window.Reported start before) (patched : window.Patched region value before after) :
    window.Reported start after :=
  reported.confined patched.painted.toConfined patched.kept patched.covered

end Window.Reported

/-! ## Stages -/

theorem drawnOnto_of_returns {buffer : List UInt32} {drawn : Run (List UInt32)}
    {good : List UInt32 → Prop} (returns : Returns drawn fun drawn => drawn.length = buffer.length ∧ good drawn) :
    ∃ painted, drawnOnto buffer drawn = some painted ∧ good painted.val := by
  obtain ⟨result, rfl, same, property⟩ := returns
  exact ⟨⟨result, same⟩, dif_pos same, property⟩

theorem noStdPainter_chrome (core : BrowserCore) (buffer : List UInt32) :
    (noStdPainter build font).chrome core buffer =
      drawnOnto buffer (core.drawChrome build font buffer) := by
  unfold noStdPainter
  simp only

/-- The toolbar is drawn where the sides of the window fit 16 bits. -/
theorem noStdPainter_chrome_returns {core : BrowserCore} {buffer : List UInt32} (narrow : core.Narrow)
    (few : core.tabs.length < 2 ^ 20) (fits : core.window.needed ≤ buffer.length) :
    ∃ drawn, (noStdPainter build font).chrome core buffer = some drawn ∧
      core.window.Toolbar buffer drawn.val := by
  have drew : Returns (core.drawChrome build font buffer) _ :=
    BrowserCore.drawChrome_toolbar narrow few fits
  rw [noStdPainter_chrome]
  exact drawnOnto_of_returns (drew.mono fun drawn toolbar => ⟨toolbar.length, toolbar⟩)

theorem noStdPainter_toast (core : BrowserCore) (msg : String) (buffer : List UInt32) :
    (noStdPainter build font).toast core.winSize msg buffer =
      toastOnto buffer (core.window.drawToast build font msg buffer) := by
  unfold noStdPainter BrowserCore.window
  simp only

theorem toastOnto_ok {buffer drawn : List UInt32} (same : drawn.length = buffer.length)
    (rect : DamageRect) : toastOnto buffer (.ok (drawn, rect)) = some (⟨drawn, same⟩, rect) := by
  unfold toastOnto drawnOnto
  simp only [dif_pos same, Option.map_some]

namespace BrowserCore

variable {core : BrowserCore} {buffer : List UInt32}

theorem renderChrome_returns (narrow : core.Narrow) (few : core.tabs.length < 2 ^ 20)
    (fits : core.window.needed ≤ buffer.length) :
    Returns (core.renderChrome (noStdPainter build font) buffer) fun next =>
      next.1 = { core with chromeDirty := false } ∧ core.window.Toolbar buffer next.2.1 ∧
        core.window.Reported buffer next.2 := by
  unfold renderChrome
  cases dirty : core.chromeDirty with
  | false =>
      refine ⟨_, rfl, ?_, .refl _ _ _, .refl _ _ _⟩
      rw [← dirty]
  | true =>
      obtain ⟨drawn, result, toolbar⟩ := @noStdPainter_chrome_returns build font _ _ narrow few fits
      rw [result]
      refine ⟨_, rfl, rfl, toolbar, ?_⟩
      refine Window.Reported.confined (.refl _ buffer []) toolbar (fun _ member => nomatch member) ?_
      intro col col_lt row inside
      refine ⟨_, List.mem_cons_self, Nat.zero_le _, ?_, Nat.zero_le _, ?_⟩
      · change col < 0 + core.window.bw.toNat
        omega
      · change row < 0 + (min chromeH core.window.bh).toNat
        rw [toNat_min32]
        omega

/-- The rectangles that are pending end within 32 bits, or nothing checks that they do. -/
def Calm (build : Build) (core : BrowserCore) : Prop :=
  build.overflowChecks = true →
    (∀ s ∈ core.pendingSubframes,
      s.x.toNat + s.w.toNat < 2 ^ 32 ∧ s.y.toNat + s.h.toNat < 2 ^ 32) ∧
    ∀ pending ∈ core.pendingTiles, pending.1.toNat + 64 < 2 ^ 32 ∧ pending.2.1.toNat + 64 < 2 ^ 32

theorem renderContent_reported (intact : core.Intact) (rows : core.RowsFit) (narrow : core.Narrow)
    (some : 0 < core.window.contentH.toNat) {start : List UInt32} {damage : List DamageRect}
    (holds : core.window.needed ≤ start.length) (reported : core.window.Reported start (buffer, damage)) :
    ReturnsIf (core.Calm build) (core.renderContent build buffer damage)
      (core.window.Reported start) := by
  have room {canvas : List UInt32 × List DamageRect} (reported : core.window.Reported start canvas) :
      core.window.needed ≤ canvas.1.length := reported.length ▸ holds
  have whole : Returns (core.renderWhole build buffer damage) (core.window.Reported start) := by
    refine (renderWhole_returns intact rows narrow some (room reported) damage).mono fun next redrawn => ?_
    unfold Redrawn at redrawn
    cases pixel : core.wholePixel with
    | none =>
        rw [pixel] at redrawn
        rw [redrawn]
        exact reported
    | some value =>
        rw [pixel] at redrawn
        exact reported.patched redrawn
  unfold renderContent
  refine (ReturnsIf.of_returns whole).bind fun canvas reported => ?_
  refine ReturnsIf.bind (ReturnsIf.foldlM (core.window.Reported start) ?_ reported)
    fun canvas reported => ReturnsIf.foldlM (core.window.Reported start) ?_ reported
  · intro canvas reported s member
    refine ((Window.drawSubframe_patches (whole_subframe intact rows member) (room reported)).weaken
      fun calm checked => (calm checked).1 s member).mono ?_
    rintro next ⟨region, drawn⟩
    exact reported.patched drawn.patched
  · rintro canvas reported ⟨tx, ty, hash⟩ member
    cases found : core.tileCache hash with
    | none =>
        unfold Window.drawTile
        simp only [found]
        exact .pure reported
    | some tile =>
        refine ((Window.drawTile_patches found (intact.cached hash tile found) (room reported)).weaken
          fun calm checked => (calm checked).2 _ member).mono ?_
        rintro next ⟨region, drawn⟩
        exact reported.patched drawn.patched

/-- The overlay is the toast. -/
theorem renderOverlay_reported (intact : core.Intact) (narrow : core.Narrow) {start : List UInt32}
    {damage : List DamageRect} (holds : core.window.needed ≤ start.length)
    (reported : core.window.Reported start (buffer, damage)) :
    Returns (core.renderOverlay (noStdPainter build font) buffer damage) fun next =>
      core.window.Reported start next.2 ∧ (core.statusToastFramesLeft = 0 → next.1 = core) := by
  have fits : core.window.needed ≤ buffer.length := reported.length ▸ holds
  have toast : Returns (core.renderToast (noStdPainter build font) buffer damage) fun next =>
      core.window.Reported start next.2 ∧ next.1.synthCursor = none ∧
        (core.statusToastFramesLeft = 0 → next.1 = core) := by
    unfold renderToast
    split
    case isFalse => exact ⟨_, rfl, reported, intact.synthCursor, fun _ => rfl⟩
    case isTrue left =>
      have running : core.statusToastFramesLeft ≠ 0 := by
        rintro none_left
        rw [none_left] at left
        exact absurd left (by decide)
      cases text : core.statusToastText with
      | none => exact ⟨_, rfl, reported, intact.synthCursor, fun stopped => absurd stopped running⟩
      | some msg =>
          cases intact.toast msg text
          have drew : Returns (core.window.drawToast build font clearedToast buffer) _ :=
            drawToast_returns (narrow.holds fits) narrow.tall
          obtain ⟨⟨drawn, rect⟩, result, confined⟩ := drew
          simp only [noStdPainter_toast, result, toastOnto_ok confined.length rect]
          refine ⟨_, rfl, ?_, intact.synthCursor, fun stopped => absurd stopped running⟩
          exact reported.confined confined (fun _ member => List.mem_append_left _ member)
            fun col _ row inside => ⟨rect, List.mem_append_right _ List.mem_cons_self, inside⟩
  unfold renderOverlay
  refine toast.bind fun next ⟨shown, noCursor, stopped⟩ => ?_
  simp only [noCursor]
  exact ⟨next, rfl, shown, stopped⟩

/-! ## Rest -/

/-- Nothing is left to draw, and nothing ticks. -/
structure AtRest (core : BrowserCore) : Prop where
  audio : core.audioPlayingFramesLeft = 0
  toast : core.statusToastFramesLeft = 0
  chrome : core.chromeDirty = false
  cursor : core.synthCursor = none
  content : 0 < core.window.contentH.toNat → core.contentDone = core

theorem renderInto_atRest {painter : Painter} (rest : core.AtRest) (buffer : List UInt32) :
    core.renderInto build painter buffer = .ok (core, buffer, []) := by
  have ticked : core.tickAudio = core := by
    unfold tickAudio
    rw [rest.audio]
    rfl
  have chrome : core.renderChrome painter buffer = .ok (core, buffer, []) := by
    unfold renderChrome
    rw [rest.chrome]
    rfl
  have overlay : core.renderOverlay painter buffer [] = .ok (core, buffer, []) :=
    renderOverlay_of_none rest.toast rest.cursor buffer []
  unfold renderInto
  split
  case isTrue => rfl
  case isFalse =>
    rw [ticked, chrome, ok_bind]
    simp only
    split
    case isFalse => exact overlay
    case isTrue visible =>
      have done := rest.content (UInt32.lt_iff_toNat_lt.mp visible)
      have dirty : core.fullContentDirty = false := (congrArg fullContentDirty done).symm
      have frames : core.pendingFrames = [] := (congrArg pendingFrames done).symm
      have subframes : core.pendingSubframes = [] := (congrArg pendingSubframes done).symm
      have tiles : core.pendingTiles = [] := (congrArg pendingTiles done).symm
      have content : core.renderContent build buffer [] = .ok (buffer, []) := by
        unfold renderContent renderWhole
        rw [frames, dirty, subframes, tiles]
        rfl
      rw [content, ok_bind, done]
      exact overlay

/-! ## A render -/

/-- The buffer holds a window with something to draw on. -/
def Accepts (core : BrowserCore) (size : Nat) : Prop :=
  ¬ (core.window.bw = 0 ∨ core.window.bh = 0 ∨ size < core.window.needed)

theorem tickAudio_last {core : BrowserCore} (last : core.audioPlayingFramesLeft.toNat ≤ 1) :
    core.tickAudio.audioPlayingFramesLeft = 0 := by
  unfold tickAudio
  split
  case isTrue playing =>
    have some := UInt32.lt_iff_toNat_lt.mp playing
    have one : core.audioPlayingFramesLeft = 1 := UInt32.toNat_inj.mp (by
      change core.audioPlayingFramesLeft.toNat = 1
      have zero : (0 : UInt32).toNat = 0 := rfl
      omega)
    change core.audioPlayingFramesLeft - 1 = 0
    rw [one]
    rfl
  case isFalse silent =>
    refine UInt32.toNat_inj.mp ?_
    have none_left : ¬ 0 < core.audioPlayingFramesLeft.toNat := fun some =>
      silent (UInt32.lt_iff_toNat_lt.mpr some)
    change core.audioPlayingFramesLeft.toNat = 0
    omega

theorem renderInto_reported (intact : core.Intact) (rows : core.RowsFit) (narrow : core.Narrow)
    (few : core.tabs.length < 2 ^ 20) (accepts : core.Accepts buffer.length) :
    ReturnsIf (core.Calm build) (core.renderInto build (noStdPainter build font) buffer) fun next =>
      core.window.Reported buffer next.2 ∧
        (core.statusToastFramesLeft = 0 → core.audioPlayingFramesLeft.toNat ≤ 1 → next.1.AtRest) := by
  obtain ⟨left, dirty, ticked⟩ := tickAudio_eq core
  have fits : core.window.needed ≤ buffer.length := by
    unfold Accepts at accepts
    omega
  have narrowTicked : core.tickAudio.Narrow := ticked ▸ { narrow with }
  have fewTicked : core.tickAudio.tabs.length < 2 ^ 20 := ticked ▸ few
  have fitsTicked : core.tickAudio.window.needed ≤ buffer.length := ticked ▸ fits
  have silent (last : core.audioPlayingFramesLeft.toNat ≤ 1) : left = 0 := by
    have stopped := tickAudio_last last
    rwa [ticked] at stopped
  unfold renderInto
  rw [if_neg accepts]
  refine (ReturnsIf.of_returns (renderChrome_returns narrowTicked fewTicked fitsTicked)).bind ?_
  rintro ⟨base, drawn, damage⟩ ⟨same, _, reported⟩
  rw [ticked] at same reported
  subst same
  have intactBase : BrowserCore.Intact { core with
    audioPlayingFramesLeft := left, chromeDirty := false } := { intact with }
  have rowsBase : BrowserCore.RowsFit { core with
    audioPlayingFramesLeft := left, chromeDirty := false } := { rows with }
  have narrowBase : BrowserCore.Narrow { core with
    audioPlayingFramesLeft := left, chromeDirty := false } := { narrow with }
  simp only
  split
  case isTrue visible =>
    have some := UInt32.lt_iff_toNat_lt.mp visible
    refine ((renderContent_reported intactBase rowsBase narrowBase some fits reported).weaken id).bind ?_
    rintro ⟨content, damaged⟩ reported
    have intactDone : (BrowserCore.contentDone { core with
        audioPlayingFramesLeft := left, chromeDirty := false }).Intact :=
      { intactBase with frames := nofun, subframes := nofun }
    have narrowDone : (BrowserCore.contentDone { core with
        audioPlayingFramesLeft := left, chromeDirty := false }).Narrow := { narrow with }
    refine .of_returns ((renderOverlay_reported intactDone narrowDone fits reported).mono ?_)
    rintro next ⟨shown, quiet⟩
    refine ⟨shown, fun stopped last => ?_⟩
    rw [quiet stopped]
    exact ⟨silent last, stopped, rfl, intact.synthCursor, fun _ => rfl⟩
  case isFalse hidden =>
    refine .of_returns ((renderOverlay_reported intactBase narrowBase fits reported).mono ?_)
    rintro next ⟨shown, quiet⟩
    refine ⟨shown, fun stopped last => ?_⟩
    rw [quiet stopped]
    exact ⟨silent last, stopped, rfl, intact.synthCursor,
      fun (some : (0 : UInt32).toNat < core.window.contentH.toNat) =>
        absurd (UInt32.lt_iff_toNat_lt.mpr some) hidden⟩

end BrowserCore

/-- In every state that calls reach, with pictures whose rows lie in their strides, a render
changes only words of pixels in the rectangles it returns. It fails only where a check
finds that the corner of a rectangle is out of 32 bits. If no toast is shown and no sound
but the last was left to show, the next render changes nothing. -/
theorem damage_complete {target : Target} {width height : UInt32} {initialUrl : String}
    {editing : Bool} {events : List CoreEvent} {encoded : List Message} {core : BrowserCore}
    (reached : Runs (coreStep build target (noStdPainter build font))
      (.newNoStd width height initialUrl editing) events encoded core)
    (narrow : core.Narrow) (few : core.tabs.length < 2 ^ 20) (rows : core.RowsFit)
    (buffer : List UInt32) :
    ReturnsIf (core.Calm build) (core.renderInto build (noStdPainter build font) buffer)
      fun (next, drawn, damage) =>
        (drawn.length = buffer.length ∧ ∀ i, drawn[i]? ≠ buffer[i]? →
          ∃ rect ∈ damage, rect.Covers (i % core.window.bw.toNat) (i / core.window.bw.toNat)) ∧
        (core.statusToastFramesLeft = 0 → core.audioPlayingFramesLeft.toNat ≤ 1 →
          ∀ again : List UInt32,
            core.window.needed ≤ buffer.length ∨ again.length ≤ buffer.length →
              next.renderInto build (noStdPainter build font) again = .ok (next, again, [])) := by
  have intact := intact_of_reached reached
  by_cases accepts : core.Accepts buffer.length
  · refine (BrowserCore.renderInto_reported intact rows narrow few accepts).mono ?_
    rintro ⟨next, drawn, damage⟩ ⟨reported, rest⟩
    refine ⟨⟨reported.length, fun i differs => ?_⟩, fun stopped last again _ =>
      BrowserCore.renderInto_atRest (rest stopped last) again⟩
    have wide : 0 < core.window.bw.toNat := by
      refine Nat.pos_of_ne_zero fun none => accepts (.inl ?_)
      exact UInt32.toNat_inj.mp none
    have place := cell_div_mod core.window.bw.toNat i
    rw [← place] at differs
    exact reported.covered _ (Nat.mod_lt i wide) _ differs
  · have rejected {again : List UInt32} (refuses : ¬ core.Accepts again.length) :
        core.renderInto build (noStdPainter build font) again = .ok (core, again, []) :=
      if_pos (not_not.mp refuses)
    rw [rejected accepts]
    refine .pure ⟨⟨rfl, fun i differs => absurd rfl differs⟩, fun _ _ again sized => ?_⟩
    refine rejected fun takes => accepts ?_
    unfold BrowserCore.Accepts at takes ⊢
    intro refused
    rcases refused with noWidth | noHeight | short
    · exact takes (.inl noWidth)
    · exact takes (.inr (.inl noHeight))
    · exact takes (.inr (.inr (by omega)))

/-- The first render of a new core, and the next one. -/
theorem damage_complete_first :
    let core := BrowserCore.newNoStd 64 160 "https://example.com" false
    let painter := noStdPainter ⟨true⟩ fun _ => none
    let buffer : List UInt32 := List.replicate (64 * 160) 0
    ∃ next drawn damage, core.renderInto ⟨true⟩ painter buffer = .ok (next, drawn, damage) ∧
      (∀ i, drawn[i]? ≠ buffer[i]? → ∃ rect ∈ damage, rect.Covers (i % 64) (i / 64)) ∧
      next.renderInto ⟨true⟩ painter drawn = .ok (next, drawn, []) := by
  intro core painter buffer
  have narrow : core.Narrow := ⟨by decide, by decide⟩
  have rows : core.RowsFit := ⟨nofun, nofun⟩
  have reached : Runs (coreStep ⟨true⟩ .bits64 painter) core [] [] core := .start
  have complete := damage_complete reached narrow (by decide) rows buffer
  obtain ⟨⟨next, drawn, damage⟩, returned⟩ := complete.returns fun _ => ⟨nofun, nofun⟩
  obtain ⟨⟨length, covered⟩, quiet⟩ := complete.good _ returned
  exact ⟨next, drawn, damage, returned, covered,
    quiet rfl (by decide) drawn (.inr (Nat.le_of_eq length))⟩

end ExoBrowser.Client
