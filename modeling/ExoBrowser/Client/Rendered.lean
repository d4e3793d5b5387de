import ExoBrowser.Client.Refresh

/-!
# What a render leaves

After a render in a window of a sane size, drawing the toolbar once more would change nothing,
every changed word lies in a rectangle that was returned, and what is marked is drawn whole.
-/

set_option autoImplicit false

namespace ExoBrowser.Client

open Library Proto Checked

variable {build : Build} {font : BasicFonts}

/-! ## Rectangles -/

/-- A rectangle begins in the window and ends above its bottom. One that leaves it at the right
edge does not touch the last row. -/
structure DamageRect.Near (window : Window) (rect : DamageRect) : Prop where
  left : rect.w.toNat ≠ 0 → rect.x.toNat < window.bw.toNat
  wide : rect.w.toNat ≤ window.bw.toNat
  bottom : rect.y.toNat + rect.h.toNat ≤ window.bh.toNat
  corner : rect.x.toNat + rect.w.toNat ≤ window.bw.toNat ∨ rect.y.toNat + rect.h.toNat < window.bh.toNat

theorem DamageRect.Inside.near {window : Window} {rect : DamageRect} (inside : rect.Inside window) :
    rect.Near window := by
  obtain ⟨right, bottom⟩ := inside
  exact ⟨fun _ => by omega, by omega, bottom, .inl right⟩

/-- The only toast there is stands 36 pixels above the bottom. -/
theorem drawToast_rect {window : Window} (wide : 64 ≤ window.bw.toNat) (tall : 36 ≤ window.bh.toNat)
    (low : window.bh.toNat ≤ 65535) (buf : List UInt32) :
    Yields (window.drawToast build font clearedToast buf) fun drawn =>
      drawn.2.y.toNat = window.bh.toNat - 36 ∧ drawn.2.Near window := by
  unfold Window.drawToast
  rw [clearedToast_size, asI32_eq (by decide), asI32_eq (by omega)]
  simp only [Nat.cast_ofNat]
  refine .bind fun scaled text => .bind fun tw padded => ?_
  rw [Build.i32_eq_ok (by decide) (by decide)] at text
  cases text
  rw [Build.i32_eq_ok (by decide) (by decide)] at padded
  cases padded
  refine .bind fun ty top => .bind fun filled _ => .bind fun below _ => .bind fun inner _ =>
    .bind fun written _ => .pure ?_
  rw [Build.i32_eq_ok (by omega) (by omega)] at top
  cases top
  have position : (UInt32.ofNat (asU32 (max ((window.bh.toNat : Int) - 36) 0))).toNat =
      window.bh.toNat - 36 := by
    rw [asU32_eq (by omega) (by omega), UInt32.toNat_ofNat_of_lt']
    · omega
    · change (max ((window.bh.toNat : Int) - 36) 0).toNat < 2 ^ 32
      omega
  have width : (min (UInt32.ofNat (asU32 (32 * 7 + 24))) window.bw).toNat = min 248 window.bw.toNat := by
    rw [toNat_min32]
    rfl
  have left : (12 : UInt32).toNat = 12 := rfl
  have height : (24 : UInt32).toNat = 24 := rfl
  refine ⟨position, ?_⟩
  constructor
  all_goals
    simp only
    omega

namespace BrowserCore

variable {core : BrowserCore} {buffer : List UInt32} {damage : List DamageRect}

/-! ## The stages -/

/-- What the toast stage leaves on a canvas and adds to the damage. -/
structure Toasted (core : BrowserCore) (buffer : List UInt32) (damage : List DamageRect)
    (next : BrowserCore × List UInt32 × List DamageRect) : Prop where
  confined : Confined core.window.bw.toNat (fun _ row => core.window.bh.toNat ≤ row + 36) buffer next.2.1
  kept : ∀ rect ∈ damage, rect ∈ next.2.2
  near : (∀ rect ∈ damage, rect.Near core.window) → ∀ rect ∈ next.2.2, rect.Near core.window

theorem renderOverlay_toasted (intact : core.Intact) (narrow : core.Narrow)
    (wide : 64 ≤ core.window.bw.toNat) (tall : 36 ≤ core.window.bh.toNat)
    (fits : core.window.needed ≤ buffer.length) :
    Yields (core.renderOverlay (noStdPainter build font) buffer damage)
      (core.Toasted buffer damage) := by
  have toast : Yields (core.renderToast (noStdPainter build font) buffer damage) fun next =>
      core.Toasted buffer damage next ∧ next.1.synthCursor = none := by
    have still : core.Toasted buffer damage (core, buffer, damage) :=
      ⟨.refl _ _ _, fun _ member => member, id⟩
    unfold renderToast
    refine .ite (fun _ => ?_) fun _ => .pure ⟨still, intact.synthCursor⟩
    cases text : core.statusToastText with
    | none => exact .pure ⟨⟨still.confined, still.kept, still.near⟩, intact.synthCursor⟩
    | some msg =>
        cases intact.toast msg text
        obtain ⟨⟨drawn, rect⟩, result, confined⟩ : Returns
          (core.window.drawToast build font clearedToast buffer) _ :=
            drawToast_returns (narrow.holds fits) narrow.tall
        obtain ⟨top, near⟩ := drawToast_rect wide tall narrow.tall buffer _ result
        simp only [noStdPainter_toast, result, toastOnto_ok confined.length rect]
        refine .pure ⟨⟨confined.mono fun col _ row covers => ?_, ?_, ?_⟩, intact.synthCursor⟩
        · obtain ⟨_, _, above, _⟩ := covers
          simp only at top above
          omega
        · exact fun _ member => List.mem_append_left _ member
        · exact fun all => List.forall_mem_append.mpr ⟨all, List.forall_mem_singleton.mpr near⟩
  refine .bind fun next toasted => ?_
  obtain ⟨property, noCursor⟩ := toast next toasted
  simp only [noCursor]
  exact .pure property

theorem drawnOnto_eq_some {drew : Run (List UInt32)} {drawn : Drawn buffer}
    (result : drawnOnto buffer drew = some drawn) : drew = .ok drawn.val := by
  unfold drawnOnto at result
  cases drew with
  | error stop => cases result
  | ok words =>
      simp only at result
      split at result
      case isTrue =>
          cases result
          rfl
      case isFalse => cases result

theorem drawChrome_eq_of_painted {drawn : Drawn buffer}
    (painting : painted ((noStdPainter build font).chrome core buffer) = .ok drawn) :
    core.drawChrome build font buffer = .ok drawn.val := by
  have drew := eq_some_of_painted painting
  rw [noStdPainter_chrome] at drew
  exact drawnOnto_eq_some drew

/-- What the toolbar stage leaves. -/
structure ChromeDrawn (build : Build) (font : BasicFonts) (core : BrowserCore) (buffer : List UInt32)
    (next : BrowserCore × List UInt32 × List DamageRect) : Prop where
  core_eq : next.1 = { core with chromeDirty := false }
  fresh : core.chromeDirty = true ∨ core.drawChrome build font buffer = .ok buffer →
    core.drawChrome build font next.2.1 = .ok next.2.1
  covered : core.chromeDirty = true → ∀ col < core.window.bw.toNat, ∀ row < core.window.bh.toNat,
    row < chromeH.toNat → ∃ rect ∈ next.2.2, rect.Covers col row

theorem renderChrome_drawn :
    Yields (core.renderChrome (noStdPainter build font) buffer) (core.ChromeDrawn build font buffer) := by
  unfold renderChrome
  refine .ite (fun dirty => .bind fun drawn painting => .pure ?_) fun clean => .pure ?_
  · have drew := drawChrome_eq_of_painted painting
    refine ⟨rfl, fun _ => core.drawChrome_draws.again rfl drew, fun _ col col_lt row row_lt above => ?_⟩
    refine ⟨_, List.mem_cons_self, Nat.zero_le _, ?_, Nat.zero_le _, ?_⟩
    · change col < 0 + core.window.bw.toNat
      omega
    · change row < 0 + (min chromeH core.window.bh).toNat
      rw [toNat_min32]
      omega
  · refine ⟨?_, fun fresh => fresh.resolve_left clean, fun dirty => absurd dirty clean⟩
    rw [Bool.not_eq_true] at clean
    rw [← clean]

/-- The toolbar shows on a canvas that agrees with one on which it shows. -/
theorem drawChrome_of_agree {other : List UInt32} (wide : 0 < core.window.bw.toNat) (narrow : core.Narrow)
    (few : core.tabs.length < 2 ^ 20) (fits : core.window.needed ≤ buffer.length)
    (length : other.length = buffer.length) (shown : core.drawChrome build font buffer = .ok buffer)
    (agree : ∀ col < core.window.bw.toNat, ∀ row < chromeH.toNat,
      other[cell core.window.bw.toNat col row]? = buffer[cell core.window.bw.toNat col row]?) :
    core.drawChrome build font other = .ok other := by
  let toolbarCell (i : Nat) : Prop := i / core.window.bw.toNat < chromeH.toNat
  have agrees : ∀ i, toolbarCell i → other[i]? = buffer[i]? := fun i above => by
    rw [← cell_div_mod core.window.bw.toNat i]
    exact agree _ (Nat.mod_lt i wide) _ above
  refine core.drawChrome_draws.shown_of_agree rfl length ?_ (fun value => ⟨value + 1, by simp⟩)
    shown agrees
  intro before after sized drew i below
  obtain ⟨drawn, result, toolbar⟩ := @drawChrome_toolbar build font core before narrow few (sized ▸ fits)
  cases drew.symm.trans result
  rw [← cell_div_mod core.window.bw.toNat i]
  exact toolbar.outside _ (Nat.mod_lt i wide) _ fun inside => below inside.1

/-! ## The render -/

/-- A window in which the toolbar, some content and the toast have room, and the sides fit
16 bits. -/
structure Roomy (core : BrowserCore) : Prop where
  wide : 64 ≤ core.window.bw.toNat
  tall : chromeH.toNat + 64 ≤ core.window.bh.toNat
  narrow : core.Narrow

structure Rendered (build : Build) (font : BasicFonts) (core : BrowserCore) (buffer : List UInt32)
    (next : BrowserCore × List UInt32 × List DamageRect) : Prop where
  clean : next.1.chromeDirty = false
  winSize : next.1.winSize = core.winSize
  title : next.1.windowTitle = core.windowTitle
  tabs : next.1.tabs = core.tabs
  fresh : core.chromeDirty = true ∨ core.drawChrome build font buffer = .ok buffer →
    next.1.drawChrome build font next.2.1 = .ok next.2.1
  reported : core.window.Reported buffer next.2
  near : ∀ rect ∈ next.2.2, rect.Near core.window
  covered : core.chromeDirty = true → core.fullContentDirty = true →
    ∀ col < core.window.bw.toNat, ∀ row < core.window.bh.toNat, ∃ rect ∈ next.2.2, rect.Covers col row

theorem Roomy.accepts (roomy : core.Roomy) {size : Nat} (holds : core.window.needed ≤ size) :
    core.Accepts size := by
  have chrome : chromeH.toNat = 96 := rfl
  obtain ⟨wide, tall, _⟩ := roomy
  unfold Accepts
  rintro (flat | flat | short)
  · rw [flat] at wide
    exact absurd wide (by decide)
  · rw [flat] at tall
    exact absurd tall (by decide)
  · omega

theorem renderWhole_covered (dirty : core.fullContentDirty = true) :
    Yields (core.renderWhole build buffer damage) fun canvas => core.window.contentRect ∈ canvas.2 := by
  unfold renderWhole
  split
  case h_1 => exact .bind fun _ _ => .pure (by simp)
  case h_2 =>
    refine .ite (fun _ => ?_) fun clean => absurd dirty clean
    split
    case h_1 => exact .bind fun _ _ => .pure (by simp)
    case h_2 => exact .bind fun _ _ => .bind fun _ _ => .pure (by simp)

/-- What is reported once stays reported. -/
theorem renderContent_kept {rect : DamageRect} (whole : Yields (core.renderWhole build buffer damage)
      fun canvas => rect ∈ canvas.2) :
    Yields (core.renderContent build buffer damage) fun canvas => rect ∈ canvas.2 := by
  have clipped {canvas : List UInt32 × List DamageRect} (member : rect ∈ canvas.2) (part : Window.Clip)
      (row : Nat → Nat → List UInt32 → Run (List UInt32)) :
      Yields (core.window.drawClip build part row canvas.1 canvas.2) fun next => rect ∈ next.2 :=
    .bind fun _ _ => .bind fun _ _ => .pure (List.mem_append_left _ member)
  have kept {canvas : List UInt32 × List DamageRect} (member : rect ∈ canvas.2) :
      Yields (pure canvas : Run _) fun next => rect ∈ next.2 := .pure member
  refine .bind fun first drawn => .bind fun second placed => ?_
  have subframes := Yields.foldlM (fun canvas : List UInt32 × List DamageRect => rect ∈ canvas.2)
    (fun canvas member s _ => Window.clip_bind (kept member) fun part _ _ => clipped member part _)
    (whole first drawn) second placed
  refine Yields.foldlM (fun canvas : List UInt32 × List DamageRect => rect ∈ canvas.2) ?_ subframes
  rintro canvas member ⟨tx, ty, hash⟩ _
  unfold Window.drawTile
  simp only
  cases core.tileCache hash with
  | none => exact .pure member
  | some tile =>
      exact Window.clip_bind (kept member) fun part _ _ => clipped member part _

theorem stages_rendered (intact : core.Intact) (roomy : core.Roomy) (few : core.tabs.length < 2 ^ 20)
    (fits : core.window.needed ≤ buffer.length) :
    Yields (do
        let (core, buffer, damage) ← core.renderChrome (noStdPainter build font) buffer
        if core.window.contentH > 0 then
          let (drawn, damaged) ← core.renderContent build buffer damage
          core.contentDone.renderOverlay (noStdPainter build font) drawn damaged
        else core.renderOverlay (noStdPainter build font) buffer damage)
      (core.Rendered build font buffer) := by
  obtain ⟨wide, tall, narrow⟩ := roomy
  have chromeTall : chromeH.toNat = 96 := rfl
  refine .bind ?_
  rintro ⟨base, drawn, damage⟩ chrome
  obtain ⟨same, fresh, chromeCovered⟩ := renderChrome_drawn _ chrome
  obtain ⟨_, _, reported⟩ := (renderChrome_returns narrow few fits).safe.of_ok chrome
  obtain ⟨enclosed, _⟩ := renderChrome_encloses _ _ _ _ chrome
  simp only at same
  subst same
  have intactBase : BrowserCore.Intact { core with chromeDirty := false } := { intact with }
  have narrowBase : BrowserCore.Narrow { core with chromeDirty := false } := { narrow with }
  have room : core.window.needed ≤ drawn.length := by rw [reported.length]; exact fits
  have visible : 0 < core.window.contentH.toNat := by
    rw [Window.contentH, toNat_contentHeight]
    omega
  have height := Window.chromeH_add_contentH visible
  have shows : core.window.contentH > 0 := UInt32.lt_iff_toNat_lt.mpr visible
  refine .ite (fun _ => .bind ?_) fun hidden => absurd shows hidden
  rintro ⟨content, damaged⟩ drew
  have encloses := renderContent_encloses enclosed visible _ drew
  have covers (full : core.fullContentDirty = true) : core.window.contentRect ∈ damaged :=
    renderContent_kept (renderWhole_covered full) _ drew
  replace drew := renderContent_drew intactBase narrowBase visible room _ drew
  have intactDone : (BrowserCore.contentDone { core with chromeDirty := false }).Intact :=
    { intactBase with frames := by simp [contentDone], subframes := by simp [contentDone] }
  have narrowDone : (BrowserCore.contentDone { core with chromeDirty := false }).Narrow := { narrow with }
  have contentRoom : core.window.needed ≤ content.length := by
    rw [drew.confined.length]
    exact room
  rintro ⟨next, shown, rects⟩ overlay
  have clear : 36 ≤ core.window.bh.toNat := by omega
  have toasted := renderOverlay_toasted intactDone narrowDone wide clear contentRoom _ overlay
  obtain ⟨toastLeft, contentDirty, same⟩ := renderOverlay_eq_ok overlay
  have laid := drew.reported reported
  replace overlay := (renderOverlay_reported intactDone narrowDone fits laid).safe.of_ok overlay
  subst same
  constructor
  case clean => rfl
  case winSize => rfl
  case title => rfl
  case tabs => rfl
  case reported => exact overlay.1
  case near => exact toasted.near fun rect member => (encloses rect member).near
  case fresh =>
      intro before
      have drawnFresh := fresh before
      have still : core.drawChrome build font shown = .ok shown := by
        refine drawChrome_of_agree (by omega) narrow few room ?_ drawnFresh fun col col_lt row above => ?_
        · exact toasted.confined.length.trans drew.confined.length
        · refine (toasted.confined.outside col col_lt row ?_).trans
            (drew.confined.outside col col_lt row ?_)
          · intro low
            change core.window.bh.toNat ≤ row + 36 at low
            omega
          · rintro ⟨⟨below, _⟩, _⟩
            omega
      refine Eq.trans (congrFun (drawChrome_congr ?_) shown) still
      rfl
  case covered =>
      intro marked full col col_lt row row_lt
      by_cases above : row < chromeH.toNat
      · obtain ⟨rect, member, here⟩ := chromeCovered marked col col_lt row row_lt above
        exact ⟨rect, toasted.kept rect (drew.kept rect member), here⟩
      · refine ⟨_, toasted.kept _ (covers full), Nat.zero_le _, ?_, ?_, ?_⟩
        · simpa [Window.contentRect] using col_lt
        · exact Nat.le_of_not_lt above
        · change row < chromeH.toNat + core.window.contentH.toNat
          omega

theorem renderInto_rendered (intact : core.Intact) (roomy : core.Roomy) (few : core.tabs.length < 2 ^ 20)
    (holds : core.window.needed ≤ buffer.length) :
    Yields (core.renderInto build (noStdPainter build font) buffer)
      (core.Rendered build font buffer) := by
  have accepts := roomy.accepts holds
  have ticking : Refreshed core core.tickAudio := .tickAudio
  obtain ⟨left, dirty, same⟩ := tickAudio_eq core
  have window : core.tickAudio.window = core.window := by rw [same]; rfl
  have sound : core.tickAudio.Intact := by rw [same]; exact { intact with }
  have sized : core.tickAudio.Roomy := by
    rw [same]
    exact ⟨roomy.wide, roomy.tall, { roomy.narrow with }⟩
  have stages := @stages_rendered build font _ buffer sound sized (by rw [same]; exact few)
    (window ▸ holds)
  unfold renderInto
  rw [if_neg accepts]
  intro next returned
  have rendered := stages next returned
  constructor
  case clean => exact rendered.clean
  case winSize => exact rendered.winSize.trans (by rw [same])
  case title => exact rendered.title.trans (by rw [same])
  case tabs => exact rendered.tabs.trans (by rw [same])
  case reported => exact window ▸ rendered.reported
  case near => exact window ▸ rendered.near
  case covered =>
      intro marked full
      exact window ▸ rendered.covered (ticking.dirty marked) (ticking.content full)
  case fresh =>
      refine fun before => rendered.fresh ?_
      cases ticking.toolbar with
      | inl marked => exact .inl marked
      | inr kept =>
          refine before.imp (fun marked => kept.2.trans marked) fun shown => ?_
          exact (congrFun (drawChrome_congr kept.1) buffer).trans shown

end BrowserCore

end ExoBrowser.Client
