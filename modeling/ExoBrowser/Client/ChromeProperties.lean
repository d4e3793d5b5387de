import ExoBrowser.Client.Chrome
import ExoBrowser.Client.ContentProperties

/-!
# Toolbar

The toolbar is drawn in its own rows, the toast in the rectangle it reports. Neither
fails in a window of at most 65535 by 65535 pixels with fewer than 2^20 tabs.
-/

set_option autoImplicit false

namespace ExoBrowser.Client

open Library Checked

variable {build : Build} {font : BasicFonts}

/-! ## In the toolbar -/

/-- Only rows of the toolbar are painted. -/
abbrev Window.Toolbar (window : Window) (before after : List UInt32) : Prop :=
  Confined window.bw.toNat (fun _ row => row < chromeH.toNat ∧ row < window.bh.toNat) before after

/-- A rectangle that arithmetic can handle, in the rows of the toolbar. -/
structure InToolbar (x y w h : Int) : Prop where
  x_low : -2 ^ 29 ≤ x
  x_high : x ≤ 2 ^ 29
  w_low : -2 ^ 29 ≤ w
  w_high : w ≤ 2 ^ 29
  top : 0 ≤ y
  bottom : y + h ≤ 96
  height : 0 ≤ h

namespace Window.Toolbar

variable {window : Window} {start buf : List UInt32} {x y w h : Int} {color : UInt32}

theorem shown (kept : window.Toolbar start buf) {drawn : List UInt32}
    (confined : Confined window.bw.toNat (window.Shown x y w h) buf drawn) (bottom : y + h ≤ 96) :
    window.Toolbar start drawn := by
  refine kept.trans (confined.mono fun col _ row inside => ?_)
  have height : chromeH.toNat = 96 := rfl
  unfold Shown Area at inside
  omega

theorem fillRect (kept : window.Toolbar start buf) (holds : window.Holds start.length)
    (inside : InToolbar x y w h) :
    Returns (window.fillRect build x y w h color buf) (window.Toolbar start) := by
  obtain ⟨x_low, x_high, w_low, w_high, top, bottom, height⟩ := inside
  refine (fillRect_returns (kept.length ▸ holds) ⟨x_low, x_high⟩ ?_ ⟨w_low, w_high⟩ ?_).mono
    fun drawn painted => kept.shown painted.toConfined bottom
  · exact ⟨by omega, by omega⟩
  · exact ⟨by omega, by omega⟩

theorem fillRoundedRect (kept : window.Toolbar start buf) (holds : window.Holds start.length)
    (inside : InToolbar x y w h) {r : Int} (r_high : r ≤ 46340) :
    Returns (window.fillRoundedRect build x y w h r color buf) (window.Toolbar start) := by
  obtain ⟨x_low, x_high, w_low, w_high, top, bottom, height⟩ := inside
  refine (fillRoundedRect_returns (kept.length ▸ holds) ⟨x_low, x_high⟩ ?_ ⟨w_low, w_high⟩ ?_
    r_high).mono fun drawn confined => kept.shown confined bottom
  · exact ⟨by omega, by omega⟩
  · exact ⟨by omega, by omega⟩

theorem drawText (kept : window.Toolbar start buf) (holds : window.Holds start.length)
    {text : String} {maxW : Int} (x_low : -2 ^ 29 ≤ x) (max_low : 0 ≤ maxW)
    (end_high : x + maxW ≤ 2 ^ 29) (top : 0 ≤ y) (bottom : y ≤ 85) :
    Returns (window.drawText build font x y color text maxW buf) fun drawn =>
      window.Toolbar start drawn.1 ∧ 0 ≤ drawn.2 ∧ drawn.2 ≤ maxW := by
  refine (drawText_returns (kept.length ▸ holds) ?_ ?_ max_low ?_).mono
    fun drawn ⟨confined, width⟩ => ⟨kept.shown confined (by omega), width⟩
  · exact ⟨x_low, by omega⟩
  · exact ⟨by omega, by omega⟩
  · exact ⟨by omega, end_high⟩

/-- The four edges of a rectangle. -/
theorem strokeRoundedRect (kept : window.Toolbar start buf) (holds : window.Holds start.length)
    (inside : InToolbar x y w h) (wide : 4 ≤ w) (far : x + w ≤ 2 ^ 29) (tall : 4 ≤ h) :
    Returns (window.strokeRoundedRect build x y w h color buf) (window.Toolbar start) := by
  obtain ⟨x_low, x_high, w_low, w_high, top, bottom, height⟩ := inside
  unfold Window.strokeRoundedRect
  refine .step (Build.i32_eq_ok (by omega) (by omega)) (.step (Build.i32_eq_ok (by omega) (by omega)) ?_)
  refine (kept.fillRect holds (by constructor <;> omega)).bind fun buf kept => ?_
  refine .step (Build.i32_eq_ok (by omega) (by omega)) (.step (Build.i32_eq_ok (by omega) (by omega)) ?_)
  refine .step (Build.i32_eq_ok (by omega) (by omega)) (.step (Build.i32_eq_ok (by omega) (by omega)) ?_)
  refine (kept.fillRect holds (by constructor <;> omega)).bind fun buf kept => ?_
  refine .step (Build.i32_eq_ok (by omega) (by omega)) (.step (Build.i32_eq_ok (by omega) (by omega)) ?_)
  refine (kept.fillRect holds (by constructor <;> omega)).bind fun buf kept => ?_
  refine .step (Build.i32_eq_ok (by omega) (by omega)) (.step (Build.i32_eq_ok (by omega) (by omega)) ?_)
  refine .step (Build.i32_eq_ok (by omega) (by omega)) (.step (Build.i32_eq_ok (by omega) (by omega)) ?_)
  exact kept.fillRect holds (by constructor <;> omega)

end Window.Toolbar

/-! ## Bars -/

namespace BrowserCore

variable {core : BrowserCore} {start buf : List UInt32}

theorem Narrow.holds (narrow : core.Narrow) {room : Nat} (fits : core.window.needed ≤ room) :
    core.window.Holds room where
  wide := Nat.lt_of_le_of_lt narrow.wide (by decide)
  tall := Nat.lt_of_le_of_lt narrow.tall (by decide)
  counted := Nat.lt_of_le_of_lt (Nat.mul_le_mul narrow.wide narrow.tall) (by decide)
  room := fits

theorem Narrow.asI32_bw (narrow : core.Narrow) : asI32 core.window.bw.toNat = core.window.bw.toNat :=
  asI32_eq (Nat.lt_of_le_of_lt narrow.wide (by decide))

section Bars

variable (holds : core.window.Holds start.length)

include holds

theorem drawTab_toolbar {tabW tx : Int} {tab : TabInfo} (tabW_low : 90 ≤ tabW) (tabW_high : tabW ≤ 210)
    (tx_low : 0 ≤ tx) (tx_high : tx ≤ 2 ^ 28) (kept : core.window.Toolbar start buf) :
    Returns (core.drawTab build font tabW tx tab buf) (core.window.Toolbar start) := by
  unfold drawTab
  refine (kept.fillRoundedRect holds (by constructor <;> omega) (by decide)).bind fun buf kept => ?_
  have mark : Returns (core.drawTabMark build tabW tx (decide (tab.id = core.activeTabId)) buf)
      (core.window.Toolbar start) := by
    unfold drawTabMark
    split
    case isTrue =>
      refine .step (Build.i32_eq_ok (by omega) (by omega)) ?_
      exact kept.fillRect holds (by constructor <;> omega)
    case isFalse => exact ⟨buf, rfl, kept⟩
  refine mark.bind fun buf kept => ?_
  refine .step (Build.i32_eq_ok (by omega) (by omega)) ?_
  refine (kept.fillRoundedRect holds (by constructor <;> omega) (by decide)).bind fun buf kept => ?_
  refine .step (Build.i32_eq_ok (by omega) (by omega)) ?_
  refine (kept.drawText holds (by omega) (by omega) (by omega) (by decide) (by decide)).bind
    fun ⟨buf, _⟩ ⟨kept, _⟩ => ?_
  simp only
  split
  case isTrue =>
    refine .step (Build.i32_eq_ok (by omega) (by omega)) (.step (Build.i32_eq_ok (by omega) (by omega)) ?_)
    refine (kept.drawText holds (by omega) (by omega) (by omega) (by decide) (by decide)).bind
      fun ⟨buf, _⟩ ⟨kept, _⟩ => ⟨buf, rfl, kept⟩
  case isFalse => exact ⟨buf, rfl, kept⟩

theorem drawTabs_toolbar {tabW tx : Int} {tabs : List TabInfo} (tabW_low : 90 ≤ tabW)
    (tabW_high : tabW ≤ 210) (tx_low : 0 ≤ tx) (tx_high : tx + tabs.length * 210 ≤ 2 ^ 28)
    (kept : core.window.Toolbar start buf) :
    Returns (core.drawTabs build font tabW tabs tx buf) fun drawn =>
      core.window.Toolbar start drawn.1 ∧ 0 ≤ drawn.2 ∧ drawn.2 ≤ 2 ^ 28 := by
  induction tabs generalizing tx buf with
  | nil => exact ⟨_, rfl, kept, tx_low, by simpa using tx_high⟩
  | cons tab rest ih =>
      rw [List.length_cons] at tx_high
      unfold drawTabs
      refine (drawTab_toolbar holds tabW_low tabW_high tx_low (by omega) kept).bind fun buf kept => ?_
      refine .step (Build.i32_eq_ok (by omega) (by omega)) ?_
      exact ih (by omega) (by omega) kept

omit holds in
theorem tabWidth_returns (narrow : core.Narrow) (few : core.tabs.length < 2 ^ 20) :
    Returns (core.tabWidth build) fun tabW => 90 ≤ tabW ∧ tabW ≤ 210 := by
  have wide := narrow.wide
  have bw : asI32 core.winSize.1.toNat = core.winSize.1.toNat := narrow.asI32_bw
  have count : asI32 (max core.tabs.length 1) = (max core.tabs.length 1 : Nat) := asI32_eq (by omega)
  have side : core.winSize.1.toNat ≤ 65535 := wide
  unfold tabWidth
  rw [count, bw]
  refine .step (Build.i32_eq_ok (by omega) (by omega)) ?_
  simp only
  rw [if_neg (by omega), returns_pure]
  omega

theorem drawTabBar_toolbar (narrow : core.Narrow) (few : core.tabs.length < 2 ^ 20)
    (kept : core.window.Toolbar start buf) :
    Returns (core.drawTabBar build font buf) (core.window.Toolbar start) := by
  have wide := narrow.wide
  have height : tabBarH.toNat = 32 := rfl
  unfold drawTabBar
  rw [narrow.asI32_bw, height]
  refine (kept.fillRect holds (by constructor <;> omega)).bind fun buf kept => ?_
  refine (tabWidth_returns narrow few).bind fun tabW ⟨tabW_low, tabW_high⟩ => ?_
  refine (drawTabs_toolbar holds tabW_low tabW_high (by decide) (by omega) kept).bind
    fun ⟨buf, tx⟩ ⟨kept, tx_low, tx_high⟩ => ?_
  refine .step (Build.i32_eq_ok (by omega) (by omega)) ?_
  refine (kept.fillRoundedRect holds (by constructor <;> omega) (by decide)).bind fun buf kept => ?_
  refine .step (Build.i32_eq_ok (by omega) (by omega)) ?_
  refine (kept.drawText holds (by omega) (by decide) (by omega) (by decide) (by decide)).bind
    fun ⟨buf, _⟩ ⟨kept, _⟩ => ⟨buf, rfl, kept⟩

theorem drawButton_toolbar {x y w textX textY maxW : Int} {bg fg : UInt32} {label : String}
    (x_low : 0 ≤ x) (x_high : x ≤ 2 ^ 20) (w_low : 0 ≤ w) (w_high : w ≤ 2 ^ 20) (top : 0 ≤ y)
    (bottom : y ≤ 70) (text_low : 0 ≤ textX) (text_high : textX ≤ 2 ^ 20) (max_low : 0 ≤ maxW)
    (max_high : maxW ≤ 2 ^ 20) (textTop : 0 ≤ textY) (textBottom : textY ≤ 85)
    (kept : core.window.Toolbar start buf) :
    Returns (core.drawButton build font x y w bg textX textY fg label maxW buf)
      (core.window.Toolbar start) := by
  unfold drawButton
  refine (kept.fillRoundedRect holds (by constructor <;> omega) (by decide)).bind fun buf kept => ?_
  refine (kept.drawText holds (by omega) max_low (by omega) textTop textBottom).bind
    fun ⟨buf, _⟩ ⟨kept, _⟩ => ⟨buf, rfl, kept⟩

theorem drawOmnibox_toolbar {rightX : Int} (low : 200 ≤ rightX) (high : rightX ≤ 65535)
    (kept : core.window.Toolbar start buf) :
    Returns (core.drawOmnibox build font 32 rightX buf) (core.window.Toolbar start) := by
  unfold drawOmnibox
  simp only
  refine (kept.fillRoundedRect holds (by constructor <;> omega) (by decide)).bind fun buf kept => ?_
  refine (kept.strokeRoundedRect holds (by constructor <;> omega) (by omega) (by omega)
    (by decide)).bind fun buf kept => ?_
  refine (kept.fillRoundedRect holds (by constructor <;> omega) (by decide)).bind fun buf kept => ?_
  refine (kept.drawText holds (by decide) (by decide) (by decide) (by decide) (by decide)).bind
    fun ⟨buf, _⟩ ⟨kept, _⟩ => ?_
  refine (kept.drawText holds (by decide) (by omega) (by omega) (by decide) (by decide)).bind
    fun ⟨buf, drawnW⟩ ⟨kept, drawn_low, drawn_high⟩ => ?_
  simp only
  split
  case isTrue => exact kept.fillRect holds (by constructor <;> omega)
  case isFalse => exact ⟨buf, rfl, kept⟩

theorem drawZoom_toolbar {zmX : Int} (low : 0 ≤ zmX) (high : zmX ≤ 2 ^ 19)
    (kept : core.window.Toolbar start buf) :
    Returns (core.drawZoom build font 32 zmX buf) (core.window.Toolbar start) := by
  unfold drawZoom
  refine (drawButton_toolbar holds low (by omega) (by decide) (by decide) (by decide) (by decide)
    (by omega) (by omega) (by decide) (by decide) (by decide) (by decide) kept).bind fun buf kept => ?_
  refine (kept.drawText holds (by omega) (by decide) (by omega) (by decide) (by decide)).bind
    fun ⟨buf, _⟩ ⟨kept, _⟩ => ?_
  refine (kept.drawText holds (by omega) (by decide) (by omega) (by decide) (by decide)).bind
    fun ⟨buf, _⟩ ⟨kept, _⟩ => ⟨buf, rfl, kept⟩

theorem drawNavBar_toolbar (narrow : core.Narrow) (kept : core.window.Toolbar start buf) :
    Returns (core.drawNavBar build font buf) (core.window.Toolbar start) := by
  have wide := narrow.wide
  have top : tabBarH.toNat = 32 := rfl
  have height : navBarH.toNat = 38 := rfl
  unfold drawNavBar
  rw [narrow.asI32_bw, top, height]
  simp only [Nat.cast_ofNat]
  refine (kept.fillRect holds (by constructor <;> omega)).bind fun buf kept => ?_
  have buttons : Returns (core.navButtons.foldlM (core.drawNavButton build font 32) buf)
      (core.window.Toolbar start) := by
    refine Returns.foldlM_append (fun _ => core.window.Toolbar start) ?_ kept
    rintro done ⟨bx, label⟩ rest split canvas kept
    have member : (bx, label) ∈ core.navButtons := by
      rw [split]
      exact List.mem_append_right _ List.mem_cons_self
    have place : 0 ≤ bx ∧ bx ≤ 104 := by
      unfold navButtons at member
      simp only [List.mem_cons, Prod.mk.injEq, List.not_mem_nil, or_false] at member
      omega
    exact drawButton_toolbar holds (by omega) (by omega) (by decide) (by decide) (by decide) (by decide)
      (by omega) (by omega) (by decide) (by decide) (by decide) (by decide) kept
  refine buttons.bind fun buf kept => ?_
  refine .step (Build.i32_eq_ok (by omega) (by omega)) ?_
  have low : 200 ≤ max ((core.window.bw.toNat : Int) - 216) 200 := by omega
  have high : max ((core.window.bw.toNat : Int) - 216) 200 ≤ 65535 := by omega
  generalize max ((core.window.bw.toNat : Int) - 216) 200 = rightX at low high ⊢
  refine (drawOmnibox_toolbar holds low high kept).bind fun buf kept => ?_
  refine (drawButton_toolbar holds (by omega) (by omega) (by decide) (by decide) (by decide) (by decide)
    (by omega) (by omega) (by decide) (by decide) (by decide) (by decide) kept).bind fun buf kept => ?_
  refine (drawZoom_toolbar holds (by omega) (by omega) kept).bind fun buf kept => ?_
  exact drawButton_toolbar holds (by omega) (by omega) (by decide) (by decide) (by decide) (by decide)
    (by omega) (by omega) (by decide) (by decide) (by decide) (by decide) kept

/-- Each chip ends before the window does. -/
theorem drawBookmarks_toolbar (narrow : core.Narrow) {chips : List (String × String)} {idx : Nat} {bkx : Int}
    (bkx_low : 0 ≤ bkx) (kept : core.window.Toolbar start buf) :
    Returns (core.drawBookmarks build font 70 chips idx bkx buf) (core.window.Toolbar start) := by
  have wide := narrow.wide
  induction chips generalizing idx bkx buf with
  | nil => exact ⟨buf, rfl, kept⟩
  | cons chip rest ih =>
      obtain ⟨label, url⟩ := chip
      unfold drawBookmarks
      rw [narrow.asI32_bw]
      refine .step (Build.i32_eq_ok (by omega) (by omega)) ?_
      split
      case isTrue => exact ⟨buf, rfl, kept⟩
      case isFalse room =>
        simp only
        refine (kept.fillRoundedRect holds (by constructor <;> omega) (by decide)).bind fun buf kept => ?_
        refine (kept.drawText holds (by omega) (by omega) (by omega) (by decide) (by decide)).bind
          fun ⟨buf, _⟩ ⟨kept, _⟩ => ?_
        exact ih (by omega) kept

theorem drawBookmarkBar_toolbar (narrow : core.Narrow) (kept : core.window.Toolbar start buf) :
    Returns (core.drawBookmarkBar build font buf) (core.window.Toolbar start) := by
  have wide := narrow.wide
  have top : (tabBarH + navBarH).toNat = 70 := rfl
  have height : bookmarkBarH.toNat = 26 := rfl
  have bottom : chromeH.toNat = 96 := rfl
  unfold drawBookmarkBar
  rw [narrow.asI32_bw, top, height, bottom]
  simp only [Nat.cast_ofNat]
  refine (kept.fillRect holds (by constructor <;> omega)).bind fun buf kept => ?_
  refine (drawBookmarks_toolbar holds narrow (by decide) kept).bind fun buf kept => ?_
  exact kept.fillRect holds (by constructor <;> omega)

end Bars

theorem drawChrome_toolbar (narrow : core.Narrow) (few : core.tabs.length < 2 ^ 20)
    (fits : core.window.needed ≤ buf.length) :
    Returns (core.drawChrome build font buf) (core.window.Toolbar buf) := by
  have holds := narrow.holds fits
  unfold drawChrome
  split
  case isTrue => exact ⟨buf, rfl, .refl _ _ _⟩
  case isFalse =>
    refine (drawTabBar_toolbar holds narrow few (.refl _ _ buf)).bind fun buf kept => ?_
    refine (drawNavBar_toolbar holds narrow kept).bind fun buf kept => ?_
    exact drawBookmarkBar_toolbar holds narrow kept

end BrowserCore

/-! ## Toast -/

theorem clearedToast_size : clearedToast.utf8ByteSize = 32 := by decide

/-- The only toast there is stays in the rectangle that is reported. -/
theorem drawToast_returns {window : Window} {buf : List UInt32} (holds : window.Holds buf.length)
    (low : window.bh.toNat ≤ 65535) :
    Returns (window.drawToast build font clearedToast buf) fun drawn =>
      Confined window.bw.toNat drawn.2.Covers buf drawn.1 := by
  have tall := holds.tall
  unfold Window.drawToast
  rw [clearedToast_size, asI32_eq (by decide), asI32_eq tall]
  simp only [Nat.cast_ofNat]
  refine .step (Build.i32_eq_ok (by decide) (by decide)) (.step (Build.i32_eq_ok (by decide) (by decide)) ?_)
  refine .step (Build.i32_eq_ok (by omega) (by omega)) ?_
  refine (Window.fillRoundedRect_returns holds (by constructor <;> omega) (by constructor <;> omega)
    (by constructor <;> omega) (by constructor <;> omega) (by decide)).bind fun filled shape => ?_
  refine .step (Build.i32_eq_ok (by omega) (by omega)) (.step (Build.i32_eq_ok (by decide) (by decide)) ?_)
  refine (Window.drawText_returns (shape.length ▸ holds) (by constructor <;> omega) (by constructor <;> omega)
    (by decide) (by constructor <;> omega)).bind fun ⟨drawn, _⟩ ⟨text, _⟩ => ⟨_, rfl, ?_⟩
  have top : (UInt32.ofNat (asU32 (max ((window.bh.toNat : Int) - 36) 0))).toNat =
      window.bh.toNat - 36 := by
    rw [asU32_eq (by omega) (by omega), UInt32.toNat_ofNat_of_lt']
    · omega
    · change (max ((window.bh.toNat : Int) - 36) 0).toNat < 2 ^ 32
      omega
  have width : (min (UInt32.ofNat (asU32 (32 * 7 + 24))) window.bw).toNat = min 248 window.bw.toNat := by
    rw [toNat_min32]
    rfl
  refine Confined.trans (shape.mono fun col col_lt row inside => ?_)
    (text.mono fun col col_lt row inside => ?_)
  all_goals
    unfold Window.Shown Window.Area at inside
    unfold DamageRect.Covers
    simp only
    rw [top, width]
    change 12 ≤ col ∧ col < 12 + min 248 window.bw.toNat ∧ _ ∧ row < window.bh.toNat - 36 + 24
    omega

end ExoBrowser.Client
