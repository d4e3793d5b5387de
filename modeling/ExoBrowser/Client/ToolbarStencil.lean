import ExoBrowser.Client.Chrome
import ExoBrowser.Library.Stencil

/-!
# The toolbar as a stencil

What the toolbar is drawn with does not depend on what the buffer shows, and depends on
the core through a few fields alone.
-/

set_option autoImplicit false

namespace ExoBrowser.Client

open Library

variable {build : Build} {size : Nat}

/-! ## Shapes and text -/

namespace Window

variable {window : Window}

theorem fillSpan_draws (x0 x1 : Nat) (color : UInt32) (row : Nat) :
    Draws size fun buf => window.fillSpan build x0 x1 color buf row :=
  .compute fun _ => .compute fun _ => .fill _ _ color

theorem fillRect_draws (x y w h : Int) (color : UInt32) :
    Draws size (window.fillRect build x y w h color) :=
  .compute fun _ => .compute fun _ =>
    .ite (fun _ => .unchanged) fun _ => .foldlM _ fun _ _ => fillSpan_draws _ _ color _

theorem fillRoundedRow_draws (x y w h r : Int) (color : UInt32) (dy : Nat) :
    Draws size fun buf => window.fillRoundedRow build x y w h r color buf dy := by
  refine .compute fun py => .ite (fun _ => .unchanged) fun _ => ?_
  refine .compute fun inset => .compute fun _ => .compute fun _ => .compute fun _ => ?_
  exact .ite (fun _ => .compute fun _ => .fill _ _ color) fun _ => .unchanged

theorem fillRoundedRect_draws (x y w h r : Int) (color : UInt32) :
    Draws size (window.fillRoundedRect build x y w h r color) :=
  .ite (fun _ => fillRect_draws x y w h color) fun _ =>
    .foldlM _ fun dy _ => fillRoundedRow_draws x y w h r color dy

theorem strokeRoundedRect_draws (x y w h : Int) (color : UInt32) :
    Draws size (window.strokeRoundedRect build x y w h color) := by
  refine .compute fun _ => .compute fun _ => .bind (fillRect_draws _ _ _ _ color) fun _ => ?_
  refine .compute fun _ => .compute fun _ => ?_
  refine .compute fun _ => .compute fun _ => .bind (fillRect_draws _ _ _ _ color) fun _ => ?_
  refine .compute fun _ => .compute fun _ => .bind (fillRect_draws _ _ _ _ color) fun _ => ?_
  refine .compute fun _ => .compute fun _ => ?_
  exact .compute fun _ => .compute fun _ => fillRect_draws _ _ _ _ color

theorem drawGlyphPixel_draws (penX : Int) (py : Nat) (bits : UInt8) (color : UInt32) (col : Nat) :
    Draws size fun buf => window.drawGlyphPixel build penX py bits color buf col := by
  refine .ite (fun _ => .compute fun px => ?_) fun _ => .unchanged
  exact .ite (fun _ => .compute fun _ => .overwrite _ [color]) fun _ => .unchanged

theorem drawGlyphRow_draws (penX y : Int) (glyph : Glyph) (color : UInt32) (row : Fin 8) :
    Draws size fun buf => window.drawGlyphRow build penX y glyph color buf row := by
  refine .compute fun _ => .compute fun py => .ite (fun _ => .unchanged) fun _ => ?_
  exact .foldlM _ fun col _ => drawGlyphPixel_draws penX _ _ color col

theorem drawGlyph_draws (penX y : Int) (glyph : Glyph) (color : UInt32) :
    Draws size (window.drawGlyph build penX y glyph color) :=
  .foldlM _ fun row _ => drawGlyphRow_draws penX y glyph color row

theorem drawChars_answers (font : BasicFonts) (x y : Int) (color : UInt32) (maxW : Int)
    (chars : List Char) (penX : Int) :
    Answers size (window.drawChars build font x y color maxW chars penX) := by
  induction chars generalizing penX with
  | nil => exact .pure penX
  | cons ch rest ih =>
      refine .compute fun _ => .compute fun _ => .ite (fun _ => .pure penX) fun _ => ?_
      exact .bind (drawGlyph_draws penX y _ color) fun _ => .compute fun next => ih next

theorem drawText_answers (font : BasicFonts) (x y : Int) (color : UInt32) (text : String) (maxW : Int) :
    Answers size (window.drawText build font x y color text maxW) :=
  .bind (drawChars_answers font x y color maxW text.toList x) fun _ =>
    .compute fun width => .pure width

end Window

/-! ## The toolbar -/

namespace BrowserCore

variable {font : BasicFonts} (core : BrowserCore)

open Window

theorem drawTab_draws (tabW tx : Int) (tab : TabInfo) :
    Draws size (core.drawTab build font tabW tx tab) := by
  refine .bind (fillRoundedRect_draws _ _ _ _ _ _) fun _ => ?_
  refine .bind (.ite (fun _ => .compute fun _ => fillRect_draws _ _ _ _ _) fun _ => .unchanged) fun _ => ?_
  refine .compute fun _ => .bind (fillRoundedRect_draws _ _ _ _ _ _) fun _ => ?_
  refine .compute fun _ => .bind (drawText_answers font _ _ _ _ _) fun _ => ?_
  refine .ite (fun _ => .compute fun _ => .compute fun _ => ?_) fun _ => .unchanged
  exact .bind (drawText_answers font _ _ _ _ _) fun _ => .unchanged

theorem drawTabs_answers (tabW : Int) (tabs : List TabInfo) (tx : Int) :
    Answers size (core.drawTabs build font tabW tabs tx) := by
  induction tabs generalizing tx with
  | nil => exact .pure tx
  | cons tab rest ih =>
      exact .bind (core.drawTab_draws tabW tx tab) fun _ => .compute fun right => ih right

theorem drawTabBar_draws : Draws size (core.drawTabBar build font) := by
  refine .bind (fillRect_draws _ _ _ _ _) fun _ => .compute fun tabW => ?_
  refine .bind (core.drawTabs_answers tabW core.tabs 6) fun tx => ?_
  refine .compute fun _ => .bind (fillRoundedRect_draws _ _ _ _ _ _) fun _ => ?_
  exact .compute fun _ => .bind (drawText_answers font _ _ _ _ _) fun _ => .unchanged

theorem drawButton_draws (x y w : Int) (bg : UInt32) (textX textY : Int) (fg : UInt32) (label : String)
    (maxW : Int) : Draws size (core.drawButton build font x y w bg textX textY fg label maxW) :=
  .bind (fillRoundedRect_draws _ _ _ _ _ _) fun _ =>
    .bind (drawText_answers font _ _ _ _ _) fun _ => .unchanged

theorem drawOmnibox_draws (ny rightX : Int) : Draws size (core.drawOmnibox build font ny rightX) := by
  refine .bind (fillRoundedRect_draws _ _ _ _ _ _) fun _ => ?_
  refine .bind (strokeRoundedRect_draws _ _ _ _ _) fun _ => ?_
  refine .bind (fillRoundedRect_draws _ _ _ _ _ _) fun _ => ?_
  refine .bind (drawText_answers font _ _ _ _ _) fun _ => ?_
  refine .bind (drawText_answers font _ _ _ _ _) fun drawnW => ?_
  exact .ite (fun _ => fillRect_draws _ _ _ _ _) fun _ => .unchanged

theorem drawZoom_draws (ny zmX : Int) : Draws size (core.drawZoom build font ny zmX) := by
  refine .bind (core.drawButton_draws _ _ _ _ _ _ _ _ _) fun _ => ?_
  refine .bind (drawText_answers font _ _ _ _ _) fun _ => ?_
  exact .bind (drawText_answers font _ _ _ _ _) fun _ => .unchanged

theorem drawNavBar_draws : Draws size (core.drawNavBar build font) := by
  refine .bind (fillRect_draws _ _ _ _ _) fun _ => ?_
  refine .bind (.foldlM _ fun button _ => core.drawButton_draws _ _ _ _ _ _ _ _ _) fun _ => ?_
  refine .compute fun _ => .bind (core.drawOmnibox_draws _ _) fun _ => ?_
  refine .bind (core.drawButton_draws _ _ _ _ _ _ _ _ _) fun _ => ?_
  exact .bind (core.drawZoom_draws _ _) fun _ => core.drawButton_draws _ _ _ _ _ _ _ _ _

theorem drawBookmarks_draws (top : Int) (chips : List (String × String)) (idx : Nat) (bkx : Int) :
    Draws size (core.drawBookmarks build font top chips idx bkx) := by
  induction chips generalizing idx bkx with
  | nil => exact .unchanged
  | cons chip rest ih =>
      refine .compute fun _ => .ite (fun _ => .unchanged) fun _ => ?_
      refine .bind (fillRoundedRect_draws _ _ _ _ _ _) fun _ => ?_
      exact .bind (drawText_answers font _ _ _ _ _) fun _ => ih _ _

theorem drawBookmarkBar_draws : Draws size (core.drawBookmarkBar build font) := by
  refine .bind (fillRect_draws _ _ _ _ _) fun _ => ?_
  exact .bind (core.drawBookmarks_draws _ _ _ _) fun _ => fillRect_draws _ _ _ _ _

/-- Drawing the toolbar leaves the same marks on every buffer of the same size. -/
theorem drawChrome_draws : Draws size (core.drawChrome build font) := by
  refine .ite (fun _ => .unchanged) fun _ => .bind core.drawTabBar_draws fun _ => ?_
  exact .bind core.drawNavBar_draws fun _ => core.drawBookmarkBar_draws

end BrowserCore

/-! ## What it shows -/

/-- What the toolbar is drawn from. -/
structure ToolbarState where
  winSize : UInt32 × UInt32
  tabs : List TabInfo
  activeTabId : UInt32
  urlBuf : String
  editing : Bool
  isLoading : Bool
  zoomMilli : UInt32
  audioMuted : Bool
  audioPlaying : Bool

namespace BrowserCore

variable {font : BasicFonts} {core other : BrowserCore}

def toolbarState (core : BrowserCore) : ToolbarState where
  winSize := core.winSize
  tabs := core.tabs
  activeTabId := core.activeTabId
  urlBuf := core.urlBuf
  editing := core.editing
  isLoading := core.isLoading
  zoomMilli := core.zoomMilli
  audioMuted := core.audioMuted
  audioPlaying := core.audioPlayingFramesLeft > 0

section Congruence

variable (same : core.toolbarState = other.toolbarState)

include same

private theorem winSize_congr : core.winSize = other.winSize := congrArg ToolbarState.winSize same

private theorem window_congr : core.window = other.window := by
  simp [window, winSize_congr same]

theorem drawTabs_congr (tabW : Int) (tabs : List TabInfo) (tx : Int) :
    core.drawTabs build font tabW tabs tx = other.drawTabs build font tabW tabs tx := by
  have all : core.tabs = other.tabs := congrArg ToolbarState.tabs same
  have active : core.activeTabId = other.activeTabId := congrArg ToolbarState.activeTabId same
  induction tabs generalizing tx with
  | nil => rfl
  | cons tab rest ih =>
      funext buf
      simp only [drawTabs, drawTab, drawTabMark, window_congr same, all, active, ih]

theorem drawTabBar_congr : core.drawTabBar build font = other.drawTabBar build font := by
  have all : core.tabs = other.tabs := congrArg ToolbarState.tabs same
  funext buf
  simp only [drawTabBar, tabWidth, window_congr same, winSize_congr same, all, drawTabs_congr same]

theorem drawOmnibox_congr (ny rightX : Int) :
    core.drawOmnibox build font ny rightX = other.drawOmnibox build font ny rightX := by
  have typed : core.urlBuf = other.urlBuf := congrArg ToolbarState.urlBuf same
  have editing : core.editing = other.editing := congrArg ToolbarState.editing same
  funext buf
  simp only [drawOmnibox, window_congr same, typed, editing]

theorem drawAudioButton_congr (ny rightX : Int) :
    core.drawAudioButton build font ny rightX = other.drawAudioButton build font ny rightX := by
  have muted : core.audioMuted = other.audioMuted := congrArg ToolbarState.audioMuted same
  have playing : (core.audioPlayingFramesLeft > 0) = (other.audioPlayingFramesLeft > 0) := by
    simpa [toolbarState] using congrArg ToolbarState.audioPlaying same
  funext buf
  simp only [drawAudioButton, drawButton, window_congr same, muted, playing]

theorem drawNavButton_congr (ny : Int) :
    core.drawNavButton build font ny = other.drawNavButton build font ny := by
  funext buf button
  cases button
  simp only [drawNavButton, drawButton, window_congr same]

theorem drawNavBar_congr : core.drawNavBar build font = other.drawNavBar build font := by
  have loading : core.isLoading = other.isLoading := congrArg ToolbarState.isLoading same
  have zoom : core.zoomMilli = other.zoomMilli := congrArg ToolbarState.zoomMilli same
  funext buf
  simp only [drawNavBar, navButtons, drawZoom, drawButton, window_congr same, loading, zoom,
    drawNavButton_congr same, drawOmnibox_congr same, drawAudioButton_congr same]

theorem drawBookmarks_congr (top : Int) (chips : List (String × String)) (idx : Nat) (bkx : Int) :
    core.drawBookmarks build font top chips idx bkx = other.drawBookmarks build font top chips idx bkx := by
  induction chips generalizing idx bkx with
  | nil => rfl
  | cons chip rest ih =>
      funext buf
      simp only [drawBookmarks, window_congr same, ih]

/-- Nothing but the toolbar state is drawn. -/
theorem drawChrome_congr : core.drawChrome build font = other.drawChrome build font := by
  have loading : core.isLoading = other.isLoading := congrArg ToolbarState.isLoading same
  funext buf
  simp only [drawChrome, drawBookmarkBar, window_congr same, loading, drawTabBar_congr same,
    drawNavBar_congr same, drawBookmarks_congr same]

end Congruence

end BrowserCore

end ExoBrowser.Client
