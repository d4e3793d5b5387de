import ExoBrowser.Client.ToolbarStencil
import ExoBrowser.Client.Touched

/-!
# When the toolbar is drawn again

Whatever is called but a render or a new size, either the toolbar is marked to be drawn again
or nothing that it shows has changed. Marks stay until a render.
-/

set_option autoImplicit false

namespace ExoBrowser.Client

open Library Proto Checked

/-- What a call may do to the toolbar and to the marks. -/
structure Refreshed (core next : BrowserCore) : Prop where
  toolbar : next.chromeDirty = true ∨
    next.toolbarState = core.toolbarState ∧ next.chromeDirty = core.chromeDirty
  content : core.fullContentDirty = true → next.fullContentDirty = true
  size : next.winSize = core.winSize
  title : next.chromeDirty = true ∨ next.windowTitle = core.windowTitle

namespace Refreshed

variable {build : Build} {core between next : BrowserCore}

theorem marked (dirty : next.chromeDirty = true)
    (content : next.fullContentDirty = core.fullContentDirty ∨ next.fullContentDirty = true)
    (size : next.winSize = core.winSize) : Refreshed core next where
  toolbar := .inl dirty
  content full := content.elim (fun same => same.trans full) id
  size := size
  title := .inl dirty

theorem kept (toolbar : next.toolbarState = core.toolbarState)
    (mark : next.chromeDirty = core.chromeDirty)
    (content : next.fullContentDirty = core.fullContentDirty ∨ next.fullContentDirty = true)
    (title : next.windowTitle = core.windowTitle) : Refreshed core next where
  toolbar := .inr ⟨toolbar, mark⟩
  content full := content.elim (fun same => same.trans full) id
  size := congrArg ToolbarState.winSize toolbar
  title := .inr title

theorem refl (core : BrowserCore) : Refreshed core core := .kept rfl rfl (.inl rfl) rfl

theorem dirty (refreshed : Refreshed core next) (before : core.chromeDirty = true) :
    next.chromeDirty = true := by
  cases refreshed.toolbar with
  | inl dirty => exact dirty
  | inr same => exact same.2.trans before

theorem trans (first : Refreshed core between) (second : Refreshed between next) :
    Refreshed core next where
  toolbar := by
    cases second.toolbar with
    | inl dirty => exact .inl dirty
    | inr same =>
        cases first.toolbar with
        | inl dirty => exact .inl (same.2.trans dirty)
        | inr earlier => exact .inr ⟨same.1.trans earlier.1, same.2.trans earlier.2⟩
  content full := second.content (first.content full)
  size := second.size.trans first.size
  title := by
    cases second.title with
    | inl dirty => exact .inl dirty
    | inr same =>
        cases first.title with
        | inl dirty => exact .inl (second.dirty dirty)
        | inr earlier => exact .inr (same.trans earlier)

/-! ## Input -/

theorem emitInput (ev : InputEvent) : Refreshed core (core.emitInput ev) := .kept rfl rfl (.inl rfl) rfl

theorem newTab : Yields (core.newTab build) (Refreshed core) :=
  .bind fun _ _ => .pure (.marked rfl (.inr rfl) rfl)

theorem activateFirst_winSize : core.activateFirst.winSize = core.winSize := by
  unfold BrowserCore.activateFirst
  cases core.tabs.head? with
  | none => rfl
  | some first => rfl

theorem closeActiveTab : Refreshed core core.closeActiveTab :=
  .marked rfl (.inr rfl) activateFirst_winSize

theorem closeTabAt (i : Nat) (tabId : UInt32) : Refreshed core (core.closeTabAt i tabId) := by
  unfold BrowserCore.closeTabAt
  simp only
  split
  case isTrue => exact .marked rfl (.inr rfl) activateFirst_winSize
  case isFalse => exact .marked rfl (.inl rfl) rfl

theorem nextTab : Yields core.nextTab (Refreshed core) := by
  refine .bind fun tab _ => .pure (.marked rfl (.inr rfl) ?_)
  cases core.findTab tab.id with
  | none => rfl
  | some found => rfl

theorem clickTab (tab : TabInfo) : Refreshed core (core.clickTab tab) := by
  unfold BrowserCore.clickTab
  split
  case isTrue => exact .marked rfl (.inr rfl) rfl
  case isFalse => exact .refl core

theorem load (url : String) : Refreshed core (core.load url) := .marked rfl (.inl rfl) rfl

theorem setZoom (levelMilli : UInt32) : Refreshed core (core.setZoom levelMilli) :=
  .marked rfl (.inl rfl) rfl

theorem zoomIn : Yields (core.zoomIn build) (Refreshed core) :=
  .bind fun _ _ => .pure (setZoom _)

theorem toggleMuted : Refreshed core core.toggleMuted := .marked rfl (.inl rfl) rfl

theorem clickTabBar {x : Int} {button : UInt32} :
    Yields (core.clickTabBar build x button) (Refreshed core) := by
  refine .bind fun tabW _ => .bind fun hit _ => ?_
  cases hit with
  | inl found =>
      exact .bind fun closeX _ => .ite (fun _ => .pure (closeTabAt _ _)) fun _ => .pure (clickTab _)
  | inr tx =>
      refine .ite (fun _ => .pure (.refl core)) fun _ => .bind fun right _ => ?_
      exact .ite (fun _ => newTab) fun _ => .pure (.refl core)

theorem clickNavBar {x : Int} : Yields (core.clickNavBar build x) (Refreshed core) := by
  refine .ite (fun _ => .pure (emitInput _)) fun _ => .ite (fun _ => .pure (emitInput _)) fun _ => ?_
  refine .ite (fun _ => .pure (emitInput _)) fun _ => ?_
  refine .ite (fun _ => .pure (.marked rfl (.inl rfl) rfl)) fun _ => .bind fun right _ => ?_
  refine .ite (fun _ => .pure ?_) fun _ => .ite (fun _ => .pure toggleMuted) fun _ => ?_
  · split
    case isTrue => exact .refl core
    case isFalse => exact .marked rfl (.inl rfl) rfl
  refine .ite (fun _ => .pure (setZoom _)) fun _ => .ite (fun _ => .pure (setZoom _)) fun _ => ?_
  refine .ite (fun _ => zoomIn) fun _ => .ite (fun _ => .pure ?_) fun _ => .pure (.refl core)
  exact .marked rfl (.inl rfl) rfl

theorem handleChromeClick {x y : Int32} {button : UInt32} :
    Yields (core.handleChromeClick build x y button) (Refreshed core) := by
  refine .ite (fun _ => clickTabBar) fun _ => .ite (fun _ => clickNavBar) fun _ => ?_
  split
  case h_1 url _ => exact .pure (load url)
  case h_2 => exact .pure (.refl core)

theorem onPointerMove (x y : Int32) : Refreshed core (core.onPointerMove x y) := by
  unfold BrowserCore.onPointerMove
  simp only
  split
  case isTrue => exact .kept rfl rfl (.inl rfl) rfl
  case isFalse => exact .kept rfl rfl (.inl rfl) rfl

theorem onMouseButton {x y : Int32} {button : UInt32} {pressed : Bool} :
    Yields (core.onMouseButton build x y button pressed) (Refreshed core) := by
  unfold BrowserCore.onMouseButton
  simp only
  generalize (if pressed = true then _ else _ : UInt32) = mods
  have held : Refreshed core { core with mods } := .kept rfl rfl (.inl rfl) rfl
  refine .ite (fun _ => .ite (fun _ next clicked => ?_) fun _ => .pure held) fun _ => .pure ?_
  · exact held.trans (handleChromeClick next clicked)
  · split
    case isTrue =>
      split
      case isTrue => exact .marked rfl (.inl rfl) rfl
      case isFalse => exact .kept rfl rfl (.inl rfl) rfl
    case isFalse =>
      split
      case isTrue => exact .marked rfl (.inl rfl) rfl
      case isFalse => exact held

theorem onScroll (dx dy : Int32) : Refreshed core (core.onScroll dx dy) := by
  unfold BrowserCore.onScroll
  split
  case isTrue => exact emitInput _
  case isFalse => exact .refl core

theorem onCtrlKey {keysym : UInt32} :
    ∀ taken ∈ core.onCtrlKey build keysym, Yields taken (Refreshed core) := by
  unfold BrowserCore.onCtrlKey
  refine BrowserCore.taken_ite (.pure (.marked rfl (.inl rfl) rfl)) <|
    BrowserCore.taken_ite newTab <| BrowserCore.taken_ite ?close <|
    BrowserCore.taken_ite (.pure (emitInput _)) <| BrowserCore.taken_ite (.pure toggleMuted) <|
    BrowserCore.taken_ite zoomIn <| BrowserCore.taken_ite (.pure (setZoom _)) <|
    BrowserCore.taken_ite (.pure (setZoom _)) <| BrowserCore.taken_ite ?next fun _ absent =>
      absurd absent (Option.not_mem_none _)
  case close =>
    refine .pure ?_
    split
    case isTrue => exact closeActiveTab
    case isFalse => exact .refl core
  case next => exact .ite (fun _ => nextTab) fun _ => .pure (.refl core)

theorem onEditKey {keysym : UInt32} : ∀ next ∈ core.onEditKey keysym, Refreshed core next := by
  unfold BrowserCore.onEditKey
  exact BrowserCore.taken_ite (load _) <| BrowserCore.taken_ite (.marked rfl (.inl rfl) rfl) <|
    BrowserCore.taken_ite (.marked rfl (.inl rfl) rfl) fun _ absent =>
      absurd absent (Option.not_mem_none _)

theorem typeText (keysym : UInt32) (text : Option String) :
    Refreshed core (core.typeText keysym text) := by
  cases text with
  | some t => exact .marked rfl (.inl rfl) rfl
  | none =>
      unfold BrowserCore.typeText
      simp only
      split
      case isTrue => exact .marked rfl (.inl rfl) rfl
      case isFalse => exact .refl core

theorem onPlainKey (keysym : UInt32) (pressed modified : Bool) (text : Option String) :
    Refreshed core (core.onPlainKey keysym pressed modified text) := by
  unfold BrowserCore.onPlainKey
  split
  case isTrue =>
    split
    case isTrue => exact typeText keysym text
    case isFalse => exact .refl core
  case isFalse =>
    split
    case isTrue => exact emitInput _
    case isFalse => exact .refl core

theorem onKey {keysym : UInt32} {pressed : Bool} {text : Option String} :
    Yields (core.onKey build keysym pressed text) fun result => Refreshed core result.1 := by
  have plain (modified : Bool) : Refreshed core (core.onPlainKey keysym pressed modified text) :=
    onPlainKey keysym pressed modified text
  refine .ite (fun _ => ?_) fun _ => .pure (plain _)
  refine .ite (fun _ => .pure (.refl core)) fun _ => .ite (fun _ => .pure (emitInput _)) fun _ => ?_
  refine .ite (fun _ => .pure (emitInput _)) fun _ => .ite (fun _ => .pure (emitInput _)) fun _ => ?_
  split
  case h_1 taken shortcut =>
    refine .bind fun next returned => .pure ?_
    split at shortcut
    case isTrue => exact onCtrlKey taken shortcut next returned
    case isFalse => cases shortcut
  case h_2 =>
    split
    case h_1 taken edited =>
      split at edited
      case isTrue => exact .pure (onEditKey taken edited)
      case isFalse => cases edited
    case h_2 => exact .pure (plain _)

/-! ## Events from the host -/

theorem onFrame (f : GfxFrame) : Yields (core.onFrame build f) (Refreshed core) := by
  intro next returned
  obtain rfl | ⟨_, seen, rfl⟩ := BrowserCore.onFrame_eq_ok returned
  · exact .refl next
  · exact .kept rfl rfl (.inr rfl) rfl

theorem onSubframe (s : GfxSubframe) : Yields (core.onSubframe build s) (Refreshed core) := by
  intro next returned
  obtain rfl | ⟨_, seen, rfl⟩ := BrowserCore.onSubframe_eq_ok returned
  · exact .refl next
  · exact .kept rfl rfl (.inl rfl) rfl

theorem onTileData (hash : UInt64) (pixels : Bytes) : Refreshed core (core.onTileData hash pixels) := by
  unfold BrowserCore.onTileData
  split
  case isTrue => exact .kept rfl rfl (.inl rfl) rfl
  case isFalse => exact .refl core

theorem onTileRef (x y w h : UInt32) (hash : UInt64) : Refreshed core (core.onTileRef x y w h hash) := by
  unfold BrowserCore.onTileRef
  split
  case isTrue => exact .kept rfl rfl (.inl rfl) rfl
  case isFalse => exact .refl core

/-- Sound lights the lamp of the toolbar, if it was not lit. -/
theorem onAudio (ptsUs : UInt64) (channels : UInt8) (sampleRate : UInt32) (data : Bytes) :
    Yields (core.onAudio build ptsUs channels sampleRate data) (Refreshed core) := by
  refine .bind fun micros _ => .bind fun masterAudioPts _ => .pure ?_
  by_cases playing : core.audioPlayingFramesLeft > 0
  · refine .kept ?_ (by simp [playing]) (.inl rfl) rfl
    have lit : (30 : UInt32) > 0 := by decide
    simp [BrowserCore.toolbarState, playing, lit]
  · exact .marked (by simp [playing]) (.inl rfl) rfl

theorem onTabClosed (tabId : UInt32) : Refreshed core (core.onTabClosed tabId) := by
  unfold BrowserCore.onTabClosed
  simp only
  split
  case isTrue =>
    split
    case h_1 => exact .marked rfl (.inr rfl) rfl
    case h_2 => exact .marked rfl (.inl rfl) rfl
  case isFalse => exact .marked rfl (.inl rfl) rfl

theorem onTabActivated (tabId : UInt32) : Refreshed core (core.onTabActivated tabId) := by
  unfold BrowserCore.onTabActivated
  simp only
  split
  case isTrue =>
    cases core.findTab tabId with
    | none => exact .marked rfl (.inr rfl) rfl
    | some t => exact .marked rfl (.inr rfl) rfl
  case isFalse => exact .marked rfl (.inl rfl) rfl

theorem onTabTitle (tabId : UInt32) (newTitle : String) :
    Refreshed core (core.onTabTitle tabId newTitle) := by
  unfold BrowserCore.onTabTitle
  cases core.findTab tabId with
  | none => exact .refl core
  | some t => exact .marked rfl (.inl rfl) rfl

theorem onTabUrl (tabId : UInt32) (url : String) : Refreshed core (core.onTabUrl tabId url) := by
  unfold BrowserCore.onTabUrl
  cases core.findTab tabId with
  | none => exact .refl core
  | some t => exact .marked rfl (.inl rfl) rfl

theorem handleRenderEvent (event : RenderEvent) :
    Yields (core.handleRenderEvent build event) fun result => Refreshed core result.1 := by
  have marked {next : BrowserCore} (dirty : next.chromeDirty = true)
      (content : next.fullContentDirty = core.fullContentDirty) (size : next.winSize = core.winSize) :
      Refreshed core next := .marked dirty (.inl content) size
  cases event with
  | frame f => exact .bind fun next handled => .pure (onFrame f next handled)
  | subframe s => exact .bind fun next handled => .pure (onSubframe s next handled)
  | tileData hash pixels => exact .pure (onTileData hash pixels)
  | tileRef x y w h hash => exact .pure (onTileRef x y w h hash)
  | audio ptsUs channels sampleRate data =>
      exact .bind fun next handled => .pure (onAudio ptsUs channels sampleRate data next handled)
  | cursorShape shape => exact .pure (.kept rfl rfl (.inl rfl) rfl)
  | loadState state => exact .pure (marked rfl rfl rfl)
  | initialUrl url => exact .pure (marked rfl rfl rfl)
  | title newTitle => exact .pure (marked rfl rfl rfl)
  | urlChanged url => exact .pure (marked rfl rfl rfl)
  | tabCreated tabId newTitle url =>
      refine .bind fun next handled => .pure ?_
      obtain ⟨id, _, same⟩ := bind_eq_ok handled
      cases same
      exact marked rfl rfl rfl
  | tabClosed tabId => exact .pure (onTabClosed tabId)
  | tabActivated tabId => exact .pure (onTabActivated tabId)
  | tabTitle tabId newTitle => exact .pure (onTabTitle tabId newTitle)
  | tabUrl tabId url => exact .pure (onTabUrl tabId url)
  | quit => exact .pure (.refl core)

/-! ## Sound -/

/-- The lamp goes out with the last of the sound, and then the toolbar is marked. -/
theorem tickAudio : Refreshed core core.tickAudio := by
  unfold BrowserCore.tickAudio
  split
  case isTrue playing =>
    by_cases last : core.audioPlayingFramesLeft - 1 = 0
    · exact .marked (by simp [last]) (.inl rfl) rfl
    · have lit : 0 < core.audioPlayingFramesLeft - 1 := by
        refine UInt32.lt_iff_toNat_lt.mpr (Nat.pos_of_ne_zero fun none => last ?_)
        exact UInt32.toNat_inj.mp none
      refine .kept ?_ (by simp [last]) (.inl rfl) rfl
      simp [BrowserCore.toolbarState, playing, lit]
  case isFalse => exact .refl core

end Refreshed

end ExoBrowser.Client
