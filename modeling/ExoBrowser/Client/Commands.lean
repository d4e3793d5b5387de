import ExoBrowser.Client.InputProperties

/-!
# Commands

What a report of the window system adds to the queue for the host. A report asks something of
the tab that is shown, or asks for tabs, or says what the pointer does on the page.
-/

set_option autoImplicit false

namespace ExoBrowser.Client

open Library Proto Checked

/-! ## Keys and the toolbar -/

/-- An event for the host that asks for no tab and tells nothing of the pointer. -/
def InputEvent.isPlain : InputEvent → Bool
  | .navigate _ => true
  | .resize _ _ => true
  | .setZoom _ => true
  | .navAction _ => true
  | .stop => true
  | .clearData _ _ _ => true
  | .key _ _ _ => true
  | _ => false

/-- What a key or the toolbar adds. -/
inductive Plain : List InputEvent → Prop where
  | nothing : Plain []
  | one {ev} : ev.isPlain = true → Plain [ev]
  | tabs {added} : (∀ ev ∈ added, ev.ask.isSome) → Plain added

/-- The pointer is where it was, and the queue is longer by plain events. -/
def Issues (core next : BrowserCore) : Prop :=
  next.cursor = core.cursor ∧
    ∃ added, next.outboundInputs = core.outboundInputs ++ added ∧ Plain added

namespace Issues

variable {core next final : BrowserCore}

theorem idle (cursor : next.cursor = core.cursor) (told : next.outboundInputs = core.outboundInputs) :
    Issues core next := ⟨cursor, [], by simpa using told, .nothing⟩

theorem refl (core : BrowserCore) : Issues core core := .idle rfl rfl

theorem emitInput {ev : InputEvent} (plain : ev.isPlain = true) : Issues core (core.emitInput ev) :=
  ⟨rfl, [ev], rfl, .one plain⟩

theorem behind (issues : Issues core next) (cursor : final.cursor = next.cursor)
    (told : final.outboundInputs = next.outboundInputs) : Issues core final := by
  obtain ⟨same, added, appended, plain⟩ := issues
  exact ⟨cursor.trans same, added, told.trans appended, plain⟩

theorem congr {start : BrowserCore} (issues : Issues core next) (cursor : start.cursor = core.cursor)
    (told : start.outboundInputs = core.outboundInputs) : Issues start next := by
  obtain ⟨same, added, appended, plain⟩ := issues
  exact ⟨same.trans cursor.symm, added, told ▸ appended, plain⟩

end Issues

namespace BrowserCore

variable {build : Build} {core next : BrowserCore}

theorem issues_newTab : Yields (core.newTab build) (Issues core) :=
  .bind fun _ _ => .pure ⟨rfl, [.createTab core.nextTabId homeUrl], rfl, .tabs (by simp [InputEvent.ask])⟩

/-- Behind a closed tab, the next one is asked for. -/
theorem issues_activateFirst {tabId : UInt32} {closed : BrowserCore} (cursor : closed.cursor = core.cursor)
    (told : closed.outboundInputs = core.outboundInputs ++ [.closeTab tabId]) :
    Issues core closed.activateFirst := by
  unfold activateFirst
  cases closed.tabs.head? with
  | none => exact ⟨cursor, [.closeTab tabId], told, .tabs (by simp [InputEvent.ask])⟩
  | some first =>
      refine ⟨cursor, [.closeTab tabId, .switchTab first.id], ?_, .tabs (by simp [InputEvent.ask])⟩
      change closed.outboundInputs ++ [_] = _
      simp [told]

theorem issues_closeActiveTab : Issues core core.closeActiveTab := by
  let closed : BrowserCore :=
    { (core.emitInput (.closeTab core.activeTabId)).removeComposite core.activeTabId with
      tabs := core.tabs.filter (·.id ≠ core.activeTabId) }
  have activated : Issues core closed.activateFirst := issues_activateFirst rfl rfl
  exact activated.behind rfl rfl

theorem issues_closeTabAt (i : Nat) (tabId : UInt32) : Issues core (core.closeTabAt i tabId) := by
  let closed : BrowserCore :=
    { (core.emitInput (.closeTab tabId)).removeComposite tabId with tabs := core.tabs.eraseIdx i }
  have activated : Issues core closed.activateFirst := issues_activateFirst rfl rfl
  have chosen : Issues core (if closed.activeTabId = tabId then
      { closed.activateFirst with fullContentDirty := true } else closed) := by
    split
    · exact activated.behind rfl rfl
    · exact ⟨rfl, [.closeTab tabId], rfl, .tabs (by simp [InputEvent.ask])⟩
  exact chosen.behind rfl rfl

theorem issues_switchTab {switched : BrowserCore} (cursor : switched.cursor = core.cursor) (tabId : UInt32)
    (told : switched.outboundInputs = core.outboundInputs ++ [.switchTab tabId]) : Issues core switched :=
  ⟨cursor, [.switchTab tabId], told, .tabs (by simp [InputEvent.ask])⟩

theorem issues_nextTab : Yields core.nextTab (Issues core) := by
  refine .bind fun chosen _ => .pure ?_
  cases core.findTab chosen.id <;> exact issues_switchTab rfl chosen.id rfl

theorem issues_clickTab (tab : TabInfo) : Issues core (core.clickTab tab) := by
  unfold clickTab
  split
  · exact issues_switchTab rfl tab.id rfl
  · exact .refl core

theorem issues_load (url : String) : Issues core (core.load url) := ⟨rfl, [.navigate url], rfl, .one rfl⟩

theorem issues_setZoom (levelMilli : UInt32) : Issues core (core.setZoom levelMilli) :=
  ⟨rfl, [.setZoom levelMilli], rfl, .one rfl⟩

theorem issues_clickTabBar {x : Int} {button : UInt32} :
    Yields (core.clickTabBar build x button) (Issues core) := by
  refine .bind fun tabW _ => .bind fun hit _ => ?_
  cases hit with
  | inl entry =>
      obtain ⟨i, tab, tx⟩ := entry
      exact .bind fun closeX _ => .ite (fun _ => .pure (issues_closeTabAt i tab.id)) fun _ =>
        .pure (issues_clickTab tab)
  | inr tx =>
      refine .ite (fun _ => .pure (.refl core)) fun _ => .bind fun right _ => ?_
      exact .ite (fun _ => issues_newTab) fun _ => .pure (.refl core)

theorem issues_clickNavBar {x : Int} : Yields (core.clickNavBar build x) (Issues core) := by
  refine .ite (fun _ => .pure (.emitInput rfl)) fun _ => ?_
  refine .ite (fun _ => .pure (.emitInput rfl)) fun _ => ?_
  refine .ite (fun _ => .pure ?reload) fun _ => ?_
  case reload => cases core.isLoading <;> exact .emitInput rfl
  refine .ite (fun _ => .pure ⟨rfl, [.navigate homeUrl], rfl, .one rfl⟩) fun _ => ?_
  refine .bind fun right _ => .ite (fun _ => .pure ?omnibox) fun _ => ?_
  case omnibox => cases core.editing <;> exact .idle rfl rfl
  refine .ite (fun _ => .pure (.idle rfl rfl)) fun _ => ?_
  refine .ite (fun _ => .pure (issues_setZoom _)) fun _ => ?_
  refine .ite (fun _ => .pure (issues_setZoom _)) fun _ => ?_
  refine .ite (fun _ => .bind fun _ _ => .pure (issues_setZoom _)) fun _ => ?_
  refine .ite (fun _ => .pure ?cleared) fun _ => .pure (.refl core)
  case cleared => exact ⟨rfl, [.clearData true true true], rfl, .one rfl⟩

theorem issues_handleChromeClick {x y : Int32} {button : UInt32} :
    Yields (core.handleChromeClick build x y button) (Issues core) := by
  refine .ite (fun _ => issues_clickTabBar) fun _ => .ite (fun _ => issues_clickNavBar) fun _ => ?_
  cases hitBookmark x.toInt bookmarks 8 with
  | none => exact .pure (.refl core)
  | some url => exact .pure (issues_load url)

theorem issues_onCtrlKey {keysym : UInt32} :
    ∀ taken ∈ core.onCtrlKey build keysym, Yields taken (Issues core) := by
  refine taken_ite (.pure (.idle rfl rfl)) ?_
  refine taken_ite issues_newTab ?_
  refine taken_ite (.pure ?close) ?_
  case close =>
    split
    · exact issues_closeActiveTab
    · exact .refl core
  refine taken_ite (.pure (.emitInput rfl)) ?_
  refine taken_ite (.pure (.idle rfl rfl)) ?_
  refine taken_ite (.bind fun _ _ => .pure (issues_setZoom _)) ?_
  refine taken_ite (.pure (issues_setZoom _)) ?_
  refine taken_ite (.pure (issues_setZoom _)) ?_
  refine taken_ite (.ite (fun _ => issues_nextTab) fun _ => .pure (.refl core)) ?_
  simp

theorem issues_onEditKey {keysym : UInt32} : ∀ taken ∈ core.onEditKey keysym, Issues core taken := by
  refine taken_ite (issues_load _) ?_
  refine taken_ite (.idle rfl rfl) ?_
  refine taken_ite (.idle rfl rfl) ?_
  simp

theorem issues_onPlainKey (keysym : UInt32) (pressed modified : Bool) (text : Option String) :
    Issues core (core.onPlainKey keysym pressed modified text) := by
  unfold onPlainKey
  split
  · split
    · cases text with
      | some t => exact .idle rfl rfl
      | none =>
          unfold typeText
          simp only
          split <;> exact .idle rfl rfl
    · exact .refl core
  · split
    · exact .emitInput rfl
    · exact .refl core

theorem issues_onKey {keysym : UInt32} {pressed : Bool} {text : Option String} :
    Yields (core.onKey build keysym pressed text) fun result => Issues core result.1 := by
  have plain (modified : Bool) : Issues core (core.onPlainKey keysym pressed modified text) :=
    issues_onPlainKey keysym pressed modified text
  refine .ite (fun _ => ?_) fun _ => .pure (plain _)
  refine .ite (fun _ => .pure (.refl core)) fun _ => ?_
  refine .ite (fun _ => .pure (.emitInput rfl)) fun _ => ?_
  refine .ite (fun _ => .pure (.emitInput rfl)) fun _ => ?_
  refine .ite (fun _ => .pure (.emitInput rfl)) fun _ => ?_
  split
  case h_1 shortcut taken =>
    have ctrl : shortcut ∈ core.onCtrlKey build keysym := by
      split at taken
      · exact taken
      · cases taken
    exact .bind fun next returned => .pure (issues_onCtrlKey shortcut ctrl next returned)
  case h_2 =>
    split
    case h_1 next taken =>
      have edited : next ∈ core.onEditKey keysym := by
        split at taken
        · exact taken
        · cases taken
      exact .pure (issues_onEditKey next edited)
    case h_2 => exact .pure (plain _)

/-! ## Notices -/

/-- Where the pointer is on the page. -/
def spot (core : BrowserCore) : Int32 × Int32 := (core.cursor.1, core.cursor.2 - 96)

def OnPage (core : BrowserCore) : Prop := core.cursor.2.toInt ≥ chromeH.toNat

end BrowserCore

/-- A button on the page goes down and up where the pointer is. -/
def Device.AtPointer (core : BrowserCore) : Device → Prop
  | .button x y _ _ => y.toInt ≥ chromeH.toNat → core.cursor = (x, y)
  | _ => True

/-- What a report adds, with where the pointer is then. -/
inductive Notice (core next : BrowserCore) : List InputEvent → Prop where
  | plain {added} : next.cursor = core.cursor → Plain added → Notice core next added
  | moved {mods} : next.OnPage → Notice core next [.motion next.spot.1 next.spot.2 mods]
  | away : ¬ next.OnPage → Notice core next []
  | pressed {which pressed mods} : next.cursor = core.cursor →
      Notice core next [.button next.spot.1 next.spot.2 which pressed mods]
  | scrolled {dx dy} : next.cursor = core.cursor → next.OnPage → Notice core next [.scroll dx dy]

/-- The queue is longer by what a report adds. -/
def Notifies (core next : BrowserCore) : Prop :=
  ∃ added, next.outboundInputs = core.outboundInputs ++ added ∧ Notice core next added

theorem Issues.reports {core next : BrowserCore} (issues : Issues core next) : Notifies core next := by
  obtain ⟨cursor, added, told, plain⟩ := issues
  exact ⟨added, told, .plain cursor plain⟩

theorem Notifies.idle {core next : BrowserCore} (cursor : next.cursor = core.cursor)
    (told : next.outboundInputs = core.outboundInputs) : Notifies core next := (Issues.idle cursor told).reports

namespace BrowserCore

variable {build : Build} {core next : BrowserCore}

theorem reports_onPointerMove (x y : Int32) : Notifies core (core.onPointerMove x y) := by
  unfold onPointerMove
  simp only
  split
  case isTrue page => exact ⟨[.motion x (y - 96) core.mods], rfl, .moved page⟩
  case isFalse toolbar => exact ⟨[], (List.append_nil _).symm, .away toolbar⟩

/-- A click on the page ends the editing, and goes to the host with the pointer's place. -/
theorem reports_pageClick {middle : BrowserCore} {editing clicked : Prop} [Decidable editing]
    [Decidable clicked] {x y : Int32} {which mods : UInt32} {pressed : Bool}
    (cursor : middle.cursor = core.cursor) (told : middle.outboundInputs = core.outboundInputs)
    (here : core.cursor = (x, y)) :
    Notifies core (if clicked then
        (if editing then { middle with editing := false, chromeDirty := true } else middle).emitInput
          (.button x (y - 96) which pressed mods)
      else if editing then { middle with editing := false, chromeDirty := true } else middle) := by
  have clicks {next : BrowserCore} (same : next.cursor = core.cursor)
      (queued : next.outboundInputs = core.outboundInputs) :
      Notifies core (next.emitInput (.button x (y - 96) which pressed mods)) := by
    have report : Notice core (next.emitInput (.button x (y - 96) which pressed mods))
        [.button next.spot.1 next.spot.2 which pressed mods] := .pressed same
    have place : next.spot = (x, y - 96) := by simp [spot, same, here]
    rw [place] at report
    exact ⟨_, congrArg (· ++ _) queued, report⟩
  split
  · split
    · exact clicks cursor told
    · exact clicks cursor told
  · split <;> exact .idle cursor told

theorem reports_onMouseButton {x y : Int32} {button : UInt32} {pressed : Bool}
    (here : y.toInt ≥ chromeH.toNat → core.cursor = (x, y)) :
    Yields (core.onMouseButton build x y button pressed) (Notifies core) := by
  refine .ite (fun _ => .ite (fun _ => ?toolbar) fun _ => .pure (.idle rfl rfl)) fun below => ?page
  case toolbar =>
    intro next clicked
    have issues : Issues core next := (issues_handleChromeClick next clicked).congr rfl rfl
    exact issues.reports
  case page => exact .pure (reports_pageClick rfl rfl (here (Int.not_lt.mp below)))

theorem reports_onScroll (dx dy : Int32) : Notifies core (core.onScroll dx dy) := by
  unfold onScroll
  split
  case isTrue page => exact ⟨[.scroll dx dy], rfl, .scrolled rfl page.1⟩
  case isFalse => exact .idle rfl rfl

theorem issues_onResize (w h : UInt32) : Issues core (core.onResize w h) := by
  unfold onResize
  simp only
  split
  · exact ⟨rfl, _, rfl, .one rfl⟩
  · exact .refl core

end BrowserCore

theorem reports_input {build : Build} {core : BrowserCore} {device : Device}
    (here : device.AtPointer core) : Yields (device.input build core) (Notifies core) := by
  cases device with
  | modifiers mods => exact .pure (.idle rfl rfl)
  | key keysym pressed text =>
      exact .bind fun result returned => .pure (BrowserCore.issues_onKey result returned).reports
  | button x y which pressed => exact BrowserCore.reports_onMouseButton here
  | motion x y => exact .pure (BrowserCore.reports_onPointerMove x y)
  | scroll dx dy => exact .pure (BrowserCore.reports_onScroll dx dy)
  | resize w h => exact .pure (BrowserCore.issues_onResize w h).reports

/-! ## Messages -/

namespace BrowserCore

variable {build : Build} {core : BrowserCore}

theorem cursor_onTabClosed (tabId : UInt32) : (core.onTabClosed tabId).cursor = core.cursor := by
  unfold onTabClosed
  simp only
  split
  · split <;> rfl
  · rfl

theorem cursor_onTabActivated (tabId : UInt32) : (core.onTabActivated tabId).cursor = core.cursor := by
  unfold onTabActivated
  simp only
  split
  · cases core.findTab tabId <;> rfl
  · rfl

/-- No message moves the pointer. -/
theorem cursor_handleRenderEvent (rev : RenderEvent) :
    Yields (core.handleRenderEvent build rev) fun result => result.1.cursor = core.cursor := by
  cases rev with
  | frame f =>
      refine .bind fun next returned => .pure ?_
      obtain rfl | ⟨_, seen, rfl⟩ := onFrame_eq_ok returned <;> rfl
  | subframe s =>
      refine .bind fun next returned => .pure ?_
      obtain rfl | ⟨_, seen, rfl⟩ := onSubframe_eq_ok returned <;> rfl
  | tileData hash pixels =>
      refine .pure ?_
      unfold onTileData
      split <;> rfl
  | tileRef x y w h hash =>
      refine .pure ?_
      unfold onTileRef
      split <;> rfl
  | audio ptsUs channels sampleRate data =>
      refine .bind fun next returned => .pure ?_
      obtain ⟨duration, _, rest⟩ := bind_eq_ok returned
      obtain ⟨pts, _, result⟩ := bind_eq_ok rest
      cases result
      rfl
  | tabCreated tabId newTitle url =>
      refine .bind fun next returned => .pure ?_
      obtain ⟨fresh, _, result⟩ := bind_eq_ok returned
      cases result
      rfl
  | tabClosed tabId => exact .pure (cursor_onTabClosed tabId)
  | tabActivated tabId => exact .pure (cursor_onTabActivated tabId)
  | tabTitle tabId newTitle =>
      refine .pure ?_
      unfold onTabTitle
      split <;> rfl
  | tabUrl tabId url =>
      refine .pure ?_
      unfold onTabUrl
      split <;> rfl
  | _ => exact .pure rfl

theorem cursor_applyMessage (msg : Message) :
    Yields (core.applyMessage build msg) fun next => next.cursor = core.cursor := by
  unfold applyMessage
  cases RenderEvent.fromProtoMessage msg with
  | none => exact .pure rfl
  | some rev => exact .bind fun result returned => .pure (cursor_handleRenderEvent rev result returned)

end BrowserCore

end ExoBrowser.Client
