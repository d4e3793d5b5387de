import ExoBrowser.Client.ContentProperties
import ExoBrowser.Client.IngestProperties
import ExoBrowser.Client.InputProperties

/-!
# Reachable cores

Every call that the client offers, in any order, and what none of them breaks: the
pixels it holds reach as far as their fields say.
-/

set_option autoImplicit false

namespace ExoBrowser.Client

open Library Proto Link Checked

variable {build : Build} {target : Target} {painter : Painter}

/-! ## Calls -/

inductive CoreEvent where
  | reported (device : Device)
  | told (event : RenderEvent)
  | ingested (inbuf : Bytes)
  | submitted
  | clicked (x y : Int32) (button : UInt32)
  | encoded (tsUs : UInt64)
  | audioDrained
  | rendered (buffer : List UInt32)

/-- The core that a call leaves, and the messages it encodes. -/
def CoreEvent.apply (build : Build) (target : Target) (painter : Painter) (core : BrowserCore) :
    CoreEvent → Run (BrowserCore × List Message)
  | .reported device => return (← device.input build core, [])
  | .told event => return ((← core.handleRenderEvent build event).1, [])
  | .ingested inbuf => return ((← core.ingestWireBytes build target inbuf).core, [])
  | .submitted => return (core.submitOmnibox, [])
  | .clicked x y button => return (← core.handleChromeClick build x y button, [])
  | .encoded tsUs => return core.drainOutbound tsUs
  | .audioDrained => return ({ core with pendingAudio := [] }, [])
  | .rendered buffer => return ((← core.renderInto build painter buffer).1, [])

/-- A call that returns. -/
def coreStep (build : Build) (target : Target) (painter : Painter) :
    Step BrowserCore CoreEvent Message :=
  fun core event encoded next => event.apply build target painter core = .ok (next, encoded)

/-! ## Input -/

namespace BrowserCore.Intact

variable {core next : BrowserCore}

theorem newNoStd (width height : UInt32) (initialUrl : String) (editing : Bool) :
    (BrowserCore.newNoStd width height initialUrl editing).Intact where
  frames := nofun
  subframes := nofun
  cached := nofun
  activeBuf := rfl
  tabComposites _ := rfl
  toast := nofun
  synthCursor := rfl

theorem emitInput (intact : core.Intact) (ev : InputEvent) : (core.emitInput ev).Intact :=
  { intact with }

theorem same (intact : core.Intact) (same : SamePictures core next) : next.Intact where
  frames := same.pendingFrames ▸ intact.frames
  subframes := same.pendingSubframes ▸ intact.subframes
  cached := same.tileCache ▸ intact.cached
  activeBuf := (same.unbuffered ⟨intact.activeBuf, intact.tabComposites⟩).1
  tabComposites := (same.unbuffered ⟨intact.activeBuf, intact.tabComposites⟩).2
  toast := same.statusToastText ▸ intact.toast
  synthCursor := same.synthCursor.trans intact.synthCursor

theorem removeComposite (intact : core.Intact) (tabId : UInt32) :
    (core.removeComposite tabId).Intact := intact.same (BrowserCore.samePictures_removeComposite tabId)

theorem activateBuf (intact : core.Intact) (tabId : UInt32) : (core.activateBuf tabId).Intact :=
  intact.same (BrowserCore.samePictures_activateBuf tabId)

theorem newTab (intact : core.Intact) : Yields (core.newTab build) BrowserCore.Intact := by
  refine .bind fun nextTabId _ => .pure ?_
  refine { intact with activeBuf := rfl, tabComposites := ?_ }
  simp only [BrowserCore.emitInput, intact.activeBuf]
  exact intact.tabComposites

theorem activateFirst (intact : core.Intact) : core.activateFirst.Intact := by
  unfold BrowserCore.activateFirst
  split
  case h_1 first _ =>
    have removed := intact.removeComposite first.id
    exact { removed with activeBuf := intact.tabComposites first.id }
  case h_2 => exact intact

theorem closeActiveTab (intact : core.Intact) : core.closeActiveTab.Intact := by
  have removed := (intact.emitInput (.closeTab core.activeTabId)).removeComposite core.activeTabId
  have first : BrowserCore.Intact (BrowserCore.activateFirst { (core.emitInput
      (.closeTab core.activeTabId)).removeComposite core.activeTabId with
    tabs := core.tabs.filter (·.id ≠ core.activeTabId) }) := activateFirst { removed with }
  exact { first with }

theorem closeTabAt (intact : core.Intact) (i : Nat) (tabId : UInt32) : (core.closeTabAt i tabId).Intact := by
  have removed := (intact.emitInput (.closeTab tabId)).removeComposite tabId
  have closed : BrowserCore.Intact { (core.emitInput (.closeTab tabId)).removeComposite tabId with
    tabs := core.tabs.eraseIdx i } := { removed with }
  have first := closed.activateFirst
  unfold BrowserCore.closeTabAt
  simp only
  split
  case isTrue => exact { first with }
  case isFalse => exact { closed with }

theorem nextTab (intact : core.Intact) : Yields core.nextTab BrowserCore.Intact := by
  refine .bind fun tab _ => .pure ?_
  have switched := intact.activateBuf tab.id
  split
  case h_1 => exact { switched with }
  case h_2 => exact { switched with }

theorem clickTab (intact : core.Intact) (tab : TabInfo) : (core.clickTab tab).Intact := by
  unfold BrowserCore.clickTab
  split
  case isTrue => exact { intact.activateBuf tab.id with }
  case isFalse => exact intact

theorem load (intact : core.Intact) (url : String) : (core.load url).Intact := { intact with }

theorem setZoom (intact : core.Intact) (levelMilli : UInt32) : (core.setZoom levelMilli).Intact :=
  { intact with }

theorem zoomIn (intact : core.Intact) : Yields (core.zoomIn build) BrowserCore.Intact :=
  .bind fun _ _ => .pure (intact.setZoom _)

theorem clickTabBar (intact : core.Intact) {x : Int} {button : UInt32} :
    Yields (core.clickTabBar build x button) BrowserCore.Intact := by
  refine .bind fun tabW _ => .bind fun hit _ => ?_
  cases hit with
  | inl found =>
      refine .bind fun closeX _ => .ite (fun _ => .pure ?_) fun _ => .pure ?_
      · exact intact.closeTabAt found.1 found.2.1.id
      · exact intact.clickTab found.2.1
  | inr tx =>
      refine .ite (fun _ => .pure intact) fun _ => .bind fun right _ => ?_
      exact .ite (fun _ => intact.newTab) fun _ => .pure intact

theorem clickNavBar (intact : core.Intact) {x : Int} :
    Yields (core.clickNavBar build x) BrowserCore.Intact := by
  refine .ite (fun _ => .pure (intact.emitInput _)) fun _ => ?_
  refine .ite (fun _ => .pure (intact.emitInput _)) fun _ => ?_
  refine .ite (fun _ => .pure (intact.emitInput _)) fun _ => ?_
  refine .ite (fun _ => .pure { intact with }) fun _ => .bind fun right _ => ?_
  refine .ite (fun _ => .pure ?_) fun _ => ?_
  · split
    case isTrue => exact intact
    case isFalse => exact { intact with }
  refine .ite (fun _ => .pure { intact with }) fun _ => ?_
  refine .ite (fun _ => .pure (intact.setZoom _)) fun _ => ?_
  refine .ite (fun _ => .pure (intact.setZoom _)) fun _ => .ite (fun _ => intact.zoomIn) fun _ => ?_
  refine .ite (fun _ => .pure { intact with toast := ?_ }) fun _ => .pure intact
  rintro msg ⟨⟩
  rfl

theorem handleChromeClick (intact : core.Intact) {x y : Int32} {button : UInt32} :
    Yields (core.handleChromeClick build x y button) BrowserCore.Intact := by
  refine .ite (fun _ => intact.clickTabBar) fun _ => .ite (fun _ => intact.clickNavBar) fun _ => ?_
  split
  case h_1 url _ => exact .pure (intact.load url)
  case h_2 => exact .pure intact

theorem onMouseButton (intact : core.Intact) {x y : Int32} {button : UInt32} {pressed : Bool} :
    Yields (core.onMouseButton build x y button pressed) BrowserCore.Intact := by
  unfold BrowserCore.onMouseButton
  simp only
  generalize (if pressed = true then _ else _ : UInt32) = mods
  have held : BrowserCore.Intact { core with mods } := { intact with }
  refine .ite (fun _ => .ite (fun _ => held.handleChromeClick) fun _ => .pure held) fun _ => .pure ?_
  split
  case isTrue =>
    split
    case isTrue => exact { held with }
    case isFalse => exact { held with }
  case isFalse =>
    split
    case isTrue => exact { held with }
    case isFalse => exact held

theorem onCtrlKey (intact : core.Intact) {keysym : UInt32} :
    ∀ taken ∈ core.onCtrlKey build keysym, Yields taken BrowserCore.Intact := by
  unfold BrowserCore.onCtrlKey
  refine taken_ite (.pure { intact with }) <| taken_ite intact.newTab <| taken_ite ?close <|
    taken_ite (.pure (intact.emitInput _)) <| taken_ite (.pure { intact with }) <|
    taken_ite intact.zoomIn <| taken_ite (.pure (intact.setZoom _)) <|
    taken_ite (.pure (intact.setZoom _)) <| taken_ite ?next fun _ absent =>
      absurd absent (Option.not_mem_none _)
  case close =>
    refine .pure ?_
    split
    case isTrue => exact intact.closeActiveTab
    case isFalse => exact intact
  case next => exact .ite (fun _ => intact.nextTab) fun _ => .pure intact

theorem onEditKey (intact : core.Intact) {keysym : UInt32} :
    ∀ next ∈ core.onEditKey keysym, next.Intact := by
  unfold BrowserCore.onEditKey
  exact taken_ite (intact.load _) <| taken_ite { intact with } <| taken_ite { intact with }
    fun _ absent => absurd absent (Option.not_mem_none _)

theorem onPlainKey (intact : core.Intact) (keysym : UInt32) (pressed modified : Bool)
    (text : Option String) : (core.onPlainKey keysym pressed modified text).Intact := by
  have typed : (core.typeText keysym text).Intact := by
    cases text with
    | some t => exact { intact with }
    | none =>
        unfold BrowserCore.typeText
        simp only
        split
        case isTrue => exact { intact with }
        case isFalse => exact intact
  unfold BrowserCore.onPlainKey
  split
  case isTrue =>
    split
    case isTrue => exact typed
    case isFalse => exact intact
  case isFalse =>
    split
    case isTrue => exact intact.emitInput _
    case isFalse => exact intact

theorem onKey (intact : core.Intact) {keysym : UInt32} {pressed : Bool} {text : Option String} :
    Yields (core.onKey build keysym pressed text) fun result => result.1.Intact := by
  have plain (modified : Bool) : (core.onPlainKey keysym pressed modified text).Intact :=
    intact.onPlainKey keysym pressed modified text
  refine .ite (fun _ => ?_) fun _ => .pure (plain _)
  refine .ite (fun _ => .pure intact) fun _ => .ite (fun _ => .pure (intact.emitInput _)) fun _ => ?_
  refine .ite (fun _ => .pure (intact.emitInput _)) fun _ => ?_
  refine .ite (fun _ => .pure (intact.emitInput _)) fun _ => ?_
  split
  case h_1 taken shortcut =>
    refine .bind fun next returned => .pure ?_
    split at shortcut
    case isTrue => exact intact.onCtrlKey taken shortcut next returned
    case isFalse => cases shortcut
  case h_2 =>
    split
    case h_1 taken edited =>
      split at edited
      case isTrue => exact .pure (intact.onEditKey taken edited)
      case isFalse => cases edited
    case h_2 => exact .pure (plain _)

theorem onResize (intact : core.Intact) (w h : UInt32) : (core.onResize w h).Intact := by
  unfold BrowserCore.onResize
  simp only
  split
  case isTrue => exact { intact with }
  case isFalse => exact intact

theorem input (intact : core.Intact) (device : Device) :
    Yields (device.input build core) BrowserCore.Intact := by
  cases device with
  | modifiers mods => exact .pure { intact with }
  | key keysym pressed text => exact .bind fun result returned => .pure (intact.onKey result returned)
  | button x y which pressed => exact intact.onMouseButton
  | motion x y =>
      refine .pure ?_
      unfold BrowserCore.onPointerMove
      simp only
      split
      case isTrue => exact { intact with }
      case isFalse => exact { intact with }
  | scroll dx dy =>
      refine .pure ?_
      unfold BrowserCore.onScroll
      split
      case isTrue => exact intact.emitInput _
      case isFalse => exact intact
  | resize w h => exact .pure (intact.onResize w h)

/-! ## Messages -/

/-- A frame with too few bytes is dropped. -/
theorem onFrame (intact : core.Intact) (f : GfxFrame) :
    Yields (core.onFrame build f) BrowserCore.Intact := by
  intro next returned
  obtain rfl | ⟨⟨_, _, long⟩, seen, rfl⟩ := BrowserCore.onFrame_eq_ok returned
  · exact intact
  · exact { intact with frames := List.forall_mem_singleton.mpr long, subframes := nofun }

theorem onSubframe (intact : core.Intact) (s : GfxSubframe) :
    Yields (core.onSubframe build s) BrowserCore.Intact := by
  intro next returned
  obtain rfl | ⟨⟨_, _, long⟩, seen, rfl⟩ := BrowserCore.onSubframe_eq_ok returned
  · exact intact
  · exact {
      intact with
      subframes := List.forall_mem_append.mpr
        ⟨intact.subframes, List.forall_mem_singleton.mpr long⟩ }

theorem onTileData (intact : core.Intact) (hash : UInt64) (pixels : Bytes) :
    (core.onTileData hash pixels).Intact := by
  unfold BrowserCore.onTileData
  split
  case isTrue =>
    refine { intact with cached := fun key tile found => ?_ }
    simp only at found
    split at found
    case isTrue =>
      rw [← Option.some.inj found, length_copyBgraRowToU32, List.length_replicate]
      rfl
    case isFalse => exact intact.cached key tile found
  case isFalse => exact intact

theorem onTileRef (intact : core.Intact) (x y w h : UInt32) (hash : UInt64) :
    (core.onTileRef x y w h hash).Intact := by
  unfold BrowserCore.onTileRef
  split
  case isTrue => exact { intact with }
  case isFalse => exact intact

theorem handleRenderEvent (intact : core.Intact) (event : RenderEvent) :
    Yields (core.handleRenderEvent build event) fun result => result.1.Intact := by
  cases event with
  | frame f => exact .bind fun next handled => .pure (intact.onFrame f next handled)
  | subframe s => exact .bind fun next handled => .pure (intact.onSubframe s next handled)
  | tileData hash pixels => exact .pure (intact.onTileData hash pixels)
  | tileRef x y w h hash => exact .pure (intact.onTileRef x y w h hash)
  | _ =>
      intro result handled
      exact intact.same (BrowserCore.samePictures_handleRenderEvent (by trivial) result handled)

theorem applyMessage (intact : core.Intact) (msg : Message) :
    Yields (core.applyMessage build msg) BrowserCore.Intact := by
  unfold BrowserCore.applyMessage
  cases RenderEvent.fromProtoMessage msg with
  | none => exact .pure intact
  | some event =>
      exact .bind fun result handled => .pure (intact.handleRenderEvent event result handled)

theorem applyMessages (intact : core.Intact) (messages : List Message) :
    Yields (messages.foldlM (BrowserCore.applyMessage build) core) BrowserCore.Intact :=
  Yields.foldlM BrowserCore.Intact (fun _ intact msg _ => intact.applyMessage msg) intact

/-! ## Renders -/

theorem renderInto (intact : core.Intact) (buffer : List UInt32) :
    Yields (core.renderInto build painter buffer) fun result => result.1.Intact := by
  intro result returned
  obtain ⟨base, _, _, _, _, kept | done, same⟩ := BrowserCore.renderInto_eq_ok returned
  · rw [same, kept]
    exact { intact with }
  · rw [same, done]
    exact { intact with frames := nofun, subframes := nofun }

theorem apply (intact : core.Intact) (event : CoreEvent) :
    Yields (event.apply build target painter core) fun result => result.1.Intact := by
  cases event with
  | reported device => exact .bind fun next took => .pure (intact.input device next took)
  | told event =>
      exact .bind fun result handled => .pure (intact.handleRenderEvent event result handled)
  | ingested inbuf =>
      obtain ⟨result, _, spec⟩ := ingest_eq build target core inbuf
      refine .bind fun ingested returned => .pure ?_
      obtain ⟨next, applied, same⟩ := bind_eq_ok (spec.symm.trans returned)
      cases same
      exact intact.applyMessages _ next applied
  | submitted => exact .pure (intact.load _)
  | clicked x y button => exact .bind fun next clicked => .pure (intact.handleChromeClick next clicked)
  | encoded tsUs => exact .pure { intact with }
  | audioDrained => exact .pure { intact with }
  | rendered buffer => exact .bind fun result rendered => .pure (intact.renderInto buffer result rendered)

end BrowserCore.Intact

/-- Whatever is called, the core stays intact. -/
theorem intact_of_reached {width height : UInt32} {initialUrl : String} {editing : Bool}
    {events : List CoreEvent} {encoded : List Message} {core : BrowserCore}
    (reached : Runs (coreStep build target painter) (.newNoStd width height initialUrl editing) events
      encoded core) : core.Intact :=
  reached.invariant (fun _ core => core.Intact) (.newNoStd width height initialUrl editing)
    fun _ _ event _ _ intact stepped => intact.apply event _ stepped

end ExoBrowser.Client
