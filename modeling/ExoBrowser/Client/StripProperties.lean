import ExoBrowser.Client.InputProperties
import ExoBrowser.Client.Render
import ExoBrowser.Client.Strip

/-!
# The strip of the core

Each input, event and render does to the strip of the core what the action does that it
comes to.
-/

set_option autoImplicit false

namespace ExoBrowser.Client

open Library Proto Checked

/-! ## Acting -/

/-- The strip changes as the action says that is meant. -/
def Acts (core : BrowserCore) (meant : Run StripAction) (next : BrowserCore) : Prop :=
  ∃ action, meant = .ok action ∧ next.strip = action.apply core.strip

namespace Acts

variable {core next : BrowserCore}

theorem pure {action : StripAction} (same : next.strip = action.apply core.strip) :
    Acts core (.ok action) next := ⟨action, rfl, same⟩

/-- What is not in the strip does not matter. -/
theorem keep (same : next.strip = core.strip) : Acts core (.ok .keep) next := .pure same

theorem congr {start : BrowserCore} {meant : Run StripAction} (acts : Acts core meant next)
    (same : start.strip = core.strip) : Acts start meant next := by
  obtain ⟨action, means, applied⟩ := acts
  exact ⟨action, means, same ▸ applied⟩

theorem bind {α : Type} {computed : Run α} {value : α} {continuation : α → Run StripAction}
    (returned : computed = .ok value) (acts : Acts core (continuation value) next) :
    Acts core (computed >>= continuation) next := by
  obtain ⟨action, means, applied⟩ := acts
  refine ⟨action, ?_, applied⟩
  rw [returned]
  exact means

end Acts

namespace BrowserCore

variable {build : Build} {core next : BrowserCore}

theorem strip_newTab : Yields (core.newTab build) (Acts core (.ok .newTab)) := by
  refine .bind fun nextTabId returned => .pure (.pure ?_)
  unfold Build.add32 at returned
  split at returned
  · cases returned
    rfl
  · cases returned

theorem strip_activateFirst : core.activateFirst.strip = core.strip.showFirst := by
  unfold activateFirst
  split
  case h_1 first found => exact (core.strip.showFirst_of_some found).symm
  case h_2 empty => exact (core.strip.showFirst_of_none empty).symm

theorem strip_closeActiveTab : core.closeActiveTab.strip = StripAction.closeActive.apply core.strip :=
  strip_activateFirst

theorem strip_closeTabAt {i : Nat} {tab : TabInfo} (here : core.tabs[i]? = some tab) :
    (core.closeTabAt i tab.id).strip = (StripAction.closeAt i).apply core.strip := by
  let closed : BrowserCore :=
    { (core.emitInput (.closeTab tab.id)).removeComposite tab.id with tabs := core.tabs.eraseIdx i }
  have activated : (if closed.activeTabId = tab.id then
      { closed.activateFirst with fullContentDirty := true } else closed).strip =
      if core.activeTabId = tab.id then closed.strip.showFirst else closed.strip := by
    split
    case isTrue shown =>
      refine Eq.trans ?_ (if_pos shown).symm
      exact strip_activateFirst
    case isFalse other => exact (if_neg other).symm
  rw [StripAction.closeAt_apply here]
  exact activated

theorem strip_nextTab : Yields core.nextTab (Acts core (.ok .showNext)) := by
  refine .bind fun chosen found => .pure (.pure ?_)
  have next : core.strip.nextTab = some chosen := getElem?_of_index_eq_ok found
  rw [StripAction.showNext_apply next]
  have searched : core.strip.find chosen.id = core.findTab chosen.id := rfl
  rw [searched]
  cases core.findTab chosen.id <;> rfl

theorem strip_clickTab {i : Nat} {tab : TabInfo} (here : core.tabs[i]? = some tab) :
    (core.clickTab tab).strip = (StripAction.click i).apply core.strip := by
  rw [StripAction.click_apply here]
  unfold clickTab
  by_cases other : core.activeTabId ≠ tab.id
  · rw [if_pos other]
    exact (if_pos other).symm
  · rw [if_neg other]
    exact (if_neg other).symm

theorem strip_load (url : String) : (core.load url).strip = (StripAction.load url).apply core.strip := rfl

/-! ## Clicks -/

theorem strip_clickTabBar {x : Int} {button : UInt32} :
    Yields (core.clickTabBar build x button) (Acts core (core.tabBarAction build x button)) := by
  refine .bind fun tabW width => .bind fun hit found next returned => .bind width (.bind found ?_)
  cases hit with
  | inl entry =>
      obtain ⟨i, tab, tx⟩ := entry
      have here : core.tabs[i]? = some tab := (hitTab_found found).2
      obtain ⟨closeX, edge, chosen⟩ := bind_eq_ok returned
      refine .bind edge ?_
      split at chosen
      case isTrue close =>
        cases chosen
        rw [if_pos close]
        exact .pure (strip_closeTabAt here)
      case isFalse other =>
        cases chosen
        rw [if_neg other]
        exact .pure (strip_clickTab here)
  | inr tx =>
      dsimp only at returned ⊢
      by_cases before : x < tx
      · rw [if_pos before] at returned ⊢
        cases returned
        exact .keep rfl
      · rw [if_neg before] at returned ⊢
        obtain ⟨right, edge, chosen⟩ := bind_eq_ok returned
        refine .bind edge ?_
        by_cases plus : x ≤ right
        · rw [if_pos plus] at chosen ⊢
          exact strip_newTab next chosen
        · rw [if_neg plus] at chosen ⊢
          cases chosen
          exact .keep rfl

theorem navBarAction_left {x : Int} (left : x < 140) (home : ¬ (104 ≤ x ∧ x < 132)) :
    core.navBarAction build x = .ok .keep := by
  unfold navBarAction
  rw [if_neg home, if_pos left]
  rfl

theorem strip_clickNavBar {x : Int} :
    Yields (core.clickNavBar build x) (Acts core (core.navBarAction build x)) := by
  have left {next : BrowserCore} (left : x < 140) (home : ¬ (104 ≤ x ∧ x < 132))
      (same : next.strip = core.strip) : Acts core (core.navBarAction build x) next := by
    rw [navBarAction_left left home]
    exact .keep same
  refine .ite (fun back => .pure (left (by omega) (by omega) rfl)) fun _ => ?_
  refine .ite (fun forward => .pure (left (by omega) (by omega) rfl)) fun _ => ?_
  refine .ite (fun reload => .pure (left (by omega) (by omega) rfl)) fun _ => ?_
  refine .ite (fun home => .pure ?home) fun home => ?_
  case home =>
    unfold navBarAction
    rw [if_pos home]
    exact .pure rfl
  refine .bind fun sub subtracted => ?_
  have right (inside : ¬ x < 140) : core.navBarAction build x =
      if x < 140 + max (max sub 200 - 150) 80 ∧ !core.editing then .ok (.edit "") else .ok .keep := by
    unfold navBarAction
    rw [if_neg home, if_neg inside, subtracted]
    rfl
  refine .ite (fun omnibox => .pure ?omnibox) fun outside => ?_
  case omnibox =>
    rw [right (by omega)]
    cases editing : core.editing with
    | true =>
        rw [if_pos rfl, if_neg (by simp)]
        exact .keep rfl
    | false =>
        rw [if_neg Bool.false_ne_true, if_pos (by simp; omega)]
        exact .pure rfl
  have kept {next : BrowserCore} (same : next.strip = core.strip) :
      Acts core (core.navBarAction build x) next := by
    by_cases inside : x < 140
    · exact left inside home same
    · rw [right inside, if_neg (by omega)]
      exact .keep same
  refine .ite (fun _ => .pure (kept rfl)) fun _ => ?_
  refine .ite (fun _ => .pure (kept rfl)) fun _ => ?_
  refine .ite (fun _ => .pure (kept rfl)) fun _ => ?_
  refine .ite (fun _ => .bind fun zoom _ => .pure (kept rfl)) fun _ => ?_
  exact .ite (fun _ => .pure (kept rfl)) fun _ => .pure (kept rfl)

theorem strip_handleChromeClick {x y : Int32} {button : UInt32} :
    Yields (core.handleChromeClick build x y button)
      (Acts core (core.chromeClickAction build x y button)) := by
  unfold chromeClickAction
  refine .ite (fun tabBar => ?_) fun tabBar => .ite (fun navBar => ?_) fun navBar => ?_
  · rw [if_pos tabBar]
    exact strip_clickTabBar
  · rw [if_neg tabBar, if_pos navBar]
    exact strip_clickNavBar
  · rw [if_neg tabBar, if_neg navBar]
    cases hitBookmark x.toInt bookmarks 8 with
    | some url => exact .pure (.pure (strip_load url))
    | none => exact .pure (.keep rfl)

/-- A click on the content ends the editing. -/
theorem strip_contentClick {middle : BrowserCore} {editing clicked : Prop} [Decidable editing]
    [Decidable clicked] {ev : InputEvent} (same : middle.strip = core.strip) :
    Acts core (.ok (if editing then .blur else .keep)) (if clicked then
        (if editing then { middle with editing := false, chromeDirty := true } else middle).emitInput ev
      else if editing then { middle with editing := false, chromeDirty := true } else middle) := by
  have blurred : { middle.strip with editing := false } = StripAction.blur.apply core.strip := by
    rw [same]
    rfl
  by_cases ends : editing
  · simp only [if_pos ends]
    split
    · exact .pure blurred
    · exact .pure blurred
  · simp only [if_neg ends]
    split
    · exact .keep same
    · exact .keep same

theorem strip_onMouseButton {x y : Int32} {button : UInt32} {pressed : Bool} :
    Yields (core.onMouseButton build x y button pressed)
      (Acts core (core.mouseButtonAction build x y button pressed)) := by
  unfold mouseButtonAction
  refine .ite (fun chrome => .ite (fun down => ?_) fun up => .pure ?_) fun content => .pure ?_
  · intro next clicked
    have acts : Acts core (core.chromeClickAction build x y button) next :=
      (strip_handleChromeClick next clicked).congr rfl
    rwa [if_pos chrome, if_pos down]
  · rw [if_pos chrome, if_neg up]
    exact .keep rfl
  · rw [if_neg content]
    exact strip_contentClick rfl

/-! ## Keys -/

theorem rel_ite {α β : Type} {related : α → β → Prop} {condition : Prop} [Decidable condition]
    {first : α} {second : β} {others : Option α} {rest : Option β} (now : related first second)
    (later : Option.Rel related others rest) :
    Option.Rel related (if condition then some first else others)
      (if condition then some second else rest) := by
  split
  · exact .some now
  · exact later

theorem strip_onCtrlKey (keysym : UInt32) :
    Option.Rel (fun taken action => Yields taken (Acts core (.ok action)))
      (core.onCtrlKey build keysym) (core.ctrlKeyAction keysym) := by
  unfold onCtrlKey ctrlKeyAction
  refine rel_ite ?location <| rel_ite strip_newTab <| rel_ite ?close <| rel_ite ?reload <|
    rel_ite ?mute <| rel_ite ?zoomIn <| rel_ite ?zoomOut <| rel_ite ?zoom <| rel_ite ?next .none
  case location => exact .pure (.pure rfl)
  case close =>
    refine .pure ?_
    split
    · exact .pure strip_closeActiveTab
    · exact .keep rfl
  case reload => exact .pure (.keep rfl)
  case mute => exact .pure (.keep rfl)
  case zoomIn => exact .bind fun zoom _ => .pure (.keep rfl)
  case zoomOut => exact .pure (.keep rfl)
  case zoom => exact .pure (.keep rfl)
  case next =>
    split
    · exact strip_nextTab
    · exact .pure (.keep rfl)

/-- What is typed while the omnibox is edited is still being edited. -/
theorem strip_edit {next : BrowserCore} {text : String} (editing : core.editing = true)
    (same : next.strip = { core.strip with urlBuf := text }) :
    next.strip = (StripAction.edit text).apply core.strip := by
  have still : core.strip.editing = true := editing
  rw [same]
  unfold StripAction.apply
  rw [← still]

theorem strip_onEditKey (editing : core.editing = true) (keysym : UInt32) :
    Option.Rel (fun next action => next.strip = action.apply core.strip)
      (core.onEditKey keysym) (core.editKeyAction keysym) := by
  unfold onEditKey editKeyAction
  exact rel_ite (strip_load _) <| rel_ite rfl <| rel_ite (strip_edit editing rfl) .none

theorem strip_typeText (editing : core.editing = true) (keysym : UInt32) (text : Option String) :
    (core.typeText keysym text).strip = (core.typeTextAction keysym text).apply core.strip := by
  cases text with
  | some t => exact strip_edit editing rfl
  | none =>
      change (if 0x20 ≤ keysym ∧ keysym ≤ 0x7e then _ else core).strip =
        (if 0x20 ≤ keysym ∧ keysym ≤ 0x7e then _ else StripAction.keep).apply core.strip
      by_cases printable : 0x20 ≤ keysym ∧ keysym ≤ 0x7e
      · rw [if_pos printable, if_pos printable]
        exact strip_edit editing rfl
      · rw [if_neg printable, if_neg printable]
        rfl

theorem strip_onPlainKey (keysym : UInt32) (pressed modified : Bool) (text : Option String) :
    (core.onPlainKey keysym pressed modified text).strip =
      (core.plainKeyAction keysym pressed modified text).apply core.strip := by
  unfold onPlainKey plainKeyAction
  cases editing : core.editing with
  | true =>
      by_cases typed : pressed = true ∧ (!modified) = true
      · rw [if_pos rfl, if_pos typed, if_pos ⟨rfl, typed⟩]
        exact strip_typeText editing keysym text
      · rw [if_pos rfl, if_neg typed, if_neg fun both => typed both.2]
        rfl
  | false =>
      have idle : ¬ (false = true ∧ pressed = true ∧ (!modified) = true) :=
        fun both => Bool.false_ne_true both.1
      rw [if_neg Bool.false_ne_true, if_neg idle]
      split <;> rfl

theorem strip_onKey {keysym : UInt32} {pressed : Bool} {text : Option String} :
    Yields (core.onKey build keysym pressed text) fun result =>
      result.1.strip = (core.keyAction keysym pressed text).apply core.strip := by
  have plain (modified : Bool) : (core.onPlainKey keysym pressed modified text).strip =
      (core.plainKeyAction keysym pressed modified text).apply core.strip :=
    strip_onPlainKey keysym pressed modified text
  unfold keyAction
  refine .ite (fun down => ?_) fun up => .pure ?plain
  case plain =>
    rw [if_neg up]
    exact plain _
  simp only [if_pos down]
  refine .ite (fun quit => .pure ?quit) fun quit => ?_
  case quit =>
    rw [if_pos (.inl quit)]
    rfl
  refine .ite (fun reload => .pure ?reload) fun reload => ?_
  case reload =>
    rw [if_pos (.inr (.inl reload))]
    rfl
  refine .ite (fun back => .pure ?back) fun back => ?_
  case back =>
    rw [if_pos (.inr (.inr ⟨back.1, .inl back.2⟩))]
    rfl
  refine .ite (fun forward => .pure ?forward) fun forward => ?_
  case forward =>
    rw [if_pos (.inr (.inr ⟨forward.1, .inr forward.2⟩))]
    rfl
  have other : ¬ (keysym = 0xffc8 ∨ keysym = 0xffc2 ∨
      (core.mods &&& modAlt ≠ 0 ∧ (keysym = 0xff51 ∨ keysym = 0xff53))) := by
    rintro (isQuit | isReload | ⟨alt, isBack | isForward⟩)
    · exact quit isQuit
    · exact reload isReload
    · exact back ⟨alt, isBack⟩
    · exact forward ⟨alt, isForward⟩
  rw [if_neg other]
  have shortcut : Option.Rel (fun taken action => Yields taken (Acts core (.ok action)))
      (if core.mods &&& modCtrl ≠ 0 then core.onCtrlKey build keysym else none)
      (if core.mods &&& modCtrl ≠ 0 then core.ctrlKeyAction keysym else none) := by
    split
    · exact strip_onCtrlKey keysym
    · exact .none
  generalize (if core.mods &&& modCtrl ≠ 0 then core.onCtrlKey build keysym else none) = taken
    at shortcut ⊢
  generalize (if core.mods &&& modCtrl ≠ 0 then core.ctrlKeyAction keysym else none) = meant
    at shortcut ⊢
  cases shortcut with
  | some acts =>
      refine .bind fun next returned => .pure ?_
      obtain ⟨action, means, applied⟩ := acts next returned
      cases means
      exact applied
  | none =>
      have edited : Option.Rel (fun next action => next.strip = StripAction.apply core.strip action)
          (if core.editing then core.onEditKey keysym else none)
          (if core.editing then core.editKeyAction keysym else none) := by
        split
        case isTrue editing => exact strip_onEditKey editing keysym
        case isFalse => exact .none
      generalize (if core.editing then core.onEditKey keysym else none) = taken at edited ⊢
      generalize (if core.editing then core.editKeyAction keysym else none) = meant at edited ⊢
      cases edited with
      | some applied => exact .pure applied
      | none => exact .pure (plain _)

theorem strip_onResize (w h : UInt32) : (core.onResize w h).strip = core.strip := by
  unfold onResize
  simp only
  split <;> rfl

theorem strip_onPointerMove (x y : Int32) : (core.onPointerMove x y).strip = core.strip := by
  unfold onPointerMove
  split <;> rfl

theorem strip_onScroll (dx dy : Int32) : (core.onScroll dx dy).strip = core.strip := by
  unfold onScroll
  split <;> rfl

end BrowserCore

/-- An input does to the strip what the user means by it. -/
theorem strip_input (build : Build) (core : BrowserCore) (device : Device) :
    Yields (device.input build core) (Acts core (device.action build core)) := by
  cases device with
  | modifiers mods => exact .pure (.keep rfl)
  | key keysym pressed text =>
      exact .bind fun result returned => .pure (.pure (BrowserCore.strip_onKey result returned))
  | button x y which pressed => exact BrowserCore.strip_onMouseButton
  | motion x y => exact .pure (.keep (BrowserCore.strip_onPointerMove x y))
  | scroll dx dy => exact .pure (.keep (BrowserCore.strip_onScroll dx dy))
  | resize w h => exact .pure (.keep (BrowserCore.strip_onResize w h))

/-- The actions of the user. -/
def StripAction.OfUser : StripAction → Prop
  | .loadState _ => False
  | .urlChanged _ => False
  | .title _ => False
  | .created _ _ _ => False
  | .closed _ => False
  | .activated _ => False
  | .tabTitle _ _ => False
  | .tabUrl _ _ => False
  | _ => True

namespace BrowserCore

variable {build : Build} (core : BrowserCore)

theorem ofUser_tabBarAction {x : Int} {button : UInt32} :
    Yields (core.tabBarAction build x button) StripAction.OfUser := by
  refine .bind fun tabW _ => .bind fun hit _ => ?_
  cases hit with
  | inl entry =>
      exact .bind fun closeX _ => .ite (fun _ => .pure trivial) fun _ => .pure trivial
  | inr tx =>
      refine .ite (fun _ => .pure trivial) fun _ => .bind fun right _ => ?_
      exact .ite (fun _ => .pure trivial) fun _ => .pure trivial

theorem ofUser_navBarAction {x : Int} : Yields (core.navBarAction build x) StripAction.OfUser := by
  refine .ite (fun _ => .pure trivial) fun _ => .ite (fun _ => .pure trivial) fun _ => ?_
  exact .bind fun sub _ => .ite (fun _ => .pure trivial) fun _ => .pure trivial

theorem ofUser_mouseButtonAction {x y : Int32} {button : UInt32} {pressed : Bool} :
    Yields (core.mouseButtonAction build x y button pressed) StripAction.OfUser := by
  refine .ite (fun _ => .ite (fun _ => ?_) fun _ => .pure trivial) fun _ => .pure ?_
  · refine .ite (fun _ => core.ofUser_tabBarAction) fun _ =>
      .ite (fun _ => core.ofUser_navBarAction) fun _ => ?_
    cases hitBookmark x.toInt bookmarks 8 with
    | some url => exact .pure trivial
    | none => exact .pure trivial
  · split <;> trivial

theorem ofUser_ctrlKeyAction (keysym : UInt32) :
    ∀ action ∈ core.ctrlKeyAction keysym, action.OfUser := by
  unfold ctrlKeyAction
  refine taken_ite trivial <| taken_ite trivial <| taken_ite ?close <| taken_ite trivial <|
    taken_ite trivial <| taken_ite trivial <| taken_ite trivial <| taken_ite trivial <|
    taken_ite ?next fun _ absent => absurd absent (Option.not_mem_none _)
  case close => split <;> trivial
  case next => split <;> trivial

theorem ofUser_editKeyAction (keysym : UInt32) :
    ∀ action ∈ core.editKeyAction keysym, action.OfUser := by
  unfold editKeyAction
  exact taken_ite trivial <| taken_ite trivial <| taken_ite trivial
    fun _ absent => absurd absent (Option.not_mem_none _)

theorem ofUser_plainKeyAction (keysym : UInt32) (pressed modified : Bool) (text : Option String) :
    (core.plainKeyAction keysym pressed modified text).OfUser := by
  unfold plainKeyAction typeTextAction
  split
  · cases text with
    | some t => trivial
    | none =>
        dsimp only
        split <;> trivial
  · trivial

theorem ofUser_keyAction (keysym : UInt32) (pressed : Bool) (text : Option String) :
    (core.keyAction keysym pressed text).OfUser := by
  have plain (modified : Bool) :=
    core.ofUser_plainKeyAction keysym pressed modified text
  unfold keyAction
  dsimp only
  split
  · split
    · trivial
    · split
      case h_1 action shortcut =>
        split at shortcut
        · exact core.ofUser_ctrlKeyAction keysym action shortcut
        · cases shortcut
      case h_2 =>
        cases edited : (if core.editing then core.editKeyAction keysym else none) with
        | some action =>
            split at edited
            · exact core.ofUser_editKeyAction keysym action edited
            · cases edited
        | none => exact plain _
  · exact plain _

end BrowserCore

theorem ofUser_action (build : Build) (core : BrowserCore) (device : Device) :
    Yields (device.action build core) StripAction.OfUser := by
  cases device with
  | key keysym pressed text => exact .pure (core.ofUser_keyAction keysym pressed text)
  | button x y which pressed => exact core.ofUser_mouseButtonAction
  | modifiers mods => exact .pure trivial
  | motion x y => exact .pure trivial
  | scroll dx dy => exact .pure trivial
  | resize w h => exact .pure trivial

/-! ## Events -/

namespace BrowserCore

variable {build : Build} {core : BrowserCore}

theorem strip_onTabCreated (tabId : UInt32) (newTitle url : String) :
    Yields (core.onTabCreated build tabId newTitle url) fun next =>
      next.strip = (StripAction.created tabId newTitle url).apply core.strip := by
  refine .bind fun following returned => .pure ?_
  have successor : following = tabId + 1 := add32_eq returned
  subst successor
  have searched : core.strip.find tabId = core.findTab tabId := rfl
  unfold StripAction.apply
  simp only
  rw [searched]
  cases core.findTab tabId <;> rfl

theorem strip_onTabClosed (tabId : UInt32) :
    (core.onTabClosed tabId).strip = (StripAction.closed tabId).apply core.strip := by
  unfold onTabClosed StripAction.apply
  simp only
  by_cases shown : core.activeTabId = tabId
  · have active : core.strip.activeTabId = tabId := shown
    rw [if_pos active]
    split
    case isTrue =>
      split
      case h_1 first found => exact ((core.strip.without tabId).showFirst_of_some found).symm
      case h_2 empty => exact ((core.strip.without tabId).showFirst_of_none empty).symm
    case isFalse other => exact absurd shown other
  · have inactive : ¬ core.strip.activeTabId = tabId := shown
    rw [if_neg inactive]
    split
    case isTrue active => exact absurd active shown
    case isFalse => rfl

theorem strip_onTabActivated (tabId : UInt32) :
    (core.onTabActivated tabId).strip = (StripAction.activated tabId).apply core.strip := by
  have searched : core.strip.find tabId = core.findTab tabId := rfl
  unfold onTabActivated StripAction.apply
  simp only
  rw [searched]
  by_cases other : core.activeTabId ≠ tabId
  · have inactive : core.strip.activeTabId ≠ tabId := other
    rw [if_pos other, if_pos inactive]
    cases core.findTab tabId <;> rfl
  · have active : ¬ core.strip.activeTabId ≠ tabId := other
    rw [if_neg other, if_neg active]
    rfl

theorem strip_onTabTitle (tabId : UInt32) (newTitle : String) :
    (core.onTabTitle tabId newTitle).strip = (StripAction.tabTitle tabId newTitle).apply core.strip := by
  unfold onTabTitle
  split
  case h_1 => rfl
  case h_2 absent =>
    have kept := modifyFirst_of_none absent (·.renamed newTitle)
    change _ = { core.strip with tabs := modifyFirst tabId (·.renamed newTitle) core.tabs }
    rw [kept]
    rfl

theorem strip_onTabUrl (tabId : UInt32) (url : String) :
    (core.onTabUrl tabId url).strip = (StripAction.tabUrl tabId url).apply core.strip := by
  have searched : core.strip.find tabId = core.findTab tabId := rfl
  unfold onTabUrl StripAction.apply
  simp only
  rw [searched]
  cases core.findTab tabId <;> rfl

theorem strip_onFrame (f : GfxFrame) :
    Yields (core.onFrame build f) fun next => next.strip = core.strip := by
  intro next returned
  obtain rfl | ⟨_, seen, rfl⟩ := onFrame_eq_ok returned
  · rfl
  · rfl

theorem strip_onSubframe (s : GfxSubframe) :
    Yields (core.onSubframe build s) fun next => next.strip = core.strip := by
  intro next returned
  obtain rfl | ⟨_, seen, rfl⟩ := onSubframe_eq_ok returned
  · rfl
  · rfl

theorem strip_onAudio (ptsUs : UInt64) (channels : UInt8) (sampleRate : UInt32) (data : Bytes) :
    Yields (core.onAudio build ptsUs channels sampleRate data) fun next => next.strip = core.strip :=
  .bind fun _ _ => .bind fun _ _ => .pure rfl

theorem strip_handleRenderEvent (event : RenderEvent) :
    Yields (core.handleRenderEvent build event) fun result =>
      result.1.strip = event.action.apply core.strip := by
  cases event with
  | quit => exact .pure rfl
  | frame f => exact .bind fun next returned => .pure (strip_onFrame f next returned)
  | subframe s => exact .bind fun next returned => .pure (strip_onSubframe s next returned)
  | tileData hash pixels =>
      refine .pure ?_
      unfold onTileData
      split <;> rfl
  | tileRef x y w h hash =>
      refine .pure ?_
      unfold onTileRef
      split <;> rfl
  | audio ptsUs channels sampleRate data =>
      exact .bind fun next returned => .pure
        (strip_onAudio ptsUs channels sampleRate data next returned)
  | cursorShape shape => exact .pure rfl
  | loadState state => exact .pure rfl
  | initialUrl url => exact .pure rfl
  | urlChanged url => exact .pure rfl
  | title newTitle => exact .pure rfl
  | tabCreated tabId newTitle url =>
      exact .bind fun next returned => .pure (strip_onTabCreated tabId newTitle url next returned)
  | tabClosed tabId => exact .pure (strip_onTabClosed tabId)
  | tabActivated tabId => exact .pure (strip_onTabActivated tabId)
  | tabTitle tabId newTitle => exact .pure (strip_onTabTitle tabId newTitle)
  | tabUrl tabId url => exact .pure (strip_onTabUrl tabId url)

/-! ## Renders -/

variable {painter : Painter}

theorem strip_renderChrome (buffer : List UInt32) :
    Yields (core.renderChrome painter buffer) fun result => result.1.strip = core.strip := by
  refine .ite (fun _ => .bind fun drawn _ => .pure rfl) fun _ => .pure rfl

theorem strip_renderToast (buffer : List UInt32) (damage : List DamageRect) :
    Yields (core.renderToast painter buffer damage) fun result => result.1.strip = core.strip := by
  refine .ite (fun _ => ?_) fun _ => .pure rfl
  cases core.statusToastText with
  | some msg => exact .bind fun drawn _ => .pure rfl
  | none => exact .pure rfl

theorem strip_renderOverlay (buffer : List UInt32) (damage : List DamageRect) :
    Yields (core.renderOverlay painter buffer damage) fun result => result.1.strip = core.strip := by
  refine .bind fun ⟨shown, canvas, damaged⟩ toasted => ?_
  have same : shown.strip = core.strip := strip_renderToast buffer damage _ toasted
  dsimp only
  cases shown.synthCursor with
  | some position => exact .bind fun drawn _ => .pure same
  | none => exact .pure same

theorem strip_renderInto (buffer : List UInt32) :
    Yields (core.renderInto build painter buffer) fun result => result.1.strip = core.strip := by
  have ticked : core.tickAudio.strip = core.strip := by
    unfold tickAudio
    split <;> rfl
  refine .ite (fun _ => .pure rfl) fun _ => .bind fun chrome drawn => ?_
  have same : chrome.1.strip = core.strip := (strip_renderChrome buffer chrome drawn).trans ticked
  refine .ite (fun _ => .bind fun content _ => ?_) fun _ => ?_
  · intro result returned
    exact (strip_renderOverlay content.1 content.2 result returned).trans same
  · intro result returned
    exact (strip_renderOverlay chrome.2.1 chrome.2.2 result returned).trans same

end BrowserCore

end ExoBrowser.Client
