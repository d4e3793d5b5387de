import ExoBrowser.Client.TabProperties
import ExoBrowser.Library.Mirror

/-!
# Tab actions

What input does to the tabs of the client, and what the client asks of the host with it.
Everything but new tabs, closes and switches leaves the tabs alone.
-/

set_option autoImplicit false

namespace ExoBrowser.Client

open Library Proto Checked

def InputEvent.ask : InputEvent → Option (Ask UInt32)
  | .createTab tabId _ => some (.create tabId)
  | .closeTab tabId => some (.close tabId)
  | .switchTab tabId => some (.select tabId)
  | _ => none

def BrowserCore.tabIds (core : BrowserCore) : List UInt32 := core.tabs.map (·.id)

/-- A tab that is listed or active. -/
def BrowserCore.Knows (core : BrowserCore) (tabId : UInt32) : Prop :=
  tabId ∈ core.tabIds ∨ tabId = core.activeTabId

/-! ## Actions -/

/-- The list without some of the tabs with an id. -/
structure Without (tabId : UInt32) (core next : BrowserCore) : Prop where
  known : core.Knows tabId
  kept : ∀ other ∈ next.tabIds, other ∈ core.tabIds
  others : ∀ other, other ≠ tabId → (other ∈ next.tabIds ↔ other ∈ core.tabIds)
  nextTabId : next.nextTabId = core.nextTabId

inductive TabAction (core next : BrowserCore) : List (Ask UInt32) → Prop where
  | quiet : next.tabIds = core.tabIds → next.activeTabId = core.activeTabId →
      next.nextTabId = core.nextTabId → TabAction core next []
  | opened : next.tabIds = core.tabIds ++ [core.nextTabId] → next.activeTabId = core.nextTabId →
      next.nextTabId = core.nextTabId + 1 → TabAction core next [.create core.nextTabId]
  | closed {tabId} : Without tabId core next → next.activeTabId = core.activeTabId →
      TabAction core next [.close tabId]
  | replaced {tabId} : Without tabId core next → next.activeTabId ∈ core.tabIds →
      TabAction core next [.close tabId, .select next.activeTabId]
  | switched : next.tabIds = core.tabIds → next.activeTabId ∈ core.tabIds →
      next.nextTabId = core.nextTabId → TabAction core next [.select next.activeTabId]

/-- The tabs change as the events say that are added for the host. -/
def Took (core next : BrowserCore) : Prop :=
  ∃ added, next.outboundInputs = core.outboundInputs ++ added ∧
    TabAction core next (added.filterMap InputEvent.ask)

namespace Took

variable {core next : BrowserCore}

theorem quiet (added : List InputEvent) (told : next.outboundInputs = core.outboundInputs ++ added)
    (silent : added.filterMap InputEvent.ask = []) (ids : next.tabIds = core.tabIds)
    (active : next.activeTabId = core.activeTabId) (nextTabId : next.nextTabId = core.nextTabId) :
    Took core next := by
  refine ⟨added, told, ?_⟩
  rw [silent]
  exact .quiet ids active nextTabId

/-- Nothing of what matters changes. -/
theorem idle (told : next.outboundInputs = core.outboundInputs) (ids : next.tabIds = core.tabIds)
    (active : next.activeTabId = core.activeTabId) (nextTabId : next.nextTabId = core.nextTabId) :
    Took core next :=
  .quiet [] (told.trans (List.append_nil _).symm) rfl ids active nextTabId

theorem refl (core : BrowserCore) : Took core core := .idle rfl rfl rfl rfl

/-- What changes behind the tabs does not matter either. -/
theorem congr {start : BrowserCore} (took : Took core next) (tabs : start.tabs = core.tabs)
    (active : start.activeTabId = core.activeTabId) (nextTabId : start.nextTabId = core.nextTabId)
    (told : start.outboundInputs = core.outboundInputs) : Took start next := by
  obtain ⟨added, appended, acted⟩ := took
  have ids : start.tabIds = core.tabIds := congrArg (List.map TabInfo.id) tabs
  refine ⟨added, told ▸ appended, ?_⟩
  have knows (tabId : UInt32) : start.Knows tabId = core.Knows tabId := by
    rw [BrowserCore.Knows, ids, active]
    rfl
  have without {tabId : UInt32} (without : Without tabId core next) : Without tabId start next :=
    ⟨knows tabId ▸ without.known, ids ▸ without.kept, ids ▸ without.others,
      without.nextTabId.trans nextTabId.symm⟩
  generalize added.filterMap InputEvent.ask = asks at acted
  cases acted with
  | quiet same kept fresh => exact .quiet (ids ▸ same) (active ▸ kept) (nextTabId ▸ fresh)
  | opened grown shown fresh =>
      rw [← nextTabId] at grown shown fresh ⊢
      exact .opened (ids ▸ grown) shown fresh
  | closed less kept => exact .closed (without less) (active ▸ kept)
  | replaced less shown => exact .replaced (without less) (ids ▸ shown)
  | switched same shown fresh => exact .switched (ids ▸ same) (ids ▸ shown) (nextTabId ▸ fresh)

theorem behind {final : BrowserCore} (took : Took core next) (tabs : final.tabs = next.tabs)
    (active : final.activeTabId = next.activeTabId) (nextTabId : final.nextTabId = next.nextTabId)
    (told : final.outboundInputs = next.outboundInputs) : Took core final := by
  obtain ⟨added, appended, acted⟩ := took
  have ids : final.tabIds = next.tabIds := congrArg (List.map TabInfo.id) tabs
  have without {tabId : UInt32} (without : Without tabId core next) : Without tabId core final :=
    ⟨without.known, ids ▸ without.kept, ids ▸ without.others, nextTabId.trans without.nextTabId⟩
  refine ⟨added, told.trans appended, ?_⟩
  generalize added.filterMap InputEvent.ask = asks at acted
  cases acted with
  | quiet same kept fresh =>
      exact .quiet (ids.trans same) (active.trans kept) (nextTabId.trans fresh)
  | opened grown shown fresh =>
      exact .opened (ids.trans grown) (active.trans shown) (nextTabId.trans fresh)
  | closed less kept => exact .closed (without less) (active.trans kept)
  | replaced less shown =>
      rw [← active] at shown ⊢
      exact .replaced (without less) shown
  | switched same shown fresh =>
      rw [← active] at shown ⊢
      exact .switched (ids.trans same) shown (nextTabId.trans fresh)

end Took

/-! ## Keys and clicks -/

namespace BrowserCore

variable {build : Build} {core next : BrowserCore}

theorem add32_eq {left right sum : UInt32} (returned : build.add32 left right = .ok sum) :
    sum = left + right := by
  unfold Build.add32 at returned
  split at returned
  · cases returned
    rfl
  · cases returned

theorem took_newTab : Yields (core.newTab build) (Took core) := by
  refine .bind fun nextTabId returned => .pure ?_
  have fresh : nextTabId = core.nextTabId + 1 := add32_eq returned
  exact ⟨[.createTab core.nextTabId homeUrl], rfl, .opened (List.map_append ..) rfl fresh⟩

theorem took_activateFirst {tabId : UInt32} {closed : BrowserCore}
    (told : closed.outboundInputs = core.outboundInputs ++ [.closeTab tabId])
    (without : Without tabId core closed) (active : closed.activeTabId = core.activeTabId) :
    Took core closed.activateFirst := by
  unfold activateFirst
  split
  case h_1 first found =>
    have listed : first.id ∈ closed.tabIds := List.mem_map_of_mem (List.mem_of_mem_head? found)
    have less : Without tabId core { closed with activeTabId := first.id } :=
      ⟨without.known, without.kept, without.others, without.nextTabId⟩
    refine ⟨[.closeTab tabId, .switchTab first.id], ?_, .replaced ?_ (without.kept _ listed)⟩
    · rw [List.append_cons, ← told]
      rfl
    · exact ⟨less.known, less.kept, less.others, less.nextTabId⟩
  case h_2 => exact ⟨[.closeTab tabId], told, .closed without active⟩

theorem mem_filter_of_ne {tabs : List TabInfo} {tabId other : UInt32} (differs : other ≠ tabId) :
    other ∈ (tabs.filter (·.id ≠ tabId)).map (·.id) ↔ other ∈ tabs.map (·.id) := by
  constructor
  · intro member
    obtain ⟨t, found, same⟩ := List.mem_map.mp member
    exact List.mem_map.mpr ⟨t, (List.mem_filter.mp found).1, same⟩
  · intro member
    obtain ⟨t, found, rfl⟩ := List.mem_map.mp member
    exact List.mem_map.mpr ⟨t, List.mem_filter.mpr ⟨found, by simpa using differs⟩, rfl⟩

theorem took_closeActiveTab : Took core core.closeActiveTab := by
  let closed : BrowserCore :=
    { (core.emitInput (.closeTab core.activeTabId)).removeComposite core.activeTabId with
      tabs := core.tabs.filter (·.id ≠ core.activeTabId) }
  have kept (other : UInt32) (listed : other ∈ closed.tabIds) : other ∈ core.tabIds := by
    obtain ⟨t, found, same⟩ := List.mem_map.mp listed
    exact List.mem_map.mpr ⟨t, (List.mem_filter.mp found).1, same⟩
  have without : Without core.activeTabId core closed :=
    ⟨.inr rfl, kept, fun other differs => mem_filter_of_ne differs, rfl⟩
  have activated : Took core closed.activateFirst := took_activateFirst rfl without rfl
  exact activated.behind rfl rfl rfl rfl

theorem mem_eraseIdx_of_ne {i : Nat} {tabs : List TabInfo} {tab : TabInfo} (here : tabs[i]? = some tab)
    {other : UInt32} (differs : other ≠ tab.id) :
    other ∈ (tabs.eraseIdx i).map (·.id) ↔ other ∈ tabs.map (·.id) := by
  constructor
  · intro member
    obtain ⟨t, found, same⟩ := List.mem_map.mp member
    exact List.mem_map.mpr ⟨t, List.mem_of_mem_eraseIdx found, same⟩
  · intro member
    obtain ⟨t, found, same⟩ := List.mem_map.mp member
    obtain ⟨j, at_j⟩ := List.mem_iff_getElem?.mp found
    have apart : j ≠ i := by
      rintro rfl
      rw [here] at at_j
      cases at_j
      exact differs same.symm
    refine List.mem_map.mpr ⟨t, List.mem_eraseIdx_iff_getElem?.mpr ⟨j, apart, at_j⟩, same⟩

theorem took_closeTabAt {i : Nat} {tab : TabInfo} (here : core.tabs[i]? = some tab) :
    Took core (core.closeTabAt i tab.id) := by
  let closed : BrowserCore :=
    { (core.emitInput (.closeTab tab.id)).removeComposite tab.id with tabs := core.tabs.eraseIdx i }
  have kept (other : UInt32) (listed : other ∈ closed.tabIds) : other ∈ core.tabIds := by
    obtain ⟨t, found, same⟩ := List.mem_map.mp listed
    exact List.mem_map.mpr ⟨t, List.mem_of_mem_eraseIdx found, same⟩
  have known : core.Knows tab.id := .inl (List.mem_map_of_mem (List.mem_of_getElem? here))
  have without : Without tab.id core closed :=
    ⟨known, kept, fun other differs => mem_eraseIdx_of_ne here differs, rfl⟩
  have activated : Took core (if closed.activeTabId = tab.id then
      { closed.activateFirst with fullContentDirty := true } else closed) := by
    split
    · exact (took_activateFirst rfl without rfl).behind rfl rfl rfl rfl
    · exact ⟨[.closeTab tab.id], rfl, .closed without rfl⟩
  exact activated.behind rfl rfl rfl rfl

theorem took_nextTab : Yields core.nextTab (Took core) := by
  refine .bind fun chosen found => .pure ?_
  have listed : chosen.id ∈ core.tabIds := List.mem_map_of_mem (mem_of_index_eq_ok found)
  have switched : Took core ((core.activateBuf chosen.id).emitInput (.switchTab chosen.id)) :=
    ⟨[.switchTab chosen.id], rfl, .switched rfl listed rfl⟩
  refine switched.behind ?_ ?_ ?_ ?_
  all_goals
    simp only [emitInput]
    split <;> rfl

theorem took_clickTab {tab : TabInfo} (listed : tab ∈ core.tabs) : Took core (core.clickTab tab) := by
  unfold clickTab
  split
  · exact ⟨[.switchTab tab.id], rfl, .switched rfl (List.mem_map_of_mem listed) rfl⟩
  · exact .refl core

theorem took_load (url : String) : Took core (core.load url) := by
  have ids : (core.load url).tabIds = core.tabIds := by
    refine ids_modifyFirst ?_ core.tabs
    exact fun _ => rfl
  exact .quiet [.navigate url] rfl rfl ids rfl rfl

theorem took_setZoom (levelMilli : UInt32) : Took core (core.setZoom levelMilli) :=
  .quiet [.setZoom levelMilli] rfl rfl rfl rfl rfl

theorem took_zoomIn : Yields (core.zoomIn build) (Took core) :=
  .bind fun _ _ => .pure (took_setZoom _)

theorem took_emitInput {ev : InputEvent} (silent : ev.ask = none) : Took core (core.emitInput ev) :=
  .quiet [ev] rfl (by rw [List.filterMap_cons, silent]; rfl) rfl rfl rfl

theorem hitTab_found {x tabW left : Int} {tabs : List TabInfo} {first i : Nat} {tx : Int}
    {tab : TabInfo} (returned : hitTab build x tabW tabs first tx = .ok (.inl (i, tab, left))) :
    first ≤ i ∧ tabs[i - first]? = some tab := by
  induction tabs generalizing first tx with
  | nil => cases returned
  | cons head rest ih =>
      rw [hitTab] at returned
      obtain ⟨right, _, checked⟩ := bind_eq_ok returned
      obtain ⟨edge, _, chosen⟩ := bind_eq_ok checked
      split at chosen
      · cases chosen
        exact ⟨Nat.le_refl i, by rw [Nat.sub_self]; rfl⟩
      · obtain ⟨later, here⟩ := ih chosen
        have offset : i - first = (i - (first + 1)) + 1 := by omega
        refine ⟨by omega, ?_⟩
        rw [offset]
        exact here

theorem took_clickTabBar {x : Int} {button : UInt32} :
    Yields (core.clickTabBar build x button) (Took core) := by
  refine .bind fun tabW _ => .bind fun hit found => ?_
  cases hit with
  | inl entry =>
      obtain ⟨i, tab, tx⟩ := entry
      obtain ⟨_, here⟩ := hitTab_found found
      refine .bind fun closeX _ => .ite (fun _ => ?_) fun _ => .pure (took_clickTab (List.mem_of_getElem? here))
      exact .pure (took_closeTabAt here)
  | inr tx =>
      refine .ite (fun _ => .pure (.refl core)) fun _ => .bind fun right _ => ?_
      exact .ite (fun _ => took_newTab) fun _ => .pure (.refl core)

theorem took_clickNavBar {x : Int} : Yields (core.clickNavBar build x) (Took core) := by
  have back : Took core (core.emitInput (.navAction 0)) := took_emitInput rfl
  refine .ite (fun _ => .pure back) fun _ => ?_
  refine .ite (fun _ => .pure (took_emitInput rfl)) fun _ => ?_
  refine .ite (fun _ => .pure ?reload) fun _ => ?_
  case reload => split <;> exact took_emitInput rfl
  have home : Took core (core.emitInput (.navigate homeUrl)) := took_emitInput rfl
  refine .ite (fun _ => .pure (home.behind rfl rfl rfl rfl)) fun _ => ?_
  refine .bind fun right _ => .ite (fun _ => .pure ?omnibox) fun _ => ?_
  case omnibox =>
    split
    · exact .refl core
    · exact .idle rfl rfl rfl rfl
  refine .ite (fun _ => .pure (.idle rfl rfl rfl rfl)) fun _ => ?_
  refine .ite (fun _ => .pure (took_setZoom _)) fun _ => ?_
  refine .ite (fun _ => .pure (took_setZoom _)) fun _ => ?_
  refine .ite (fun _ => took_zoomIn) fun _ => ?_
  have cleared : Took core (core.emitInput (.clearData true true true)) := took_emitInput rfl
  exact .ite (fun _ => .pure (cleared.behind rfl rfl rfl rfl)) fun _ => .pure (.refl core)

theorem took_handleChromeClick {x y : Int32} {button : UInt32} :
    Yields (core.handleChromeClick build x y button) (Took core) := by
  refine .ite (fun _ => took_clickTabBar) fun _ => .ite (fun _ => took_clickNavBar) fun _ => ?_
  split
  · exact .pure (took_load _)
  · exact .pure (.refl core)

/-! ## Devices -/

theorem took_onPointerMove (x y : Int32) : Took core (core.onPointerMove x y) := by
  unfold onPointerMove
  have moved : Took core { core with cursor := (x, y) } := .idle rfl rfl rfl rfl
  split
  · exact .quiet [.motion x (y - 96) core.mods] rfl rfl rfl rfl rfl
  · exact moved

/-- A click on the content ends the editing, and goes to the host. -/
theorem took_contentClick {middle : BrowserCore} {editing clicked : Prop} [Decidable editing]
    [Decidable clicked] {ev : InputEvent} (told : middle.outboundInputs = core.outboundInputs)
    (tabs : middle.tabs = core.tabs) (active : middle.activeTabId = core.activeTabId)
    (nextTabId : middle.nextTabId = core.nextTabId) (silent : ev.ask = none) :
    Took core (if clicked then
        (if editing then { middle with editing := false, chromeDirty := true } else middle).emitInput ev
      else if editing then { middle with editing := false, chromeDirty := true } else middle) := by
  have ids : middle.tabIds = core.tabIds := congrArg (List.map TabInfo.id) tabs
  have quiet : [ev].filterMap InputEvent.ask = [] := by
    rw [List.filterMap_cons, silent]
    rfl
  split
  · split
    · exact .quiet [ev] (congrArg (· ++ [ev]) told) quiet ids active nextTabId
    · exact .quiet [ev] (congrArg (· ++ [ev]) told) quiet ids active nextTabId
  · split
    · exact .idle told ids active nextTabId
    · exact .idle told ids active nextTabId

theorem took_onMouseButton {x y : Int32} {button : UInt32} {pressed : Bool} :
    Yields (core.onMouseButton build x y button pressed) (Took core) := by
  refine .ite (fun _ => .ite (fun _ => ?_) fun _ => .pure (.idle rfl rfl rfl rfl)) fun _ => .pure ?_
  · intro next clicked
    exact (took_handleChromeClick next clicked).congr rfl rfl rfl rfl
  · exact took_contentClick rfl rfl rfl rfl rfl

theorem took_onScroll (dx dy : Int32) : Took core (core.onScroll dx dy) := by
  unfold onScroll
  split
  · exact took_emitInput rfl
  · exact .refl core

theorem took_onResize (w h : UInt32) : Took core (core.onResize w h) := by
  unfold onResize
  simp only
  split
  · exact .quiet [.resize _ _] rfl rfl rfl rfl rfl
  · exact .refl core

theorem taken_ite {α : Type} {good : α → Prop} {condition : Prop} [Decidable condition] {first : α}
    {rest : Option α} (now : good first) (later : ∀ taken ∈ rest, good taken) :
    ∀ taken ∈ (if condition then some first else rest), good taken := by
  intro taken member
  split at member
  · cases member
    exact now
  · exact later taken member

theorem took_onCtrlKey {keysym : UInt32} :
    ∀ taken ∈ core.onCtrlKey build keysym, Yields taken (Took core) := by
  unfold onCtrlKey
  refine taken_ite ?location <| taken_ite took_newTab <| taken_ite ?close <| taken_ite ?reload <|
    taken_ite ?mute <| taken_ite took_zoomIn <| taken_ite ?zoomOut <| taken_ite ?zoom <|
    taken_ite ?next fun _ absent => absurd absent (Option.not_mem_none _)
  case location => exact .pure (.idle rfl rfl rfl rfl)
  case close =>
    refine .pure ?_
    split
    · exact took_closeActiveTab
    · exact .refl core
  case reload => exact .pure (took_emitInput rfl)
  case mute => exact .pure (.idle rfl rfl rfl rfl)
  case zoomOut => exact .pure (took_setZoom _)
  case zoom => exact .pure (took_setZoom _)
  case next => exact .ite (fun _ => took_nextTab) fun _ => .pure (.refl core)

theorem took_onEditKey {keysym : UInt32} : ∀ next ∈ core.onEditKey keysym, Took core next := by
  unfold onEditKey
  refine taken_ite ?submit <| taken_ite ?leave <| taken_ite ?delete
    fun _ absent => absurd absent (Option.not_mem_none _)
  case submit => exact took_load _
  case leave => exact .idle rfl rfl rfl rfl
  case delete => exact .idle rfl rfl rfl rfl

theorem took_typeText (keysym : UInt32) (text : Option String) :
    Took core (core.typeText keysym text) := by
  unfold typeText
  split
  · exact .idle rfl rfl rfl rfl
  · split
    · exact .idle rfl rfl rfl rfl
    · exact .refl core

theorem took_onPlainKey (keysym : UInt32) (pressed modified : Bool) (text : Option String) :
    Took core (core.onPlainKey keysym pressed modified text) := by
  unfold onPlainKey
  split
  · split
    · exact took_typeText keysym text
    · exact .refl core
  · split
    · exact took_emitInput rfl
    · exact .refl core

theorem took_onKey {keysym : UInt32} {pressed : Bool} {text : Option String} :
    Yields (core.onKey build keysym pressed text) fun result => Took core result.1 := by
  have plain (modified : Bool) : Took core (core.onPlainKey keysym pressed modified text) :=
    took_onPlainKey keysym pressed modified text
  refine .ite (fun _ => ?_) fun _ => .pure (plain _)
  refine .ite (fun _ => .pure (.refl core)) fun _ => .ite (fun _ => .pure (took_emitInput rfl)) fun _ => ?_
  refine .ite (fun _ => .pure (took_emitInput rfl)) fun _ => ?_
  refine .ite (fun _ => .pure (took_emitInput rfl)) fun _ => ?_
  split
  case h_1 taken shortcut =>
    refine .bind fun next returned => .pure ?_
    split at shortcut
    · exact took_onCtrlKey taken shortcut next returned
    · cases shortcut
  case h_2 =>
    split
    case h_1 taken edited =>
      split at edited
      · exact .pure (took_onEditKey taken edited)
      · cases edited
    case h_2 => exact .pure (plain _)

end BrowserCore

/-! ## Reports -/

/-- What an input asks of the host about tabs. -/
def Device.asks (build : Build) (core : BrowserCore) (device : Device) : List (Ask UInt32) :=
  match device.input build core with
  | .ok next =>
      (next.outboundInputs.drop core.outboundInputs.length).filterMap InputEvent.ask
  | .error _ => []

theorem took_input (build : Build) (core : BrowserCore) (device : Device) :
    Yields (device.input build core) (Took core) := by
  cases device with
  | modifiers mods => exact .pure (Took.idle rfl rfl rfl rfl)
  | key keysym pressed text =>
      exact .bind fun result returned => .pure (BrowserCore.took_onKey result returned)
  | button x y which pressed => exact BrowserCore.took_onMouseButton
  | motion x y => exact .pure (BrowserCore.took_onPointerMove x y)
  | scroll dx dy => exact .pure (BrowserCore.took_onScroll dx dy)
  | resize w h => exact .pure (BrowserCore.took_onResize w h)

theorem acted_input {build : Build} {core next : BrowserCore} {device : Device}
    (returned : device.input build core = .ok next) :
    TabAction core next (device.asks build core) ∧
      next.outboundInputs.filterMap InputEvent.ask =
        core.outboundInputs.filterMap InputEvent.ask ++ device.asks build core := by
  obtain ⟨added, told, acted⟩ := took_input build core device next returned
  have asks : device.asks build core = added.filterMap InputEvent.ask := by
    unfold Device.asks
    rw [returned]
    simp only
    rw [told, List.drop_left]
  rw [asks, told, List.filterMap_append]
  exact ⟨acted, rfl⟩

/-! ## Messages -/

def RenderEvent.tell : RenderEvent → Option (Tell UInt32)
  | .tabCreated tabId _ _ => some (.created tabId)
  | .tabClosed tabId => some (.closed tabId)
  | .tabActivated tabId => some (.selected tabId)
  | _ => none

/-- What a message tells about the tabs, the client learns. -/
inductive News (core next : BrowserCore) : Option (Tell UInt32) → Prop where
  | other : next.tabIds = core.tabIds → next.activeTabId = core.activeTabId → News core next none
  | created {tabId} : tabId ∈ next.tabIds →
      (∀ other, other ≠ tabId → (other ∈ next.tabIds ↔ other ∈ core.tabIds)) →
      next.activeTabId = core.activeTabId → News core next (some (.created tabId))
  | closed {tabId} : tabId ∉ next.tabIds →
      (∀ other, other ≠ tabId → (other ∈ next.tabIds ↔ other ∈ core.tabIds)) →
      (core.activeTabId ≠ tabId → next.activeTabId = core.activeTabId) →
      (core.Knows next.activeTabId) → News core next (some (.closed tabId))
  | selected : next.tabIds = core.tabIds → News core next (some (.selected next.activeTabId))

/-- The client learns and asks nothing. -/
structure Applied (core next : BrowserCore) (tell : Option (Tell UInt32)) : Prop where
  news : News core next tell
  outboundInputs : next.outboundInputs = core.outboundInputs
  nextTabId : core.nextTabId ≤ next.nextTabId

theorem Applied.idle {core next : BrowserCore} (ids : next.tabIds = core.tabIds)
    (active : next.activeTabId = core.activeTabId)
    (outboundInputs : next.outboundInputs = core.outboundInputs)
    (nextTabId : next.nextTabId = core.nextTabId) : Applied core next none :=
  ⟨.other ids active, outboundInputs, UInt32.le_of_eq nextTabId.symm⟩

theorem SameTabs.applied {core next : BrowserCore} (same : SameTabs core next) :
    Applied core next none :=
  .idle (congrArg (List.map TabInfo.id) same.tabs) same.activeTabId same.outboundInputs same.nextTabId

namespace BrowserCore

variable {build : Build} {core : BrowserCore}

theorem applied_modifyTab {next : BrowserCore} {tabId : UInt32} {change : TabInfo → TabInfo}
    (tabs : next.tabs = modifyFirst tabId change core.tabs) (keepsId : ∀ t, (change t).id = t.id)
    (active : next.activeTabId = core.activeTabId)
    (outboundInputs : next.outboundInputs = core.outboundInputs)
    (nextTabId : next.nextTabId = core.nextTabId) : Applied core next none := by
  refine .idle ?_ active outboundInputs nextTabId
  rw [tabIds, tabs]
  exact ids_modifyFirst keepsId core.tabs

theorem applied_onTabCreated (tabId : UInt32) (newTitle url : String) :
    Yields (core.onTabCreated build tabId newTitle url) fun next =>
      Applied core next (some (.created tabId)) := by
  refine .bind fun next _ => .pure ⟨?_, rfl, ?grown⟩
  case grown =>
    change core.nextTabId ≤ if core.nextTabId ≤ next then next else core.nextTabId
    split
    · assumption
    · exact UInt32.le_refl core.nextTabId
  cases found : core.findTab tabId with
  | none =>
      refine .created ?_ (fun other differs => ?_) rfl
      · simp [tabIds]
      · simp [tabIds, differs]
  | some t =>
      have member : tabId ∈ core.tabIds := by
        have same : t.id = tabId := by simpa using List.find?_some found
        exact List.mem_map.mpr ⟨t, List.mem_of_find?_eq_some found, same⟩
      have kept : (core.modifyTab tabId fun t =>
          { t with
            title := if newTitle.isEmpty then t.title else newTitle
            isSecure := if url.isEmpty then t.isSecure else isSecureUrl url
            url := if url.isEmpty then t.url else url }).tabIds = core.tabIds := by
        refine ids_modifyFirst ?_ core.tabs
        exact fun _ => rfl
      exact .created (kept.symm ▸ member) (fun other _ => kept.symm ▸ Iff.rfl) rfl

theorem onTabClosed_cases (tabId : UInt32) :
    (core.onTabClosed tabId).tabs = core.tabs.filter (·.id ≠ tabId) ∧
      (core.onTabClosed tabId).outboundInputs = core.outboundInputs ∧
      (core.onTabClosed tabId).nextTabId = core.nextTabId ∧
      ((core.onTabClosed tabId).activeTabId = core.activeTabId ∨
        core.activeTabId = tabId ∧ (core.onTabClosed tabId).activeTabId ∈ core.tabIds) := by
  unfold onTabClosed
  simp only
  split
  case isTrue shown =>
    split
    case h_1 first found =>
      have listed := (List.mem_filter.mp (List.mem_of_mem_head? found)).1
      exact ⟨rfl, rfl, rfl, .inr ⟨shown, List.mem_map_of_mem listed⟩⟩
    case h_2 => exact ⟨rfl, rfl, rfl, .inl rfl⟩
  case isFalse => exact ⟨rfl, rfl, rfl, .inl rfl⟩

theorem applied_onTabClosed (tabId : UInt32) :
    Applied core (core.onTabClosed tabId) (some (.closed tabId)) := by
  obtain ⟨tabs, outboundInputs, nextTabId, active⟩ := core.onTabClosed_cases tabId
  refine ⟨.closed ?_ (fun other differs => ?_) (fun shown => ?_) ?_, outboundInputs,
    UInt32.le_of_eq nextTabId.symm⟩
  · rw [tabIds, tabs]
    simp
  · rw [tabIds, tabs]
    exact mem_filter_of_ne differs
  · exact active.resolve_right fun replaced => shown replaced.1
  · exact active.symm.imp_left And.right

theorem onTabActivated_cases (tabId : UInt32) :
    (core.onTabActivated tabId).activeTabId = tabId ∧
      (core.onTabActivated tabId).outboundInputs = core.outboundInputs ∧
      (core.onTabActivated tabId).nextTabId = core.nextTabId := by
  unfold onTabActivated
  split
  · simp only
    split <;> exact ⟨rfl, rfl, rfl⟩
  case isFalse same => exact ⟨not_not.mp same, rfl, rfl⟩

theorem applied_onTabActivated (tabId : UInt32) :
    Applied core (core.onTabActivated tabId) (some (.selected tabId)) := by
  obtain ⟨shown, outboundInputs, nextTabId⟩ := core.onTabActivated_cases tabId
  have ids : (core.onTabActivated tabId).tabIds = core.tabIds :=
    congrArg (List.map TabInfo.id) (onTabActivated_tabs tabId)
  have news : News core (core.onTabActivated tabId)
      (some (.selected (core.onTabActivated tabId).activeTabId)) := .selected ids
  rw [shown] at news
  exact ⟨news, outboundInputs, UInt32.le_of_eq nextTabId.symm⟩

theorem applied_handleRenderEvent (rev : RenderEvent) :
    Yields (core.handleRenderEvent build rev) fun result => Applied core result.1 rev.tell := by
  cases rev with
  | quit => exact .pure (.idle rfl rfl rfl rfl)
  | frame f => exact .bind fun next returned => .pure (sameTabs_onFrame returned).applied
  | subframe s => exact .bind fun next returned => .pure (sameTabs_onSubframe returned).applied
  | tileData hash pixels =>
      refine .pure ?_
      unfold onTileData
      split <;> exact .idle rfl rfl rfl rfl
  | tileRef x y w h hash =>
      refine .pure ?_
      unfold onTileRef
      split <;> exact .idle rfl rfl rfl rfl
  | audio ptsUs channels sampleRate data =>
      refine .bind fun next returned => .pure ?_
      obtain ⟨duration, _, rest⟩ := bind_eq_ok returned
      obtain ⟨pts, _, result⟩ := bind_eq_ok rest
      cases result
      exact .idle rfl rfl rfl rfl
  | cursorShape shape => exact .pure (.idle rfl rfl rfl rfl)
  | loadState state => exact .pure (applied_modifyTab rfl (fun _ => rfl) rfl rfl rfl)
  | initialUrl url => exact .pure (applied_modifyTab rfl (fun _ => rfl) rfl rfl rfl)
  | urlChanged url => exact .pure (applied_modifyTab rfl (fun _ => rfl) rfl rfl rfl)
  | title newTitle => exact .pure (applied_modifyTab rfl (fun _ => rfl) rfl rfl rfl)
  | tabCreated tabId newTitle url =>
      exact .bind fun next returned => .pure (applied_onTabCreated tabId newTitle url next returned)
  | tabClosed tabId => exact .pure (applied_onTabClosed tabId)
  | tabActivated tabId => exact .pure (applied_onTabActivated tabId)
  | tabTitle tabId newTitle =>
      refine .pure (applied_modifyTab (onTabTitle_tabs tabId newTitle) (fun _ => rfl) ?_ ?_ ?_)
      all_goals
        unfold onTabTitle
        split <;> rfl
  | tabUrl tabId url =>
      refine .pure (applied_modifyTab (onTabUrl_tabs tabId url) (fun _ => rfl) ?_ ?_ ?_)
      all_goals
        unfold onTabUrl
        split <;> rfl

theorem applied_applyMessage (msg : Message) :
    Yields (core.applyMessage build msg) fun next =>
      Applied core next ((RenderEvent.fromProtoMessage msg).bind RenderEvent.tell) := by
  unfold applyMessage
  cases RenderEvent.fromProtoMessage msg with
  | none => exact .pure (.idle rfl rfl rfl rfl)
  | some rev =>
      exact .bind fun result returned => .pure (applied_handleRenderEvent rev result returned)

end BrowserCore

end ExoBrowser.Client
