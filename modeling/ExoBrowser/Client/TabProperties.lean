import ExoBrowser.Client.Input

/-!
# Tabs of the client

What messages from the host do to the list of tabs and to the active tab.
-/

set_option autoImplicit false

namespace ExoBrowser.Client

open Library Proto Checked

/-! ## The list -/

theorem find_modifyFirst {tabId : UInt32} {change : TabInfo → TabInfo}
    (keepsId : ∀ t, (change t).id = t.id) (tabs : List TabInfo) (other : UInt32) :
    (modifyFirst tabId change tabs).find? (·.id = other) =
      if other = tabId then (tabs.find? (·.id = other)).map change
      else tabs.find? (·.id = other) := by
  induction tabs with
  | nil => split <;> rfl
  | cons t rest ih =>
      rw [modifyFirst]
      by_cases here : t.id = tabId
      · rw [if_pos here]
        by_cases same : other = tabId
        · simp [same, keepsId, here]
        · simp [same, keepsId, here, Ne.symm same]
      · rw [if_neg here]
        by_cases found : t.id = other
        · have differs : other ≠ tabId := fun same => here (found.trans same)
          simp [found, differs]
        · simp only [List.find?_cons, found, decide_false, ih]

theorem modifyFirst_of_none {tabId : UInt32} {tabs : List TabInfo}
    (absent : tabs.find? (·.id = tabId) = none) (change : TabInfo → TabInfo) :
    modifyFirst tabId change tabs = tabs := by
  induction tabs with
  | nil => rfl
  | cons t rest ih =>
      obtain ⟨here, later⟩ := List.forall_mem_cons.mp (List.find?_eq_none.mp absent)
      rw [modifyFirst, if_neg (by simpa using here), ih (List.find?_eq_none.mpr later)]

theorem modifyFirst_modifyFirst {tabId : UInt32} {first : TabInfo → TabInfo}
    (keepsId : ∀ t, (first t).id = t.id) (second : TabInfo → TabInfo) (tabs : List TabInfo) :
    modifyFirst tabId second (modifyFirst tabId first tabs) =
      modifyFirst tabId (second ∘ first) tabs := by
  induction tabs with
  | nil => rfl
  | cons t rest ih =>
      rw [modifyFirst, modifyFirst]
      by_cases here : t.id = tabId
      · rw [if_pos here, if_pos here, modifyFirst, keepsId, if_pos here]
        rfl
      · rw [if_neg here, if_neg here, modifyFirst, if_neg here, ih]

theorem ids_modifyFirst {tabId : UInt32} {change : TabInfo → TabInfo}
    (keepsId : ∀ t, (change t).id = t.id) (tabs : List TabInfo) :
    (modifyFirst tabId change tabs).map (·.id) = tabs.map (·.id) := by
  induction tabs with
  | nil => rfl
  | cons t rest ih =>
      rw [modifyFirst]
      split
      · rw [List.map_cons, List.map_cons, keepsId]
      · rw [List.map_cons, List.map_cons, ih]

/-! ## Messages that are not about tabs -/

structure SameTabs (core next : BrowserCore) : Prop where
  tabs : next.tabs = core.tabs
  activeTabId : next.activeTabId = core.activeTabId
  nextTabId : next.nextTabId = core.nextTabId
  outboundInputs : next.outboundInputs = core.outboundInputs

namespace BrowserCore

variable {build : Build} {core next : BrowserCore}

theorem sameTabs_onFrame {f : GfxFrame} (returned : core.onFrame build f = .ok next) :
    SameTabs core next := by
  obtain rfl | ⟨_, seen, rfl⟩ := onFrame_eq_ok returned
  · exact ⟨rfl, rfl, rfl, rfl⟩
  · exact ⟨rfl, rfl, rfl, rfl⟩

theorem sameTabs_onSubframe {s : GfxSubframe} (returned : core.onSubframe build s = .ok next) :
    SameTabs core next := by
  obtain rfl | ⟨_, seen, rfl⟩ := onSubframe_eq_ok returned
  · exact ⟨rfl, rfl, rfl, rfl⟩
  · exact ⟨rfl, rfl, rfl, rfl⟩

theorem onTabTitle_tabs (tabId : UInt32) (newTitle : String) :
    (core.onTabTitle tabId newTitle).tabs =
      modifyFirst tabId (fun t => { t with title := newTitle }) core.tabs := by
  unfold onTabTitle
  split
  case h_1 => rfl
  case h_2 absent => exact (modifyFirst_of_none absent _).symm

theorem onTabUrl_tabs (tabId : UInt32) (url : String) :
    (core.onTabUrl tabId url).tabs =
      modifyFirst tabId (fun t => { t with url, isSecure := isSecureUrl url }) core.tabs := by
  unfold onTabUrl
  split
  case h_1 => rfl
  case h_2 absent => exact (modifyFirst_of_none absent _).symm

theorem onTabTitle_activeTabId (tabId : UInt32) (newTitle : String) :
    (core.onTabTitle tabId newTitle).activeTabId = core.activeTabId := by
  unfold onTabTitle
  split <;> rfl

theorem onTabUrl_activeTabId (tabId : UInt32) (url : String) :
    (core.onTabUrl tabId url).activeTabId = core.activeTabId := by
  unfold onTabUrl
  split <;> rfl

theorem onTabActivated_tabs (tabId : UInt32) : (core.onTabActivated tabId).tabs = core.tabs := by
  unfold onTabActivated
  split
  · simp only
    split <;> rfl
  · rfl

end BrowserCore

/-! ## Messages that are not about pictures -/

/-- No tab has a buffer. -/
def BrowserCore.Unbuffered (core : BrowserCore) : Prop :=
  core.activeBuf = none ∧ ∀ tabId, core.tabComposites tabId = none

/-- The pictures, their count and what is drawn over them stay. No tab gets a buffer. -/
structure SamePictures (core next : BrowserCore) : Prop where
  pendingFrames : next.pendingFrames = core.pendingFrames
  pendingSubframes : next.pendingSubframes = core.pendingSubframes
  pendingTiles : next.pendingTiles = core.pendingTiles
  tileCache : next.tileCache = core.tileCache
  framesSeen : next.framesSeen = core.framesSeen
  statusToastText : next.statusToastText = core.statusToastText
  synthCursor : next.synthCursor = core.synthCursor
  unbuffered : core.Unbuffered → next.Unbuffered

theorem SamePictures.refl (core : BrowserCore) : SamePictures core core :=
  ⟨rfl, rfl, rfl, rfl, rfl, rfl, rfl, id⟩

def RenderEvent.Pictureless : RenderEvent → Prop
  | .frame _ | .subframe _ | .tileData .. | .tileRef .. => False
  | _ => True

namespace BrowserCore

variable {build : Build} {core : BrowserCore}

theorem samePictures_removeComposite (tabId : UInt32) :
    SamePictures core (core.removeComposite tabId) := by
  refine { SamePictures.refl core with unbuffered := fun bare => ⟨bare.1, fun key => ?_⟩ }
  change (if key = tabId then none else core.tabComposites key) = none
  rw [bare.2, ite_self]

/-- Where no tab has a buffer, none is stored and none is found. -/
theorem samePictures_activateBuf (tabId : UInt32) : SamePictures core (core.activateBuf tabId) := by
  refine { SamePictures.refl core with unbuffered := fun bare => ?_ }
  unfold activateBuf
  rw [bare.1]
  refine ⟨bare.2 tabId, fun key => ?_⟩
  change (if key = tabId then none else core.tabComposites key) = none
  rw [bare.2, ite_self]

theorem samePictures_onTabClosed (tabId : UInt32) : SamePictures core (core.onTabClosed tabId) := by
  have removed : SamePictures core (core.removeComposite tabId) := samePictures_removeComposite tabId
  unfold onTabClosed
  split
  case isTrue =>
    simp only
    split
    case h_1 first _ =>
      have again : SamePictures (core.removeComposite tabId)
          ((core.removeComposite tabId).removeComposite first.id) :=
        samePictures_removeComposite first.id
      exact {
        SamePictures.refl core with
        unbuffered := fun bare =>
          ⟨(removed.unbuffered bare).2 first.id, (again.unbuffered (removed.unbuffered bare)).2⟩ }
    case h_2 => exact { removed with }
  case isFalse => exact { removed with }

theorem samePictures_onTabActivated (tabId : UInt32) :
    SamePictures core (core.onTabActivated tabId) := by
  have switched : SamePictures core (core.activateBuf tabId) := samePictures_activateBuf tabId
  unfold onTabActivated
  split
  case isTrue =>
    simp only
    split
    case h_1 => exact { switched with }
    case h_2 => exact { switched with }
  case isFalse => exact { SamePictures.refl core with }

theorem samePictures_onTabTitle (tabId : UInt32) (newTitle : String) :
    SamePictures core (core.onTabTitle tabId newTitle) := by
  unfold onTabTitle
  split
  case h_1 => exact { SamePictures.refl core with }
  case h_2 => exact .refl core

theorem samePictures_onTabUrl (tabId : UInt32) (url : String) :
    SamePictures core (core.onTabUrl tabId url) := by
  unfold onTabUrl
  split
  case h_1 => exact { SamePictures.refl core with }
  case h_2 => exact .refl core

theorem samePictures_handleRenderEvent {event : RenderEvent} (pictureless : event.Pictureless) :
    Yields (core.handleRenderEvent build event) fun result => SamePictures core result.1 := by
  cases event with
  | frame | subframe | tileData | tileRef => exact pictureless.elim
  | audio ptsUs channels sampleRate data =>
      have played : Yields (core.onAudio build ptsUs channels sampleRate data) (SamePictures core) :=
        .bind fun _ _ => .bind fun _ _ => .pure { SamePictures.refl core with }
      exact .bind fun next returned => .pure (played next returned)
  | tabCreated tabId newTitle url =>
      have created : Yields (core.onTabCreated build tabId newTitle url) (SamePictures core) :=
        .bind fun _ _ => .pure { SamePictures.refl core with }
      exact .bind fun next returned => .pure (created next returned)
  | tabClosed tabId => exact .pure (samePictures_onTabClosed tabId)
  | tabActivated tabId => exact .pure (samePictures_onTabActivated tabId)
  | tabTitle tabId newTitle => exact .pure (samePictures_onTabTitle tabId newTitle)
  | tabUrl tabId url => exact .pure (samePictures_onTabUrl tabId url)
  | quit | cursorShape | loadState | initialUrl | urlChanged | title =>
      exact .pure { SamePictures.refl core with }

end BrowserCore

end ExoBrowser.Client
