import ExoBrowser.Client.TabProperties
import ExoBrowser.Host.Requests

/-!
# Titles and addresses

A host that switches tabs and retitles them, and a client that applies what the host
publishes. The messages of a switch about the title and the address carry no tab.
-/

set_option autoImplicit false

namespace ExoBrowser.Session

open Library Proto Host Client Checked

/-! ## Steps -/

inductive TitleEvent where
  | switchTab (tabId : UInt32) (tsUs : UInt64)
  | title (tabId : UInt32) (newTitle : String)
  | url (tabId : UInt32) (newUrl : String)

def TitleEvent.publish (host : HostState) : TitleEvent → HostState × List Message
  | .switchTab tabId tsUs => host.switchTab tabId tsUs
  | .title tabId newTitle => host.receiveTitle tabId newTitle
  | .url tabId newUrl => host.receiveUrl tabId newUrl

/-- The host takes an event, and the client applies what is published, in that order. -/
def titleStep (build : Build) : Step (HostState × BrowserCore) TitleEvent Message :=
  fun (host, core) event published (nextHost, nextCore) =>
    event.publish host = (nextHost, published) ∧
      published.foldlM (BrowserCore.applyMessage build) core = .ok nextCore

/-! ## Agreement -/

def entry (t : TabInfo) : TabEntry := { url := t.url, title := t.title }

/-- A list of tabs says what a table says. -/
def Lists (tabs : List TabInfo) (table : UInt32 → Option TabEntry) : Prop :=
  ∀ tabId, table tabId = (tabs.find? (·.id = tabId)).map entry

/-- The client lists every tab of the host once, with the title and the address that the
host has for it. -/
structure Agrees (state : HostState × BrowserCore) : Prop where
  distinct : (state.2.tabs.map (·.id)).Nodup
  entries : Lists state.2.tabs state.1.tabs

/-- The texts that an event publishes without a tab are those of the tab that the client
holds active. -/
def TitleEvent.Attributed (state : HostState × BrowserCore) (event : TitleEvent) : Prop :=
  ∀ shown, state.1.tabs state.2.activeTabId = some shown →
    match event with
    | .switchTab tabId _ => ∀ tab, state.1.tabs tabId = some tab → tab = shown
    | .title tabId newTitle =>
        state.1.activeTabId = tabId → tabId ≠ state.2.activeTabId → newTitle = shown.title
    | .url tabId newUrl =>
        state.1.activeTabId = tabId → tabId ≠ state.2.activeTabId → newUrl = shown.url

/-! ## One tab changes -/

/-- A change of a tab on both sides, which does no more when it is done again. -/
structure TabChange where
  tab : TabInfo → TabInfo
  table : TabEntry → TabEntry
  keepsId : ∀ t, (tab t).id = t.id
  same : ∀ t, entry (tab t) = table (entry t)
  settled : ∀ shown, table (table shown) = table shown

namespace TabChange

def retitle (newTitle : String) : TabChange where
  tab := fun t => { t with title := newTitle }
  table := fun shown => { shown with title := newTitle }
  keepsId := fun _ => rfl
  same := fun _ => rfl
  settled := fun _ => rfl

def readdress (newUrl : String) : TabChange where
  tab := fun t => { t with url := newUrl, isSecure := isSecureUrl newUrl }
  table := fun shown => { shown with url := newUrl }
  keepsId := fun _ => rfl
  same := fun _ => rfl
  settled := fun _ => rfl

def both (tab : TabEntry) : TabChange where
  tab := fun t => { t with title := tab.title, url := tab.url, isSecure := isSecureUrl tab.url }
  table := fun _ => tab
  keepsId := fun _ => rfl
  same := fun _ => rfl
  settled := fun _ => rfl

end TabChange

section Changes

variable {tabs : List TabInfo} {table : UInt32 → Option TabEntry}

theorem Lists.modify (lists : Lists tabs table) (change : TabChange) (tabId : UInt32) :
    Lists (modifyFirst tabId change.tab tabs)
      (Function.update table tabId ((table tabId).map change.table)) := by
  intro other
  rw [find_modifyFirst change.keepsId]
  by_cases here : other = tabId
  · subst here
    rw [if_pos rfl, Function.update_self, lists other, Option.map_map, Option.map_map]
    congr 1
    funext t
    exact (change.same t).symm
  · rw [if_neg here, Function.update_of_ne here, lists other]

/-- A change of the list alone goes unnoticed if and only if it changes no entry. -/
theorem Lists.modify_alone_iff (lists : Lists tabs table) (change : TabChange) (tabId : UInt32) :
    Lists (modifyFirst tabId change.tab tabs) table ↔
      ∀ shown, table tabId = some shown → change.table shown = shown := by
  have changed := lists.modify change tabId
  constructor
  · intro kept shown found
    have now := (kept tabId).trans (changed tabId).symm
    rw [Function.update_self, found] at now
    exact (Option.some.inj now).symm
  · intro unnoticed
    cases found : table tabId with
    | none =>
        rw [found, Option.map_none, ← found, Function.update_eq_self] at changed
        exact changed
    | some shown =>
        rw [found, Option.map_some, unnoticed shown found, ← found, Function.update_eq_self] at changed
        exact changed

/-- A change of a tab on both sides, and then of the tab that the list holds active. -/
theorem Lists.modify_twice_iff (lists : Lists tabs table) (change : TabChange)
    (tabId active : UInt32) :
    Lists (modifyFirst active change.tab (modifyFirst tabId change.tab tabs))
        (Function.update table tabId ((table tabId).map change.table)) ↔
      ∀ shown, table active = some shown → tabId ≠ active → change.table shown = shown := by
  rw [(lists.modify change tabId).modify_alone_iff change active]
  by_cases here : active = tabId
  · subst here
    refine iff_of_true (fun shown found => ?_) fun _ _ differs => absurd rfl differs
    rw [Function.update_self] at found
    obtain ⟨before, _, rfl⟩ := Option.map_eq_some_iff.mp found
    exact change.settled before
  · rw [Function.update_of_ne here]
    exact forall₂_congr fun shown _ => ⟨fun kept _ => kept, fun kept => kept (Ne.symm here)⟩

end Changes

/-! ## One event -/

section Events

variable {build : Build} {host : HostState} {core nextCore : BrowserCore}

/-- A change of a tab that is told by its id, and without one where the host holds the tab
active. -/
theorem Agrees.change_iff (agrees : Agrees (host, core)) (change : TabChange) (tabId : UInt32)
    {nextHost : HostState} (table : nextHost.tabs =
      Function.update host.tabs tabId ((host.tabs tabId).map change.table))
    (tabs : nextCore.tabs =
      if host.activeTabId = tabId then
        modifyFirst core.activeTabId change.tab (modifyFirst tabId change.tab core.tabs)
      else modifyFirst tabId change.tab core.tabs) :
    Agrees (nextHost, nextCore) ↔
      ∀ shown, host.tabs core.activeTabId = some shown → host.activeTabId = tabId →
        tabId ≠ core.activeTabId → change.table shown = shown := by
  have sameIds : nextCore.tabs.map (·.id) = core.tabs.map (·.id) := by
    rw [tabs]
    split
    · rw [ids_modifyFirst change.keepsId, ids_modifyFirst change.keepsId]
    · rw [ids_modifyFirst change.keepsId]
  have lists : Agrees (nextHost, nextCore) ↔ Lists nextCore.tabs nextHost.tabs := by
    refine ⟨Agrees.entries, fun lists => ⟨?_, lists⟩⟩
    rw [sameIds]
    exact agrees.distinct
  rw [lists, table, tabs]
  by_cases active : host.activeTabId = tabId
  · rw [if_pos active, agrees.entries.modify_twice_iff]
    exact forall₂_congr fun shown _ => ⟨fun kept _ => kept, fun kept => kept active⟩
  · rw [if_neg active]
    exact iff_of_true (agrees.entries.modify change tabId) fun _ _ same => absurd same active

theorem title_agrees_iff (agrees : Agrees (host, core)) {tabId : UInt32} {newTitle : String}
    (returned : (host.receiveTitle tabId newTitle).2.foldlM (BrowserCore.applyMessage build) core =
      .ok nextCore) :
    Agrees ((host.receiveTitle tabId newTitle).1, nextCore) ↔
      (TitleEvent.title tabId newTitle).Attributed (host, core) := by
  have tabs : nextCore.tabs = if host.activeTabId = tabId then
      modifyFirst core.activeTabId (TabChange.retitle newTitle).tab
        (modifyFirst tabId (TabChange.retitle newTitle).tab core.tabs)
      else modifyFirst tabId (TabChange.retitle newTitle).tab core.tabs := by
    unfold HostState.receiveTitle HostState.ifActive at returned
    split at returned
    case isTrue active =>
      cases returned
      rw [if_pos active]
      change modifyFirst (core.onTabTitle tabId newTitle).activeTabId _
        (core.onTabTitle tabId newTitle).tabs = _
      rw [BrowserCore.onTabTitle_activeTabId, BrowserCore.onTabTitle_tabs]
      rfl
    case isFalse inactive =>
      cases returned
      rw [if_neg inactive]
      exact BrowserCore.onTabTitle_tabs tabId newTitle
  rw [agrees.change_iff (.retitle newTitle) tabId rfl tabs]
  refine forall₂_congr fun shown _ => forall₂_congr fun _ _ => ?_
  constructor
  · intro same
    exact congrArg TabEntry.title same
  · rintro rfl
    rfl

theorem url_agrees_iff (agrees : Agrees (host, core)) {tabId : UInt32} {newUrl : String}
    (returned : (host.receiveUrl tabId newUrl).2.foldlM (BrowserCore.applyMessage build) core =
      .ok nextCore) :
    Agrees ((host.receiveUrl tabId newUrl).1, nextCore) ↔
      (TitleEvent.url tabId newUrl).Attributed (host, core) := by
  have tabs : nextCore.tabs = if host.activeTabId = tabId then
      modifyFirst core.activeTabId (TabChange.readdress newUrl).tab
        (modifyFirst tabId (TabChange.readdress newUrl).tab core.tabs)
      else modifyFirst tabId (TabChange.readdress newUrl).tab core.tabs := by
    unfold HostState.receiveUrl HostState.ifActive at returned
    split at returned
    case isTrue active =>
      cases returned
      rw [if_pos active]
      change modifyFirst (core.onTabUrl tabId newUrl).activeTabId _
        (core.onTabUrl tabId newUrl).tabs = _
      rw [BrowserCore.onTabUrl_activeTabId, BrowserCore.onTabUrl_tabs]
      rfl
    case isFalse inactive =>
      cases returned
      rw [if_neg inactive]
      exact BrowserCore.onTabUrl_tabs tabId newUrl
  rw [agrees.change_iff (.readdress newUrl) tabId rfl tabs]
  refine forall₂_congr fun shown _ => forall₂_congr fun _ _ => ?_
  constructor
  · intro same
    exact congrArg TabEntry.url same
  · rintro rfl
    rfl

/-- The texts of a switch go to the tab that was active before. -/
theorem applied_switch {tab : TabEntry} {frames : List Message} {tabId : UInt32}
    (frame : ∀ core next, frames.foldlM (BrowserCore.applyMessage build) core = .ok next →
      SameTabs core next)
    (returned : (frames ++ ([.title tab.title, .urlChanged tab.url, .tabActivated tabId] :
      List Message)).foldlM (BrowserCore.applyMessage build) core = .ok nextCore) :
    nextCore.tabs = modifyFirst core.activeTabId (TabChange.both tab).tab core.tabs := by
  rw [List.foldlM_append] at returned
  obtain ⟨framed, applied, rest⟩ := bind_eq_ok returned
  obtain ⟨tabs, active, _, _⟩ := frame core framed applied
  have texts : [Message.title tab.title, .urlChanged tab.url, .tabActivated tabId].foldlM
      (BrowserCore.applyMessage build) framed =
        .ok (((framed.onTitle tab.title).onUrlChanged tab.url).onTabActivated tabId) := rfl
  rw [texts] at rest
  cases rest
  rw [BrowserCore.onTabActivated_tabs]
  change modifyFirst framed.activeTabId (TabChange.readdress tab.url).tab
    (modifyFirst framed.activeTabId (TabChange.retitle tab.title).tab framed.tabs) = _
  rw [modifyFirst_modifyFirst (TabChange.retitle tab.title).keepsId, active, tabs]
  rfl

theorem switch_agrees_iff (agrees : Agrees (host, core)) {tabId : UInt32} {tsUs : UInt64}
    (returned : (host.switchTab tabId tsUs).2.foldlM (BrowserCore.applyMessage build) core =
      .ok nextCore) :
    Agrees ((host.switchTab tabId tsUs).1, nextCore) ↔
      (TitleEvent.switchTab tabId tsUs).Attributed (host, core) := by
  unfold HostState.switchTab at returned ⊢
  cases found : host.tabs tabId with
  | none =>
      rw [found] at returned
      cases returned
      refine iff_of_true ⟨agrees.distinct, agrees.entries⟩ fun shown _ tab absent => ?_
      rw [found] at absent
      cases absent
  | some tab =>
      rw [found] at returned
      simp only at returned ⊢
      have switched := applied_switch (fun core next applied => ?frame) returned
      case frame =>
        revert applied
        cases host.lastFrames tabId with
        | none =>
            intro applied
            cases applied
            exact ⟨rfl, rfl, rfl, rfl⟩
        | some f =>
            intro applied
            obtain ⟨framed, handled, rest⟩ := bind_eq_ok applied
            cases rest
            obtain ⟨drawn, queued, result⟩ := bind_eq_ok handled
            cases result
            obtain ⟨updated, received, same⟩ := bind_eq_ok queued
            cases same
            exact BrowserCore.sameTabs_onFrame received
      have sameIds : nextCore.tabs.map (·.id) = core.tabs.map (·.id) := by
        rw [switched, ids_modifyFirst (TabChange.both tab).keepsId]
      have lists : Agrees ({ host with activeTabId := tabId }, nextCore) ↔
          Lists (modifyFirst core.activeTabId (TabChange.both tab).tab core.tabs) host.tabs := by
        rw [← switched]
        refine ⟨Agrees.entries, fun lists => ⟨?_, lists⟩⟩
        rw [sameIds]
        exact agrees.distinct
      rw [lists, agrees.entries.modify_alone_iff]
      constructor
      · intro unnoticed shown present other same
        rw [found] at same
        cases same
        exact unnoticed shown present
      · intro attributed shown present
        exact attributed shown present tab found

end Events

/-! ## Sequences of events -/

theorem titleStep_agrees_iff {build : Build} {state next : HostState × BrowserCore}
    {event : TitleEvent} {published : List Message} (agrees : Agrees state)
    (stepped : titleStep build state event published next) :
    Agrees next ↔ event.Attributed state := by
  obtain ⟨host, core⟩ := state
  obtain ⟨nextHost, nextCore⟩ := next
  obtain ⟨taken, applied⟩ := stepped
  obtain rfl : nextHost = (event.publish host).1 := congrArg Prod.fst taken.symm
  obtain rfl : published = (event.publish host).2 := congrArg Prod.snd taken.symm
  cases event with
  | switchTab tabId tsUs => exact switch_agrees_iff agrees applied
  | title tabId newTitle => exact title_agrees_iff agrees applied
  | url tabId newUrl => exact url_agrees_iff agrees applied

/-- The client keeps the titles and addresses of the host through a sequence of events if and
only if no event brings, without a tab, a text that the tab it goes to does not have. -/
theorem titles_attributed_iff (build : Build) (start state : HostState × BrowserCore)
    (events : List TitleEvent) (published : List Message) (agrees : Agrees start) :
    Runs ((titleStep build).keeping Agrees) start events published state ↔
      Runs ((titleStep build).guarded TitleEvent.Attributed) start events published state :=
  Runs.keeping_iff_guarded agrees fun _ _ _ _ agreed stepped => titleStep_agrees_iff agreed stepped

section Examples

/-- Two tabs, of which the first is active. -/
def twoTabs : HostState × BrowserCore :=
  (((HostState.new "a").createTab 2 "b" false 0).1,
    { BrowserCore.newNoStd 640 480 "a" false with
      tabs := [
        { id := 1, title := "New Tab", url := "a", isLoading := false, isSecure := false },
        { id := 2, title := "New Tab", url := "b", isLoading := false, isSecure := false }]
      nextTabId := 3 })

theorem twoTabs_agrees : Agrees twoTabs where
  distinct := by decide
  entries := by
    intro tabId
    by_cases second : tabId = 2
    · subst second
      rfl
    · by_cases first : tabId = 1
      · subst first
        rfl
      · have absent : twoTabs.1.tabs tabId = none := by
          change Function.update (HostState.new "a").tabs 2 _ tabId = none
          rw [Function.update_of_ne second]
          exact Function.update_of_ne first _ fun _ => none
        have unlisted : twoTabs.2.tabs.find? (·.id = tabId) = none := by
          rw [List.find?_eq_none]
          simp [twoTabs, Ne.symm first, Ne.symm second]
        rw [absent, unlisted]
        rfl

theorem titles_attributed_retitled :
    ∃ published state, Runs ((titleStep ⟨true⟩).keeping Agrees) twoTabs [.title 1 "A"]
      published state := by
  have titled : (titleStep ⟨true⟩).guarded TitleEvent.Attributed twoTabs (.title 1 "A") _
      ((twoTabs.1.receiveTitle 1 "A").1, (twoTabs.2.onTabTitle 1 "A").onTitle "A") :=
    ⟨fun _ _ _ other => absurd rfl other, rfl, rfl⟩
  exact ⟨_, _, (titles_attributed_iff ⟨true⟩ twoTabs _ _ _ twoTabs_agrees).mpr (.single titled)⟩

/-- A switch to the second tab gives the first one its address. -/
theorem switch_readdresses_first :
    ∃ published state, Runs (titleStep ⟨true⟩) twoTabs [.switchTab 2 0] published state ∧
      Agrees twoTabs ∧ twoTabs.1.activeTabId = twoTabs.2.activeTabId ∧
      (state.1.tabs 1).map (·.url) = some "a" ∧ (state.2.findTab 1).map (·.url) = some "b" := by
  have switched : titleStep ⟨true⟩ twoTabs (.switchTab 2 0) _
      ((twoTabs.1.switchTab 2 0).1,
        ((twoTabs.2.onTitle "New Tab").onUrlChanged "b").onTabActivated 2) := ⟨rfl, rfl⟩
  exact ⟨_, _, .single switched, twoTabs_agrees, rfl, rfl, rfl⟩

end Examples

end ExoBrowser.Session
