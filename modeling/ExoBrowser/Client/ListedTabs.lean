import ExoBrowser.Client.FreshTabs

/-!
# The active tab

The client shows a tab that it lists, unless the host has it show another one.
-/

set_option autoImplicit false

namespace ExoBrowser.Client

open Library Proto Checked

namespace Strip

variable {s : Strip}

/-- The active tab is listed, if any is. -/
def Listed (s : Strip) : Prop := s.tabs = [] ∨ s.activeTabId ∈ s.ids

/-- The host has the client show a tab that is listed, and the first tab of an empty list
is the active one. -/
def KeepsListed (s : Strip) : StripAction → Prop
  | .activated tabId => s.tabs = [] ∨ tabId ∈ s.ids
  | .created tabId _ _ => s.tabs = [] → tabId = s.activeTabId
  | _ => True

theorem ids_eq_nil_iff : s.ids = [] ↔ s.tabs = [] := List.map_eq_nil_iff

theorem Listed.of_eq {next : Strip} (listed : s.Listed) (ids : next.ids = s.ids)
    (active : next.activeTabId = s.activeTabId) : next.Listed := by
  unfold Listed
  rw [← ids_eq_nil_iff, ids, active, ids_eq_nil_iff]
  exact listed

theorem listed_showFirst (s : Strip) : s.showFirst.Listed := by
  cases found : s.tabs.head? with
  | none =>
      rw [s.showFirst_of_none found]
      exact .inl (List.head?_eq_none_iff.mp found)
  | some first =>
      rw [s.showFirst_of_some found]
      exact .inr (List.mem_map_of_mem (List.mem_of_mem_head? found))

theorem Listed.without (listed : s.Listed) {tabId : UInt32} (other : s.activeTabId ≠ tabId) :
    (s.without tabId).Listed := by
  rcases listed with empty | member
  · left
    unfold Strip.without
    rw [empty]
    rfl
  · exact .inr ((BrowserCore.mem_filter_of_ne other).mpr member)

theorem Listed.eraseIdx (listed : s.Listed) {i : Nat} {tab : TabInfo} (here : s.tabs[i]? = some tab)
    (other : s.activeTabId ≠ tab.id) : Strip.Listed { s with tabs := s.tabs.eraseIdx i } := by
  rcases listed with empty | member
  · rw [empty] at here
    cases here
  · exact .inr ((BrowserCore.mem_eraseIdx_of_ne here other).mpr member)

theorem Listed.append_iff {next : Strip} {tabId : UInt32} (listed : s.Listed)
    (ids : next.ids = s.ids ++ [tabId]) (active : next.activeTabId = s.activeTabId) :
    next.Listed ↔ (s.tabs = [] → tabId = s.activeTabId) := by
  have grown : next.tabs ≠ [] := by
    rw [ne_eq, ← ids_eq_nil_iff, ids]
    exact List.append_ne_nil_of_right_ne_nil s.ids (List.cons_ne_nil _ _)
  have shown : next.Listed ↔ s.activeTabId ∈ s.ids ∨ s.activeTabId = tabId := by
    unfold Listed
    rw [or_iff_right grown, ids, active, List.mem_append, List.mem_singleton]
  rw [shown]
  rcases listed with empty | member
  · rw [ids_eq_nil_iff.mpr empty]
    constructor
    · rintro (absent | same) _
      · cases absent
      · exact same.symm
    · exact fun same => .inr (same empty).symm
  · refine iff_of_true (.inl member) fun empty => ?_
    rw [ids_eq_nil_iff.mpr empty] at member
    cases member

theorem listed_apply_iff (listed : s.Listed) (action : StripAction) :
    (action.apply s).Listed ↔ s.KeepsListed action := by
  cases action with
  | keep => exact iff_of_true listed trivial
  | edit text => exact iff_of_true (listed.of_eq rfl rfl) trivial
  | blur => exact iff_of_true (listed.of_eq rfl rfl) trivial
  | cancel => exact iff_of_true (listed.of_eq rfl rfl) trivial
  | load url => exact iff_of_true (listed.of_eq (ids_change s s.activeTabId fun _ => rfl) rfl) trivial
  | home => exact iff_of_true (listed.of_eq rfl rfl) trivial
  | newTab =>
      refine iff_of_true (.inr ?_) trivial
      exact List.mem_map_of_mem (List.mem_append_right s.tabs (List.mem_singleton_self _))
  | closeActive => exact iff_of_true (listed_showFirst _) trivial
  | closeAt i =>
      refine iff_of_true ?_ trivial
      cases here : s.tabs[i]? with
      | none =>
          rw [StripAction.closeAt_apply_of_none here]
          exact listed
      | some tab =>
          rw [StripAction.closeAt_apply here]
          split
          case isTrue => exact listed_showFirst _
          case isFalse other => exact listed.eraseIdx here other
  | showNext =>
      refine iff_of_true ?_ trivial
      cases chosen : s.nextTab with
      | none =>
          rw [StripAction.showNext_apply_of_none chosen]
          exact listed
      | some next =>
          rw [StripAction.showNext_apply chosen]
          exact .inr (List.mem_map_of_mem (List.mem_of_getElem? chosen))
  | click i =>
      refine iff_of_true ?_ trivial
      cases here : s.tabs[i]? with
      | none =>
          rw [StripAction.click_apply_of_none here]
          exact listed
      | some tab =>
          rw [StripAction.click_apply here]
          split
          case isTrue => exact .inr (List.mem_map_of_mem (List.mem_of_getElem? here))
          case isFalse => exact listed
  | loadState isLoading =>
      exact iff_of_true (listed.of_eq (ids_change s s.activeTabId fun _ => rfl) rfl) trivial
  | urlChanged url =>
      exact iff_of_true (listed.of_eq (ids_change s s.activeTabId fun _ => rfl) rfl) trivial
  | title newTitle =>
      exact iff_of_true (listed.of_eq (ids_change s s.activeTabId fun _ => rfl) rfl) trivial
  | created tabId newTitle url =>
      cases found : s.find tabId with
      | some t =>
          rw [StripAction.created_apply found]
          refine iff_of_true (listed.of_eq (ids_change s tabId fun _ => rfl) rfl) fun empty => ?_
          have member := mem_ids_of_find found
          rw [ids_eq_nil_iff.mpr empty] at member
          exact absurd member List.not_mem_nil
      | none =>
          rw [StripAction.created_apply_of_none found]
          exact listed.append_iff (List.map_append ..) rfl
  | closed tabId =>
      refine iff_of_true ?_ trivial
      rw [StripAction.closed_apply]
      split
      case isTrue => exact listed_showFirst _
      case isFalse other => exact listed.without other
  | activated tabId =>
      by_cases same : s.activeTabId = tabId
      · rw [StripAction.activated_apply_of_eq same, ← same]
        exact Iff.rfl
      · cases found : s.find tabId with
        | some t =>
            rw [StripAction.activated_apply same found]
            exact Iff.rfl
        | none =>
            rw [StripAction.activated_apply_of_none same found]
            exact Iff.rfl
  | tabTitle tabId newTitle =>
      exact iff_of_true (listed.of_eq (ids_change s tabId fun _ => rfl) rfl) trivial
  | tabUrl tabId url =>
      refine iff_of_true ?_ trivial
      cases found : s.find tabId with
      | some t =>
          rw [StripAction.tabUrl_apply found]
          exact listed.of_eq (ids_change s tabId fun _ => rfl) rfl
      | none =>
          rw [StripAction.tabUrl_apply_of_none found]
          exact listed

end Strip

/-! ## Runs -/

/-- The active tab is in the list, if any tab is. -/
def BrowserCore.ActiveListed (core : BrowserCore) : Prop :=
  core.tabs ≠ [] → ∃ t ∈ core.tabs, t.id = core.activeTabId

def StripEvent.KeepsListed (core : BrowserCore) : StripEvent → Prop
  | .told (.tabActivated tabId) => core.tabs ≠ [] → ∃ t ∈ core.tabs, t.id = tabId
  | .told (.tabCreated tabId _ _) => core.tabs = [] → tabId = core.activeTabId
  | _ => True

theorem activeListed_iff (core : BrowserCore) : core.ActiveListed ↔ core.strip.Listed := by
  unfold BrowserCore.ActiveListed Strip.Listed
  rw [or_iff_not_imp_left, Strip.ids, List.mem_map]
  rfl

section Runs

variable {build : Build} {painter : Painter} {core next : BrowserCore} {event : StripEvent}
  {added : List InputEvent}

theorem StripAction.OfUser.keepsListed {s : Strip} {action : StripAction} (ofUser : action.OfUser) :
    s.KeepsListed action := by
  cases action <;> trivial

theorem keepsListed_iff {action : StripAction} (means : event.action build core = .ok action) :
    core.strip.KeepsListed action ↔ event.KeepsListed core := by
  cases event with
  | reported device =>
      exact iff_of_true (ofUser_action build core device action means).keepsListed trivial
  | rendered buffer =>
      cases means
      exact Iff.rfl
  | encoded =>
      cases means
      exact Iff.rfl
  | told event =>
      cases means
      cases event with
      | tabActivated tabId =>
          change core.tabs = [] ∨ tabId ∈ core.tabs.map (·.id) ↔
            (core.tabs ≠ [] → ∃ t ∈ core.tabs, t.id = tabId)
          rw [or_iff_not_imp_left, List.mem_map]
      | _ => exact Iff.rfl

/-- The client's active tab stays listed through a run if and only if the host has the client
show listed tabs only, and tells of no other tab than the active one while none is listed. -/
theorem active_tab_listed_iff (build : Build) (painter : Painter) (width height : UInt32)
    (initialUrl : String) (editing : Bool) (events : List StripEvent) (emitted : List InputEvent)
    (core : BrowserCore) :
    Runs ((StripStep build painter).keeping BrowserCore.ActiveListed)
        (.newNoStd width height initialUrl editing) events emitted core ↔
      Runs ((StripStep build painter).guarded fun core event => event.KeepsListed core)
        (.newNoStd width height initialUrl editing) events emitted core := by
  refine Runs.keeping_iff_guarded (fun _ => ⟨_, List.mem_singleton_self _, rfl⟩) ?_
  intro core event added next listed stepped
  obtain ⟨action, means, applied⟩ := stepped.acts
  rw [activeListed_iff] at listed ⊢
  rw [applied, Strip.listed_apply_iff listed, keepsListed_iff means]

end Runs

/-- The host shows tab 7, of which the client has not heard. -/
theorem unlisted_tab_shown :
    ∃ (build : Build) (painter : Painter) (core : BrowserCore),
      Runs (StripStep build painter) (.newNoStd 640 480 "a" false) [.told (.tabActivated 7)] [] core ∧
      core.tabs ≠ [] ∧ core.activeTabId = 7 ∧ ¬ core.ActiveListed := by
  let core := (BrowserCore.newNoStd 640 480 "a" false).onTabActivated 7
  have tabs : core.tabs = (BrowserCore.newNoStd 640 480 "a" false).tabs :=
    BrowserCore.onTabActivated_tabs 7
  have shown : core.tabs ≠ [] := by
    rw [tabs]
    exact List.cons_ne_nil _ _
  refine ⟨⟨true⟩, Painter.blank, core, .single (.told rfl), shown, rfl, fun listed => ?_⟩
  obtain ⟨t, member, same⟩ := listed shown
  rw [tabs] at member
  rw [List.mem_singleton.mp member] at same
  exact absurd same (by decide : (1 : UInt32) ≠ 7)

end ExoBrowser.Client
