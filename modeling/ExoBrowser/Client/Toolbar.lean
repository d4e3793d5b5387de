import ExoBrowser.Client.FreshTabs

/-!
# The toolbar

The toolbar has a copy of the address and of the load state of the active tab. Some
actions change one of the two and not the other.
-/

set_option autoImplicit false

namespace ExoBrowser.Client

open Library Proto Checked

namespace Strip

variable {s : Strip}

/-- The copies are those of the active tab. An address that is edited is no copy. -/
def Mirrors (s : Strip) : Prop :=
  ∀ t ∈ s.activeTab, s.isLoading = t.isLoading ∧ (s.editing = false → s.urlBuf = t.url)

/-- What the tab must be like that an action leaves active. -/
def KeepsMirror (s : Strip) : StripAction → Prop
  | .blur => ∀ t ∈ s.activeTab, s.urlBuf = t.url
  | .home => ∀ t ∈ s.activeTab, homeUrl = t.url
  | .newTab =>
      match s.find s.nextTabId with
      | some t => s.isLoading = t.isLoading ∧ homeUrl = t.url
      | none => s.isLoading = true
  | .closeActive => ∀ first ∈ (s.without s.activeTabId).tabs.head?, s.isLoading = first.isLoading
  | .closeAt i => ∀ tab ∈ s.tabs[i]?, s.activeTabId = tab.id →
      ∀ first ∈ (s.tabs.eraseIdx i).head?, s.isLoading = first.isLoading
  | .showNext => ∀ next ∈ s.nextTab, ∀ t ∈ s.find next.id, s.isLoading = t.isLoading
  | .click i => ∀ tab ∈ s.tabs[i]?, s.activeTabId ≠ tab.id →
      ∀ t ∈ s.find tab.id, s.isLoading = t.isLoading ∧ tab.url = t.url
  | .created tabId _ url => tabId = s.activeTabId →
      match s.find tabId with
      | some t => s.editing = true ∨ url.isEmpty ∨ url = t.url
      | none => s.isLoading = false ∧ (s.editing = true ∨ s.urlBuf = url)
  | .closed tabId => s.activeTabId = tabId →
      ∀ first ∈ (s.without tabId).tabs.head?, s.isLoading = first.isLoading
  | _ => True

/-! ## What is found -/

theorem find_change (s : Strip) (tabId other : UInt32) {changed : TabInfo → TabInfo}
    (keepsId : ∀ t, (changed t).id = t.id) :
    (s.change tabId changed).find other =
      if other = tabId then (s.find other).map changed else s.find other :=
  find_modifyFirst keepsId s.tabs other

theorem activeTab_change_of_ne {tabId : UInt32} (other : tabId ≠ s.activeTabId)
    (changed : TabInfo → TabInfo) (keepsId : ∀ t, (changed t).id = t.id) :
    (s.change tabId changed).activeTab = s.activeTab :=
  (find_change s tabId s.activeTabId keepsId).trans (if_neg other.symm)

theorem activeTab_change {t : TabInfo} (found : s.activeTab = some t)
    (changed : TabInfo → TabInfo) (keepsId : ∀ t, (changed t).id = t.id) :
    (s.change s.activeTabId changed).activeTab = some (changed t) := by
  have searched := (find_change s s.activeTabId s.activeTabId keepsId).trans (if_pos rfl)
  rw [show s.find s.activeTabId = some t from found] at searched
  exact searched

theorem find_without {tabId other : UInt32} (differs : other ≠ tabId) :
    (s.without tabId).find other = s.find other := by
  unfold find without
  rw [List.find?_filter]
  congr 1
  funext t
  by_cases here : t.id = other
  · simp [here, differs]
  · simp [here]

theorem find_eraseIdx {i : Nat} {tab : TabInfo} (here : s.tabs[i]? = some tab) {other : UInt32}
    (differs : other ≠ tab.id) :
    Strip.find { s with tabs := s.tabs.eraseIdx i } other = s.find other := by
  change (s.tabs.eraseIdx i).find? (·.id = other) = s.tabs.find? (·.id = other)
  generalize s.tabs = tabs at here
  induction tabs generalizing i with
  | nil => rfl
  | cons t rest ih =>
      cases i with
      | zero =>
          cases here
          rw [List.eraseIdx_cons_zero, List.find?_cons_of_neg (by simpa using Ne.symm differs)]
      | succ i =>
          rw [List.eraseIdx_cons_succ, List.find?_cons, List.find?_cons, ih here]

theorem find_append {t : TabInfo} {other : UInt32} :
    (s.tabs ++ [t]).find? (·.id = other) =
      (s.find other).or (if t.id = other then some t else none) := by
  rw [List.find?_append]
  congr 1
  by_cases here : t.id = other
  · rw [if_pos here, List.find?_cons_of_pos (by simpa using here)]
  · rw [if_neg here, List.find?_cons_of_neg (by simpa using here), List.find?_nil]

theorem mirrors_iff {t : TabInfo} (found : s.activeTab = some t) :
    s.Mirrors ↔ s.isLoading = t.isLoading ∧ (s.editing = false → s.urlBuf = t.url) := by
  unfold Mirrors
  rw [found]
  exact ⟨fun mirrors => mirrors t rfl, fun same other member => by
    cases member
    exact same⟩

theorem mirrors_of_none (absent : s.activeTab = none) : s.Mirrors := by
  intro t found
  rw [absent] at found
  cases found

theorem mirrors_showFirst_iff (s : Strip) :
    s.showFirst.Mirrors ↔ ∀ first ∈ s.tabs.head?, s.isLoading = first.isLoading := by
  obtain ⟨tabs, activeTabId, nextTabId, urlBuf, editing, isLoading⟩ := s
  cases tabs with
  | nil => exact iff_of_true (mirrors_of_none rfl) fun _ absent => (by cases absent)
  | cons first rest =>
      have found : Strip.activeTab (Strip.showFirst
          { tabs := first :: rest, activeTabId, nextTabId, urlBuf, editing, isLoading }) = some first := by
        change (first :: rest).find? (fun t => t.id = first.id) = some first
        exact List.find?_cons_of_pos (decide_eq_true rfl)
      rw [mirrors_iff found]
      constructor
      · rintro ⟨loading, _⟩ head same
        cases same
        exact loading
      · exact fun loading => ⟨loading first rfl, fun _ => rfl⟩

/-- A change that the toolbar does not show. -/
theorem Mirrors.change (mirrors : s.Mirrors) (tabId : UInt32) {changed : TabInfo → TabInfo}
    (keepsId : ∀ t, (changed t).id = t.id) (keepsLoading : ∀ t, (changed t).isLoading = t.isLoading)
    (keepsUrl : ∀ t, (changed t).url = t.url) : (s.change tabId changed).Mirrors := by
  intro t found
  have searched : (s.change tabId changed).find s.activeTabId = some t := found
  rw [find_change _ _ _ keepsId] at searched
  split at searched
  · obtain ⟨before, shown, rfl⟩ := Option.map_eq_some_iff.mp searched
    rw [keepsLoading, keepsUrl]
    exact mirrors before shown
  · exact mirrors t searched

/-- The active tab is the one that is changed, and what is copied is what it is changed to. -/
theorem mirrors_change {changed : TabInfo → TabInfo} {urlBuf : String} {editing isLoading : Bool}
    (keepsId : ∀ t, (changed t).id = t.id)
    (same : ∀ t ∈ s.activeTab, isLoading = (changed t).isLoading ∧
      (editing = false → urlBuf = (changed t).url)) :
    Strip.Mirrors { s.change s.activeTabId changed with urlBuf, editing, isLoading } := by
  intro t found
  have searched : (s.change s.activeTabId changed).find s.activeTabId = some t := found
  rw [find_change _ _ _ keepsId, if_pos rfl] at searched
  obtain ⟨before, shown, rfl⟩ := Option.map_eq_some_iff.mp searched
  exact same before shown

theorem Mirrors.of_eq {next : Strip} (mirrors : s.Mirrors) (activeTab : next.activeTab = s.activeTab)
    (isLoading : next.isLoading = s.isLoading) (urlBuf : next.urlBuf = s.urlBuf)
    (editing : next.editing = s.editing) : next.Mirrors := by
  unfold Mirrors
  rw [activeTab, isLoading, urlBuf, editing]
  exact mirrors

theorem mirrors_newTab_iff : (StripAction.newTab.apply s).Mirrors ↔ s.KeepsMirror .newTab := by
  have searched : (StripAction.newTab.apply s).activeTab =
      (s.find s.nextTabId).or (some (TabInfo.opened s.nextTabId)) := by
    exact find_append.trans (congrArg _ (if_pos rfl))
  unfold KeepsMirror
  cases found : s.find s.nextTabId with
  | some t =>
      rw [found] at searched
      refine (mirrors_iff searched).trans (and_congr_right fun _ => ?_)
      exact ⟨fun same => same rfl, fun same _ => same⟩
  | none =>
      rw [found] at searched
      exact (mirrors_iff searched).trans (and_iff_left fun _ => rfl)

theorem mirrors_closeAt_iff (mirrors : s.Mirrors) (i : Nat) :
    ((StripAction.closeAt i).apply s).Mirrors ↔ ∀ tab ∈ s.tabs[i]?, s.activeTabId = tab.id →
      ∀ first ∈ (s.tabs.eraseIdx i).head?, s.isLoading = first.isLoading := by
  cases here : s.tabs[i]? with
  | none =>
      rw [StripAction.closeAt_apply_of_none here]
      exact iff_of_true mirrors fun tab absent => (by cases absent)
  | some tab =>
      rw [StripAction.closeAt_apply here]
      by_cases shown : s.activeTabId = tab.id
      · rw [if_pos shown, mirrors_showFirst_iff]
        constructor
        · intro same other found _
          cases found
          exact same
        · exact fun same => same tab rfl shown
      · rw [if_neg shown]
        refine iff_of_true (mirrors.of_eq (find_eraseIdx here shown) rfl rfl rfl) ?_
        intro other found active
        cases found
        exact absurd active shown

theorem mirrors_showNext_iff (mirrors : s.Mirrors) :
    (StripAction.showNext.apply s).Mirrors ↔
      ∀ next ∈ s.nextTab, ∀ t ∈ s.find next.id, s.isLoading = t.isLoading := by
  cases chosen : s.nextTab with
  | none =>
      rw [StripAction.showNext_apply_of_none chosen]
      exact iff_of_true mirrors fun next absent => (by cases absent)
  | some next =>
      rw [StripAction.showNext_apply chosen]
      constructor
      · intro same other member t found
        cases member
        exact (same t found).1
      · intro same t found
        have listed : s.find next.id = some t := found
        refine ⟨same next rfl t listed, fun _ => ?_⟩
        change (match s.find next.id with
          | some t => t.url
          | none => s.urlBuf) = t.url
        rw [listed]

theorem mirrors_click_iff (mirrors : s.Mirrors) (i : Nat) :
    ((StripAction.click i).apply s).Mirrors ↔ ∀ tab ∈ s.tabs[i]?, s.activeTabId ≠ tab.id →
      ∀ t ∈ s.find tab.id, s.isLoading = t.isLoading ∧ tab.url = t.url := by
  cases here : s.tabs[i]? with
  | none =>
      rw [StripAction.click_apply_of_none here]
      exact iff_of_true mirrors fun tab absent => (by cases absent)
  | some tab =>
      rw [StripAction.click_apply here]
      by_cases other : s.activeTabId ≠ tab.id
      · rw [if_pos other]
        constructor
        · intro same chosen member _ t found
          cases member
          exact ⟨(same t found).1, (same t found).2 rfl⟩
        · intro same t found
          obtain ⟨loading, url⟩ := same tab rfl other t found
          exact ⟨loading, fun _ => url⟩
      · rw [if_neg other]
        refine iff_of_true mirrors fun chosen member differs => ?_
        cases member
        exact absurd differs other

/-- Whether an address is a copy, if it is not edited. -/
theorem copies_iff {editing : Bool} {copy : Prop} :
    (editing = false → copy) ↔ editing = true ∨ copy := by
  cases editing with
  | true => exact iff_of_true Bool.noConfusion (.inl rfl)
  | false => exact ⟨fun same => .inr (same rfl), fun either _ => either.resolve_left Bool.false_ne_true⟩

/-- The active tab is told of again. -/
theorem mirrors_updated_iff (mirrors : s.Mirrors) {t : TabInfo} (shown : s.activeTab = some t)
    (newTitle url : String) :
    (s.change s.activeTabId (·.updated newTitle url)).Mirrors ↔
      s.editing = true ∨ url.isEmpty ∨ url = t.url := by
  have found := activeTab_change shown (·.updated newTitle url) fun _ => rfl
  obtain ⟨loading, copied⟩ := (mirrors_iff shown).mp mirrors
  refine (mirrors_iff found).trans ((and_iff_right loading).trans ?_)
  rw [← copies_iff]
  refine forall_congr' fun idle => ?_
  change s.urlBuf = (if url.isEmpty then t.url else url) ↔ _
  rw [copied idle]
  by_cases empty : url.isEmpty
  · rw [if_pos empty]
    exact iff_of_true rfl (.inl empty)
  · rw [if_neg empty, or_iff_right empty]
    exact eq_comm

theorem mirrors_created_iff (mirrors : s.Mirrors) (tabId : UInt32) (newTitle url : String) :
    ((StripAction.created tabId newTitle url).apply s).Mirrors ↔
      s.KeepsMirror (.created tabId newTitle url) := by
  change _ ↔ (tabId = s.activeTabId →
    match s.find tabId with
    | some t => s.editing = true ∨ url.isEmpty ∨ url = t.url
    | none => s.isLoading = false ∧ (s.editing = true ∨ s.urlBuf = url))
  cases listed : s.find tabId with
  | some t =>
      rw [StripAction.created_apply listed]
      by_cases active : tabId = s.activeTabId
      · subst active
        exact (mirrors_updated_iff mirrors listed newTitle url).trans (true_imp_iff.symm.trans (by simp))
      · have kept := activeTab_change_of_ne active (·.updated newTitle url) fun _ => rfl
        exact iff_of_true (mirrors.of_eq kept rfl rfl rfl) fun same => absurd same active
  | none =>
      rw [StripAction.created_apply_of_none listed]
      have searched : (s.tabs ++ [TabInfo.heard tabId newTitle url]).find? (·.id = s.activeTabId) =
          s.activeTab.or (if tabId = s.activeTabId then some (TabInfo.heard tabId newTitle url)
            else none) := find_append
      let next := { s with
        tabs := s.tabs ++ [TabInfo.heard tabId newTitle url]
        nextTabId := max s.nextTabId (tabId + 1) }
      by_cases active : tabId = s.activeTabId
      · have absent : s.activeTab = none := by
          rw [activeTab, ← active]
          exact listed
        rw [absent, if_pos active, Option.none_or] at searched
        have shown : next.activeTab = some (TabInfo.heard tabId newTitle url) := searched
        refine (mirrors_iff shown).trans ((and_congr_right fun _ => copies_iff).trans ?_)
        exact ⟨fun same _ => same, fun same => same active⟩
      · rw [if_neg active, Option.or_none] at searched
        exact iff_of_true (mirrors.of_eq searched rfl rfl rfl) fun same => absurd same active

theorem mirrors_closed_iff (mirrors : s.Mirrors) (tabId : UInt32) :
    ((StripAction.closed tabId).apply s).Mirrors ↔ s.KeepsMirror (.closed tabId) := by
  rw [StripAction.closed_apply]
  by_cases shown : s.activeTabId = tabId
  · rw [if_pos shown, mirrors_showFirst_iff]
    exact ⟨fun same _ => same, fun same => same shown⟩
  · rw [if_neg shown]
    exact iff_of_true (mirrors.of_eq (find_without shown) rfl rfl rfl) fun active => absurd active shown

theorem mirrors_activated (mirrors : s.Mirrors) (tabId : UInt32) :
    ((StripAction.activated tabId).apply s).Mirrors := by
  by_cases same : s.activeTabId = tabId
  · rw [StripAction.activated_apply_of_eq same]
    exact mirrors
  · cases found : s.find tabId with
    | some t =>
        rw [StripAction.activated_apply same found]
        intro other shown
        have same : s.find tabId = some other := shown
        rw [found] at same
        cases same
        exact ⟨rfl, fun idle => if_neg (Bool.eq_false_iff.mp idle)⟩
    | none =>
        rw [StripAction.activated_apply_of_none same found]
        exact mirrors_of_none found

theorem mirrors_tabUrl (mirrors : s.Mirrors) (tabId : UInt32) (url : String) :
    ((StripAction.tabUrl tabId url).apply s).Mirrors := by
  cases listed : s.find tabId with
  | none =>
      rw [StripAction.tabUrl_apply_of_none listed]
      exact mirrors
  | some t =>
      rw [StripAction.tabUrl_apply listed]
      by_cases active : tabId = s.activeTabId
      · subst active
        refine mirrors_change (fun _ => rfl) fun t found => ⟨(mirrors t found).1, fun idle => ?_⟩
        have still : s.editing = false := idle
        exact if_pos ⟨rfl, by rw [still]; rfl⟩
      · have kept := activeTab_change_of_ne active (·.moved url) fun _ => rfl
        exact mirrors.of_eq kept rfl (if_neg fun both => active both.1) rfl

theorem mirrors_apply_iff (mirrors : s.Mirrors) (action : StripAction) :
    (action.apply s).Mirrors ↔ s.KeepsMirror action := by
  cases action with
  | keep => exact iff_of_true mirrors trivial
  | edit text =>
      exact iff_of_true (fun t found => ⟨(mirrors t found).1, fun idle => (by cases idle)⟩) trivial
  | blur =>
      constructor
      · exact fun same t found => (same t found).2 rfl
      · exact fun same t found => ⟨(mirrors t found).1, fun _ => same t found⟩
  | cancel =>
      refine iff_of_true (fun t found => ⟨(mirrors t found).1, fun _ => ?_⟩) trivial
      have shown : s.activeTab = some t := found
      change (match s.activeTab with
        | some t => t.url
        | none => s.urlBuf) = t.url
      rw [shown]
  | load url => exact iff_of_true (mirrors_change (fun _ => rfl) fun t _ => ⟨rfl, fun _ => rfl⟩) trivial
  | home =>
      constructor
      · exact fun same t found => (same t found).2 rfl
      · exact fun same t found => ⟨(mirrors t found).1, fun _ => same t found⟩
  | newTab => exact mirrors_newTab_iff
  | closeActive => exact mirrors_showFirst_iff _
  | closeAt i => exact mirrors_closeAt_iff mirrors i
  | showNext => exact mirrors_showNext_iff mirrors
  | click i => exact mirrors_click_iff mirrors i
  | loadState isLoading =>
      refine iff_of_true (mirrors_change (fun _ => rfl) fun t found => ⟨rfl, ?_⟩) trivial
      exact (mirrors t found).2
  | urlChanged url =>
      refine iff_of_true (mirrors_change (fun _ => rfl) fun t found => ⟨(mirrors t found).1, ?_⟩) trivial
      intro idle
      exact if_neg (Bool.eq_false_iff.mp idle)
  | title newTitle =>
      exact iff_of_true (mirrors.change _ (fun _ => rfl) (fun _ => rfl) fun _ => rfl) trivial
  | created tabId newTitle url => exact mirrors_created_iff mirrors tabId newTitle url
  | closed tabId => exact mirrors_closed_iff mirrors tabId
  | activated tabId => exact iff_of_true (mirrors_activated mirrors tabId) trivial
  | tabTitle tabId newTitle =>
      exact iff_of_true (mirrors.change _ (fun _ => rfl) (fun _ => rfl) fun _ => rfl) trivial
  | tabUrl tabId url => exact iff_of_true (mirrors_tabUrl mirrors tabId url) trivial

end Strip

/-! ## Runs -/

/-- The toolbar shows the load state of the active tab, and its address unless it is edited. -/
def BrowserCore.MirrorsTab (core : BrowserCore) : Prop :=
  ∀ t, core.tabs.find? (·.id = core.activeTabId) = some t →
    core.isLoading = t.isLoading ∧ (core.editing = false → core.urlBuf = t.url)

def StripEvent.KeepsMirror (build : Build) (core : BrowserCore) (event : StripEvent) : Prop :=
  ∀ action, event.action build core = .ok action → core.strip.KeepsMirror action

theorem mirrorsTab_iff (core : BrowserCore) : core.MirrorsTab ↔ core.strip.Mirrors := Iff.rfl

/-- The toolbar mirrors the active tab through a run if and only if no step of it changes one of
the two copies to what the other is not. -/
theorem toolbar_mirrors_iff (build : Build) (painter : Painter) (width height : UInt32)
    (initialUrl : String) (editing : Bool) (events : List StripEvent) (emitted : List InputEvent)
    (core : BrowserCore) :
    Runs ((StripStep build painter).keeping BrowserCore.MirrorsTab)
        (.newNoStd width height initialUrl editing) events emitted core ↔
      Runs ((StripStep build painter).guarded (StripEvent.KeepsMirror build))
        (.newNoStd width height initialUrl editing) events emitted core := by
  refine Runs.keeping_iff_guarded ?_ ?_
  · intro t found
    have first : (BrowserCore.newNoStd width height initialUrl editing).tabs.head? = some t := by
      rw [← found]
      rfl
    cases first
    exact ⟨rfl, fun _ => rfl⟩
  · intro core event added next mirrors stepped
    obtain ⟨action, means, applied⟩ := stepped.acts
    rw [mirrorsTab_iff] at mirrors ⊢
    rw [applied, Strip.mirrors_apply_iff mirrors]
    constructor
    · intro keeps other same
      cases means.symm.trans same
      exact keeps
    · exact fun keeps => keeps action means

/-- Ctrl+T. The new tab is loading, the toolbar is not. -/
theorem new_tab_not_mirrored :
    ∃ (build : Build) (painter : Painter) (core : BrowserCore) (emitted : List InputEvent) (t : TabInfo),
      Runs (StripStep build painter) (.newNoStd 640 480 "a" false)
        [.reported (.modifiers modCtrl), .reported (.key 0x74 true none)] emitted core ∧
      core.tabs.find? (·.id = core.activeTabId) = some t ∧ t.isLoading = true ∧
      core.isLoading = false ∧ ¬ core.MirrorsTab := by
  let build : Build := { overflowChecks := true }
  let held : BrowserCore := { BrowserCore.newNoStd 640 480 "a" false with mods := modCtrl }
  have checked : (Device.input build held (.key 0x74 true none)).toOption.map (fun next =>
      (next.outboundInputs, next.isLoading,
        (next.tabs.find? (·.id = next.activeTabId)).map (·.isLoading))) =
      some ([.createTab 2 homeUrl], false, some true) := by
    decide
  obtain ⟨core, returned, told⟩ := Option.map_eq_some_iff.mp checked
  obtain ⟨asked, told⟩ := Prod.mk.inj told
  obtain ⟨toolbar, told⟩ := Prod.mk.inj told
  obtain ⟨t, found, loading⟩ := Option.map_eq_some_iff.mp told
  have first : Runs (StripStep build Painter.blank) (.newNoStd 640 480 "a" false)
      [.reported (.modifiers modCtrl)] [] held := .single (.reported rfl rfl)
  have ran : Runs (StripStep build Painter.blank) (.newNoStd 640 480 "a" false)
      [.reported (.modifiers modCtrl), .reported (.key 0x74 true none)] [.createTab 2 homeUrl] core :=
    first.step (.reported (eq_ok_of_toOption returned) asked)
  refine ⟨build, Painter.blank, core, _, t, ran, found, loading, toolbar, fun mirrors => ?_⟩
  have same := (mirrors t found).1
  rw [toolbar, loading] at same
  cases same

end ExoBrowser.Client
