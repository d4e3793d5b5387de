import ExoBrowser.Client.RenderSafety
import ExoBrowser.Client.StripProperties
import ExoBrowser.Library.Machine
import Mathlib.Data.List.Nodup
import Mathlib.Data.UInt

/-!
# Ids of tabs

The client gives its own tabs ids that it has not seen before, and lists no id twice, as
long as the ids do not run out.
-/

set_option autoImplicit false

namespace ExoBrowser.Client

open Library Proto Checked

/-! ## Steps -/

inductive StripEvent where
  | reported (device : Device)
  | told (event : RenderEvent)
  | rendered (buffer : List UInt32)
  | encoded

/-- A call that returns, and the events that it adds for the host. -/
inductive StripStep (build : Build) (painter : Painter) : Step BrowserCore StripEvent InputEvent where
  | reported {core next device added} : device.input build core = .ok next →
      next.outboundInputs = core.outboundInputs ++ added →
      StripStep build painter core (.reported device) added next
  | told {core next event goesOn} : core.handleRenderEvent build event = .ok (next, goesOn) →
      StripStep build painter core (.told event) [] next
  | rendered {core next buffer canvas damage} :
      core.renderInto build painter buffer = .ok (next, canvas, damage) →
      StripStep build painter core (.rendered buffer) [] next
  | encoded {core} : StripStep build painter core .encoded [] { core with outboundInputs := [] }

/-- What an event comes to. -/
def StripEvent.action (build : Build) (core : BrowserCore) : StripEvent → Run StripAction
  | .reported device => device.action build core
  | .told event => .ok event.action
  | .rendered _ => .ok .keep
  | .encoded => .ok .keep

section Steps

variable {build : Build} {painter : Painter} {core next : BrowserCore} {event : StripEvent}
  {added : List InputEvent}

theorem StripStep.acts (stepped : StripStep build painter core event added next) :
    Acts core (event.action build core) next := by
  cases stepped with
  | reported returned told => exact strip_input build core _ next returned
  | told returned => exact .pure (BrowserCore.strip_handleRenderEvent _ _ returned)
  | rendered returned => exact .keep (BrowserCore.strip_renderInto _ _ returned)
  | encoded => exact .keep rfl

/-- A new tab is asked for under the next id only. -/
theorem StripStep.createTab_id (stepped : StripStep build painter core event added next)
    {tabId : UInt32} {url : String} (asked : .createTab tabId url ∈ added) :
    tabId = core.nextTabId := by
  cases stepped with
  | told => cases asked
  | rendered => cases asked
  | encoded => cases asked
  | reported returned told =>
      obtain ⟨others, told', acted⟩ := took_input build core _ next returned
      have same : others = added := List.append_cancel_left (told'.symm.trans told)
      subst same
      have create : .create tabId ∈ others.filterMap InputEvent.ask :=
        List.mem_filterMap.mpr ⟨_, asked, rfl⟩
      generalize others.filterMap InputEvent.ask = asks at acted create
      cases acted <;> simp_all

end Steps

/-! ## The ids -/

namespace Strip

variable {s next : Strip}

/-- Tabs are listed anew by the client itself and when it first hears of them. -/
inductive Relisted (s next : Strip) : StripAction → Prop where
  | fewer {action} : next.ids.Sublist s.ids → next.nextTabId = s.nextTabId → Relisted s next action
  | opened : next.ids = s.ids ++ [s.nextTabId] → next.nextTabId = s.nextTabId + 1 →
      Relisted s next .newTab
  | heard {tabId newTitle url} : next.ids = s.ids ∨ tabId ∉ s.ids ∧ next.ids = s.ids ++ [tabId] →
      next.nextTabId = max s.nextTabId (tabId + 1) → Relisted s next (.created tabId newTitle url)

theorem Relisted.same {action : StripAction} (ids : next.ids = s.ids)
    (nextTabId : next.nextTabId = s.nextTabId) : Relisted s next action :=
  .fewer (ids ▸ List.Sublist.refl next.ids) nextTabId

theorem ids_change (s : Strip) (tabId : UInt32) {changed : TabInfo → TabInfo}
    (keepsId : ∀ t, (changed t).id = t.id) : (s.change tabId changed).ids = s.ids :=
  ids_modifyFirst keepsId s.tabs

theorem Relisted.showFirst {action : StripAction} (relisted : Relisted s next action) :
    Relisted s next.showFirst action := by
  have ids : next.showFirst.ids = next.ids := by
    unfold Strip.showFirst
    split <;> rfl
  have nextTabId : next.showFirst.nextTabId = next.nextTabId := by
    unfold Strip.showFirst
    split <;> rfl
  cases relisted with
  | fewer fewer kept => exact .fewer (ids ▸ fewer) (nextTabId.trans kept)
  | opened grown following => exact .opened (ids.trans grown) (nextTabId.trans following)
  | heard grown following => exact .heard (ids ▸ grown) (nextTabId.trans following)

theorem relisted_without (s : Strip) (tabId : UInt32) (action : StripAction) :
    Relisted s (s.without tabId) action := .fewer (List.filter_sublist.map _) rfl

theorem relisted_eraseIdx (s : Strip) (i : Nat) (action : StripAction) :
    Relisted s { s with tabs := s.tabs.eraseIdx i } action :=
  .fewer ((List.eraseIdx_sublist s.tabs i).map _) rfl

theorem mem_ids_of_find {tabId : UInt32} {t : TabInfo} (found : s.find tabId = some t) : tabId ∈ s.ids := by
  have same : t.id = tabId := by simpa using List.find?_some found
  exact List.mem_map.mpr ⟨t, List.mem_of_find?_eq_some found, same⟩

theorem not_mem_ids_of_find {tabId : UInt32} (absent : s.find tabId = none) : tabId ∉ s.ids := by
  intro listed
  obtain ⟨t, member, same⟩ := List.mem_map.mp listed
  have differs := List.find?_eq_none.mp absent t member
  exact differs (by simpa using same)

theorem relisted_apply (s : Strip) (action : StripAction) : Relisted s (action.apply s) action := by
  cases action with
  | keep => exact .same rfl rfl
  | edit text => exact .same rfl rfl
  | blur => exact .same rfl rfl
  | cancel => exact .same rfl rfl
  | load url => exact .same (ids_change s s.activeTabId fun _ => rfl) rfl
  | home => exact .same rfl rfl
  | newTab => exact .opened (List.map_append ..) rfl
  | closeActive => exact (relisted_without s s.activeTabId _).showFirst
  | closeAt i =>
      cases here : s.tabs[i]? with
      | none =>
          rw [StripAction.closeAt_apply_of_none here]
          exact .same rfl rfl
      | some tab =>
          rw [StripAction.closeAt_apply here]
          split
          · exact (relisted_eraseIdx s i _).showFirst
          · exact relisted_eraseIdx s i _
  | showNext =>
      cases chosen : s.nextTab with
      | none =>
          rw [StripAction.showNext_apply_of_none chosen]
          exact .same rfl rfl
      | some next =>
          rw [StripAction.showNext_apply chosen]
          exact .same rfl rfl
  | click i =>
      cases here : s.tabs[i]? with
      | none =>
          rw [StripAction.click_apply_of_none here]
          exact .same rfl rfl
      | some tab =>
          rw [StripAction.click_apply here]
          split <;> exact .same rfl rfl
  | loadState isLoading => exact .same (ids_change s s.activeTabId fun _ => rfl) rfl
  | urlChanged url => exact .same (ids_change s s.activeTabId fun _ => rfl) rfl
  | title newTitle => exact .same (ids_change s s.activeTabId fun _ => rfl) rfl
  | created tabId newTitle url =>
      cases found : s.find tabId with
      | some t =>
          rw [StripAction.created_apply found]
          exact .heard (.inl (ids_change s tabId fun _ => rfl)) rfl
      | none =>
          rw [StripAction.created_apply_of_none found]
          exact .heard (.inr ⟨not_mem_ids_of_find found, List.map_append ..⟩) rfl
  | closed tabId =>
      rw [StripAction.closed_apply]
      split
      · exact (relisted_without s tabId _).showFirst
      · exact relisted_without s tabId _
  | activated tabId =>
      by_cases same : s.activeTabId = tabId
      · rw [StripAction.activated_apply_of_eq same]
        exact .same rfl rfl
      · cases found : s.find tabId with
        | some t =>
            rw [StripAction.activated_apply same found]
            exact .same rfl rfl
        | none =>
            rw [StripAction.activated_apply_of_none same found]
            exact .same rfl rfl
  | tabTitle tabId newTitle => exact .same (ids_change s tabId fun _ => rfl) rfl
  | tabUrl tabId url =>
      cases found : s.find tabId with
      | some t =>
          rw [StripAction.tabUrl_apply found]
          exact .same (ids_change s tabId fun _ => rfl) rfl
      | none =>
          rw [StripAction.tabUrl_apply_of_none found]
          exact .same rfl rfl

/-! ## Fresh ids -/

/-- No id is listed twice, and each is behind the next one. -/
structure Fresh (s : Strip) : Prop where
  distinct : s.ids.Nodup
  behind : ∀ tabId ∈ s.ids, tabId < s.nextTabId

theorem le_max_left (a b : UInt32) : a ≤ max a b := by
  change a ≤ if a ≤ b then b else a
  split
  · assumption
  · exact UInt32.le_refl a

theorem le_max_right (a b : UInt32) : b ≤ max a b := by
  change b ≤ if a ≤ b then b else a
  split
  · exact UInt32.le_refl b
  · exact UInt32.le_of_lt (UInt32.not_le.mp (by assumption))

theorem lt_add_one {a : UInt32} (room : a < 4294967295) : a < a + 1 := by
  rw [UInt32.lt_iff_toNat_lt] at room ⊢
  rw [UInt32.toNat_add]
  change a.toNat < 4294967295 at room
  change a.toNat < (a.toNat + 1) % 2 ^ 32
  omega

theorem lt_last {a : UInt32} (other : a ≠ 4294967295) : a < 4294967295 := by
  have bound := a.toNat_lt
  have apart : a.toNat ≠ 4294967295 := fun same => other (UInt32.toNat_inj.mp same)
  rw [UInt32.lt_iff_toNat_lt]
  change a.toNat < 4294967295
  omega

/-- The ids have not run out, and the host does not use the last one. -/
def Room (s : Strip) (action : StripAction) : Prop :=
  s.nextTabId < 4294967295 ∧ ∀ tabId newTitle url, action = .created tabId newTitle url →
    tabId < 4294967295

theorem Relisted.later {action : StripAction} (relisted : Relisted s next action)
    (room : s.Room action) : s.nextTabId ≤ next.nextTabId := by
  cases relisted with
  | fewer _ kept => exact UInt32.le_of_eq kept.symm
  | opened _ following =>
      rw [following]
      exact UInt32.le_of_lt (lt_add_one room.1)
  | heard _ following =>
      rw [following]
      exact le_max_left _ _

theorem Relisted.fresh {action : StripAction} (relisted : Relisted s next action) (fresh : s.Fresh)
    (room : s.Room action) : next.Fresh := by
  have later := relisted.later room
  have behind (tabId : UInt32) (listed : tabId ∈ s.ids) : tabId < next.nextTabId :=
    UInt32.lt_of_lt_of_le (fresh.behind tabId listed) later
  have grown {tabId : UInt32} (ids : next.ids = s.ids ++ [tabId]) (absent : tabId ∉ s.ids)
      (below : tabId < next.nextTabId) : next.Fresh := by
    refine { distinct := ?_, behind := ?_ }
    · rw [ids]
      rw [← List.concat_eq_append]
      exact fresh.distinct.concat absent
    · rw [ids, List.forall_mem_append, List.forall_mem_singleton]
      exact ⟨behind, below⟩
  cases relisted with
  | fewer fewer _ =>
      exact { distinct := fresh.distinct.sublist fewer
              behind := fun tabId listed => behind tabId (fewer.subset listed) }
  | opened ids following =>
      have below := lt_add_one room.1
      rw [← following] at below
      exact grown ids (fun listed => UInt32.lt_irrefl _ (fresh.behind _ listed)) below
  | heard ids following =>
      rcases ids with same | ⟨absent, ids⟩
      · refine { distinct := ?_, behind := ?_ }
        · rw [same]
          exact fresh.distinct
        · rw [same]
          exact behind
      · have below := UInt32.lt_of_lt_of_le (lt_add_one (room.2 _ _ _ rfl)) (le_max_right s.nextTabId _)
        rw [← following] at below
        exact grown ids absent below

end Strip

/-! ## Runs -/

/-- Steps that leave an id for the next tab, in which the host does not use the last id. -/
def roomyStep (build : Build) (painter : Painter) : Step BrowserCore StripEvent InputEvent :=
  ((StripStep build painter).guarded fun _ event =>
    ∀ newTitle url, event ≠ .told (.tabCreated 4294967295 newTitle url)).keeping fun core =>
      core.nextTabId ≤ 4294967294

section Runs

variable {build : Build} {painter : Painter} {core next : BrowserCore} {event : StripEvent}
  {events : List StripEvent} {added emitted : List InputEvent}

/-- The ids are fresh, and there is one left. -/
structure Roomy (core : BrowserCore) : Prop where
  fresh : core.strip.Fresh
  room : core.nextTabId ≤ 4294967294

theorem Roomy.step (roomy : Roomy core) (stepped : roomyStep build painter core event added next) :
    Roomy next ∧ core.nextTabId ≤ next.nextTabId := by
  obtain ⟨⟨known, taken⟩, left⟩ := stepped
  obtain ⟨action, means, applied⟩ := taken.acts
  have relisted := Strip.relisted_apply core.strip action
  rw [← applied] at relisted
  have room : core.strip.Room action := by
    refine ⟨UInt32.lt_of_le_of_lt roomy.room (by decide), ?_⟩
    rintro tabId newTitle url rfl
    cases taken with
    | reported returned told => exact (ofUser_action build core _ _ means).elim
    | rendered returned => cases means
    | encoded => cases means
    | @told core next told goesOn returned =>
        cases told <;> cases means
        exact Strip.lt_last fun last => known newTitle url (last ▸ rfl)
  exact ⟨⟨relisted.fresh roomy.fresh room, left⟩, relisted.later room⟩

theorem Roomy.run (roomy : Roomy core) (ran : Runs (roomyStep build painter) core events emitted next) :
    Roomy next ∧ core.nextTabId ≤ next.nextTabId := by
  induction ran with
  | start => exact ⟨roomy, UInt32.le_refl _⟩
  | step _ stepped ih =>
      obtain ⟨kept, later⟩ := ih.1.step stepped
      exact ⟨kept, UInt32.le_trans ih.2 later⟩

theorem roomy_newNoStd (width height : UInt32) (initialUrl : String) (editing : Bool) :
    Roomy (.newNoStd width height initialUrl editing) where
  fresh :=
    { distinct := List.nodup_singleton 1
      behind := List.forall_mem_singleton.mpr (by decide : (1 : UInt32) < 2) }
  room := (by decide : (2 : UInt32) ≤ 4294967294)

end Runs

/-- As long as ids are left and the host does not use the last one: no id is listed twice, each
is smaller than the next one, and no tab that is asked for later has the id of a tab listed. -/
theorem tab_ids_fresh (build : Build) (painter : Painter) (width height : UInt32) (initialUrl : String)
    (editing : Bool) (events : List StripEvent) (emitted : List InputEvent) (core : BrowserCore)
    (ran : Runs (roomyStep build painter) (.newNoStd width height initialUrl editing) events emitted core) :
    (core.tabs.map (·.id)).Nodup ∧ (∀ t ∈ core.tabs, t.id < core.nextTabId) ∧
      ∀ (later : List StripEvent) (more added : List InputEvent) (event : StripEvent)
        (between next : BrowserCore), Runs (roomyStep build painter) core later more between →
        roomyStep build painter between event added next →
        ∀ tabId url, .createTab tabId url ∈ added → ∀ t ∈ core.tabs, t.id ≠ tabId := by
  have roomy := ((roomy_newNoStd width height initialUrl editing).run ran).1
  have behind (t : TabInfo) (listed : t ∈ core.tabs) : t.id < core.nextTabId :=
    roomy.fresh.behind t.id (List.mem_map_of_mem listed)
  refine ⟨roomy.fresh.distinct, behind, ?_⟩
  intro later more added event between next continued stepped tabId url asked t listed same
  have asked_id := stepped.1.2.createTab_id asked
  have follows := (roomy.run continued).2
  have before := UInt32.lt_of_lt_of_le (behind t listed) follows
  rw [same, asked_id] at before
  exact UInt32.lt_irrefl _ before

/-- Ctrl+T, after which the host is asked for tab 2. -/
theorem tab_ids_fresh_opened :
    ∃ (build : Build) (painter : Painter) (core next : BrowserCore),
      Runs (roomyStep build painter) (.newNoStd 640 480 "a" false) [.reported (.modifiers modCtrl)] []
        core ∧
      roomyStep build painter core (.reported (.key 0x74 true none)) [.createTab 2 homeUrl] next ∧
      ∀ t ∈ core.tabs, t.id ≠ 2 := by
  let build : Build := { overflowChecks := true }
  let held : BrowserCore := { BrowserCore.newNoStd 640 480 "a" false with mods := modCtrl }
  have room : held.nextTabId ≤ 4294967294 := (by decide : (2 : UInt32) ≤ 4294967294)
  have ran : Runs (roomyStep build Painter.blank) (.newNoStd 640 480 "a" false)
      [.reported (.modifiers modCtrl)] [] held :=
    .single ⟨⟨fun _ _ same => (by cases same), .reported rfl rfl⟩, room⟩
  have checked : (Device.input build held (.key 0x74 true none)).toOption.map
      (fun next => (next.outboundInputs, next.nextTabId)) = some ([.createTab 2 homeUrl], 3) := by
    decide
  obtain ⟨next, found, told⟩ := Option.map_eq_some_iff.mp checked
  obtain ⟨told, left⟩ := Prod.mk.inj told
  have stepped : roomyStep build Painter.blank held (.reported (.key 0x74 true none))
      [.createTab 2 homeUrl] next := by
    refine ⟨⟨fun _ _ same => (by cases same), .reported (eq_ok_of_toOption found) told⟩, ?_⟩
    change next.nextTabId ≤ 4294967294
    rw [left]
    decide
  have fresh := (tab_ids_fresh build Painter.blank 640 480 "a" false _ _ held ran).2.2
  exact ⟨build, Painter.blank, held, next, ran, stepped,
    fresh [] [] _ _ held next .start stepped 2 homeUrl (List.mem_singleton_self _)⟩

end ExoBrowser.Client
