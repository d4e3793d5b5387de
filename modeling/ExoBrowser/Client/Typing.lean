import ExoBrowser.Client.StripProperties
import ExoBrowser.Library.Machine

/-!
# Typing

While the address is edited, the host does not touch it, but for one event: when the
active tab is closed, the address of the first tab left takes its place.
-/

set_option autoImplicit false

namespace ExoBrowser.Client

open Library Proto Checked

/-! ## The strip -/

namespace Strip

variable {s : Strip}

/-- The text is in the toolbar, and it is edited. -/
def Typing (text : String) (s : Strip) : Prop := s.editing = true ∧ s.urlBuf = text

/-- No tab with another address takes the place of the active one. -/
def SparesTyping (s : Strip) : StripAction → Prop
  | .closed tabId =>
      s.activeTabId = tabId → ∀ first ∈ (s.tabs.filter (·.id ≠ tabId)).head?, first.url = s.urlBuf
  | _ => True

theorem Typing.of_eq {text : String} {next : Strip} (typing : s.Typing text)
    (editing : next.editing = s.editing) (urlBuf : next.urlBuf = s.urlBuf) : next.Typing text :=
  ⟨editing.trans typing.1, urlBuf.trans typing.2⟩

theorem typing_showFirst_iff {text : String} (typing : s.Typing text) :
    s.showFirst.Typing text ↔ ∀ first ∈ s.tabs.head?, first.url = s.urlBuf := by
  cases found : s.tabs.head? with
  | none =>
      rw [s.showFirst_of_none found]
      exact iff_of_true typing fun first absent => absurd absent (Option.not_mem_none first)
  | some first =>
      rw [s.showFirst_of_some found]
      constructor
      · rintro ⟨_, shown⟩ _ ⟨⟩
        exact shown.trans typing.2.symm
      · intro same
        exact ⟨typing.1, (same first rfl).trans typing.2⟩

theorem typing_closed_iff {text : String} (typing : s.Typing text) (tabId : UInt32) :
    ((StripAction.closed tabId).apply s).Typing text ↔ s.SparesTyping (.closed tabId) := by
  have without : (s.without tabId).Typing text := typing
  rw [StripAction.closed_apply]
  split
  case isTrue active =>
    rw [typing_showFirst_iff without]
    exact ⟨fun same _ => same, fun same => same active⟩
  case isFalse other =>
    exact iff_of_true without fun active => absurd active other

theorem Typing.activated {text : String} (typing : s.Typing text) (tabId : UInt32) :
    ((StripAction.activated tabId).apply s).Typing text := by
  by_cases other : s.activeTabId ≠ tabId
  · cases found : s.find tabId with
    | some t =>
        rw [StripAction.activated_apply other found]
        exact typing.of_eq rfl (if_pos typing.1)
    | none =>
        rw [StripAction.activated_apply_of_none other found]
        exact typing
  · rw [StripAction.activated_apply_of_eq (not_not.mp other)]
    exact typing

theorem Typing.tabUrl {text : String} (typing : s.Typing text) (tabId : UInt32) (url : String) :
    ((StripAction.tabUrl tabId url).apply s).Typing text := by
  cases found : s.find tabId with
  | some t =>
      rw [StripAction.tabUrl_apply found]
      refine typing.of_eq rfl (if_neg ?_)
      rintro ⟨_, idle⟩
      rw [typing.1] at idle
      cases idle
  | none =>
      rw [StripAction.tabUrl_apply_of_none found]
      exact typing

theorem Typing.created {text : String} (typing : s.Typing text) (tabId : UInt32)
    (newTitle url : String) : ((StripAction.created tabId newTitle url).apply s).Typing text := by
  cases found : s.find tabId with
  | some t =>
      rw [StripAction.created_apply found]
      exact typing
  | none =>
      rw [StripAction.created_apply_of_none found]
      exact typing

/-- Of what the host tells, only the close of a tab is not guarded. -/
theorem typing_event_iff {text : String} (typing : s.Typing text) (event : RenderEvent) :
    (event.action.apply s).Typing text ↔ s.SparesTyping event.action := by
  cases event with
  | initialUrl url => exact iff_of_true (typing.of_eq rfl (if_pos typing.1)) trivial
  | urlChanged url => exact iff_of_true (typing.of_eq rfl (if_pos typing.1)) trivial
  | tabCreated tabId newTitle url => exact iff_of_true (typing.created tabId newTitle url) trivial
  | tabClosed tabId => exact typing_closed_iff typing tabId
  | tabActivated tabId => exact iff_of_true (typing.activated tabId) trivial
  | tabUrl tabId url => exact iff_of_true (typing.tabUrl tabId url) trivial
  | _ => exact iff_of_true typing trivial

end Strip

/-! ## Runs -/

/-- An event that is handled, with the answer to whether to go on. -/
def handleStep (build : Build) : Step BrowserCore RenderEvent Bool :=
  fun core event answers next =>
    ∃ goesOn, core.handleRenderEvent build event = .ok (next, goesOn) ∧ answers = [goesOn]

namespace BrowserCore

/-- The text is in the toolbar, and it is edited. -/
def Typing (text : String) (core : BrowserCore) : Prop :=
  core.editing = true ∧ core.urlBuf = text

/-- The event does not close the active tab, or the first tab left, if one is, has the address
that is in the toolbar. -/
def SparesTyping (core : BrowserCore) : RenderEvent → Prop
  | .tabClosed tabId =>
      core.activeTabId = tabId →
        ∀ first ∈ (core.tabs.filter (·.id ≠ tabId)).head?, first.url = core.urlBuf
  | _ => True

theorem typing_iff (text : String) (core : BrowserCore) : core.Typing text ↔ core.strip.Typing text :=
  Iff.rfl

theorem sparesTyping_iff (core : BrowserCore) (event : RenderEvent) :
    core.strip.SparesTyping event.action ↔ core.SparesTyping event := by
  cases event with
  | tabClosed tabId => exact Iff.rfl
  | _ => exact Iff.rfl

end BrowserCore

/-- What the user types stays through a run of events if and only if none of them closes the
active tab in front of a tab with another address. -/
theorem typing_kept_iff (build : Build) (core state : BrowserCore) (events : List RenderEvent)
    (answers : List Bool) (editing : core.editing = true) :
    Runs ((handleStep build).keeping (BrowserCore.Typing core.urlBuf)) core events answers state ↔
      Runs ((handleStep build).guarded BrowserCore.SparesTyping) core events answers state := by
  refine Runs.keeping_iff_guarded ⟨editing, rfl⟩ ?_
  intro before event answered next typing stepped
  obtain ⟨goesOn, handled, _⟩ := stepped
  have applied : next.strip = event.action.apply before.strip :=
    BrowserCore.strip_handleRenderEvent event _ handled
  rw [BrowserCore.typing_iff] at typing ⊢
  rw [applied, Strip.typing_event_iff typing, BrowserCore.sparesTyping_iff]

/-- The page moves on while the user types. -/
theorem typing_kept_iff_moved :
    Runs ((handleStep ⟨true⟩).keeping (BrowserCore.Typing "a")) (.newNoStd 640 480 "a" true)
      [.urlChanged "b"] [true] ((BrowserCore.newNoStd 640 480 "a" true).onUrlChanged "b") :=
  (typing_kept_iff ⟨true⟩ (.newNoStd 640 480 "a" true) _ [.urlChanged "b"] [true] rfl).mpr
    (.single ⟨trivial, true, rfl, rfl⟩)

/-- The host opens a second tab and closes the first, in which the user types. -/
theorem typing_overwritten :
    ∃ (build : Build) (core state : BrowserCore) (events : List RenderEvent) (answers : List Bool),
      core.editing = true ∧ Runs (handleStep build) core events answers state ∧
      core.urlBuf = "a" ∧ state.urlBuf = "b" := by
  let core : BrowserCore := .newNoStd 640 480 "a" true
  let opened : BrowserCore :=
    { core with
      tabs := core.tabs ++ [{ id := 2, title := "New Tab", url := "b", isLoading := false
                              isSecure := isSecureUrl "b" }]
      nextTabId := 3
      chromeDirty := true }
  have first : handleStep ⟨true⟩ core (.tabCreated 2 "" "b") [true] opened := ⟨true, rfl, rfl⟩
  have second : handleStep ⟨true⟩ opened (.tabClosed 1) [true] (opened.onTabClosed 1) :=
    ⟨true, rfl, rfl⟩
  exact ⟨⟨true⟩, core, opened.onTabClosed 1, _, _, rfl, (Runs.single first).step second, rfl, rfl⟩

end ExoBrowser.Client
