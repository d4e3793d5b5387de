import ExoBrowser.Host.State

/-!
# Requests

What a connection does with a message of its client: the change of the host state,
the calls of the WPE runner, what goes over the bus and what is answered.
-/

set_option autoImplicit false

namespace ExoBrowser.Host

open Library Proto

/-- Operations that WPE runs on its own thread. Scroll units and zoom levels are scaled
to floats on the way. -/
inductive RunnerCall where
  | createTab (tabId : UInt32) (url : String)
  | closeTab (tabId : UInt32)
  | loadUri (tabId : UInt32) (url : String)
  | resizeAll (w h : UInt32)
  | injectPointerMotion (tabId : UInt32) (x y : Int32) (modifiers : UInt32)
  | injectPointerButton (tabId : UInt32) (x y : Int32) (button : UInt32) (pressed : Bool)
      (modifiers : UInt32)
  | injectKey (tabId keycode mods : UInt32) (down : Bool)
  | injectAxis (tabId : UInt32) (x y dxUnits dyUnits : Int32) (modifiers : UInt32)
  | setZoom (tabId levelMilli : UInt32)
  | goBack (tabId : UInt32)
  | goForward (tabId : UInt32)
  | reload (tabId : UInt32)
  | stopLoading (tabId : UInt32)
  | clearData (cookies cache storage : Bool)
deriving DecidableEq, Repr

/-- A message of a client, the position its connection keeps for scrolling, and the time. -/
structure Request where
  msg : Message
  lastPointer : Int32 × Int32
  tsUs : UInt64

structure Handled where
  state : HostState
  lastPointer : Int32 × Int32
  published : List Message
  replies : List Message
  calls : List RunnerCall

namespace HostState

variable (state : HostState)

/-- The loop of `handle_tcp_connection` behind the handshake. -/
def handle (request : Request) : Handled :=
  let lastPointer := request.lastPointer
  let active := state.activeTabId
  let call (calls : List RunnerCall) : Handled :=
    { state, lastPointer, published := [], replies := [], calls }
  match request.msg with
  | .heartbeat tsUs => { call [] with replies := [.heartbeat tsUs] }
  | .nav url => call [.loadUri active url]
  | .resize viewportW viewportH _ => call [.resizeAll viewportW.toUInt32 viewportH.toUInt32]
  | .setZoom levelMilli => call [.setZoom active levelMilli]
  | .navAction action =>
      if action = 0 then call [.goBack active]
      else if action = 1 then call [.goForward active]
      else if action = 2 then call [.reload active]
      else call []
  | .stop => call [.stopLoading active]
  | .clearData clearCookies clearCache clearStorage =>
      call [.clearData clearCookies clearCache clearStorage]
  | .createTab tabId url =>
      let (next, published) := state.createTab tabId url true request.tsUs
      { state := next, lastPointer, published, replies := [.tabCreated tabId "New Tab" url]
        calls := [.createTab tabId url] }
  | .closeTab tabId =>
      let (next, published) := state.closeTab tabId
      { state := next, lastPointer, published, replies := [.tabClosed tabId]
        calls := [.closeTab tabId] }
  | .switchTab tabId =>
      let (next, published) := state.switchTab tabId request.tsUs
      { state := next, lastPointer, published, replies := [.tabActivated tabId], calls := [] }
  | .inputPointer _ x y modifiers =>
      { call [.injectPointerMotion active x y modifiers] with lastPointer := (x, y) }
  | .inputButton _ x y button pressed modifiers =>
      { call [.injectPointerButton active x y button pressed modifiers] with lastPointer := (x, y) }
  | .inputKey _ keycode mods down => call [.injectKey active keycode mods down]
  | .inputScroll _ _ dxUnits dyUnits _ =>
      call [.injectAxis active lastPointer.1 lastPointer.2 dxUnits dyUnits 0]
  | _ => call []

end HostState

def requestStep : Step HostState Request Message := fun state request emitted next =>
  next = (state.handle request).state ∧
    emitted = (state.handle request).published ++ (state.handle request).replies

/-! ## What requests do to the tabs -/

section Tabs

variable {state : HostState}

@[simp] theorem switchTab_tabs (tabId : UInt32) (tsUs : UInt64) :
    (state.switchTab tabId tsUs).1.tabs = state.tabs := by
  unfold HostState.switchTab
  cases state.tabs tabId <;> rfl

@[simp] theorem switchTab_activeTabId (tabId : UInt32) (tsUs : UInt64) :
    (state.switchTab tabId tsUs).1.activeTabId = tabId := by
  unfold HostState.switchTab
  cases state.tabs tabId <;> rfl

/-- Requests that are not about tabs leave the host state alone. -/
inductive TabEffect (state : HostState) : Message → HostState → Prop where
  | create {tabId url next} :
      next.tabs = Function.update state.tabs tabId (some { url, title := "New Tab" }) →
      next.activeTabId = tabId → TabEffect state (.createTab tabId url) next
  | close {tabId next} : next.tabs = Function.update state.tabs tabId none →
      next.activeTabId = state.activeTabId → TabEffect state (.closeTab tabId) next
  | switch {tabId next} : next.tabs = state.tabs → next.activeTabId = tabId →
      TabEffect state (.switchTab tabId) next
  | other {msg next} (noCreate : ∀ tabId url, msg ≠ .createTab tabId url)
      (noClose : ∀ tabId, msg ≠ .closeTab tabId) (noSwitch : ∀ tabId, msg ≠ .switchTab tabId) :
      next = state → TabEffect state msg next

theorem handle_tabEffect (request : Request) :
    TabEffect state request.msg (state.handle request).state := by
  obtain ⟨msg, lastPointer, tsUs⟩ := request
  cases msg with
  | createTab tabId url =>
      exact .create (switchTab_tabs tabId tsUs) (switchTab_activeTabId tabId tsUs)
  | closeTab tabId => exact .close rfl rfl
  | switchTab tabId => exact .switch (switchTab_tabs tabId tsUs) (switchTab_activeTabId tabId tsUs)
  | navAction action =>
      refine .other nofun nofun nofun ?_
      unfold HostState.handle
      simp only
      split
      · rfl
      · split
        · rfl
        · split <;> rfl
  | _ => exact .other nofun nofun nofun rfl

end Tabs

/-! ## The active tab -/

/-- The active tab is open, unless no tab is. -/
def HostState.ActiveOpen (state : HostState) : Prop :=
  ∀ tabId, (state.tabs tabId).isSome → (state.tabs state.activeTabId).isSome

/-- A switch names an open tab, and a close another one than the active, except where
no tab is left. -/
def Request.KeepsActive (state : HostState) (request : Request) : Prop :=
  match request.msg with
  | .switchTab tabId => (state.tabs tabId).isSome ∨ ∀ other, state.tabs other = none
  | .closeTab tabId => tabId = state.activeTabId → ∀ other, other ≠ tabId → state.tabs other = none
  | _ => True

theorem activeOpen_iff_keepsActive {state next : HostState} {request : Request}
    (opened : state.ActiveOpen) (effect : TabEffect state request.msg next) :
    next.ActiveOpen ↔ request.KeepsActive state := by
  unfold Request.KeepsActive
  generalize request.msg = msg at effect
  cases effect with
  | @create tabId url next tabs active =>
      refine iff_of_true (fun other _ => ?_) trivial
      rw [tabs, active, Function.update_self]
      rfl
  | @close tabId next tabs active =>
      unfold HostState.ActiveOpen
      rw [tabs, active]
      constructor
      · intro kept same other differs
        have shut := kept other
        rw [Function.update_of_ne differs, ← same, Function.update_self] at shut
        cases found : state.tabs other with
        | none => rfl
        | some tab => exact absurd (shut (by rw [found]; rfl)) nofun
      · intro last other found
        by_cases same : tabId = state.activeTabId
        · by_cases closed : other = tabId
          · rw [closed, Function.update_self] at found
            cases found
          · rw [Function.update_of_ne closed, last same other closed] at found
            cases found
        · rw [Function.update_of_ne (Ne.symm same)]
          by_cases closed : other = tabId
          · rw [closed, Function.update_self] at found
            cases found
          · rw [Function.update_of_ne closed] at found
            exact opened other found
  | @switch tabId next tabs active =>
      unfold HostState.ActiveOpen
      rw [tabs, active]
      constructor
      · intro kept
        cases found : state.tabs tabId with
        | some tab =>
            left
            rw [found]
            rfl
        | none =>
            refine .inr fun other => ?_
            cases present : state.tabs other with
            | none => rfl
            | some tab =>
                have shut := kept other (by rw [present]; rfl)
                rw [found] at shut
                cases shut
      · rintro (found | empty) other present
        · exact found
        · rw [empty other] at present
          cases present
  | other noCreate noClose noSwitch same =>
      subst same
      refine iff_of_true opened ?_
      split
      case h_1 tabId => exact absurd rfl (noSwitch tabId)
      case h_2 tabId => exact absurd rfl (noClose tabId)
      case h_3 => trivial

theorem activeOpen_new (initialUrl : String) : (HostState.new initialUrl).ActiveOpen :=
  fun _ _ => rfl

/-- The host keeps its active tab open through a sequence of requests if and only if every
switch names an open tab and no close the active one, except where no tab is left. -/
theorem active_tab_open_iff (initialUrl : String) (requests : List Request) (emitted : List Message)
    (state : HostState) :
    Runs (requestStep.keeping HostState.ActiveOpen) (.new initialUrl) requests emitted state ↔
      Runs (requestStep.guarded fun state request => request.KeepsActive state) (.new initialUrl)
        requests emitted state := by
  refine Runs.keeping_iff_guarded (activeOpen_new initialUrl) ?_
  intro state request added next opened stepped
  obtain ⟨rfl, _⟩ := stepped
  exact activeOpen_iff_keepsActive opened (handle_tabEffect request)

/-- Tab 2 is opened, which makes it active, and closed. Tab 1 stays open. -/
theorem closed_tab_stays_active :
    let requests : List Request := [⟨.createTab 2 "b", (0, 0), 0⟩, ⟨.closeTab 2, (0, 0), 0⟩]
    ∃ emitted state, Runs requestStep (.new "a") requests emitted state ∧
      (state.tabs 1).isSome ∧ state.activeTabId = 2 ∧ ¬ state.ActiveOpen := by
  intro requests
  let created := ((HostState.new "a").handle ⟨.createTab 2 "b", (0, 0), 0⟩).state
  have opened : Runs requestStep (.new "a") [⟨.createTab 2 "b", (0, 0), 0⟩] _ created :=
    .single ⟨rfl, rfl⟩
  have closed : requestStep created ⟨.closeTab 2, (0, 0), 0⟩ _
      (created.handle ⟨.closeTab 2, (0, 0), 0⟩).state := ⟨rfl, rfl⟩
  refine ⟨_, _, opened.step closed, rfl, rfl, fun kept => ?_⟩
  have shut := kept 1 rfl
  cases shut

end ExoBrowser.Host
