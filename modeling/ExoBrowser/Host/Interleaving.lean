import ExoBrowser.Host.State

/-!
# Interleaving

The frame pump and the calls that share `tabs`, `last_frames` and `active_tab_id` with
it. A step is one access to a shared variable, or to a map while its lock is held, and
any task may take the next one. Uninterrupted, the tasks do what the host state does.
-/

set_option autoImplicit false

namespace ExoBrowser.Host

open Library Proto

/-! ## Tasks -/

/-- A frame from WPE, and the number of frames captured before it. -/
structure Capture where
  frame : Frame
  serial : Nat

/-- `batch.insert`. -/
def insertCapture (c : Capture) (batch : List Capture) : List Capture :=
  batch.filter (·.frame.tabId ≠ c.frame.tabId) ++ [c]

/-- Where the pump is: at `select!`, in the loop around `try_recv`, or in the loop over
the batch. There it is about to take the previous frame of the active tab, has taken it,
is about to store a frame of another tab, or publishes. -/
inductive PumpPhase where
  | waiting
  | collecting (batch : List Capture)
  | serving (batch : List Capture)
  | taking (c : Capture) (batch : List Capture)
  | holding (c : Capture) (prev : Option Frame) (mustFull : Bool) (batch : List Capture)
  | storing (c : Capture) (batch : List Capture)
  | publishing (c : Capture) (messages : List Message) (batch : List Capture)

/-- Where a call is. `looking` and `announcing` hold the lock of `tabs`. A call of
`close_tab` remembers how many frames were captured before it. -/
inductive CallPhase where
  | idle
  | snapshotting (tabId : UInt32)
  | returning (found : Option Capture)
  | opening (tabId : UInt32)
  | switching (tabId : UInt32)
  | looking (tabId : UInt32) (tab : TabEntry)
  | announcing (messages : List (Message × Option Capture))
  | clearing (tabId : UInt32) (since : Nat)
  | closing (tabId : UInt32) (since : Nat)

/-- `tableFree` tells that nobody holds the lock of `tabs`. The last two fields only
record: how many frames were captured, and how many before the last call of `close_tab`
that completed, for each tab. -/
structure World (Caller : Type) where
  tabs : UInt32 → Option TabEntry
  tableFree : Bool
  lastFrames : UInt32 → Option Capture
  activeTabId : UInt32
  forceFull : UInt32 → Bool
  channel : List Capture
  pump : PumpPhase
  calls : Caller → CallPhase
  captured : Nat
  closedSince : UInt32 → Nat

/-- What the pump takes from its other channels. -/
inductive Note where
  | load (tabId : UInt32) (load : LoadState)
  | title (tabId : UInt32) (newTitle : String)
  | url (tabId : UInt32) (newUrl : String)
  | cursor (tabId : UInt32) (shapeId : UInt8)

def Note.receive (host : HostState) : Note → HostState × List Message
  | .load tabId state => host.receiveLoad tabId state
  | .title tabId newTitle => host.receiveTitle tabId newTitle
  | .url tabId newUrl => host.receiveUrl tabId newUrl
  | .cursor tabId shapeId => host.receiveCursor tabId shapeId

inductive Operation where
  | snapshot
  | switchTab (tabId : UInt32)
  | createTab (tabId : UInt32) (url : String) (makeActive : Bool)
  | closeTab (tabId : UInt32)

/-- Whose step is next: WPE captures a frame, the pump takes up a frame of its batch or
goes on otherwise, a call begins or goes on. -/
inductive Access (Caller : Type) where
  | capture (f : Frame)
  | serve (c : Capture)
  | pump
  | note (note : Note)
  | call (who : Caller) (operation : Operation)
  | advance (who : Caller)

inductive Emission where
  | stored (tabId : UInt32) (isOpen : Bool)
  | lookedUp (tabId : UInt32) (found : Option Capture)
  | published (msg : Message) (source : Option Capture)
  | returned (msg : Option Message) (source : Option Capture)
  | closing (tabId : UInt32)
  | cleared (tabId : UInt32)
  | closed (tabId : UInt32) (since : Nat)

namespace World

variable {Caller : Type}

def host (w : World Caller) : HostState where
  tabs := w.tabs
  lastFrames := fun tabId => (w.lastFrames tabId).map (·.frame)
  activeTabId := w.activeTabId
  forceFull := w.forceFull

def start (initialUrl : String) : World Caller where
  tabs := (HostState.new initialUrl).tabs
  tableFree := true
  lastFrames := fun _ => none
  activeTabId := 1
  forceFull := fun _ => false
  channel := []
  pump := .waiting
  calls := fun _ => .idle
  captured := 0
  closedSince := fun _ => 0

def setCall [DecidableEq Caller] (w : World Caller) (who : Caller) (phase : CallPhase) :
    World Caller :=
  { w with calls := Function.update w.calls who phase }

def setFrame (w : World Caller) (tabId : UInt32) (c : Option Capture) : World Caller :=
  { w with lastFrames := Function.update w.lastFrames tabId c }

def setPump (w : World Caller) (phase : PumpPhase) : World Caller := { w with pump := phase }

theorem lastFrames_setFrame (w : World Caller) (tabId other : UInt32) (found : Option Capture) :
    (w.setFrame tabId found).lastFrames other = if other = tabId then found else w.lastFrames other :=
  Function.update_apply ..

theorem calls_setCall [DecidableEq Caller] (w : World Caller) (who other : Caller) (phase : CallPhase) :
    (w.setCall who phase).calls other = if other = who then phase else w.calls other :=
  Function.update_apply ..

end World

/-! ## Steps -/

/-- What the pump publishes for a frame of the active tab, of which it took `prev`. -/
def Frame.pumpMessages (aligned : Nat → Bool) (prev : Option Frame) (mustFull : Bool) (f : Frame)
    (tsUs : UInt64) : Run (List Message) :=
  match prev with
  | some prev =>
      if !mustFull ∧ prev.sameGeom f then prev.deltaMessages aligned f tsUs
      else return [f.rawFrame tsUs]
  | none => return [f.rawFrame tsUs]

/-- What `switch_tab` publishes for a tab, with the frame that it found. -/
def announcement (tabId : UInt32) (tab : TabEntry) (tsUs : UInt64) (found : Option Capture) :
    List (Message × Option Capture) :=
  let full := match found with
    | some c => [(c.frame.rawFrame tsUs, some c)]
    | none => []
  full ++ [(.title tab.title, none), (.urlChanged tab.url, none), (.tabActivated tabId, none)]

section Steps

variable {Caller : Type} [DecidableEq Caller]

inductive Atomic : Step (World Caller) (Access Caller) Emission where
  | capture {w : World Caller} {f : Frame} :
      Atomic w (.capture f) []
        { w with channel := w.channel ++ [⟨f, w.captured⟩], captured := w.captured + 1 }
  -- the pump
  | receive {w : World Caller} {c rest} : w.pump = .waiting → w.channel = c :: rest →
      Atomic w .pump [] { w with channel := rest, pump := .collecting [c] }
  | collect {w : World Caller} {c rest batch} : w.pump = .collecting batch → w.channel = c :: rest →
      Atomic w .pump [] { w with channel := rest, pump := .collecting (insertCapture c batch) }
  | collected {w : World Caller} {batch} : w.pump = .collecting batch → w.channel = [] →
      Atomic w .pump [] (w.setPump (.serving batch))
  | serveActive {w : World Caller} {before c after} : w.pump = .serving (before ++ c :: after) →
      w.activeTabId = c.frame.tabId → Atomic w (.serve c) [] (w.setPump (.taking c (before ++ after)))
  | serveOther {w : World Caller} {before c after} : w.pump = .serving (before ++ c :: after) →
      w.activeTabId ≠ c.frame.tabId → Atomic w (.serve c) [] (w.setPump (.storing c (before ++ after)))
  | remove {w : World Caller} {c batch} : w.pump = .taking c batch →
      Atomic w .pump []
        { w.setFrame c.frame.tabId none with
          forceFull := Function.update w.forceFull c.frame.tabId false
          pump := .holding c ((w.lastFrames c.frame.tabId).map (·.frame))
            (w.forceFull c.frame.tabId) batch }
  | store {w : World Caller} {c prev mustFull batch messages} (tsUs : UInt64)
      (aligned : Nat → Bool) : w.pump = .holding c prev mustFull batch →
      c.frame.pumpMessages aligned prev mustFull tsUs = .ok messages →
      Atomic w .pump [.stored c.frame.tabId (w.tabs c.frame.tabId).isSome]
        ((w.setFrame c.frame.tabId (some c)).setPump (.publishing c messages batch))
  | storeOther {w : World Caller} {c batch} : w.pump = .storing c batch →
      Atomic w .pump [.stored c.frame.tabId (w.tabs c.frame.tabId).isSome]
        ((w.setFrame c.frame.tabId (some c)).setPump (.serving batch))
  | publish {w : World Caller} {c m messages batch} : w.pump = .publishing c (m :: messages) batch →
      Atomic w .pump [.published m (some c)] (w.setPump (.publishing c messages batch))
  | published {w : World Caller} {c batch} : w.pump = .publishing c [] batch →
      Atomic w .pump [] (w.setPump (.serving batch))
  | served {w : World Caller} : w.pump = .serving [] → Atomic w .pump [] (w.setPump .waiting)
  | note {w : World Caller} {note : Note} : w.pump = .waiting → w.tableFree →
      Atomic w (.note note) ((note.receive w.host).2.map fun m => .published m none)
        { w with
          tabs := (note.receive w.host).1.tabs
          forceFull := (note.receive w.host).1.forceFull }
  -- `snapshot`
  | snapshot {w : World Caller} {who} : w.calls who = .idle →
      Atomic w (.call who .snapshot) [] (w.setCall who (.snapshotting w.activeTabId))
  | lookup {w : World Caller} {who tabId} : w.calls who = .snapshotting tabId →
      Atomic w (.advance who) [.lookedUp tabId (w.lastFrames tabId)]
        (w.setCall who (.returning (w.lastFrames tabId)))
  | answer {w : World Caller} {who found} (tsUs : UInt64) : w.calls who = .returning found →
      Atomic w (.advance who) [.returned (found.map (·.frame.rawFrame tsUs)) found]
        (w.setCall who .idle)
  -- `switch_tab`
  | switchTab {w : World Caller} {who tabId} : w.calls who = .idle →
      Atomic w (.call who (.switchTab tabId)) []
        { w.setCall who (.switching tabId) with activeTabId := tabId }
  | unknown {w : World Caller} {who tabId} : w.calls who = .switching tabId → w.tableFree →
      w.tabs tabId = none → Atomic w (.advance who) [] (w.setCall who .idle)
  | known {w : World Caller} {who tabId tab} : w.calls who = .switching tabId → w.tableFree →
      w.tabs tabId = some tab →
      Atomic w (.advance who) [] { w.setCall who (.looking tabId tab) with tableFree := false }
  | look {w : World Caller} {who tabId tab} (tsUs : UInt64) : w.calls who = .looking tabId tab →
      Atomic w (.advance who) [.lookedUp tabId (w.lastFrames tabId)]
        (w.setCall who (.announcing (announcement tabId tab tsUs (w.lastFrames tabId))))
  | announce {w : World Caller} {who m source messages} :
      w.calls who = .announcing ((m, source) :: messages) →
      Atomic w (.advance who) [.published m source] (w.setCall who (.announcing messages))
  | announced {w : World Caller} {who} : w.calls who = .announcing [] →
      Atomic w (.advance who) [] { w.setCall who .idle with tableFree := true }
  -- `create_tab`
  | createTab {w : World Caller} {who tabId url makeActive} : w.calls who = .idle → w.tableFree →
      Atomic w (.call who (.createTab tabId url makeActive)) []
        { w.setCall who (if makeActive then .opening tabId else .idle) with
          tabs := Function.update w.tabs tabId (some { url, title := "New Tab" }) }
  | activate {w : World Caller} {who tabId} : w.calls who = .opening tabId →
      Atomic w (.advance who) [] { w.setCall who (.switching tabId) with activeTabId := tabId }
  -- `close_tab`
  | closeTab {w : World Caller} {who tabId} : w.calls who = .idle → w.tableFree →
      Atomic w (.call who (.closeTab tabId)) [.closing tabId]
        { w.setCall who (.clearing tabId w.captured) with
          tabs := Function.update w.tabs tabId none }
  | clear {w : World Caller} {who tabId since} : w.calls who = .clearing tabId since →
      Atomic w (.advance who) [.cleared tabId]
        ((w.setFrame tabId none).setCall who (.closing tabId since))
  | closed {w : World Caller} {who tabId since} : w.calls who = .closing tabId since →
      Atomic w (.advance who) [.closed tabId since]
        { w.setCall who .idle with
          closedSince := Function.update w.closedSince tabId (max since (w.closedSince tabId)) }

end Steps

/-! ## Uninterrupted tasks -/

def Emission.message : Emission → Option Message
  | .published m _ => some m
  | _ => none

theorem receiveFrame_active {state : HostState} {f : Frame} (tsUs : UInt64)
    (aligned : Nat → Bool) (active : state.activeTabId = f.tabId) :
    state.receiveFrame f tsUs aligned =
      f.pumpMessages aligned (state.lastFrames f.tabId) (state.forceFull f.tabId) tsUs >>=
        fun messages => .ok ((state.removeForceFull f.tabId).insertFrame f, messages) := by
  unfold HostState.receiveFrame Frame.pumpMessages
  rw [if_pos active]
  cases state.lastFrames f.tabId with
  | none => rfl
  | some prev =>
      simp only
      split <;> rfl

section Uninterrupted

variable {Caller : Type} {w : World Caller}

theorem map_update_frame (frames : UInt32 → Option Capture) (c : Capture) :
    (fun tabId => (Function.update frames c.frame.tabId (some c) tabId).map (·.frame)) =
      Function.update (fun tabId => (frames tabId).map (·.frame)) c.frame.tabId (some c.frame) :=
  Function.comp_update (Option.map Capture.frame) frames c.frame.tabId (some c)

variable [DecidableEq Caller]

/-- `r` is reached from `w` by steps that publish `messages`. -/
def Reaches (w : World Caller) (messages : List Message) (r : World Caller) : Prop :=
  ∃ accesses emitted, Runs Atomic w accesses emitted r ∧
    emitted.filterMap Emission.message = messages

theorem Reaches.trans {v r : World Caller} {messages more : List Message}
    (first : Reaches w messages v) (second : Reaches v more r) : Reaches w (messages ++ more) r := by
  obtain ⟨accesses, emitted, ran, told⟩ := first
  obtain ⟨later, added, went, said⟩ := second
  refine ⟨_, _, ran.trans went, ?_⟩
  rw [List.filterMap_append, told, said]

theorem Reaches.of_atomic {r : World Caller} {access : Access Caller} {emitted : List Emission}
    (stepped : Atomic w access emitted r) : Reaches w (emitted.filterMap Emission.message) r :=
  ⟨_, _, .single stepped, rfl⟩

theorem reaches_published {c : Capture} {batch : List Capture} (messages : List Message)
    (pump : w.pump = .publishing c messages batch) :
    Reaches w messages (w.setPump (.serving batch)) := by
  induction messages generalizing w with
  | nil => exact .of_atomic (.published pump)
  | cons m messages ih =>
      have rest := @ih (w.setPump (.publishing c messages batch)) rfl
      exact (Reaches.of_atomic (.publish pump)).trans rest

theorem reaches_stored {before after : List Capture} {c : Capture} {tsUs : UInt64}
    {aligned : Nat → Bool} {messages : List Message}
    (pump : w.pump = .serving (before ++ c :: after)) (active : w.activeTabId = c.frame.tabId)
    (computed : c.frame.pumpMessages aligned (w.host.lastFrames c.frame.tabId)
      (w.forceFull c.frame.tabId) tsUs = .ok messages) :
    ∃ v, Reaches w [] v ∧ v.pump = .publishing c messages (before ++ after) ∧
      v.host = (w.host.removeForceFull c.frame.tabId).insertFrame c.frame := by
  have served : Runs Atomic w _ _ _ := .single (.serveActive pump active)
  have removed := served.step (.remove rfl)
  have stored := removed.step (.store tsUs aligned rfl computed)
  refine ⟨_, ⟨_, _, stored, rfl⟩, rfl, ?_⟩
  have frames := map_update_frame w.lastFrames c
  have idem : Function.update (Function.update w.lastFrames c.frame.tabId none) c.frame.tabId (some c) =
      Function.update w.lastFrames c.frame.tabId (some c) := by rw [Function.update_idem]
  rw [← idem] at frames
  exact congrArg (HostState.mk w.tabs · w.activeTabId
    (Function.update w.forceFull c.frame.tabId false)) frames

/-- A pass of the pump over a frame of its batch is `receiveFrame`. -/
theorem reaches_receiveFrame {before after : List Capture} {c : Capture} {tsUs : UInt64}
    {aligned : Nat → Bool} {next : HostState} {messages : List Message}
    (pump : w.pump = .serving (before ++ c :: after))
    (received : w.host.receiveFrame c.frame tsUs aligned = .ok (next, messages)) :
    ∃ r, Reaches w messages r ∧ r.host = next ∧ r.pump = .serving (before ++ after) := by
  by_cases active : w.activeTabId = c.frame.tabId
  · rw [receiveFrame_active tsUs aligned active] at received
    obtain ⟨told, computed, result⟩ := Checked.bind_eq_ok received
    cases result
    obtain ⟨v, stored, publishing, same⟩ := reaches_stored pump active computed
    exact ⟨_, stored.trans (reaches_published messages publishing), same, rfl⟩
  · have same : w.host.receiveFrame c.frame tsUs aligned = .ok (w.host.insertFrame c.frame, []) :=
      if_neg active
    rw [same] at received
    cases received
    have served : Runs Atomic w _ _ _ := .single (.serveOther pump active)
    refine ⟨_, ⟨_, _, served.step (.storeOther rfl), rfl⟩, ?_, rfl⟩
    exact congrArg (HostState.mk w.tabs · w.activeTabId w.forceFull) (map_update_frame w.lastFrames c)

theorem reaches_announced {who : Caller} (messages : List (Message × Option Capture))
    (phase : w.calls who = .announcing messages) :
    ∃ r, Reaches w (messages.map (·.1)) r ∧ r.host = w.host ∧ r.calls who = .idle ∧ r.tableFree := by
  induction messages generalizing w with
  | nil => exact ⟨_, .of_atomic (.announced phase), rfl, Function.update_self .., rfl⟩
  | cons item messages ih =>
      obtain ⟨m, source⟩ := item
      have announced : Reaches w [m] _ := .of_atomic (.announce phase)
      obtain ⟨r, rest, host, idle, free⟩ :=
        @ih (w.setCall who (.announcing messages)) (Function.update_self ..)
      exact ⟨r, announced.trans rest, host, idle, free⟩

theorem reaches_looked {who : Caller} {tabId : UInt32} {tab : TabEntry} (tsUs : UInt64)
    (phase : w.calls who = .switching tabId) (free : w.tableFree) (found : w.tabs tabId = some tab) :
    ∃ v, Reaches w [] v ∧ v.host = w.host ∧
      v.calls who = .announcing (announcement tabId tab tsUs (w.lastFrames tabId)) := by
  have known : Runs Atomic w _ _ _ := .single (.known phase free found)
  have looked := known.step (.look tsUs (Function.update_self ..))
  exact ⟨_, ⟨_, _, looked, rfl⟩, rfl, Function.update_self ..⟩

omit [DecidableEq Caller] in
theorem announcement_messages (tabId : UInt32) (tab : TabEntry) (tsUs : UInt64) (found : Option Capture) :
    (announcement tabId tab tsUs found).map (·.1) =
      (match found.map (·.frame) with
        | some f => [f.rawFrame tsUs]
        | none => []) ++ [.title tab.title, .urlChanged tab.url, .tabActivated tabId] := by
  cases found <;> rfl

/-- `switch_tab` behind the store of `active_tab_id`. -/
theorem reaches_switched {v : World Caller} {who : Caller} {tabId : UInt32} (tsUs : UInt64)
    (stored : Reaches w [] v) (phase : v.calls who = .switching tabId) (free : v.tableFree)
    (active : v.activeTabId = tabId) :
    ∃ r, Reaches w (v.host.switchTab tabId tsUs).2 r ∧ r.host = (v.host.switchTab tabId tsUs).1 ∧
      r.calls who = .idle := by
  subst active
  unfold HostState.switchTab
  cases found : v.host.tabs v.activeTabId with
  | none =>
      have unknown : Reaches v [] _ := .of_atomic (.unknown phase free found)
      exact ⟨_, stored.trans unknown, rfl, Function.update_self ..⟩
  | some tab =>
      obtain ⟨found, looked, host, announcing⟩ := reaches_looked tsUs phase free found
      obtain ⟨r, announced, same, idle, _⟩ := reaches_announced _ announcing
      refine ⟨r, ?_, same.trans host, idle⟩
      have whole := stored.trans (looked.trans announced)
      rw [announcement_messages] at whole
      exact whole

section Calls

variable {who : Caller} (idle : w.calls who = .idle) (free : w.tableFree)

include idle

theorem reaches_snapshot (tsUs : UInt64) :
    ∃ accesses emitted r, Runs Atomic w accesses emitted r ∧ r.host = w.host ∧ r.calls who = .idle ∧
      ∃ source, emitted.getLast? = some (.returned (w.host.snapshot tsUs) source) := by
  have called : Runs Atomic w _ _ _ := .single (.snapshot idle)
  have found := called.step (.lookup (Function.update_self ..))
  have answered := found.step (.answer tsUs (Function.update_self ..))
  refine ⟨_, _, _, answered, rfl, Function.update_self .., w.lastFrames w.activeTabId, ?_⟩
  have same : w.host.snapshot tsUs = (w.lastFrames w.activeTabId).map (·.frame.rawFrame tsUs) :=
    Option.map_map ..
  rw [same]
  rfl

include free

theorem reaches_switchTab (tabId : UInt32) (tsUs : UInt64) :
    ∃ r, Reaches w (w.host.switchTab tabId tsUs).2 r ∧ r.host = (w.host.switchTab tabId tsUs).1 ∧
      r.calls who = .idle := by
  have called : Runs Atomic w [.call who (.switchTab tabId)] [] _ := .single (.switchTab idle)
  have stored : Reaches w [] _ := ⟨_, _, called, rfl⟩
  have switched := reaches_switched tsUs stored (Function.update_self ..) free rfl
  exact switched

theorem reaches_createTab (tabId : UInt32) (url : String) (makeActive : Bool) (tsUs : UInt64) :
    ∃ r, Reaches w (w.host.createTab tabId url makeActive tsUs).2 r ∧
      r.host = (w.host.createTab tabId url makeActive tsUs).1 ∧ r.calls who = .idle := by
  cases makeActive with
  | false =>
      have called : Atomic w (.call who (.createTab tabId url false)) [] _ := .createTab idle free
      exact ⟨_, .of_atomic called, rfl, Function.update_self ..⟩
  | true =>
      have called : Runs Atomic w [.call who (.createTab tabId url true)] [] _ :=
        .single (.createTab idle free)
      have activated := called.step (.activate (Function.update_self ..))
      have opened : Reaches w [] _ := ⟨_, _, activated, rfl⟩
      have switched := reaches_switched tsUs opened (Function.update_self ..) free rfl
      exact switched

theorem reaches_closeTab (tabId : UInt32) :
    ∃ r, Reaches w (w.host.closeTab tabId).2 r ∧ r.host = (w.host.closeTab tabId).1 ∧
      r.calls who = .idle := by
  have called : Runs Atomic w [.call who (.closeTab tabId)] _ _ := .single (.closeTab idle free)
  have cleared := called.step (.clear (Function.update_self ..))
  have closed := cleared.step (.closed (Function.update_self ..))
  refine ⟨_, ⟨_, _, closed, rfl⟩, ?_, Function.update_self ..⟩
  exact congrArg (HostState.mk _ · w.activeTabId w.forceFull)
    (Function.comp_update (Option.map Capture.frame) w.lastFrames tabId none)

end Calls

end Uninterrupted

end ExoBrowser.Host
