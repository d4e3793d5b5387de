import ExoBrowser.Host.DeltaProperties

/-!
# The delta stream

A subscriber that starts from a snapshot and applies what is published shows the
stored frame of the active tab after every step of the host.
-/

set_option autoImplicit false

namespace ExoBrowser.Host

open Library Proto

def HostState.Valid (state : HostState) : Prop :=
  ∀ tabId f, state.lastFrames tabId = some f → f.WellFormed

/-- The picture is that of the active tab's stored frame, if there is one. -/
def HostState.Shown (state : HostState) (shown : Option (Picture Bytes)) : Prop :=
  ∀ f, state.lastFrames state.activeTabId = some f →
    ∃ picture, shown = some picture ∧ picture.Shows f.width f.height f.pixel

/-- What a step keeps: stored frames stay valid, and a subscriber that applies what
the step publishes keeps showing the active tab. -/
structure Keeps (state : HostState) (result : HostState × List Message) : Prop where
  valid : result.1.Valid
  shows : ∀ shown, state.Shown shown → result.1.Shown (replay (sentEdits result.2) shown)
  faithful : ∀ m ∈ result.2, Faithful m

variable {target : Target} {state : HostState}

/-! ## Messages that are no frames -/

theorem editOf_of_silent {m : Message} (silent : sentEdit m = none) : editOf target m = none := by
  cases m with
  | rawFrame => cases silent
  | subframe => cases silent
  | _ => rfl

theorem editsOf_ifActive {m : Message} (noFrame : editOf target m = none) (tabId : UInt32) :
    editsOf target (state.ifActive tabId m) = [] := by
  unfold HostState.ifActive
  split
  · simp [editsOf, noFrame]
  · rfl

theorem editsOf_cons {m : Message} (noFrame : editOf target m = none) (messages : List Message) :
    editsOf target (m :: messages) = editsOf target messages :=
  List.filterMap_cons_none noFrame

theorem editsOf_append (first second : List Message) :
    editsOf target (first ++ second) = editsOf target first ++ editsOf target second :=
  List.filterMap_append

theorem sentEdits_append (first second : List Message) :
    sentEdits (first ++ second) = sentEdits first ++ sentEdits second :=
  List.filterMap_append

theorem silent_ifActive {m : Message} (silent : sentEdit m = none) (tabId : UInt32) :
    ∀ told ∈ state.ifActive tabId m, sentEdit told = none := by
  unfold HostState.ifActive
  split
  case isTrue => exact List.forall_mem_singleton.mpr silent
  case isFalse => exact List.forall_mem_nil _

/-- A step that touches neither frames nor the active tab publishes no edits. -/
theorem keeps_quiet (valid : state.Valid) {next : HostState} {published : List Message}
    (sameFrames : next.lastFrames = state.lastFrames) (sameTab : next.activeTabId = state.activeTabId)
    (silent : ∀ m ∈ published, sentEdit m = none) : Keeps state (next, published) where
  valid tabId f stored := valid tabId f (sameFrames ▸ stored)
  shows shown follows := by
    have quiet : sentEdits published = [] := List.filterMap_eq_nil_iff.mpr silent
    rw [quiet, replay_nil]
    intro f stored
    rw [sameFrames, sameTab] at stored
    exact follows f stored
  faithful m member _ target := (editOf_of_silent (silent m member)).trans (silent m member).symm

/-! ## Steps -/

theorem insertFrame_of_ne {f : Frame} {tabId : UInt32} (other : tabId ≠ f.tabId) :
    (state.insertFrame f).lastFrames tabId = state.lastFrames tabId :=
  Function.update_of_ne other _ _

@[simp] theorem insertFrame_self (f : Frame) : (state.insertFrame f).lastFrames f.tabId = some f :=
  Function.update_self _ _ _

theorem valid_insertFrame (valid : state.Valid) {f : Frame} (wellFormed : f.WellFormed) :
    (state.insertFrame f).Valid := by
  intro tabId g stored
  by_cases same : tabId = f.tabId
  · subst same
    rw [insertFrame_self] at stored
    cases stored
    exact wellFormed
  · rw [insertFrame_of_ne same] at stored
    exact valid tabId g stored

private theorem keeps_stored (valid : state.Valid) {f : Frame} (wellFormed : f.WellFormed)
    (active : state.activeTabId = f.tabId) {published : List Message}
    (leads : ∀ shown, state.Shown shown →
      ∃ picture, replay (sentEdits published) shown = some picture ∧
        picture.Shows f.width f.height f.pixel) (faithful : ∀ m ∈ published, Faithful m) :
    Keeps state ((state.removeForceFull f.tabId).insertFrame f, published) where
  valid := by
    have validRemoved : (state.removeForceFull f.tabId).Valid := valid
    exact valid_insertFrame validRemoved wellFormed
  shows shown follows g stored := by
    have stored_eq : ((state.removeForceFull f.tabId).insertFrame f).lastFrames
        state.activeTabId = some f := by
      rw [active, insertFrame_self]
    obtain rfl : f = g := Option.some.inj (stored_eq.symm.trans stored)
    exact leads shown follows
  faithful := faithful

theorem replay_rawFrame {f : Frame} (wellFormed : f.WellFormed) (tsUs : UInt64)
    (shown : Option (Picture Bytes)) :
    ∃ picture, replay (sentEdits [f.rawFrame tsUs]) shown = some picture ∧
      picture.Shows f.width f.height f.pixel := by
  refine ⟨{ width := f.width, height := f.height, pixel := f.pixel }, ?_, rfl, rfl,
    fun _ _ _ _ => rfl⟩
  rw [sentEdits_rawFrame wellFormed]
  rfl

theorem editsOf_rawFrame (f : Frame) (tsUs : UInt64) :
    editsOf target [f.rawFrame tsUs] = sentEdits [f.rawFrame tsUs] :=
  editsOf_eq_sentEdits (List.forall_mem_singleton.mpr (faithful_rawFrame f tsUs))
    (List.forall_mem_singleton.mpr trivial) target

theorem receiveFrame_returns (valid : state.Valid) {f : Frame} (wellFormed : f.WellFormed)
    (tsUs : UInt64) (aligned : Nat → Bool) :
    Checked.Returns (state.receiveFrame f tsUs aligned) (Keeps state) := by
  unfold HostState.receiveFrame
  by_cases active : state.activeTabId = f.tabId
  · rw [if_pos active]
    have whole : Keeps state ((state.removeForceFull f.tabId).insertFrame f, [f.rawFrame tsUs]) :=
      keeps_stored valid wellFormed active (fun shown _ => replay_rawFrame wellFormed tsUs shown)
        (List.forall_mem_singleton.mpr (faithful_rawFrame f tsUs))
    cases stored : state.lastFrames f.tabId with
    | none => exact ⟨_, rfl, whole⟩
    | some prev =>
        simp only
        split
        case isTrue delta =>
          have prevWellFormed := valid f.tabId prev stored
          obtain ⟨width_eq, height_eq, _⟩ := delta.2
          refine (deltaMessages_returns aligned prevWellFormed wellFormed delta.2 tsUs).bind
            fun published ⟨leads, faithful⟩ => ?_
          refine ⟨_, rfl, keeps_stored valid wellFormed active (fun shown follows => ?_) faithful⟩
          obtain ⟨picture, rfl, shows⟩ := follows prev (by rw [active, stored])
          rw [width_eq, height_eq] at shows
          exact leads.shows shows
        case isFalse => exact ⟨_, rfl, whole⟩
  · rw [if_neg active]
    refine ⟨_, rfl, valid_insertFrame valid wellFormed, fun shown follows g stored => ?_, List.forall_mem_nil _⟩
    exact follows g ((insertFrame_of_ne active).symm.trans stored)

theorem switchTab_keeps (valid : state.Valid) {tabId : UInt32}
    (present : (state.tabs tabId).isSome) (tsUs : UInt64) :
    Keeps state (state.switchTab tabId tsUs) := by
  obtain ⟨tab, found⟩ := Option.isSome_iff_exists.mp present
  unfold HostState.switchTab
  rw [found]
  refine ⟨valid, fun shown _ f stored => ?_, fun m member => ?_⟩
  · simp only at stored ⊢
    rw [stored, sentEdits_append, replay_append]
    have quiet : sentEdits [.title tab.title, .urlChanged tab.url, .tabActivated tabId] = [] := rfl
    rw [quiet, replay_nil]
    exact replay_rawFrame (valid tabId f stored) tsUs shown
  · cases List.mem_append.mp member with
    | inl full =>
        cases stored : state.lastFrames tabId with
        | none =>
            rw [stored] at full
            cases full
        | some f =>
            rw [stored] at full
            cases List.mem_singleton.mp full
            exact faithful_rawFrame f tsUs
    | inr told =>
        have silent : sentEdit m = none := by
          simp only [List.mem_cons, List.not_mem_nil, or_false] at told
          rcases told with rfl | rfl | rfl
          · rfl
          · rfl
          · rfl
        exact fun _ target => (editOf_of_silent silent).trans silent.symm

theorem createTab_keeps (valid : state.Valid) (tabId : UInt32) (url : String) (makeActive : Bool)
    (tsUs : UInt64) : Keeps state (state.createTab tabId url makeActive tsUs) := by
  unfold HostState.createTab
  simp only
  cases makeActive with
  | false => exact keeps_quiet valid rfl rfl (List.forall_mem_nil _)
  | true =>
      rw [if_pos rfl]
      let created : HostState :=
        { state with tabs := Function.update state.tabs tabId (some { url, title := "New Tab" }) }
      have created_valid : created.Valid := valid
      have present : (created.tabs tabId).isSome := by simp [created]
      obtain ⟨kept, shows, faithful⟩ := switchTab_keeps created_valid present tsUs
      exact ⟨kept, shows, faithful⟩

theorem closeTab_keeps (valid : state.Valid) (tabId : UInt32) :
    Keeps state (state.closeTab tabId) := by
  unfold HostState.closeTab
  refine ⟨?_, ?_, List.forall_mem_nil _⟩
  · intro other f stored
    by_cases same : other = tabId
    · subst same
      simp at stored
    · exact valid other f ((Function.update_of_ne same _ _).symm.trans stored)
  · intro shown follows f stored
    by_cases same : state.activeTabId = tabId
    · subst same
      simp at stored
    · exact follows f ((Function.update_of_ne same _ _).symm.trans stored)

/-- One step of the host, whatever it receives. -/
theorem step_returns (valid : state.Valid) (event : Event) (allowed : event.Allowed state) :
    Checked.Returns (state.step event) (Keeps state) := by
  cases event with
  | frame f tsUs aligned => exact receiveFrame_returns valid allowed tsUs aligned
  | load tabId load =>
      refine ⟨_, rfl, ?_⟩
      cases load <;> exact keeps_quiet valid rfl rfl (silent_ifActive rfl tabId)
  | title tabId newTitle =>
      exact ⟨_, rfl, keeps_quiet valid rfl rfl (List.forall_mem_cons.mpr ⟨rfl, silent_ifActive rfl tabId⟩)⟩
  | url tabId newUrl =>
      exact ⟨_, rfl, keeps_quiet valid rfl rfl (List.forall_mem_cons.mpr ⟨rfl, silent_ifActive rfl tabId⟩)⟩
  | cursor tabId shapeId => exact ⟨_, rfl, keeps_quiet valid rfl rfl (silent_ifActive rfl tabId)⟩
  | switchTab tabId tsUs => exact ⟨_, rfl, switchTab_keeps valid allowed tsUs⟩
  | createTab tabId url makeActive tsUs =>
      exact ⟨_, rfl, createTab_keeps valid tabId url makeActive tsUs⟩
  | closeTab tabId => exact ⟨_, rfl, closeTab_keeps valid tabId⟩

/-! ## Two frames -/

def rowFrame (first : UInt8) : Frame where
  tabId := 1
  width := 4
  height := 1
  stride := 16
  format := 0
  pixels := first :: List.replicate 15 7
  stride_lt := by decide

theorem rowFrame_wellFormed (first : UInt8) : (rowFrame first).WellFormed where
  width_pos := Nat.succ_pos 3
  width_le := Nat.le_of_ble_eq_true rfl
  height_pos := Nat.succ_pos 0
  height_le := Nat.le_of_ble_eq_true rfl
  stride_ge := Nat.le_refl 16
  pixels_length := rfl

def firstStored : HostState :=
  ((HostState.new "a").removeForceFull 1).insertFrame (rowFrame 0)

theorem firstStored_eq : (HostState.new "a").receiveFrame (rowFrame 0) 0 (fun _ => true) =
    .ok (firstStored, [(rowFrame 0).rawFrame 0]) := rfl

theorem secondStored_eq : firstStored.receiveFrame (rowFrame 9) 2 (fun _ => true) =
    .ok ((firstStored.removeForceFull 1).insertFrame (rowFrame 9),
      [.subframe 2 0 0 1 1 4 0 Compression.zstdDelta [9, 7, 7, 7]]) := by
  have delta : (rowFrame 0).deltaMessages (fun _ => true) (rowFrame 9) 2 =
      .ok [.subframe 2 0 0 1 1 4 0 Compression.zstdDelta [9, 7, 7, 7]] := by decide +kernel
  change (do return (_, ← (rowFrame 0).deltaMessages (fun _ => true) (rowFrame 9) 2)) = _
  rw [delta]
  rfl

/-! ## Runs -/

theorem keeps_of_hostStep {event : Event} {published : List Message} {next : HostState}
    (valid : state.Valid) (stepped : hostStep state event published next) :
    Keeps state (next, published) := by
  obtain ⟨allowed, result⟩ := stepped
  obtain ⟨found, returned, kept⟩ := step_returns valid event allowed
  cases result.symm.trans returned
  exact kept

theorem valid_new (initialUrl : String) : (HostState.new initialUrl).Valid := nofun

/-- Runs keep what steps keep. -/
theorem runs_keep {start : HostState} {events : List Event} {published : List Message}
    (valid : start.Valid) (ran : Runs hostStep start events published state) :
    Keeps start (state, published) := by
  refine ran.invariant (fun published state => Keeps start (state, published))
    ⟨valid, fun _ => id, List.forall_mem_nil _⟩ ?_
  intro published state event added next kept stepped
  have onward := keeps_of_hostStep kept.valid stepped
  refine ⟨onward.valid, fun shown follows => ?_, List.forall_mem_append.mpr ⟨kept.faithful, onward.faithful⟩⟩
  rw [sentEdits_append, replay_append]
  exact onward.shows _ (kept.shows shown follows)

theorem runs_valid {start : HostState} {events : List Event} {published : List Message}
    (valid : start.Valid) (ran : Runs hostStep start events published state) : state.Valid :=
  (runs_keep valid ran).valid

theorem shown_snapshot (valid : state.Valid) (tsUs : UInt64) :
    state.Shown (replay (sentEdits (state.snapshot tsUs).toList) none) := by
  intro f stored
  rw [HostState.snapshot, stored]
  exact replay_rawFrame (valid state.activeTabId f stored) tsUs none

theorem editsOf_snapshot (target : Target) (state : HostState) (tsUs : UInt64) :
    editsOf target (state.snapshot tsUs).toList = sentEdits (state.snapshot tsUs).toList := by
  unfold HostState.snapshot
  cases state.lastFrames state.activeTabId with
  | none => rfl
  | some f => exact editsOf_rawFrame f tsUs

/-- A subscriber that takes a snapshot in any reachable state, and from then on applies
every message published, shows the stored frame of the active tab after every step. -/
theorem subscriber_shows_active_tab (target : Target) (initialUrl : String)
    {before during : List Event} {earlier published : List Message} {subscribed state : HostState}
    (tsUs : UInt64) (reached : Runs hostStep (HostState.new initialUrl) before earlier subscribed)
    (ran : Runs hostStep subscribed during published state) (small : ∀ m ∈ published, BelowQ2 m) :
    state.Shown (replay (editsOf target published)
      (replay (editsOf target (subscribed.snapshot tsUs).toList) none)) := by
  have valid := runs_valid (valid_new initialUrl) reached
  have kept := runs_keep valid ran
  rw [editsOf_eq_sentEdits kept.faithful small, editsOf_snapshot]
  exact kept.shows _ (shown_snapshot valid tsUs)

/-- The second of two frames reaches the subscriber as a rectangle of one pixel. -/
theorem subscriber_shows_active_tab_delta :
    let published : List Message := [.subframe 2 0 0 1 1 4 0 Compression.zstdDelta [9, 7, 7, 7]]
    ((firstStored.removeForceFull 1).insertFrame (rowFrame 9)).Shown
      (replay (editsOf .bits64 published)
        (replay (editsOf .bits64 (firstStored.snapshot 1).toList) none)) := by
  have first : hostStep (HostState.new "a") (.frame (rowFrame 0) 0 fun _ => true)
      [(rowFrame 0).rawFrame 0] firstStored := ⟨rowFrame_wellFormed 0, firstStored_eq⟩
  have second : hostStep firstStored (.frame (rowFrame 9) 2 fun _ => true)
      [.subframe 2 0 0 1 1 4 0 Compression.zstdDelta [9, 7, 7, 7]]
      ((firstStored.removeForceFull 1).insertFrame (rowFrame 9)) :=
    ⟨rowFrame_wellFormed 9, secondStored_eq⟩
  exact subscriber_shows_active_tab .bits64 "a" 1 (.single first) (.single second) (by decide)

end ExoBrowser.Host
