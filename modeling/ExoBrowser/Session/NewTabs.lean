import ExoBrowser.Session.System

/-!
# New tabs

Several clients that number their new tabs by themselves. The host opens what it is asked
for, also over a tab that is there.
-/

set_option autoImplicit false

namespace ExoBrowser.Session

open Library Proto Host Client Checked

variable {Name : Type}

/-! ## New tabs under way -/

def creates : Ask UInt32 → Option UInt32
  | .create tabId => some tabId
  | _ => none

/-- The new tabs of a client that the host has not opened yet. -/
def Connection.creating (client : Connection) : List UInt32 := client.asks.filterMap creates

/-- The new tabs under way are not there yet, and no two of them are the same. -/
structure Apart (system : System Name) : Prop where
  free : ∀ name, ∀ tabId ∈ (system.clients name).creating, system.host.tabs tabId = none
  once : ∀ name, (system.clients name).creating.Nodup
  own : ∀ name other, ∀ tabId ∈ (system.clients name).creating,
    tabId ∈ (system.clients other).creating → other = name

/-- A new tab gets a number that no tab has, and none that is under way. -/
def SystemEvent.Unclaimed (build : Build) (system : System Name) : SystemEvent Name → Prop
  | .input name device =>
      ∀ tabId ∈ (device.asks build (system.clients name).core).filterMap creates,
        system.host.tabs tabId = none ∧ ∀ other, tabId ∉ (system.clients other).creating
  | _ => True

/-! ## Steps -/

section Steps

variable {build : Build} {system next : System Name}

theorem Apart.shrink (apart : Apart system)
    (fewer : ∀ name, (next.clients name).creating.Sublist (system.clients name).creating)
    (free : ∀ name, ∀ tabId ∈ (next.clients name).creating, next.host.tabs tabId = none) :
    Apart next where
  free := free
  once := fun name => (fewer name).nodup (apart.once name)
  own := fun name other tabId member also =>
    apart.own name other tabId ((fewer name).subset member) ((fewer other).subset also)

/-- Nothing changes about new tabs. -/
theorem Apart.same (apart : Apart system)
    (same : ∀ name, (next.clients name).creating = (system.clients name).creating)
    (closed : ∀ tabId, system.host.tabs tabId = none → next.host.tabs tabId = none) : Apart next := by
  refine apart.shrink (fun name => (same name) ▸ .refl _) fun name tabId member => ?_
  rw [same] at member
  exact closed tabId (apart.free name tabId member)

theorem creating_publish (host : HostState) (published : List Message) (name : Name) :
    ((system.publish host published).clients name).creating = (system.clients name).creating := rfl

theorem apart_publish {host : HostState} {published : List Message} (apart : Apart system)
    (unrelated : Unrelated system.host host published) : Apart (system.publish host published) := by
  refine apart.same (creating_publish host published) fun tabId closed => ?_
  have same := unrelated.tabs tabId
  cases found : host.tabs tabId with
  | none => exact found
  | some tab =>
      rw [found, closed] at same
      cases same

variable [DecidableEq Name]

theorem creating_set {name : Name} {client : Connection}
    (same : client.asks = (system.clients name).asks) (other : Name) :
    ((system.set name client).clients other).creating = (system.clients other).creating := by
  unfold Connection.creating
  by_cases here : other = name
  · subst here
    rw [System.set_clients, same]
  · rw [System.set_clients_of_ne system here]

theorem apart_set {name : Name} {client : Connection} (apart : Apart system)
    (same : client.asks = (system.clients name).asks) : Apart (system.set name client) :=
  apart.same (creating_set same) fun _ closed => closed

/-- An input keeps new tabs apart if and only if it claims no number that is taken. -/
theorem apart_input_iff {name : Name} {device : Device} {core : BrowserCore} (apart : Apart system)
    (returned : device.input build (system.clients name).core = .ok core) :
    Apart (system.set name { system.clients name with core }) ↔
      (SystemEvent.input name device).Unclaimed build system := by
  let added := (device.asks build (system.clients name).core).filterMap creates
  have mine : ((system.set name { system.clients name with core }).clients name).creating =
      (system.clients name).creating ++ added := by
    rw [System.set_clients]
    unfold Connection.creating
    rw [asks_input returned, List.filterMap_append]
  have others {other : Name} (differs : other ≠ name) :
      ((system.set name { system.clients name with core }).clients other).creating =
        (system.clients other).creating := by
    rw [System.set_clients_of_ne system differs]
  constructor
  · intro kept tabId new
    have member : tabId ∈ ((system.set name { system.clients name with core }).clients name).creating :=
      mine ▸ List.mem_append_right _ new
    refine ⟨kept.free name tabId member, fun other asked => ?_⟩
    by_cases same : other = name
    · subst same
      have once := kept.once other
      rw [mine, List.nodup_append] at once
      exact once.2.2 tabId asked tabId new rfl
    · exact same (kept.own name other tabId member ((others same).symm ▸ asked))
  · intro unclaimed
    have single : added.Nodup := by
      have acted := (acted_input returned).1
      change ((device.asks build (system.clients name).core).filterMap creates).Nodup
      generalize device.asks build (system.clients name).core = asks at acted
      cases acted with
      | opened => exact List.nodup_singleton _
      | _ => exact List.nodup_nil
    constructor
    · intro other tabId member
      by_cases same : other = name
      · subst same
        rw [mine] at member
        rcases List.mem_append.mp member with old | new
        · exact apart.free other tabId old
        · exact (unclaimed tabId new).1
      · exact apart.free other tabId (others same ▸ member)
    · intro other
      by_cases same : other = name
      · subst same
        rw [mine]
        refine List.nodup_append.mpr ⟨apart.once other, single, ?_⟩
        rintro tabId old _ new rfl
        exact (unclaimed tabId new).2 other old
      · rw [others same]
        exact apart.once other
    · intro one other tabId member also
      by_cases first : one = name
      · by_cases second : other = name
        · exact second.trans first.symm
        · subst first
          rw [mine] at member
          rw [others second] at also
          rcases List.mem_append.mp member with old | new
          · exact apart.own one other tabId old also
          · exact absurd also ((unclaimed tabId new).2 other)
      · rw [others first] at member
        by_cases second : other = name
        · subst second
          rw [mine] at also
          rcases List.mem_append.mp also with old | new
          · exact apart.own one other tabId member old
          · exact absurd member ((unclaimed tabId new).2 one)
        · rw [others second] at also
          exact apart.own one other tabId member also

theorem creating_handle {name : Name} {msg : Message} {rest : List Message} (tsUs : UInt64)
    (first : (system.clients name).requests = msg :: rest) :
    (system.clients name).creating =
        ((requestAsk msg).bind creates).toList ++
          ((system.handle name msg rest tsUs).clients name).creating ∧
      ∀ other, other ≠ name → ((system.handle name msg rest tsUs).clients other).creating =
        (system.clients other).creating := by
  have handled : ((system.handle name msg rest tsUs).clients name).creating =
      (rest.filterMap requestAsk ++
        (system.clients name).core.outboundInputs.filterMap InputEvent.ask).filterMap creates := by
    change ((system.set name _).clients name).creating = _
    rw [System.set_clients]
    rfl
  constructor
  · rw [handled]
    unfold Connection.creating Connection.asks
    rw [first, List.filterMap_cons]
    cases requestAsk msg with
    | none => rfl
    | some a =>
        rw [List.cons_append, List.filterMap_cons]
        cases a <;> rfl
  · intro other differs
    change ((system.set name _).clients other).creating = _
    rw [System.set_clients_of_ne system differs]

theorem apart_handle {name : Name} {msg : Message} {rest : List Message} {tsUs : UInt64}
    (apart : Apart system) (first : (system.clients name).requests = msg :: rest) :
    Apart (system.handle name msg rest tsUs) := by
  obtain ⟨mine, others⟩ := creating_handle tsUs first
  have fewer (other : Name) : ((system.handle name msg rest tsUs).clients other).creating.Sublist
      (system.clients other).creating := by
    by_cases same : other = name
    · subst same
      rw [mine]
      exact List.sublist_append_right _ _
    · rw [others other same]
  refine apart.shrink fewer fun other tabId member => ?_
  have closed := apart.free other tabId ((fewer other).subset member)
  have effect : TabEffect system.host msg (system.handle name msg rest tsUs).host :=
    handle_tabEffect ⟨msg, (system.clients name).lastPointer, tsUs⟩
  cases effect with
  | @create made url _ tabs active =>
      have asked : made ∈ (system.clients name).creating := by
        rw [mine]
        exact List.mem_append_left _ List.mem_cons_self
      have differs : tabId ≠ made := by
        rintro rfl
        have same := apart.own name other tabId asked ((fewer other).subset member)
        subst same
        have once := apart.once other
        rw [mine] at once
        exact (List.nodup_append.mp once).2.2 tabId List.mem_cons_self tabId member rfl
      rw [tabs, Function.update_of_ne differs]
      exact closed
  | @close gone _ tabs active =>
      rw [tabs]
      by_cases same : tabId = gone
      · rw [same, Function.update_self]
      · rw [Function.update_of_ne same]
        exact closed
  | switch tabs active =>
      rw [tabs]
      exact closed
  | other noCreate noClose noSwitch same =>
      rw [same]
      exact closed

theorem apart_exchange_iff {event : SystemEvent Name} {published : List Message}
    (apart : Apart system) (stepped : Exchange build system event published next) :
    Apart next ↔ event.Unclaimed build system := by
  cases stepped with
  | input returned => exact apart_input_iff apart returned
  | send drained => exact iff_of_true (apart_set apart (asks_send drained)) trivial
  | handle first => exact iff_of_true (apart_handle apart first) trivial
  | frame received => exact iff_of_true (apart_publish apart (unrelated_frame received)) trivial
  | note received => exact iff_of_true (apart_publish apart (unrelated_note received)) trivial
  | reply first applied => exact iff_of_true (apart_set apart (asks_applied applied)) trivial
  | bus first applied => exact iff_of_true (apart_set apart (asks_applied applied)) trivial
  | drop first dropped => exact iff_of_true (apart_set apart rfl) trivial

/-- What the host records for a new tab. -/
theorem created_handle {name : Name} {tabId : UInt32} {url : String} (rest : List Message)
    (tsUs : UInt64) : (system.handle name (.createTab tabId url) rest tsUs).host.tabs =
      Function.update system.host.tabs tabId (some { url, title := "New Tab" }) :=
  switchTab_tabs tabId tsUs

end Steps

/-- New tabs stay apart exactly as long as every one gets a number that is not taken. As long
as they do, the host opens a tab of its own for each, and none that is there changes. -/
theorem new_tabs_apart_iff [DecidableEq Name] (build : Build) (start system : System Name)
    (events : List (SystemEvent Name)) (published : List Message) (apart : Apart start) :
    (Runs (Step.keeping (Exchange build) Apart) start events published system ↔
      Runs (Step.guarded (Exchange build) (SystemEvent.Unclaimed build)) start events published system) ∧
    (Runs (Step.guarded (Exchange build) (SystemEvent.Unclaimed build)) start events published system →
      ∀ name tabId url rest tsUs, (system.clients name).requests = .createTab tabId url :: rest →
        let next := system.handle name (.createTab tabId url) rest tsUs
        system.host.tabs tabId = none ∧ next.host.tabs tabId = some { url, title := "New Tab" } ∧
          ∀ live, (system.host.tabs live).isSome → next.host.tabs live = system.host.tabs live) := by
  refine ⟨Runs.keeping_iff_guarded apart fun _ _ _ _ apart stepped =>
    apart_exchange_iff apart stepped, fun ran name tabId url rest tsUs first => ?_⟩
  have kept : Apart system := ran.invariant (fun _ system => Apart system) apart
    fun _ _ _ _ _ apart stepped => (apart_exchange_iff apart stepped.2).mpr stepped.1
  have asked : tabId ∈ (system.clients name).creating := by
    rw [(creating_handle tsUs first).1]
    exact List.mem_append_left _ List.mem_cons_self
  have closed := kept.free name tabId asked
  refine ⟨closed, ?_, fun live opened => ?_⟩
  · rw [created_handle, Function.update_self]
  · have differs : live ≠ tabId := by
      rintro rfl
      rw [closed] at opened
      cases opened
    rw [created_handle, Function.update_of_ne differs]

section Examples

instance (build : Build) (system : System Bool) :
    (event : SystemEvent Bool) → Decidable (event.Unclaimed build system)
  | .input _ _ => List.decidableBAll (fun tabId => _ = none ∧ ∀ _ : Bool, tabId ∉ _) _
  | .send .. | .handle .. | .frame .. | .note .. | .reply _ | .bus _ | .drop _ => .isTrue trivial

theorem fresh_apart (initialUrl : String) (width height : UInt32) :
    Apart (System.fresh Bool initialUrl width height) where
  free := fun _ _ member => absurd member List.not_mem_nil
  once := fun _ => List.nodup_nil
  own := fun _ _ _ member => absurd member List.not_mem_nil

def pressCtrlT (name : Bool) : List (SystemEvent Bool) :=
  [.input name (.modifiers modCtrl), .input name (.key 0x74 true none), .send name 0]

theorem new_tabs_apart_first :
    ∃ published system, Runs (Exchange ⟨true⟩) (System.fresh Bool "a" 640 480) (pressCtrlT false)
        published system ∧
      (system.clients false).requests = [.createTab 2 homeUrl] ∧ system.host.tabs 2 = none := by
  have checked : (runAll (guardedBy (SystemEvent.Unclaimed ⟨true⟩) (System.step ⟨true⟩))
      (System.fresh Bool "a" 640 480) (pressCtrlT false)).map
        (fun result => decide ((result.1.clients false).requests = [.createTab 2 homeUrl])) =
      some true := by decide +kernel
  obtain ⟨⟨system, published⟩, result, asked⟩ := Option.map_eq_some_iff.mp checked
  have first := of_decide_eq_true asked
  have ran : Runs (Step.guarded (Exchange ⟨true⟩) (SystemEvent.Unclaimed ⟨true⟩))
      (System.fresh Bool "a" 640 480) (pressCtrlT false) published system :=
    (Runs.of_runAll_guardedBy result).mono fun _ _ _ _ stepped =>
      ⟨stepped.1, exchange_of_step stepped.2⟩
  have opened := (new_tabs_apart_iff ⟨true⟩ _ system _ published (fresh_apart "a" 640 480)).2 ran
    false 2 homeUrl [] 0 first
  exact ⟨published, system, ran.of_guarded, first, opened.1⟩

/-- Both clients ask for a second tab. The tab of the first has got a title when the request
of the other is handled. -/
def colliding : List (SystemEvent Bool) :=
  pressCtrlT false ++ pressCtrlT true ++ [.handle false 0, .note (.title 2 "A")]

theorem new_tab_overwrites :
    ∃ published system, Runs (Exchange ⟨true⟩) (System.fresh Bool "a" 640 480) colliding published system ∧
      (system.clients true).requests = [.createTab 2 homeUrl] ∧
      system.host.tabs 2 = some { url := homeUrl, title := "A" } ∧
      (system.handle true (.createTab 2 homeUrl) [] 0).host.tabs 2 =
        some { url := homeUrl, title := "New Tab" } := by
  have checked : (runAll (System.step ⟨true⟩) (System.fresh Bool "a" 640 480) colliding).map
      (fun result => decide ((result.1.clients true).requests = [.createTab 2 homeUrl] ∧
        result.1.host.tabs 2 = some { url := homeUrl, title := "A" })) = some true := by
    decide +kernel
  obtain ⟨⟨system, published⟩, result, reached⟩ := Option.map_eq_some_iff.mp checked
  obtain ⟨asked, titled⟩ := of_decide_eq_true reached
  refine ⟨published, system, runs_of_runAll result, asked, titled, ?_⟩
  rw [created_handle, Function.update_self]

end Examples

end ExoBrowser.Session
