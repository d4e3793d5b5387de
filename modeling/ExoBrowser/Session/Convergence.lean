import ExoBrowser.Session.System

/-!
# One client

A host and its only client as a mirror: every step is a move of the mirror or changes
nothing that is in it. The tabs converge in every run, the active tab in those where no
word of an earlier selection is the last to arrive.
-/

set_option autoImplicit false

namespace ExoBrowser.Session

open Library Proto Host Client Checked

/-! ## The mirror -/

def mirror (host : HostState) (client : Connection) : Mirror UInt32 where
  live := {tabId | (host.tabs tabId).isSome}
  held := host.activeTabId
  ids := {tabId | tabId ∈ client.core.tabIds}
  shown := client.core.activeTabId
  asks := client.asks
  replies := client.replies.filterMap messageTell
  bus := client.bus.filterMap messageTell

def System.view (system : System Unit) : Mirror UInt32 := mirror system.host (system.clients ())

/-- What an event is for the mirror, if it is anything. -/
def SystemEvent.turn (build : Build) (system : System Unit) :
    SystemEvent Unit → Option (Turn UInt32)
  | .input _ device =>
      let asks := device.asks build (system.clients ()).core
      if asks = [] then none else some (.act asks)
  | .handle _ _ => ((system.clients ()).requests.head?.bind requestAsk).map fun _ => .handle
  | .reply _ => ((system.clients ()).replies.head?.bind messageTell).map fun _ => .reply
  | .bus _ => ((system.clients ()).bus.head?.bind messageTell).map fun _ => .bus
  | _ => none

theorem mirror_congr {host next : HostState} {client connection : Connection}
    (tabs : ∀ tabId, (next.tabs tabId).isSome = (host.tabs tabId).isSome)
    (active : next.activeTabId = host.activeTabId)
    (ids : connection.core.tabIds = client.core.tabIds)
    (shown : connection.core.activeTabId = client.core.activeTabId)
    (asks : connection.asks = client.asks)
    (replies : connection.replies.filterMap messageTell = client.replies.filterMap messageTell)
    (bus : connection.bus.filterMap messageTell = client.bus.filterMap messageTell) :
    mirror next connection = mirror host client := by
  unfold mirror
  congr 1
  · exact Set.ext fun tabId => by simp only [Set.mem_ofPred_eq, tabs]
  · rw [ids]

section Moves

variable {build : Build} {host : HostState} {client : Connection} {core : BrowserCore}

theorem acted_of_tabAction {asks : List (Ask UInt32)} (acted : TabAction client.core core asks)
    (some : asks ≠ []) :
    Acted (mirror host client) asks {tabId | tabId ∈ core.tabIds} core.activeTabId := by
  cases acted with
  | quiet => exact absurd rfl some
  | opened grown shown fresh =>
      rw [shown]
      refine .created ?_ fun other differs => ?_
      · rw [grown]
        exact List.mem_append_right _ List.mem_cons_self
      · rw [grown]
        change other ∈ _ ++ [_] ↔ other ∈ _
        rw [List.mem_append, List.mem_singleton]
        exact or_iff_left differs
  | closed less shown =>
      rw [shown]
      exact .closed less.known less.kept less.others
  | replaced less listed => exact .replaced less.known listed less.kept less.others
  | switched same listed fresh =>
      rw [same]
      exact .selected listed

theorem learned_of_news {tell : Tell UInt32} (news : News client.core core (some tell)) :
    Learned (mirror host client) tell {tabId | tabId ∈ core.tabIds} core.activeTabId := by
  cases news with
  | created listed others shown =>
      rw [shown]
      exact .created listed others
  | closed unlisted others kept known => exact .closed unlisted others kept known
  | selected same =>
      rw [same]
      exact .selected

theorem tells_switchTab (host : HostState) (tabId : UInt32) (tsUs : UInt64) :
    ∀ tell ∈ (host.switchTab tabId tsUs).2.filterMap messageTell, tell = .selected tabId := by
  unfold HostState.switchTab
  cases host.tabs tabId with
  | none => exact fun tell member => absurd member List.not_mem_nil
  | some tab =>
      intro tell member
      cases found : host.lastFrames tabId with
      | none =>
          rw [found] at member
          exact List.mem_singleton.mp member
      | some f =>
          rw [found] at member
          exact List.mem_singleton.mp member

theorem tells_createTab (host : HostState) (tabId : UInt32) (url : String) (tsUs : UInt64) :
    (host.createTab tabId url true tsUs).2.filterMap messageTell = [.selected tabId] := by
  unfold HostState.createTab HostState.switchTab
  simp only [if_pos, Function.update_self]
  cases host.lastFrames tabId <;> rfl

/-- A request about tabs is handled as the mirror says. -/
theorem handled_of_ask (host : HostState) (client : Connection) (request : Request) {a : Ask UInt32}
    (asked : requestAsk request.msg = some a) :
    ∃ reply, (host.handle request).replies.filterMap messageTell = [reply] ∧
      Library.Handled (mirror host client) a
        {tabId | ((host.handle request).state.tabs tabId).isSome}
        (host.handle request).state.activeTabId
        ((host.handle request).published.filterMap messageTell) reply := by
  obtain ⟨msg, lastPointer, tsUs⟩ := request
  cases msg with
  | createTab tabId url =>
      cases asked
      refine ⟨.created tabId, rfl, ?_⟩
      change Library.Handled _ _
        {other | ((host.createTab tabId url true tsUs).1.tabs other).isSome}
        (host.createTab tabId url true tsUs).1.activeTabId
        ((host.createTab tabId url true tsUs).2.filterMap messageTell) _
      have live : {other | ((host.createTab tabId url true tsUs).1.tabs other).isSome} =
          insert tabId (mirror host client).live := by
        ext other
        unfold HostState.createTab
        by_cases same : other = tabId
        · simp [same]
        · simp [same, mirror]
      have active : (host.createTab tabId url true tsUs).1.activeTabId = tabId :=
        switchTab_activeTabId tabId tsUs
      rw [tells_createTab, live, active]
      exact .create
  | closeTab tabId =>
      cases asked
      refine ⟨.closed tabId, rfl, ?_⟩
      have live : {other | ((host.closeTab tabId).1.tabs other).isSome} =
          (mirror host client).live \ {tabId} := by
        ext other
        unfold HostState.closeTab
        by_cases same : other = tabId
        · simp [same]
        · simp [same, mirror]
      change Library.Handled _ _ {other | ((host.closeTab tabId).1.tabs other).isSome} _ _ _
      rw [live]
      exact .close
  | switchTab tabId =>
      cases asked
      refine ⟨.selected tabId, rfl, ?_⟩
      change Library.Handled _ _ {other | ((host.switchTab tabId tsUs).1.tabs other).isSome}
        (host.switchTab tabId tsUs).1.activeTabId _ _
      rw [switchTab_tabs, switchTab_activeTabId]
      exact .select (tells_switchTab host tabId tsUs)
  | _ => cases asked

/-- Any other request changes nothing about tabs. -/
theorem handled_without_ask (host : HostState) (request : Request)
    (silent : requestAsk request.msg = none) :
    (host.handle request).state = host ∧ (host.handle request).published = [] ∧
      (host.handle request).replies.filterMap messageTell = [] := by
  obtain ⟨msg, lastPointer, tsUs⟩ := request
  cases msg with
  | createTab | closeTab | switchTab => cases silent
  | navAction action =>
      unfold HostState.handle
      simp only
      split
      · exact ⟨rfl, rfl, rfl⟩
      · split
        · exact ⟨rfl, rfl, rfl⟩
        · split <;> exact ⟨rfl, rfl, rfl⟩
  | _ => exact ⟨rfl, rfl, rfl⟩

end Moves

/-! ## Steps as moves -/

/-- A step is a move, or nothing. -/
def Follows (turn : Option (Turn UInt32)) (m next : Mirror UInt32) : Prop :=
  match turn with
  | some turn => Move m turn next
  | none => next = m

section Steps

variable {build : Build} {system next : System Unit}

theorem view_set (system : System Unit) (client : Connection) :
    (system.set () client).view = mirror system.host client :=
  congrArg (mirror system.host) (system.set_clients () client)

theorem follows_input {device : Device} {core : BrowserCore}
    (returned : device.input build (system.clients ()).core = .ok core) :
    Follows ((SystemEvent.input () device).turn build system) system.view
      (system.set () { system.clients () with core }).view := by
  have acted := (acted_input returned).1
  rw [view_set]
  unfold SystemEvent.turn
  simp only
  split
  case isTrue silent =>
    rw [silent] at acted
    cases acted with
    | quiet ids shown fresh =>
        refine mirror_congr (fun _ => rfl) rfl ids shown ?_ rfl rfl
        rw [asks_input returned, silent, List.append_nil]
  case isFalse asking =>
    have moved : Move system.view (.act (device.asks build (system.clients ()).core)) _ :=
      .act (acted_of_tabAction acted asking)
    have asks : ({ system.clients () with core } : Connection).asks =
        system.view.asks ++ device.asks build (system.clients ()).core := asks_input returned
    rw [← asks] at moved
    exact moved

theorem follows_send {tsUs : UInt64} {core : BrowserCore} {sent : List Message}
    (drained : (system.clients ()).core.drainOutbound tsUs = (core, sent)) :
    (system.set () { system.clients () with
      core, requests := (system.clients ()).requests ++ sent }).view = system.view := by
  rw [view_set]
  have asks := asks_send drained
  cases drained
  exact mirror_congr (fun _ => rfl) rfl rfl rfl asks rfl rfl

theorem follows_handle {tsUs : UInt64} {msg : Message} {rest : List Message}
    (first : (system.clients ()).requests = msg :: rest) :
    Follows ((SystemEvent.handle () tsUs).turn build system) system.view
      (system.handle () msg rest tsUs).view := by
  have view : (system.handle () msg rest tsUs).view = mirror (system.handled () msg tsUs).state
      { system.clients () with
        requests := rest
        lastPointer := (system.handled () msg tsUs).lastPointer
        replies := (system.clients ()).replies ++ (system.handled () msg tsUs).replies
        bus := (system.clients ()).bus ++ (system.handled () msg tsUs).published } := by
    unfold System.view System.handle System.publish System.set
    simp only
    rw [Function.update_self]
  rw [view]
  unfold SystemEvent.turn
  simp only [first, List.head?_cons, Option.bind_some]
  cases asked : requestAsk msg with
  | none =>
      obtain ⟨state, published, replies⟩ :=
        handled_without_ask system.host ⟨msg, (system.clients ()).lastPointer, tsUs⟩ asked
      refine mirror_congr (fun tabId => ?_) ?_ rfl rfl ?_ ?_ ?_
      · unfold System.handled
        rw [state]
      · unfold System.handled
        rw [state]
      · unfold Connection.asks
        rw [first, List.filterMap_cons, asked]
      · change List.filterMap messageTell (_ ++ (system.host.handle _).replies) = _
        rw [List.filterMap_append, replies, List.append_nil]
      · change List.filterMap messageTell (_ ++ (system.host.handle _).published) = _
        rw [published, List.append_nil]
  | some a =>
      obtain ⟨reply, replied, handled⟩ := handled_of_ask system.host (system.clients ())
        ⟨msg, (system.clients ()).lastPointer, tsUs⟩ asked
      have asks : system.view.asks = a :: (rest.filterMap requestAsk ++
          (system.clients ()).core.outboundInputs.filterMap InputEvent.ask) := by
        unfold System.view mirror Connection.asks
        rw [first, List.filterMap_cons, asked]
        rfl
      have moved : Move system.view .handle _ := .handle asks handled
      rw [← replied] at moved
      unfold Follows mirror
      simp only [List.filterMap_append]
      exact moved

theorem follows_publish {host : HostState} {published : List Message}
    (unrelated : Unrelated system.host host published) :
    (system.publish host published).view = system.view := by
  refine mirror_congr unrelated.tabs unrelated.active rfl rfl rfl rfl ?_
  change List.filterMap messageTell (_ ++ published) = _
  rw [List.filterMap_append, unrelated.silent, List.append_nil]

theorem follows_reply {msg : Message} {rest : List Message} {core : BrowserCore}
    (first : (system.clients ()).replies = msg :: rest)
    (applied : (system.clients ()).core.applyMessage build msg = .ok core) :
    Follows ((SystemEvent.reply ()).turn build system) system.view
      (system.set () { system.clients () with core, replies := rest }).view := by
  have learned := BrowserCore.applied_applyMessage msg core applied
  have asks := asks_applied applied
  rw [view_set]
  unfold SystemEvent.turn
  simp only [first, List.head?_cons, Option.bind_some]
  change Applied _ _ (messageTell msg) at learned
  cases told : messageTell msg with
  | none =>
      rw [told] at learned
      cases learned.news with
      | other ids shown =>
          refine mirror_congr (fun _ => rfl) rfl ids shown asks ?_ rfl
          rw [first, List.filterMap_cons, told]
  | some tell =>
      rw [told] at learned
      have replies : system.view.replies = tell :: rest.filterMap messageTell := by
        unfold System.view mirror
        rw [first, List.filterMap_cons, told]
      have moved : Move system.view .reply _ := .reply replies (learned_of_news learned.news)
      change Move _ _ { mirror system.host { system.clients () with core, replies := rest } with
        asks := (system.clients ()).asks } at moved
      rw [← asks] at moved
      exact moved

theorem follows_bus {msg : Message} {rest : List Message} {core : BrowserCore}
    (first : (system.clients ()).bus = msg :: rest)
    (applied : (system.clients ()).core.applyMessage build msg = .ok core) :
    Follows ((SystemEvent.bus ()).turn build system) system.view
      (system.set () { system.clients () with core, bus := rest }).view := by
  have learned := BrowserCore.applied_applyMessage msg core applied
  have asks := asks_applied applied
  rw [view_set]
  unfold SystemEvent.turn
  simp only [first, List.head?_cons, Option.bind_some]
  change Applied _ _ (messageTell msg) at learned
  cases told : messageTell msg with
  | none =>
      rw [told] at learned
      cases learned.news with
      | other ids shown =>
          refine mirror_congr (fun _ => rfl) rfl ids shown asks rfl ?_
          rw [first, List.filterMap_cons, told]
  | some tell =>
      rw [told] at learned
      have bus : system.view.bus = tell :: rest.filterMap messageTell := by
        unfold System.view mirror
        rw [first, List.filterMap_cons, told]
      have moved : Move system.view .bus _ := .bus bus (learned_of_news learned.news)
      change Move _ _ { mirror system.host { system.clients () with core, bus := rest } with
        asks := (system.clients ()).asks } at moved
      rw [← asks] at moved
      exact moved

theorem follows_exchange {event : SystemEvent Unit} {published : List Message}
    (stepped : Exchange build system event published next) :
    Follows (event.turn build system) system.view next.view := by
  cases stepped with
  | input returned => exact follows_input returned
  | send drained => exact follows_send drained
  | handle first => exact follows_handle first
  | frame received => exact follows_publish (unrelated_frame received)
  | note received => exact follows_publish (unrelated_note received)
  | reply first applied => exact follows_reply first applied
  | bus first applied => exact follows_bus first applied
  | drop first dropped =>
      refine (view_set system _).trans (mirror_congr (fun _ => rfl) rfl rfl rfl rfl rfl ?_)
      rw [first]
      exact (List.filterMap_cons_none (tell_of_superseded dropped)).symm

/-! ## Runs -/

theorem converging_follows {turn : Option (Turn UInt32)} {m after : Mirror UInt32}
    (converging : m.Converging) (follows : Follows turn m after) : after.Converging := by
  cases turn with
  | none =>
      cases follows
      exact converging
  | some turn => exact converging.move follows

/-- Client and host agree, nothing about tabs is under way, and the client numbers new tabs
behind the ones there are. -/
structure Synced (system : System Unit) : Prop where
  settled : system.view.Settled
  ids : system.view.ids = system.view.live
  shown : system.view.shown = system.view.held
  numbered : ∀ tabId, system.view.Knows tabId → tabId < (system.clients ()).core.nextTabId

def isSelection : Tell UInt32 → Bool
  | .selected _ => true
  | _ => false

/-- A message that makes a tab active is the one about the tab selected last, or that one is
still to come. -/
def InTime (m : Mirror UInt32) (first : Option Message) : Prop :=
  ∀ tell ∈ first.bind messageTell, isSelection tell → m.Confirmed

/-- No new tab has the last number, the tab selected last is closed only along with a switch,
and what arrives is in time. -/
def SystemEvent.InOrder (build : Build) (system : System Unit) : SystemEvent Unit → Prop
  | .input _ device =>
      let asks := device.asks build (system.clients ()).core
      .create 0xFFFFFFFF ∉ asks ∧ asks ≠ [.close system.view.target]
  | .reply _ => InTime system.view (system.clients ()).replies.head?
  | .bus _ => InTime system.view (system.clients ()).bus.head?
  | _ => True

instance (m : Mirror UInt32) : Decidable m.Confirmed :=
  inferInstanceAs (Decidable (_ ∨ _ ∨ _))

instance (m : Mirror UInt32) : Decidable m.Settled := inferInstanceAs (Decidable (_ ∧ _ ∧ _))

instance (m : Mirror UInt32) (first : Option Message) : Decidable (InTime m first) :=
  inferInstanceAs (Decidable (∀ tell ∈ first.bind messageTell, _))

instance (build : Build) (system : System Unit) :
    (event : SystemEvent Unit) → Decidable (event.InOrder build system)
  | .input _ _ => inferInstanceAs (Decidable (_ ∧ _))
  | .reply _ => inferInstanceAs (Decidable (InTime ..))
  | .bus _ => inferInstanceAs (Decidable (InTime ..))
  | .send .. | .handle .. | .frame .. | .note .. | .drop _ => .isTrue trivial

/-- What holds in every run in order. -/
structure Ordered (system : System Unit) : Prop where
  converging : system.view.Converging
  selecting : system.view.Selecting
  within : system.view.Within (· < (system.clients ()).core.nextTabId)

theorem Synced.converging (synced : Synced system) : system.view.Converging := by
  obtain ⟨noAsks, noReplies, noBus⟩ := synced.settled
  constructor
  · intro key
    unfold Mirror.tellMarks Mirror.askMarks
    rw [noAsks, noReplies, synced.ids]
    rfl
  · rw [noBus]
    exact fun t member => absurd member List.not_mem_nil

theorem Synced.ordered (synced : Synced system) : Ordered system := by
  obtain ⟨noAsks, noReplies, noBus⟩ := synced.settled
  have target : system.view.target = system.view.held := by
    rw [Mirror.target, noAsks]
    rfl
  refine ⟨synced.converging, ⟨.inl (synced.shown.trans target.symm), .inr ?_, ?_⟩, ?_⟩
  · rw [noReplies]
    exact .of_not_mem List.not_mem_nil
  · rw [noAsks]
    exact .of_not_mem List.not_mem_nil
  · constructor
    · exact fun key member => synced.numbered key (.inl member)
    · exact synced.numbered _ (.inr rfl)
    · rw [noAsks]
      exact fun a member => absurd member List.not_mem_nil
    · rw [noReplies]
      exact fun t member => absurd member List.not_mem_nil
    · rw [noBus]
      exact fun t member => absurd member List.not_mem_nil

/-- New tabs take the next number, and only they. -/
theorem nextTabId_tabAction {core after : BrowserCore} {asks : List (Ask UInt32)}
    (acted : TabAction core after asks)
    (bounded : .create 0xFFFFFFFF ∉ asks) :
    core.nextTabId ≤ after.nextTabId ∧
      ∀ tabId, .create tabId ∈ asks → tabId = core.nextTabId ∧ tabId < after.nextTabId := by
  cases acted with
  | quiet ids shown fresh =>
      exact ⟨UInt32.le_of_eq fresh.symm, fun tabId member => absurd member List.not_mem_nil⟩
  | opened grown shown fresh =>
      have less : core.nextTabId < after.nextTabId := by
        have differs : core.nextTabId ≠ 0xFFFFFFFF := by
          intro last
          rw [last] at bounded
          exact bounded List.mem_cons_self
        have small : core.nextTabId.toNat ≠ (0xFFFFFFFF : UInt32).toNat := fun same =>
          differs (UInt32.toNat_inj.mp same)
        have bound := core.nextTabId.toNat_lt
        rw [fresh, UInt32.lt_iff_toNat_lt, UInt32.toNat_add]
        simp only [UInt32.toNat_one, UInt32.reduceToNat] at small ⊢
        omega
      refine ⟨UInt32.le_of_lt less, fun tabId member => ?_⟩
      cases List.mem_singleton.mp member
      exact ⟨rfl, less⟩
  | closed less shown =>
      exact ⟨UInt32.le_of_eq less.nextTabId.symm, by simp⟩
  | replaced less listed =>
      exact ⟨UInt32.le_of_eq less.nextTabId.symm, by simp⟩
  | switched same listed fresh =>
      exact ⟨UInt32.le_of_eq fresh.symm, by simp⟩

/-- The client numbers behind what it created. -/
theorem nextTabId_exchange {event : SystemEvent Unit} {published : List Message}
    (inOrder : event.InOrder build system)
    (stepped : Exchange build system event published next) :
    (system.clients ()).core.nextTabId ≤ (next.clients ()).core.nextTabId ∧
      ∀ asks, event.turn build system = some (.act asks) → ∀ tabId, .create tabId ∈ asks →
        tabId = (system.clients ()).core.nextTabId ∧ tabId < (next.clients ()).core.nextTabId := by
  cases stepped with
  | @input _ _ device core returned =>
      obtain ⟨grown, created⟩ := nextTabId_tabAction (acted_input returned).1 inOrder.1
      rw [System.set_clients]
      refine ⟨grown, fun asks acts => ?_⟩
      unfold SystemEvent.turn at acts
      simp only at acts
      split at acts
      · cases acts
      · cases acts
        exact created
  | send drained =>
      rw [System.set_clients]
      cases drained
      exact ⟨UInt32.le_refl _, fun asks acts => nomatch acts⟩
  | handle first =>
      refine ⟨?_, fun asks acts => ?_⟩
      · change _ ≤ ((system.set () _).clients ()).core.nextTabId
        rw [System.set_clients]
        exact UInt32.le_refl _
      · obtain ⟨_, _, same⟩ := Option.map_eq_some_iff.mp acts
        cases same
  | frame received => exact ⟨UInt32.le_refl _, fun asks acts => nomatch acts⟩
  | note received => exact ⟨UInt32.le_refl _, fun asks acts => nomatch acts⟩
  | reply first applied =>
      rw [System.set_clients]
      refine ⟨(BrowserCore.applied_applyMessage _ _ applied).nextTabId, fun asks acts => ?_⟩
      obtain ⟨_, _, same⟩ := Option.map_eq_some_iff.mp acts
      cases same
  | bus first applied =>
      rw [System.set_clients]
      refine ⟨(BrowserCore.applied_applyMessage _ _ applied).nextTabId, fun asks acts => ?_⟩
      obtain ⟨_, _, same⟩ := Option.map_eq_some_iff.mp acts
      cases same
  | drop first dropped =>
      rw [System.set_clients]
      exact ⟨UInt32.le_refl _, fun asks acts => nomatch acts⟩

/-- The move of a step in order is orderly. -/
theorem orderly_of_inOrder {event : SystemEvent Unit} {turn : Turn UInt32}
    (ordered : Ordered system) (inOrder : event.InOrder build system)
    (fresh : ∀ asks, turn = .act asks → ∀ tabId, .create tabId ∈ asks →
      tabId = (system.clients ()).core.nextTabId)
    (turns : event.turn build system = some turn) : system.view.Orderly turn := by
  cases event with
  | input name device =>
      unfold SystemEvent.turn at turns
      simp only at turns
      split at turns
      · cases turns
      · cases turns
        refine ⟨fun tabId created => ordered.within.not_closing ?_, fun tabId closes same => ?_⟩
        · rw [fresh _ rfl tabId created]
          exact UInt32.lt_irrefl _
        · rw [same] at closes
          exact inOrder.2 closes
  | handle name tsUs =>
      obtain ⟨_, _, rfl⟩ := Option.map_eq_some_iff.mp turns
      exact trivial
  | reply name =>
      obtain ⟨tell, told, rfl⟩ := Option.map_eq_some_iff.mp turns
      obtain ⟨msg, head, same⟩ := Option.bind_eq_some_iff.mp told
      obtain ⟨rest, replies⟩ := List.head?_eq_some_iff.mp head
      intro tabId selects
      have first : system.view.replies.head? = some tell := by
        unfold System.view mirror
        rw [replies, List.filterMap_cons, same]
        rfl
      rw [selects] at first
      cases first
      exact inOrder _ told rfl
  | bus name =>
      obtain ⟨tell, told, rfl⟩ := Option.map_eq_some_iff.mp turns
      obtain ⟨msg, head, same⟩ := Option.bind_eq_some_iff.mp told
      obtain ⟨rest, bus⟩ := List.head?_eq_some_iff.mp head
      intro tabId selects
      have first : system.view.bus.head? = some tell := by
        unfold System.view mirror
        rw [bus, List.filterMap_cons, same]
        rfl
      rw [selects] at first
      cases first
      exact inOrder _ told rfl
  | send name tsUs => cases turns
  | frame f tsUs aligned => cases turns
  | note note => cases turns
  | drop name => cases turns

theorem Ordered.exchange {event : SystemEvent Unit} {published : List Message}
    (ordered : Ordered system) (inOrder : event.InOrder build system)
    (stepped : Exchange build system event published next) : Ordered next := by
  obtain ⟨grown, created⟩ := nextTabId_exchange inOrder stepped
  have within := ordered.within.mono fun tabId less => UInt32.lt_of_lt_of_le less grown
  have follows := follows_exchange stepped
  cases turns : event.turn build system with
  | none =>
      rw [turns] at follows
      rw [Follows] at follows
      obtain ⟨converging, selecting, _⟩ := ordered
      rw [← follows] at converging selecting within
      exact ⟨converging, selecting, within⟩
  | some turn =>
      rw [turns] at follows created
      have moved : Move system.view turn next.view := follows
      have acts (asks : List (Ask UInt32)) (same : turn = .act asks) := created asks (congrArg some same)
      have orderly := orderly_of_inOrder ordered inOrder
        (fun asks same tabId asked => (acts asks same tabId asked).1) turns
      exact ⟨ordered.converging.move moved,
        ordered.selecting.move ordered.converging.selections orderly moved,
        within.move (fun asks same tabId asked => (acts asks same tabId asked).2) moved⟩

end Steps

theorem fresh_synced (initialUrl : String) (width height : UInt32) :
    Synced (System.fresh Unit initialUrl width height) where
  settled := ⟨rfl, rfl, rfl⟩
  ids := by
    ext tabId
    change tabId ∈ [1] ↔ (Function.update (fun _ => none) 1 (some _) tabId).isSome
    by_cases first : tabId = 1
    · subst first
      simp
    · simp [first]
  shown := rfl
  numbered := by
    have behind : (1 : UInt32) < 2 := by decide
    rintro tabId (member | rfl)
    · cases List.mem_singleton.mp member
      exact behind
    · exact behind

/-- Once nothing about tabs is under way, the client has the tabs of the host. It shows the
active one where all happened in order. -/
theorem tabs_converge (build : Build) (start system : System Unit)
    (events : List (SystemEvent Unit)) (published : List Message) (synced : Synced start)
    (settled : system.view.Settled) :
    (Runs (Exchange build) start events published system →
      ∀ tabId, tabId ∈ (system.clients ()).core.tabIds ↔ (system.host.tabs tabId).isSome) ∧
    (Runs (Step.guarded (Exchange build) (SystemEvent.InOrder build)) start events published system →
      (system.clients ()).core.activeTabId = system.host.activeTabId) := by
  constructor
  · intro ran tabId
    have converging := ran.invariant (fun _ system => system.view.Converging) synced.converging
      fun _ _ _ _ _ converging stepped => converging_follows converging (follows_exchange stepped)
    exact Set.ext_iff.mp (converging.settled settled) tabId
  · intro ran
    have ordered := ran.invariant (fun _ system => Ordered system) synced.ordered
      fun _ _ _ _ _ ordered stepped => ordered.exchange stepped.1 stepped.2
    exact ordered.selecting.settled settled

section Examples

/-- Ctrl+T. -/
def ctrlT : SystemEvent Unit := .input () (.key 0x74 true none)

def ctrlTab : SystemEvent Unit := .input () (.key 0xff09 true none)

/-- A new tab, of which the client hears on both channels. -/
def opening : List (SystemEvent Unit) :=
  [.input () (.modifiers modCtrl), ctrlT, .send () 0, .handle () 0, .bus (), .bus (), .bus (), .reply ()]

theorem tabs_converge_opening :
    ∃ published system, Runs (Exchange ⟨true⟩) (System.fresh Unit "a" 640 480) opening published system ∧
      (system.clients ()).core.activeTabId = system.host.activeTabId := by
  have checked : (runAll (guardedBy (SystemEvent.InOrder ⟨true⟩) (System.step ⟨true⟩))
      (System.fresh Unit "a" 640 480) opening).map (fun result => decide result.1.view.Settled) =
        some true := by decide +kernel
  obtain ⟨⟨system, published⟩, result, settled⟩ := Option.map_eq_some_iff.mp checked
  have ran : Runs (Step.guarded (Exchange ⟨true⟩) (SystemEvent.InOrder ⟨true⟩))
      (System.fresh Unit "a" 640 480) opening published system :=
    (Runs.of_runAll_guardedBy result).mono fun _ _ _ _ stepped =>
      ⟨stepped.1, exchange_of_step stepped.2⟩
  exact ⟨published, system, ran.of_guarded, (tabs_converge ⟨true⟩ _ system opening published
    (fresh_synced "a" 640 480) (of_decide_eq_true settled)).2 ran⟩

/-- A new tab, a switch to the first, and another new tab. What the bus brings of it comes
before the replies. -/
def overtaken : List (SystemEvent Unit) :=
  [.input () (.modifiers modCtrl), ctrlT, ctrlTab, ctrlT, .send () 0] ++
    List.replicate 3 (.handle () 0) ++ List.replicate 9 (.bus ()) ++ List.replicate 3 (.reply ())

/-- The reply to the switch comes after the bus told of the third tab. -/
theorem active_tab_overtaken :
    ∃ published system, Runs (Exchange ⟨true⟩) (System.fresh Unit "a" 640 480) overtaken published system ∧
      (system.clients ()).core.outboundInputs = [] ∧ (system.clients ()).requests = [] ∧
      (system.clients ()).replies = [] ∧ (system.clients ()).bus = [] ∧
      (system.clients ()).core.activeTabId = 1 ∧ system.host.activeTabId = 3 := by
  have checked : (runAll (System.step ⟨true⟩) (System.fresh Unit "a" 640 480) overtaken).map
      (fun result =>
        let client := result.1.clients ()
        decide (client.core.outboundInputs = [] ∧ client.requests = [] ∧ client.replies = [] ∧
          client.bus = [] ∧ client.core.activeTabId = 1 ∧ result.1.host.activeTabId = 3)) =
        some true := by decide +kernel
  obtain ⟨⟨system, published⟩, result, final⟩ := Option.map_eq_some_iff.mp checked
  exact ⟨published, system, runs_of_runAll result, of_decide_eq_true final⟩

end Examples

end ExoBrowser.Session
