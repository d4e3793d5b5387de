import ExoBrowser.Client.InputProperties
import ExoBrowser.Host.Interleaving
import ExoBrowser.Host.Requests
import ExoBrowser.Host.Writer

/-!
# Host and clients

A host and its clients over TCP: input at a client, its requests on their way, and what
comes back on the two channels of its connection, of which neither loses anything.
-/

set_option autoImplicit false

namespace ExoBrowser.Session

open Library Proto Host Client Checked

/-! ## Steps -/

/-- A client with what it has sent and what was sent to it, and the position that the
host keeps for it. -/
structure Connection where
  core : BrowserCore
  requests : List Message
  lastPointer : Int32 × Int32
  replies : List Message
  bus : List Message

structure System (Name : Type) where
  host : HostState
  clients : Name → Connection

namespace System

variable {Name : Type} (system : System Name)

/-- Everyone receives what the host publishes. -/
def publish (host : HostState) (published : List Message) : System Name where
  host
  clients := fun name =>
    { system.clients name with bus := (system.clients name).bus ++ published }

variable [DecidableEq Name]

def set (name : Name) (connection : Connection) : System Name :=
  { system with clients := Function.update system.clients name connection }

theorem set_clients (name : Name) (connection : Connection) :
    (system.set name connection).clients name = connection := by
  change Function.update system.clients name connection name = connection
  rw [Function.update_self]

theorem set_clients_of_ne {name other : Name} (differs : other ≠ name) (connection : Connection) :
    (system.set name connection).clients other = system.clients other := by
  change Function.update system.clients name connection other = system.clients other
  rw [Function.update_of_ne differs]

/-- What the host does with the next message of a client. -/
def handled (name : Name) (msg : Message) (tsUs : UInt64) : Host.Handled :=
  system.host.handle ⟨msg, (system.clients name).lastPointer, tsUs⟩

def handle (name : Name) (msg : Message) (rest : List Message) (tsUs : UInt64) : System Name :=
  let handled := system.handled name msg tsUs
  (system.set name
    { system.clients name with
      requests := rest
      lastPointer := handled.lastPointer
      replies := (system.clients name).replies ++ handled.replies }).publish
    handled.state handled.published

end System

/-- What can happen: an input, the sending of what is queued, the handling of a request, a
frame or a note of the browser, and the arrival of a reply or of an item of the bus, unless
the writer drops it. -/
inductive SystemEvent (Name : Type) where
  | input (name : Name) (device : Device)
  | send (name : Name) (tsUs : UInt64)
  | handle (name : Name) (tsUs : UInt64)
  | frame (f : Frame) (tsUs : UInt64) (aligned : Nat → Bool)
  | note (note : Note)
  | reply (name : Name)
  | bus (name : Name)
  | drop (name : Name)

/-- A step, with what it publishes. -/
inductive Exchange {Name : Type} [DecidableEq Name] (build : Build) :
    Step (System Name) (SystemEvent Name) Message where
  | input {system name device core} : device.input build (system.clients name).core = .ok core →
      Exchange build system (.input name device) []
        (system.set name { system.clients name with core })
  | send {system name tsUs core sent} :
      (system.clients name).core.drainOutbound tsUs = (core, sent) →
      Exchange build system (.send name tsUs) []
        (system.set name
          { system.clients name with core, requests := (system.clients name).requests ++ sent })
  | handle {system name tsUs msg rest} : (system.clients name).requests = msg :: rest →
      Exchange build system (.handle name tsUs) (system.handled name msg tsUs).published
        (system.handle name msg rest tsUs)
  | frame {system f tsUs aligned host published} :
      system.host.receiveFrame f tsUs aligned = .ok (host, published) →
      Exchange build system (.frame f tsUs aligned) published (system.publish host published)
  | note {system note host published} : note.receive system.host = (host, published) →
      Exchange build system (.note note) published (system.publish host published)
  | reply {system name msg rest core} : (system.clients name).replies = msg :: rest →
      (system.clients name).core.applyMessage build msg = .ok core →
      Exchange build system (.reply name) []
        (system.set name { system.clients name with core, replies := rest })
  | bus {system name msg rest core} : (system.clients name).bus = msg :: rest →
      (system.clients name).core.applyMessage build msg = .ok core →
      Exchange build system (.bus name) []
        (system.set name { system.clients name with core, bus := rest })
  | drop {system name item newer rest} : (system.clients name).bus = item :: newer :: rest →
      superseded item newer →
      Exchange build system (.drop name) []
        (system.set name { system.clients name with bus := newer :: rest })

/-- The step of an event, unless there is none or the client panics. -/
def System.step {Name : Type} [DecidableEq Name] (build : Build) (system : System Name) :
    SystemEvent Name → Option (System Name × List Message)
  | .input name device =>
      let client := system.clients name
      match device.input build client.core with
      | .ok core => some (system.set name { client with core }, [])
      | .error _ => none
  | .send name tsUs =>
      let client := system.clients name
      let (core, sent) := client.core.drainOutbound tsUs
      some (system.set name { client with core, requests := client.requests ++ sent }, [])
  | .handle name tsUs =>
      match (system.clients name).requests with
      | msg :: rest =>
          some (system.handle name msg rest tsUs, (system.handled name msg tsUs).published)
      | [] => none
  | .frame f tsUs aligned =>
      match system.host.receiveFrame f tsUs aligned with
      | .ok (host, published) => some (system.publish host published, published)
      | .error _ => none
  | .note note =>
      let (host, published) := note.receive system.host
      some (system.publish host published, published)
  | .reply name =>
      let client := system.clients name
      match client.replies with
      | msg :: rest =>
          match client.core.applyMessage build msg with
          | .ok core => some (system.set name { client with core, replies := rest }, [])
          | .error _ => none
      | [] => none
  | .bus name =>
      let client := system.clients name
      match client.bus with
      | msg :: rest =>
          match client.core.applyMessage build msg with
          | .ok core => some (system.set name { client with core, bus := rest }, [])
          | .error _ => none
      | [] => none
  | .drop name =>
      let client := system.clients name
      match client.bus with
      | item :: newer :: rest =>
          if superseded item newer then
            some (system.set name { client with bus := newer :: rest }, [])
          else none
      | _ => none

theorem exchange_of_step {Name : Type} [DecidableEq Name] {build : Build}
    {system next : System Name} {event : SystemEvent Name} {published : List Message}
    (stepped : system.step build event = some (next, published)) :
    Exchange build system event published next := by
  unfold System.step at stepped
  cases event with
  | input name device =>
      simp only at stepped
      split at stepped
      case h_1 returned =>
        cases stepped
        exact .input returned
      case h_2 => cases stepped
  | send name tsUs =>
      cases stepped
      exact .send rfl
  | handle name tsUs =>
      simp only at stepped
      split at stepped
      case h_1 first =>
        cases stepped
        exact .handle first
      case h_2 => cases stepped
  | frame f tsUs aligned =>
      simp only at stepped
      split at stepped
      case h_1 received =>
        cases stepped
        exact .frame received
      case h_2 => cases stepped
  | note note =>
      cases stepped
      exact .note rfl
  | reply name =>
      simp only at stepped
      split at stepped
      case h_1 first =>
        split at stepped
        case h_1 applied =>
          cases stepped
          exact .reply first applied
        case h_2 => cases stepped
      case h_2 => cases stepped
  | bus name =>
      simp only at stepped
      split at stepped
      case h_1 first =>
        split at stepped
        case h_1 applied =>
          cases stepped
          exact .bus first applied
        case h_2 => cases stepped
      case h_2 => cases stepped
  | drop name =>
      simp only at stepped
      split at stepped
      case h_1 first =>
        split at stepped
        case isTrue dropped =>
          cases stepped
          exact .drop first dropped
        case isFalse => cases stepped
      case h_2 => cases stepped

/-- A run of the step function. -/
theorem runs_of_runAll {Name : Type} [DecidableEq Name] {build : Build}
    {system final : System Name} {events : List (SystemEvent Name)} {published : List Message}
    (result : runAll (System.step build) system events = some (final, published)) :
    Runs (Exchange build) system events published final :=
  (Runs.of_runAll result).mono fun _ _ _ _ stepped => exchange_of_step stepped

/-- The clients start as the host does, which has one tab. -/
def System.fresh (Name : Type) (initialUrl : String) (width height : UInt32) : System Name where
  host := .new initialUrl
  clients := fun _ => {
    core := .newNoStd width height initialUrl false
    requests := []
    lastPointer := (0, 0)
    replies := []
    bus := [] }

/-! ## Messages about tabs -/

def requestAsk : Message → Option (Ask UInt32)
  | .createTab tabId _ => some (.create tabId)
  | .closeTab tabId => some (.close tabId)
  | .switchTab tabId => some (.select tabId)
  | _ => none

def messageTell (msg : Message) : Option (Tell UInt32) :=
  (RenderEvent.fromProtoMessage msg).bind RenderEvent.tell

theorem requestAsk_intoProtoMessage (ev : InputEvent) (tsUs : UInt64) :
    requestAsk (ev.intoProtoMessage tsUs) = ev.ask := by
  cases ev <;> rfl

/-- What a client has asked that is not handled yet, in order. -/
def Connection.asks (client : Connection) : List (Ask UInt32) :=
  client.requests.filterMap requestAsk ++ client.core.outboundInputs.filterMap InputEvent.ask

section Asks

variable {build : Build} {client : Connection} {core : BrowserCore}

theorem asks_input {device : Device} (returned : device.input build client.core = .ok core) :
    ({ client with core } : Connection).asks = client.asks ++ device.asks build client.core := by
  unfold Connection.asks
  rw [(acted_input returned).2, List.append_assoc]

/-- What is sent asks what was queued. -/
theorem asks_send {tsUs : UInt64} {sent : List Message}
    (drained : client.core.drainOutbound tsUs = (core, sent)) :
    ({ client with core, requests := client.requests ++ sent } : Connection).asks = client.asks := by
  cases drained
  unfold Connection.asks
  have same : (client.core.outboundInputs.map (·.intoProtoMessage tsUs)).filterMap requestAsk =
      client.core.outboundInputs.filterMap InputEvent.ask := by
    rw [List.filterMap_map]
    exact congrArg (List.filterMap · client.core.outboundInputs)
      (funext fun ev => requestAsk_intoProtoMessage ev tsUs)
  rw [List.filterMap_append, same]
  exact List.append_nil _

theorem asks_applied {msg : Message} (applied : client.core.applyMessage build msg = .ok core) :
    ({ client with core } : Connection).asks = client.asks := by
  unfold Connection.asks
  rw [(BrowserCore.applied_applyMessage msg core applied).outboundInputs]

end Asks

/-- The writer drops nothing that is about tabs. -/
theorem tell_of_superseded {item newer : Message} (dropped : superseded item newer) :
    messageTell item = none := by
  cases item with
  | rawFrame | subframe => rfl
  | _ => cases newer <;> cases dropped

section Published

variable {host next : HostState} {published : List Message}

theorem tells_ifActive (host : HostState) (tabId : UInt32) {msg : Message}
    (silent : messageTell msg = none) :
    (host.ifActive tabId msg).filterMap messageTell = [] := by
  unfold HostState.ifActive
  split
  · rw [List.filterMap_cons, silent]
    rfl
  · rfl

/-- What the browser reports changes neither which tabs there are nor which is active, and
nothing is published about either. -/
structure Unrelated (host next : HostState) (published : List Message) : Prop where
  tabs : ∀ tabId, (next.tabs tabId).isSome = (host.tabs tabId).isSome
  active : next.activeTabId = host.activeTabId
  silent : published.filterMap messageTell = []

theorem modifyTab_isSome (host : HostState) (tabId : UInt32) (change : TabEntry → TabEntry)
    (other : UInt32) : ((host.modifyTab tabId change).tabs other).isSome = (host.tabs other).isSome := by
  change (Function.update host.tabs tabId ((host.tabs tabId).map change) other).isSome = _
  by_cases here : other = tabId
  · subst here
    rw [Function.update_self, Option.isSome_map]
  · rw [Function.update_of_ne here]

theorem unrelated_note {note : Note} (received : note.receive host = (next, published)) :
    Unrelated host next published := by
  cases note with
  | load tabId load =>
      have silent (state : UInt8) : messageTell (.loadState state) = none := rfl
      cases load
      all_goals
        cases received
        exact ⟨fun _ => rfl, rfl, tells_ifActive host tabId (silent _)⟩
  | title tabId newTitle =>
      cases received
      refine ⟨modifyTab_isSome host tabId _, rfl, ?_⟩
      exact tells_ifActive host tabId rfl
  | url tabId newUrl =>
      cases received
      refine ⟨modifyTab_isSome (host.setForceFull tabId) tabId _, rfl, ?_⟩
      exact tells_ifActive host tabId rfl
  | cursor tabId shapeId =>
      cases received
      exact ⟨fun _ => rfl, rfl, tells_ifActive host tabId rfl⟩

theorem tells_deltaMessages (aligned : Nat → Bool) (prev f : Frame) (tsUs : UInt64) :
    Yields (prev.deltaMessages aligned f tsUs) fun published =>
      published.filterMap messageTell = [] := by
  refine .bind fun regions _ => .ite (fun _ => .pure rfl) fun _ => .ite (fun _ => .pure rfl) fun _ => ?_
  intro published returned
  refine List.filterMap_eq_nil_iff.mpr (Yields.mapM ?_ published returned)
  exact fun region => .bind fun sub _ => .pure rfl

theorem unrelated_frame {f : Frame} {tsUs : UInt64} {aligned : Nat → Bool}
    (received : host.receiveFrame f tsUs aligned = .ok (next, published)) :
    Unrelated host next published := by
  suffices Yields (host.receiveFrame f tsUs aligned) fun result =>
      Unrelated host result.1 result.2 from this _ received
  refine .ite (fun _ => ?_) fun _ => .pure ⟨fun _ => rfl, rfl, rfl⟩
  split
  case h_1 prev _ =>
    refine .ite (fun _ => .bind fun changes returned => .pure ?_) fun _ => .pure ⟨fun _ => rfl, rfl, rfl⟩
    exact ⟨fun _ => rfl, rfl, tells_deltaMessages aligned prev f tsUs changes returned⟩
  case h_2 => exact .pure ⟨fun _ => rfl, rfl, rfl⟩

end Published

end ExoBrowser.Session
