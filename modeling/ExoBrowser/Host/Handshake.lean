import ExoBrowser.Host.Requests
import ExoBrowser.Library.Gate

/-!
# Handshakes

What a connection has the host do for its messages, over each of the three transports.
TCP and each control stream of QUIC expect a HELLO first. Input streams, datagrams and
WebSocket do not.
-/

set_option autoImplicit false

namespace ExoBrowser.Host

open Library Proto

/-! ## Operations -/

/-- The methods of `HostState` that are called for a client. -/
inductive HostOperation where
  | createTab (tabId : UInt32) (url : String)
  | closeTab (tabId : UInt32)
  | switchTab (tabId : UInt32)
  | loadUri (url : String)
  | resizeAll (w h : UInt32)
  | injectPointerMotion (x y : Int32) (modifiers : UInt32)
  | injectPointerButton (x y : Int32) (button : UInt32) (pressed : Bool) (modifiers : UInt32)
  | injectKey (keycode mods : UInt32) (down : Bool)
  | injectAxis (x y dxUnits dyUnits : Int32) (modifiers : UInt32)
  | setZoom (levelMilli : UInt32)
  | goBack
  | goForward
  | reload
  | stopLoading
  | clearData (cookies cache storage : Bool)
deriving DecidableEq, Repr

/-- The state after an operation, what it publishes, and what it calls of the runner. -/
def HostState.perform (state : HostState) (tsUs : UInt64) :
    HostOperation → HostState × List Message × List RunnerCall
  | .createTab tabId url =>
      let (next, published) := state.createTab tabId url true tsUs
      (next, published, [.createTab tabId url])
  | .closeTab tabId =>
      let (next, published) := state.closeTab tabId
      (next, published, [.closeTab tabId])
  | .switchTab tabId =>
      let (next, published) := state.switchTab tabId tsUs
      (next, published, [])
  | .loadUri url => (state, [], [.loadUri state.activeTabId url])
  | .resizeAll w h => (state, [], [.resizeAll w h])
  | .injectPointerMotion x y modifiers =>
      (state, [], [.injectPointerMotion state.activeTabId x y modifiers])
  | .injectPointerButton x y button pressed modifiers =>
      (state, [], [.injectPointerButton state.activeTabId x y button pressed modifiers])
  | .injectKey keycode mods down => (state, [], [.injectKey state.activeTabId keycode mods down])
  | .injectAxis x y dxUnits dyUnits modifiers =>
      (state, [], [.injectAxis state.activeTabId x y dxUnits dyUnits modifiers])
  | .setZoom levelMilli => (state, [], [.setZoom state.activeTabId levelMilli])
  | .goBack => (state, [], [.goBack state.activeTabId])
  | .goForward => (state, [], [.goForward state.activeTabId])
  | .reload => (state, [], [.reload state.activeTabId])
  | .stopLoading => (state, [], [.stopLoading state.activeTabId])
  | .clearData cookies cache storage => (state, [], [.clearData cookies cache storage])

/-- The loop of `handle_ctrl_stream` behind the handshake. -/
def ctrlOperation : Message → Option HostOperation
  | .nav url => some (.loadUri url)
  | .resize viewportW viewportH _ => some (.resizeAll viewportW.toUInt32 viewportH.toUInt32)
  | .setZoom levelMilli => some (.setZoom levelMilli)
  | .navAction action =>
      if action = 0 then some .goBack
      else if action = 1 then some .goForward
      else if action = 2 then some .reload
      else none
  | .stop => some .stopLoading
  | .clearData clearCookies clearCache clearStorage =>
      some (.clearData clearCookies clearCache clearStorage)
  | .createTab tabId url => some (.createTab tabId url)
  | .closeTab tabId => some (.closeTab tabId)
  | .switchTab tabId => some (.switchTab tabId)
  | _ => none

/-- The loop of `handle_input_stream`. -/
def inputOperation (lastPointer : Int32 × Int32) : Message → Option HostOperation
  | .inputPointer _ x y modifiers => some (.injectPointerMotion x y modifiers)
  | .inputButton _ x y button pressed modifiers =>
      some (.injectPointerButton x y button pressed modifiers)
  | .inputKey _ keycode mods down => some (.injectKey keycode mods down)
  | .inputScroll _ _ dxUnits dyUnits _ =>
      some (.injectAxis lastPointer.1 lastPointer.2 dxUnits dyUnits 0)
  | _ => none

def datagramOperation : Message → Option HostOperation
  | .inputPointer _ x y modifiers => some (.injectPointerMotion x y modifiers)
  | _ => none

def pointerAfter (lastPointer : Int32 × Int32) : Message → Int32 × Int32
  | .inputPointer _ x y _ => (x, y)
  | .inputButton _ x y _ _ _ => (x, y)
  | _ => lastPointer

/-- TCP and WebSocket take both kinds of messages. -/
def clientOperation (lastPointer : Int32 × Int32) (msg : Message) : Option HostOperation :=
  (ctrlOperation msg).or (inputOperation lastPointer msg)

/-- Handling a request of a TCP client is performing its operation, if it has one. -/
theorem handle_performs (state : HostState) (request : Request) :
    let handled := state.handle request
    (handled.state, handled.published, handled.calls) =
        (match clientOperation request.lastPointer request.msg with
        | some operation => state.perform request.tsUs operation
        | none => (state, [], [])) ∧
      handled.lastPointer = pointerAfter request.lastPointer request.msg := by
  obtain ⟨msg, lastPointer, tsUs⟩ := request
  cases msg with
  | navAction action =>
      unfold HostState.handle clientOperation ctrlOperation
      simp only
      split
      · exact ⟨rfl, rfl⟩
      · split
        · exact ⟨rfl, rfl⟩
        · split <;> exact ⟨rfl, rfl⟩
  | _ => exact ⟨rfl, rfl⟩

/-! ## Messages that are acted on -/

/-- Messages of the control stream that have the host do something. -/
def isRequest : Message → Bool
  | .nav _ => true
  | .resize _ _ _ => true
  | .setZoom _ => true
  | .navAction action => action = 0 || action = 1 || action = 2
  | .stop => true
  | .clearData _ _ _ => true
  | .createTab _ _ => true
  | .closeTab _ => true
  | .switchTab _ => true
  | _ => false

def isPointer : Message → Bool
  | .inputPointer _ _ _ _ => true
  | _ => false

def isInput : Message → Bool
  | .inputPointer _ _ _ _ => true
  | .inputButton _ _ _ _ _ _ => true
  | .inputKey _ _ _ _ => true
  | .inputScroll _ _ _ _ _ => true
  | _ => false

theorem ctrlOperation_eq_none_iff (msg : Message) : ctrlOperation msg = none ↔ ¬ isRequest msg := by
  cases msg with
  | navAction action =>
      unfold ctrlOperation isRequest
      by_cases back : action = 0
      · simp [back]
      · by_cases forward : action = 1
        · simp [forward]
        · by_cases reload : action = 2
          · simp [reload]
          · simp [back, forward, reload]
  | _ =>
      first
      | exact iff_of_true rfl Bool.false_ne_true
      | exact iff_of_false (Option.some_ne_none _) (not_not_intro rfl)

theorem inputOperation_eq_none_iff (lastPointer : Int32 × Int32) (msg : Message) :
    inputOperation lastPointer msg = none ↔ ¬ isInput msg := by
  cases msg <;> simp [inputOperation, isInput]

theorem datagramOperation_eq_none_iff (msg : Message) :
    datagramOperation msg = none ↔ ¬ isPointer msg := by
  cases msg <;> simp [datagramOperation, isPointer]

/-- A HELLO of the version that the host speaks. -/
def Greets : Message → Prop
  | .hello protoVersion _ _ _ _ _ => protoVersion = Proto.protoVersion
  | _ => False

/-- A HELLO with a viewport that is not empty. -/
def hasViewport : Message → Bool
  | .hello _ viewportW viewportH _ _ _ => viewportW > 0 && viewportH > 0
  | _ => false

/-! ## Transports -/

/-- A HELLO has the host resize its tabs, unless its viewport is empty. -/
def greetingOperations (viewportW viewportH : UInt16) : List HostOperation :=
  if viewportW > 0 ∧ viewportH > 0 then [.resizeAll viewportW.toUInt32 viewportH.toUInt32] else []

/-- The handshake of a TCP connection and of a control stream, which starts a loop. -/
def shakeHands {σ : Type} (start : σ) : Message → Option (σ × List HostOperation)
  | .hello protoVersion viewportW viewportH _ _ _ =>
      if protoVersion = Proto.protoVersion then some (start, greetingOperations viewportW viewportH)
      else none
  | _ => none

/-- `handle_ctrl_stream`. -/
def ctrlStream : Gatekeeper Unit Message HostOperation where
  accept := shakeHands ()
  inner := fun _ msg => ((), (ctrlOperation msg).toList)

/-- `handle_tcp_connection`. -/
def tcpConnection : Gatekeeper (Int32 × Int32) Message HostOperation where
  accept := shakeHands (0, 0)
  inner := fun lastPointer msg =>
    (pointerAfter lastPointer msg, (clientOperation lastPointer msg).toList)

/-- `handle_client_msg`. -/
def handleClientMsg (lastPointer : Int32 × Int32) (msg : Message) :
    (Int32 × Int32) × List HostOperation :=
  match msg with
  | .hello _ viewportW viewportH _ _ _ => (lastPointer, greetingOperations viewportW viewportH)
  | _ => (pointerAfter lastPointer msg, (clientOperation lastPointer msg).toList)

inductive Transport where
  | quic
  | tcp
  | webSocket

/-- Streams are numbered in the order in which they are opened. -/
inductive QuicChannel where
  | ctrl (stream : Nat)
  | input (stream : Nat)
  | datagram
deriving DecidableEq

/-- A task for each stream, and one for the datagrams. -/
structure QuicConnection where
  ctrl : Nat → Gate Unit
  input : Nat → Int32 × Int32

def QuicConnection.deliver (conn : QuicConnection) :
    QuicChannel × Message → QuicConnection × List HostOperation
  | (.ctrl stream, msg) =>
      let (next, operations) := ctrlStream.pass (conn.ctrl stream) msg
      ({ conn with ctrl := Function.update conn.ctrl stream next }, operations)
  | (.input stream, msg) =>
      let lastPointer := conn.input stream
      ({ conn with input := Function.update conn.input stream (pointerAfter lastPointer msg) },
        (inputOperation lastPointer msg).toList)
  | (.datagram, msg) => (conn, (datagramOperation msg).toList)

namespace Transport

abbrev Channel : Transport → Type
  | .quic => QuicChannel
  | .tcp => Unit
  | .webSocket => Unit

abbrev Connection : Transport → Type
  | .quic => QuicConnection
  | .tcp => Gate (Int32 × Int32)
  | .webSocket => Int32 × Int32

def start : (transport : Transport) → transport.Connection
  | .quic => { ctrl := fun _ => .waiting, input := fun _ => (0, 0) }
  | .tcp => .waiting
  | .webSocket => (0, 0)

/-- What a message does to its connection, and what the host does for it. -/
def deliver : (transport : Transport) → transport.Connection → transport.Channel × Message →
    transport.Connection × List HostOperation
  | .quic, conn, delivery => conn.deliver delivery
  | .tcp, gate, (_, msg) => tcpConnection.pass gate msg
  | .webSocket, lastPointer, (_, msg) => handleClientMsg lastPointer msg

def step (transport : Transport) :
    Step transport.Connection (transport.Channel × Message) HostOperation :=
  fun conn delivery operations next => transport.deliver conn delivery = (next, operations)

end Transport

/-! ## The gate -/

def FirstGreets (msgs : List Message) : Prop := ∃ first rest, msgs = first :: rest ∧ Greets first

/-- The host does nothing for a connection unless its first message has been a HELLO of the
right version. -/
def Gated (msgs : List Message) (operations : List HostOperation) : Prop :=
  operations ≠ [] → FirstGreets msgs

/-- The messages of a control stream that the host does nothing for: the first does not
greet, or greets with an empty viewport, and nothing is asked for after. -/
def StreamQuiet : List Message → Prop
  | [] => True
  | first :: rest => Greets first → ¬ hasViewport first ∧ ∀ msg ∈ rest, ¬ isRequest msg

/-- The messages of a control stream, in their order. -/
def onStream (stream : Nat) (deliveries : List (QuicChannel × Message)) : List Message :=
  (deliveries.filter fun delivery => delivery.1 = .ctrl stream).map Prod.snd

/-- Input that no handshake stands before. -/
def strays : QuicChannel × Message → Bool
  | (.ctrl _, _) => false
  | (.input _, msg) => isInput msg
  | (.datagram, msg) => isPointer msg

structure QuicQuiet (deliveries : List (QuicChannel × Message)) : Prop where
  input : ∀ delivery ∈ deliveries, ¬ strays delivery
  ctrl : ∀ stream, StreamQuiet (onStream stream deliveries)

/-- Every message of a WebSocket is acted on, whatever has come first. -/
def WebSocketQuiet (msgs : List Message) : Prop :=
  ∀ msg ∈ msgs, ¬ isRequest msg ∧ ¬ isInput msg ∧ ¬ hasViewport msg

def Transport.MeetsGate : (transport : Transport) → List (transport.Channel × Message) → Prop
  | .quic, deliveries => FirstGreets (deliveries.map Prod.snd) ∨ QuicQuiet deliveries
  | .tcp, _ => True
  | .webSocket, deliveries =>
      FirstGreets (deliveries.map Prod.snd) ∨ WebSocketQuiet (deliveries.map Prod.snd)

theorem greetingOperations_eq_nil_iff {viewportW viewportH : UInt16} :
    greetingOperations viewportW viewportH = [] ↔ ¬ (viewportW > 0 ∧ viewportH > 0) := by
  unfold greetingOperations
  split <;> simp [*]

theorem shakeHands_eq_none_iff {σ : Type} (start : σ) (msg : Message) :
    shakeHands start msg = none ↔ ¬ Greets msg := by
  cases msg with
  | hello => simp [shakeHands, Greets]
  | _ => simp [shakeHands, Greets]

theorem shakeHands_some {σ : Type} {start : σ} {msg : Message} {opening : σ × List HostOperation}
    (opened : shakeHands start msg = some opening) :
    Greets msg ∧ (opening.2 = [] ↔ ¬ hasViewport msg) := by
  cases msg with
  | hello protoVersion viewportW viewportH dprHundredths clientName capabilities =>
      by_cases speaks : protoVersion = Proto.protoVersion
      · rw [shakeHands, if_pos speaks] at opened
        cases opened
        refine ⟨speaks, greetingOperations_eq_nil_iff.trans ?_⟩
        simp [hasViewport]
      · rw [shakeHands, if_neg speaks] at opened
        cases opened
  | _ => cases opened

theorem streamQuiet_iff (msgs : List Message) :
    StreamQuiet msgs ↔ ctrlStream.Silent (isRequest ·) msgs := by
  cases msgs with
  | nil => rfl
  | cons first rest =>
      unfold StreamQuiet Gatekeeper.Silent
      constructor
      · intro quiet opening opened
        obtain ⟨greets, empty⟩ := shakeHands_some opened
        exact ⟨empty.mpr (quiet greets).1, (quiet greets).2⟩
      · intro silent greets
        have accepted : ctrlStream.accept first ≠ none := fun refused =>
          (shakeHands_eq_none_iff () first).mp refused greets
        obtain ⟨opening, opened⟩ := Option.ne_none_iff_exists'.mp accepted
        obtain ⟨empty, unheard⟩ := silent opening opened
        exact ⟨(shakeHands_some opened).2.mp empty, unheard⟩

/-! ## What QUIC lets through -/

section Streams

variable {deliveries : List (QuicChannel × Message)}

theorem onStream_append_same (stream : Nat) (msg : Message) :
    onStream stream (deliveries ++ [(.ctrl stream, msg)]) = onStream stream deliveries ++ [msg] := by
  unfold onStream
  rw [List.filter_append, List.map_append, List.filter_cons_of_pos (by simp)]
  rfl

theorem onStream_append_other {stream : Nat} {channel : QuicChannel} (msg : Message)
    (other : channel ≠ .ctrl stream) :
    onStream stream (deliveries ++ [(channel, msg)]) = onStream stream deliveries := by
  unfold onStream
  rw [List.filter_append, List.filter_cons_of_neg (by simpa using other)]
  simp

theorem streamQuiet_append_iff (msgs : List Message) (msg : Message) :
    StreamQuiet (msgs ++ [msg]) ↔
      StreamQuiet msgs ∧ (ctrlStream.pass (ctrlStream.after msgs) msg).2 = [] := by
  rw [streamQuiet_iff, streamQuiet_iff]
  refine ctrlStream.silent_append_iff (fun state msg => ?_) msgs msg
  exact Option.toList_eq_nil_iff.trans (ctrlOperation_eq_none_iff msg)

/-- What a message has the host do, where each control stream is where its own messages
have brought it. -/
theorem deliver_quiet_iff {conn : QuicConnection}
    (streams : ∀ stream, conn.ctrl stream = ctrlStream.after (onStream stream deliveries))
    (delivery : QuicChannel × Message) :
    QuicQuiet (deliveries ++ [delivery]) ↔
      QuicQuiet deliveries ∧ (conn.deliver delivery).2 = [] := by
  have input : (∀ other ∈ deliveries ++ [delivery], ¬ strays other) ↔
      (∀ other ∈ deliveries, ¬ strays other) ∧ ¬ strays delivery := by
    rw [List.forall_mem_append, List.forall_mem_singleton]
  obtain ⟨channel, msg⟩ := delivery
  have unchanged (stream : Nat) (other : channel ≠ .ctrl stream) :
      StreamQuiet (onStream stream (deliveries ++ [(channel, msg)])) ↔
        StreamQuiet (onStream stream deliveries) := by
    rw [onStream_append_other msg other]
  by_cases controls : ∃ opened, channel = .ctrl opened
  · obtain ⟨opened, rfl⟩ := controls
    have last := streamQuiet_append_iff (onStream opened deliveries) msg
    rw [← streams opened, ← onStream_append_same] at last
    constructor
    · intro quiet
      obtain ⟨before, silent⟩ := last.mp (quiet.ctrl opened)
      refine ⟨{ input := (input.mp quiet.input).1, ctrl := fun stream => ?_ }, silent⟩
      by_cases same : QuicChannel.ctrl opened = .ctrl stream
      · cases same
        exact before
      · exact (unchanged stream same).mp (quiet.ctrl stream)
    · rintro ⟨quiet, silent⟩
      refine { input := input.mpr ⟨quiet.input, Bool.false_ne_true⟩, ctrl := fun stream => ?_ }
      by_cases same : QuicChannel.ctrl opened = .ctrl stream
      · cases same
        exact last.mpr ⟨quiet.ctrl opened, silent⟩
      · exact (unchanged stream same).mpr (quiet.ctrl stream)
  · have silent : (conn.deliver (channel, msg)).2 = [] ↔ ¬ strays (channel, msg) := by
      cases channel with
      | ctrl opened => exact absurd ⟨opened, rfl⟩ controls
      | input opened => exact Option.toList_eq_nil_iff.trans (inputOperation_eq_none_iff _ msg)
      | datagram => exact Option.toList_eq_nil_iff.trans (datagramOperation_eq_none_iff msg)
    have same (stream : Nat) := unchanged stream fun here => controls ⟨stream, here⟩
    rw [silent]
    constructor
    · intro quiet
      obtain ⟨before, unheard⟩ := input.mp quiet.input
      exact ⟨{ input := before, ctrl := fun stream => (same stream).mp (quiet.ctrl stream) }, unheard⟩
    · rintro ⟨quiet, unheard⟩
      exact { input := input.mpr ⟨quiet.input, unheard⟩
              ctrl := fun stream => (same stream).mpr (quiet.ctrl stream) }

theorem deliver_streams {conn : QuicConnection}
    (streams : ∀ stream, conn.ctrl stream = ctrlStream.after (onStream stream deliveries))
    (delivery : QuicChannel × Message) (stream : Nat) :
    (conn.deliver delivery).1.ctrl stream =
      ctrlStream.after (onStream stream (deliveries ++ [delivery])) := by
  obtain ⟨channel, msg⟩ := delivery
  by_cases same : channel = .ctrl stream
  · subst same
    rw [onStream_append_same, ctrlStream.after_append, ← streams stream]
    exact Function.update_self _ _ _
  · rw [onStream_append_other msg same, ← streams stream]
    cases channel with
    | ctrl opened =>
        exact Function.update_of_ne (fun here => same (congrArg QuicChannel.ctrl here.symm)) _ _
    | input opened => rfl
    | datagram => rfl

theorem quic_run {operations : List HostOperation} {conn : QuicConnection}
    (ran : Runs Transport.quic.step Transport.quic.start deliveries operations conn) :
    (∀ stream, conn.ctrl stream = ctrlStream.after (onStream stream deliveries)) ∧
      (operations = [] ↔ QuicQuiet deliveries) := by
  induction ran with
  | start =>
      refine ⟨fun stream => rfl, iff_of_true rfl ?_⟩
      exact { input := List.forall_mem_nil _, ctrl := fun _ => trivial }
  | @step deliveries operations conn delivery added next ran stepped ih =>
      obtain ⟨streams, quiet⟩ := ih
      have reached : conn.deliver delivery = (next, added) := stepped
      have streams' := deliver_streams streams delivery
      have quiet' := deliver_quiet_iff streams delivery
      rw [reached] at streams' quiet'
      refine ⟨streams', ?_⟩
      rw [quiet', List.append_eq_nil_iff, quiet]

end Streams

/-! ## TCP and WebSocket -/

theorem tcp_run {deliveries : List (Unit × Message)} {operations : List HostOperation}
    {gate : Gate (Int32 × Int32)}
    (ran : Runs Transport.tcp.step Transport.tcp.start deliveries operations gate) :
    gate = tcpConnection.after (deliveries.map Prod.snd) ∧
      Gated (deliveries.map Prod.snd) operations := by
  induction ran with
  | start => exact ⟨rfl, absurd rfl⟩
  | @step deliveries operations gate delivery added next ran stepped ih =>
      obtain ⟨same, gated⟩ := ih
      have reached : tcpConnection.pass gate delivery.2 = (next, added) := stepped
      rw [List.map_append, List.map_singleton]
      subst same
      refine ⟨?_, fun acted => ?_⟩
      · rw [tcpConnection.after_append, reached]
      · by_cases before : operations = []
        · have emitted : (tcpConnection.pass
              (tcpConnection.after (deliveries.map Prod.snd)) delivery.2).2 ≠ [] := by
            rw [reached]
            rwa [before, List.nil_append] at acted
          obtain ⟨first, rest, split, accepted⟩ := tcpConnection.accepted_of_emitted emitted
          refine ⟨first, rest, split, ?_⟩
          by_contra rude
          have refused := (shakeHands_eq_none_iff ((0, 0) : Int32 × Int32) first).mpr rude
          rw [show tcpConnection.accept first = none from refused] at accepted
          cases accepted
        · obtain ⟨first, rest, split, greets⟩ := gated before
          exact ⟨first, rest ++ [delivery.2], by rw [split, List.cons_append], greets⟩

theorem clientOperation_eq_none_iff (lastPointer : Int32 × Int32) (msg : Message) :
    clientOperation lastPointer msg = none ↔ ¬ isRequest msg ∧ ¬ isInput msg := by
  unfold clientOperation
  rw [Option.or_eq_none_iff, ctrlOperation_eq_none_iff, inputOperation_eq_none_iff]

theorem handleClientMsg_quiet_iff (lastPointer : Int32 × Int32) (msg : Message) :
    (handleClientMsg lastPointer msg).2 = [] ↔ ¬ isRequest msg ∧ ¬ isInput msg ∧ ¬ hasViewport msg := by
  have silent : (clientOperation lastPointer msg).toList = [] ↔ ¬ isRequest msg ∧ ¬ isInput msg :=
    Option.toList_eq_nil_iff.trans (clientOperation_eq_none_iff lastPointer msg)
  cases msg with
  | hello =>
      refine greetingOperations_eq_nil_iff.trans ?_
      constructor
      · intro empty
        refine ⟨Bool.false_ne_true, Bool.false_ne_true, ?_⟩
        simpa [hasViewport] using empty
      · intro quiet
        simpa [hasViewport] using quiet.2.2
  | _ =>
      simp only [handleClientMsg]
      exact silent.trans (and_congr_right fun _ => (and_iff_left Bool.false_ne_true).symm)

theorem webSocket_run {deliveries : List (Unit × Message)} {operations : List HostOperation}
    {lastPointer : Int32 × Int32}
    (ran : Runs Transport.webSocket.step Transport.webSocket.start deliveries operations lastPointer) :
    operations = [] ↔ WebSocketQuiet (deliveries.map Prod.snd) := by
  induction ran with
  | start => exact iff_of_true rfl (List.forall_mem_nil _)
  | @step deliveries operations lastPointer delivery added next ran stepped ih =>
      have reached : handleClientMsg lastPointer delivery.2 = (next, added) := stepped
      have silent := handleClientMsg_quiet_iff lastPointer delivery.2
      rw [reached] at silent
      unfold WebSocketQuiet at ih ⊢
      rw [List.append_eq_nil_iff, ih, silent, List.map_append, List.forall_mem_append,
        List.map_singleton, List.forall_mem_singleton]

/-- The host does nothing for a connection before its first message has been a HELLO of the
right version: always over TCP, and over QUIC and WebSocket if and only if it has been one,
or nothing that is let through without one asks for anything. -/
theorem gated_iff (transport : Transport) (deliveries : List (transport.Channel × Message))
    (operations : List HostOperation) (conn : transport.Connection)
    (ran : Runs transport.step transport.start deliveries operations conn) :
    Gated (deliveries.map Prod.snd) operations ↔ transport.MeetsGate deliveries := by
  have decide {quiet : Prop} (silent : operations = [] ↔ quiet) :
      Gated (deliveries.map Prod.snd) operations ↔ FirstGreets (deliveries.map Prod.snd) ∨ quiet := by
    rw [← silent, Gated, ne_eq, or_comm, or_iff_not_imp_left]
  cases transport with
  | quic => exact decide (quic_run ran).2
  | tcp => exact iff_of_true (tcp_run ran).2 trivial
  | webSocket => exact decide (webSocket_run ran)

/-- A key over an input stream, and a navigation over a WebSocket, without any HELLO. -/
theorem acted_without_hello :
    (∃ operations conn, Runs Transport.quic.step Transport.quic.start
      [(.input 0, .inputKey 0 13 0 true)] operations conn ∧
      ¬ Gated [.inputKey 0 13 0 true] operations) ∧
    ∃ operations conn, Runs Transport.webSocket.step Transport.webSocket.start
      [((), .nav "a")] operations conn ∧ ¬ Gated [.nav "a"] operations := by
  refine ⟨⟨_, _, .single rfl, fun gated => ?_⟩, ⟨_, _, .single rfl, fun gated => ?_⟩⟩
  · obtain ⟨first, rest, split, greets⟩ := gated (List.cons_ne_nil _ _)
    cases split
    exact greets
  · obtain ⟨first, rest, split, greets⟩ := gated (List.cons_ne_nil _ _)
    cases split
    exact greets

theorem gated_after_hello :
    let deliveries : List (QuicChannel × Message) :=
      [(.ctrl 0, .hello 1 800 600 100 "a" 0), (.input 1, .inputKey 0 13 0 true)]
    ∃ operations conn, Runs Transport.quic.step Transport.quic.start deliveries operations conn ∧
      operations ≠ [] ∧ Gated (deliveries.map Prod.snd) operations := by
  intro deliveries
  have ran : Runs Transport.quic.step Transport.quic.start deliveries _ _ :=
    (Runs.single rfl).step rfl
  refine ⟨_, _, ran, List.cons_ne_nil _ _, (gated_iff .quic deliveries _ _ ran).mpr (.inl ?_)⟩
  exact ⟨_, _, rfl, rfl⟩

end ExoBrowser.Host
