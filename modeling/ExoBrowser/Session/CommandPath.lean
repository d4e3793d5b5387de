import ExoBrowser.Client.Chrome
import ExoBrowser.Client.Commands
import ExoBrowser.Client.RenderProperties
import ExoBrowser.Host.Handshake
import ExoBrowser.Host.Publish
import ExoBrowser.Host.Screen
import ExoBrowser.Link.ReceiveProperties
import ExoBrowser.Proto.Reencoding

/-!
# From the user to the browser

A client that queues events, the task that writes them, the bytes on their way and the loop of
the host that handles them, in any order of their steps. Each event is carried out once, in its
turn, for the tab that was shown and the place that was pointed at when it was issued.
-/

set_option autoImplicit false

namespace ExoBrowser.Session

open Library Proto Host Client Link Checked

/-! ## Commands -/

/-- An event with the tab that is shown and the place that is pointed at. -/
structure Command where
  event : InputEvent
  tabId : UInt32
  spot : Int32 × Int32

def commandAt (core : BrowserCore) (event : InputEvent) : Command :=
  ⟨event, core.activeTabId, core.spot⟩

/-- What the browser is to do. -/
def Command.calls (command : Command) : List RunnerCall :=
  let tabId := command.tabId
  let (x, y) := command.spot
  match command.event with
  | .navigate url => [.loadUri tabId url]
  | .resize w h => [.resizeAll w.toUInt32 h.toUInt32]
  | .setZoom levelMilli => [.setZoom tabId levelMilli]
  | .navAction action =>
      if action = 0 then [.goBack tabId]
      else if action = 1 then [.goForward tabId]
      else if action = 2 then [.reload tabId]
      else []
  | .stop => [.stopLoading tabId]
  | .createTab opened url => [.createTab opened url]
  | .closeTab closed => [.closeTab closed]
  | .switchTab _ => []
  | .clearData cookies cache storage => [.clearData cookies cache storage]
  | .motion _ _ mods => [.injectPointerMotion tabId x y mods]
  | .button _ _ which pressed mods => [.injectPointerButton tabId x y which pressed mods]
  | .key keysym mods pressed => [.injectKey tabId keysym mods pressed]
  | .scroll dx dy => [.injectAxis tabId x y dx dy 0]

/-- What the host goes by: its active tab, and the position that the connection keeps. -/
structure Standing where
  tabId : UInt32
  pointer : Int32 × Int32

namespace Standing

def after (standing : Standing) : InputEvent → Standing
  | .createTab tabId _ => { standing with tabId }
  | .switchTab tabId => { standing with tabId }
  | .motion x y _ => { standing with pointer := (x, y) }
  | .button x y _ _ _ => { standing with pointer := (x, y) }
  | _ => standing

/-- What an event is taken for. -/
def command (standing : Standing) (event : InputEvent) : Command :=
  ⟨event, standing.tabId, (standing.after event).pointer⟩

def afterAll (standing : Standing) (events : List InputEvent) : Standing := events.foldl after standing

def calls : Standing → List InputEvent → List RunnerCall
  | _, [] => []
  | standing, event :: events => (standing.command event).calls ++ (standing.after event).calls events

variable {standing : Standing}

theorem calls_append (earlier later : List InputEvent) :
    standing.calls (earlier ++ later) = standing.calls earlier ++ (standing.afterAll earlier).calls later := by
  induction earlier generalizing standing with
  | nil => rfl
  | cons event earlier ih => simp [calls, afterAll, ih]

theorem afterAll_append (earlier later : List InputEvent) :
    standing.afterAll (earlier ++ later) = (standing.afterAll earlier).afterAll later :=
  List.foldl_append

/-- Tabs are selected as they are asked for. -/
def selected (tabId : UInt32) : Ask UInt32 → UInt32
  | .create opened => opened
  | .close _ => tabId
  | .select shown => shown

theorem afterAll_tabId (events : List InputEvent) :
    (standing.afterAll events).tabId = (events.filterMap InputEvent.ask).foldl selected standing.tabId := by
  induction events generalizing standing with
  | nil => rfl
  | cons event events ih =>
      have rest := @ih (standing.after event)
      cases event <;> exact rest

theorem selected_tabAction {core next : BrowserCore} {asks : List (Ask UInt32)}
    (acted : TabAction core next asks) : asks.foldl selected core.activeTabId = next.activeTabId := by
  cases acted with
  | quiet _ active => exact active.symm
  | opened _ active => exact active.symm
  | closed _ active => exact active.symm
  | replaced => rfl
  | switched => rfl

/-- The host will stand where the client does. -/
structure Agrees (standing : Standing) (core : BrowserCore) : Prop where
  tab : standing.tabId = core.activeTabId
  pointer : core.OnPage → standing.pointer = core.spot

theorem Agrees.congr {core next : BrowserCore} (agrees : standing.Agrees core)
    (active : next.activeTabId = core.activeTabId) (cursor : next.cursor = core.cursor) :
    standing.Agrees next where
  tab := agrees.tab.trans active.symm
  pointer page := by
    unfold BrowserCore.OnPage at page
    rw [cursor] at page
    have spot : next.spot = core.spot := by simp [BrowserCore.spot, cursor]
    exact (agrees.pointer page).trans spot.symm

/-- Requests for tabs do not depend on where the host stands. -/
theorem calls_asks {core : BrowserCore} {added : List InputEvent} (asks : ∀ ev ∈ added, ev.ask.isSome) :
    standing.calls added = (added.map (commandAt core)).flatMap Command.calls ∧
      (standing.afterAll added).pointer = standing.pointer := by
  induction added generalizing standing with
  | nil => exact ⟨rfl, rfl⟩
  | cons ev added ih =>
      obtain ⟨first, rest⟩ := List.forall_mem_cons.mp asks
      obtain ⟨same, kept⟩ := @ih (standing.after ev) rest
      cases ev with
      | createTab | closeTab | switchTab =>
          refine ⟨?_, kept⟩
          simp [calls, same, command, commandAt, Command.calls]
      | _ => simp [InputEvent.ask] at first

/-- What a report adds is taken for what it was issued for. -/
theorem calls_report {core next : BrowserCore} {added : List InputEvent} (agrees : standing.Agrees core)
    (report : Notice core next added) (acted : TabAction core next (added.filterMap InputEvent.ask)) :
    standing.calls added = (added.map (commandAt next)).flatMap Command.calls ∧
      (standing.afterAll added).Agrees next := by
  have tab : (standing.afterAll added).tabId = next.activeTabId := by
    rw [afterAll_tabId, agrees.tab, selected_tabAction acted]
  have shown (quiet : added.filterMap InputEvent.ask = []) : standing.tabId = next.activeTabId := by
    rw [quiet] at acted
    rw [agrees.tab, ← selected_tabAction acted]
    rfl
  have place (cursor : next.cursor = core.cursor) (page : next.OnPage) : standing.pointer = next.spot := by
    unfold BrowserCore.OnPage at page
    rw [cursor] at page
    rw [agrees.pointer page]
    simp [BrowserCore.spot, cursor]
  cases report with
  | plain cursor plain =>
      cases plain with
      | nothing => exact ⟨rfl, tab, place cursor⟩
      | @one ev plain =>
          cases ev with
          | navigate | resize | setZoom | navAction | stop | clearData | key =>
              refine ⟨?_, tab, place cursor⟩
              simp [calls, command, commandAt, Command.calls, shown rfl]
          | _ => cases plain
      | tabs asks =>
          obtain ⟨same, kept⟩ := @calls_asks standing next added asks
          exact ⟨same, tab, fun page => kept.trans (place cursor page)⟩
  | moved page =>
      refine ⟨?_, tab, fun _ => rfl⟩
      simp [calls, command, after, commandAt, Command.calls, shown rfl]
  | away off => exact ⟨rfl, tab, fun page => absurd page off⟩
  | pressed cursor =>
      refine ⟨?_, tab, fun _ => rfl⟩
      simp [calls, command, after, commandAt, Command.calls, shown rfl]
  | scrolled cursor page =>
      refine ⟨?_, tab, place cursor⟩
      simp [calls, command, after, commandAt, Command.calls, shown rfl, place cursor page]

end Standing

/-! ## Steps -/

structure CommandConfig where
  client : Target
  host : Target
  build : Build
  painter : Painter

structure CommandPath where
  core : BrowserCore
  wire : Bytes
  inbuf : Bytes
  gate : Gate (Int32 × Int32)
  host : HostState

/-- What can happen: a report at the client, a message to it and a render, the writing of an
event, the handling of the next message with the reads that bring it, and at the host what the
browser reports and what other connections have it do. -/
inductive CommandEvent where
  | input (device : Device)
  | network (msg : Message)
  | render (buffer : List UInt32)
  | write (tsUs : UInt64)
  | handle (chunks : List Bytes) (tsUs : UInt64)
  | host (event : Event)
  | other (operation : HostOperation) (tsUs : UInt64)

/-- What a run shows: the events that are issued, and the calls that are made for them. -/
inductive Deed where
  | issued (command : Command)
  | called (call : RunnerCall)

def Deed.command? : Deed → Option Command
  | .issued command => some command
  | .called _ => none

def Deed.call? : Deed → Option RunnerCall
  | .issued _ => none
  | .called call => some call

def performAll (tsUs : UInt64) : HostState → List HostOperation → HostState × List RunnerCall
  | state, [] => (state, [])
  | state, operation :: operations =>
      let (next, _, calls) := state.perform tsUs operation
      let (final, more) := performAll tsUs next operations
      (final, calls ++ more)

/-- The size of the buffer of `handle_tcp_connection`. -/
def readBytes : Nat := 8192

inductive CommandStep (config : CommandConfig) : Step CommandPath CommandEvent Deed where
  | input {path device core added} : device.input config.build path.core = .ok core →
      core.outboundInputs = path.core.outboundInputs ++ added →
      CommandStep config path (.input device) ((added.map (commandAt core)).map .issued)
        { path with core }
  | network {path msg core} : path.core.applyMessage config.build msg = .ok core →
      CommandStep config path (.network msg) [] { path with core }
  | render {path buffer core drawn damage} :
      path.core.renderInto config.build config.painter buffer = .ok (core, drawn, damage) →
      CommandStep config path (.render buffer) [] { path with core }
  | write {path tsUs ev rest bytes} : path.core.outboundInputs = ev :: rest →
      encodeItem config.client (ev.intoProtoMessage tsUs) = .ok bytes →
      CommandStep config path (.write tsUs) []
        { path with core := { path.core with outboundInputs := rest }, wire := path.wire ++ bytes }
  | handle {path chunks tsUs msg consumed inbuf rest gate operations host calls} :
      path.wire = chunks.flatten ++ rest → (∀ chunk ∈ chunks, chunk ≠ [] ∧ chunk.length ≤ readBytes) →
      readNextTcp config.host (chunks.map .data) path.inbuf =
        { received := .message msg, consumed, inbuf, reads := [] } →
      tcpConnection.pass path.gate msg = (gate, operations) →
      performAll tsUs path.host operations = (host, calls) →
      CommandStep config path (.handle chunks tsUs) (calls.map .called)
        { path with wire := rest, inbuf, gate, host }
  | host {path event published host} : hostStep path.host event published host →
      CommandStep config path (.host event) [] { path with host }
  | other {path operation tsUs} :
      CommandStep config path (.other operation tsUs) []
        { path with host := (path.host.perform tsUs operation).1 }

/-- Operations that select no tab. -/
def KeepsTab : HostOperation → Prop
  | .createTab _ _ => False
  | .switchTab _ => False
  | _ => True

/-- The address that goes with an event. -/
def address : InputEvent → Option String
  | .navigate url => some url
  | .createTab _ url => some url
  | _ => none

/-- An address that a message has room for. -/
def Carriable (ev : InputEvent) : Prop := ∀ url ∈ address ev, (strBytes url).length + 16 ≤ maxMessageBytes

/-- What keeps the two ends on one tab: no message to the client changes the tab that it shows, be it
that another user selected one or a late echo of what this user did, and neither the browser nor
another connection selects a tab at the host. Addresses fit into messages, and the window system
reports buttons where it has reported the pointer. -/
def CommandEvent.Sound (config : CommandConfig) (path : CommandPath) : CommandEvent → Prop
  | .input device => device.AtPointer path.core
  | .network msg => ∀ core, path.core.applyMessage config.build msg = .ok core →
      core.activeTabId = path.core.activeTabId
  | .render _ => True
  | .write _ => ∀ ev ∈ path.core.outboundInputs.head?, Carriable ev
  | .handle _ _ => True
  | .host event => event.Stays
  | .other operation _ => KeepsTab operation

def soundCommandStep (config : CommandConfig) : Step CommandPath CommandEvent Deed :=
  (CommandStep config).guarded (CommandEvent.Sound config)

/-- The HELLO of `net_main`. -/
def clientHello : Message := .hello protoVersion 1280 648 100 "gutted-client-pure-rust" 0x15

/-- A connection whose HELLO is on its way, with the address that the environment may ask for. Each
end has an initial address of its own. -/
def CommandPath.start (hostUrl initialUrl : String) (width height : UInt32) (nav : Option String)
    (hello : Bytes) : CommandPath where
  core := { BrowserCore.newNoStd width height initialUrl false with
    outboundInputs := nav.toList.map .navigate }
  wire := hello
  inbuf := []
  gate := .waiting
  host := .new hostUrl

/-- Nothing waits to be written or handled. -/
structure CommandPath.Idle (path : CommandPath) : Prop where
  queue : path.core.outboundInputs = []
  wire : path.wire = []
  inbuf : path.inbuf = []

/-- Whichever of the bytes are read next, none of them is refused. -/
def CommandPath.Accepts (path : CommandPath) (target : Target) : Prop :=
  ∀ (chunks : List Bytes) (rest : Bytes), path.wire = chunks.flatten ++ rest → (∀ chunk ∈ chunks, chunk ≠ []) →
    ∀ error, (readNextTcp target (chunks.map .data) path.inbuf).received ≠ .failed error

/-! ## Messages -/

theorem within_str (s : String) : Within (writeStr s) (5 + (strBytes s).length) := by
  have small : (UInt32.ofNat (strBytes s).length).toNat < 128 ^ 5 :=
    Nat.lt_trans (UInt32.toNat_lt _) (by decide)
  have length : Within (writeVarint (UInt32.ofNat (strBytes s).length)) 5 :=
    ⟨_, emits_writeVarint _, length_leb128_le (by decide) small⟩
  exact length.seq (within_extend (Nat.le_refl _))

theorem encodable_of_within {target : Target} {m : Message} {size : Nat} (valid : m.WireValid)
    (within : Within (m.encodePayload target) size) (fits : size ≤ maxMessageBytes) :
    Encodable target m := by
  obtain ⟨payload, emits, short⟩ := within
  exact ⟨valid, payload, encoded_of_emits emits, Nat.le_trans short fits⟩

theorem encodable_intoProtoMessage (target : Target) {ev : InputEvent} (carriable : Carriable ev)
    (tsUs : UInt64) : Encodable target (ev.intoProtoMessage tsUs) := by
  have field (width value : Nat) : Within (extend (toLeBytes width value)) width :=
    ⟨_, emits_extend _, Nat.le_of_eq (length_toLeBytes width value)⟩
  have byte (v : UInt8) : Within (writeU8 v) 1 := ⟨_, emits_extend _, Nat.le_refl 1⟩
  cases ev with
  | navigate url =>
      have room := carriable url rfl
      exact encodable_of_within trivial (within_str url) (by omega)
  | createTab tabId url =>
      have room := carriable url rfl
      exact encodable_of_within trivial ((field 4 _).seq (within_str url)) (by omega)
  | resize => exact encodable_of_within trivial ((field 2 _).seq ((field 2 _).seq (field 2 _))) (by decide)
  | setZoom => exact encodable_of_within trivial (field 4 _) (by decide)
  | navAction action => exact encodable_of_within trivial (byte action) (by decide)
  | stop => exact encodable_of_within trivial .pure (by decide)
  | closeTab => exact encodable_of_within trivial (field 4 _) (by decide)
  | switchTab => exact encodable_of_within trivial (field 4 _) (by decide)
  | clearData => exact encodable_of_within trivial ((byte _).seq ((byte _).seq (byte _))) (by decide)
  | motion =>
      exact encodable_of_within trivial
        ((field 8 _).seq ((field 4 _).seq ((field 4 _).seq (field 4 _)))) (by decide)
  | button =>
      exact encodable_of_within trivial
        ((field 8 _).seq ((field 4 _).seq ((field 4 _).seq ((field 4 _).seq ((byte _).seq (field 4 _))))))
        (by decide)
  | key =>
      exact encodable_of_within trivial
        ((field 8 _).seq ((field 4 _).seq ((field 4 _).seq (byte _)))) (by decide)
  | scroll =>
      exact encodable_of_within trivial
        ((field 8 _).seq ((field 4 _).seq ((field 4 _).seq ((field 4 _).seq (byte _))))) (by decide)

/-! ## Handling -/

section Handling

variable {standing : Standing} {state next : HostState} {calls : List RunnerCall}

/-- An action that is no step through the history calls for nothing. -/
theorem performAll_navAction (action : UInt8) (tsUs : UInt64) (pointer spot : Int32 × Int32) :
    performAll tsUs state (clientOperation pointer (.navAction action)).toList =
      (state, Command.calls ⟨.navAction action, state.activeTabId, spot⟩) := by
  unfold clientOperation ctrlOperation inputOperation Command.calls
  dsimp only
  split
  · rfl
  · split
    · rfl
    · split <;> rfl

/-- The host takes the message of an event for the event. -/
theorem performs_event (ev : InputEvent) (sentUs tsUs : UInt64) (active : standing.tabId = state.activeTabId)
    (performed : performAll tsUs state
      (clientOperation standing.pointer (ev.intoProtoMessage sentUs)).toList = (next, calls)) :
    calls = (standing.command ev).calls ∧ next.activeTabId = (standing.after ev).tabId ∧
      pointerAfter standing.pointer (ev.intoProtoMessage sentUs) = (standing.after ev).pointer := by
  cases ev with
  | createTab tabId url =>
      cases performed
      exact ⟨rfl, switchTab_activeTabId tabId tsUs, rfl⟩
  | switchTab tabId =>
      cases performed
      exact ⟨rfl, switchTab_activeTabId tabId tsUs, rfl⟩
  | navAction action =>
      obtain ⟨rfl, rfl⟩ := Prod.mk.inj ((performAll_navAction action tsUs _ standing.pointer).symm.trans performed)
      rw [← active]
      exact ⟨rfl, rfl, rfl⟩
  | _ =>
      cases performed
      simp [Standing.command, Command.calls, Standing.after, active, pointerAfter, InputEvent.intoProtoMessage]

theorem keepsTab_active (state : HostState) {operation : HostOperation} (keeps : KeepsTab operation)
    (tsUs : UInt64) : (state.perform tsUs operation).1.activeTabId = state.activeTabId := by
  cases operation with
  | createTab | switchTab => exact keeps.elim
  | _ => rfl

theorem receiveFrame_active {f : Frame} {tsUs : UInt64} {aligned : Nat → Bool} :
    Yields (state.receiveFrame f tsUs aligned) fun result => result.1.activeTabId = state.activeTabId := by
  refine .ite (fun _ => ?_) fun _ => .pure rfl
  cases state.lastFrames f.tabId with
  | none => exact .pure rfl
  | some prev => exact .ite (fun _ => .bind fun changes _ => .pure rfl) fun _ => .pure rfl

theorem stays_active {event : Event} {published : List Message} (stays : event.Stays)
    (stepped : state.step event = .ok (next, published)) : next.activeTabId = state.activeTabId := by
  cases event with
  | frame f tsUs aligned => exact receiveFrame_active _ stepped
  | load tabId load => cases load <;> cases stepped <;> rfl
  | createTab tabId url makeActive tsUs =>
      cases stays
      cases stepped
      rfl
  | switchTab => exact stays.elim
  | _ =>
      cases stepped
      rfl

end Handling

/-! ## What is owed -/

/-- What the gate is still to receive, and the call that is made for it. -/
inductive Opens : Gate (Int32 × Int32) → Int32 × Int32 → List Message → List RunnerCall → Prop where
  | waiting : Opens .waiting (0, 0) [clientHello] [.resizeAll 1280 648]
  | opened {pointer} : Opens (.opened pointer) pointer [] []

/-- On the way are a greeting and the messages of some events. -/
structure Carries (config : CommandConfig) (path : CommandPath) (standing : Standing)
    (sent : List (InputEvent × UInt64)) (greeting : List Message) (greeted : List RunnerCall) : Prop where
  opens : Opens path.gate standing.pointer greeting greeted
  stream : onePass config.host (path.inbuf ++ path.wire) =
    ⟨greeting ++ sent.map fun event => event.1.intoProtoMessage event.2, none, []⟩
  active : standing.tabId = path.host.activeTabId
  agrees : (standing.afterAll (sent.map Prod.fst ++ path.core.outboundInputs)).Agrees path.core

/-- The calls that are still to be made for what has been issued. -/
def Owes (config : CommandConfig) (path : CommandPath) (owed : List RunnerCall) : Prop :=
  ∃ standing sent greeting greeted, Carries config path standing sent greeting greeted ∧
    owed = greeted ++ standing.calls (sent.map Prod.fst ++ path.core.outboundInputs)

/-- What the user has asked for. -/
def wanted (deeds : List Deed) : List RunnerCall := (deeds.filterMap Deed.command?).flatMap Command.calls

/-- What the browser has been called for. -/
def done (deeds : List Deed) : List RunnerCall := deeds.filterMap Deed.call?

theorem wanted_append (earlier later : List Deed) : wanted (earlier ++ later) = wanted earlier ++ wanted later := by
  simp [wanted]

theorem done_append (earlier later : List Deed) : done (earlier ++ later) = done earlier ++ done later := by
  simp [done]

@[simp] theorem wanted_issued (commands : List Command) :
    wanted (commands.map .issued) = commands.flatMap Command.calls := by
  simp [wanted, List.filterMap_map, Function.comp_def, Deed.command?]

@[simp] theorem done_issued (commands : List Command) : done (commands.map .issued) = [] := by
  simp [done, List.filterMap_map, Function.comp_def, Deed.call?]

@[simp] theorem wanted_called (calls : List RunnerCall) : wanted (calls.map .called) = [] := by
  simp [wanted, List.filterMap_map, Function.comp_def, Deed.command?]

@[simp] theorem done_called (calls : List RunnerCall) : done (calls.map .called) = calls := by
  simp [done, List.filterMap_map, Function.comp_def, Deed.call?]

section Owing

variable {config : CommandConfig} {path : CommandPath} {owed : List RunnerCall}

/-- Nothing changes but what the client shows. -/
theorem Owes.quiet (owes : Owes config path owed) {core : BrowserCore}
    (told : core.outboundInputs = path.core.outboundInputs) (active : core.activeTabId = path.core.activeTabId)
    (cursor : core.cursor = path.core.cursor) : Owes config { path with core } owed := by
  obtain ⟨standing, sent, greeting, greeted, carries, rfl⟩ := owes
  refine ⟨standing, sent, greeting, greeted, { carries with agrees := ?_ }, ?_⟩
  · simp only [told]
    exact carries.agrees.congr active cursor
  · simp only [told]

/-- Nothing changes but what the host stores. -/
theorem Owes.hosted (owes : Owes config path owed) {host : HostState}
    (active : host.activeTabId = path.host.activeTabId) : Owes config { path with host } owed := by
  obtain ⟨standing, sent, greeting, greeted, carries, rfl⟩ := owes
  exact ⟨standing, sent, greeting, greeted, { carries with active := carries.active.trans active.symm }, rfl⟩

/-- What a report issues is owed. -/
theorem Owes.input (owes : Owes config path owed) {device : Device} {core : BrowserCore}
    {added : List InputEvent} (here : device.AtPointer path.core)
    (returned : device.input config.build path.core = .ok core)
    (told : core.outboundInputs = path.core.outboundInputs ++ added) :
    Owes config { path with core } (owed ++ (added.map (commandAt core)).flatMap Command.calls) := by
  obtain ⟨standing, sent, greeting, greeted, carries, rfl⟩ := owes
  obtain ⟨_, reported, report⟩ := reports_input here core returned
  obtain rfl := List.append_cancel_left (told.symm.trans reported)
  obtain ⟨_, taken, acted⟩ := took_input config.build path.core device core returned
  obtain rfl := List.append_cancel_left (told.symm.trans taken)
  obtain ⟨calls, agrees⟩ := Standing.calls_report carries.agrees report acted
  refine ⟨standing, sent, greeting, greeted, { carries with agrees := ?_ }, ?_⟩
  · simp only [told]
    rw [← List.append_assoc, Standing.afterAll_append]
    exact agrees
  · simp only [told]
    rw [← calls, List.append_assoc, ← Standing.calls_append, List.append_assoc]

/-- What is written is owed as before. -/
theorem Owes.write (owes : Owes config path owed) {ev : InputEvent} {rest : List InputEvent}
    {tsUs : UInt64} {bytes : Bytes} (queued : path.core.outboundInputs = ev :: rest) (carriable : Carriable ev)
    (encodes : encodeItem config.client (ev.intoProtoMessage tsUs) = .ok bytes) :
    Owes config
      { path with core := { path.core with outboundInputs := rest }, wire := path.wire ++ bytes } owed := by
  obtain ⟨standing, sent, greeting, greeted, carries, rfl⟩ := owes
  have pending : (sent ++ [(ev, tsUs)]).map Prod.fst ++ rest = sent.map Prod.fst ++ path.core.outboundInputs := by
    simp [queued]
  obtain ⟨frame, emits, isFrame⟩ := (encodable_intoProtoMessage config.client carriable tsUs).isFrame config.host
  cases encodes.symm.trans (encoded_of_emits emits)
  refine ⟨standing, sent ++ [(ev, tsUs)], greeting, greeted, { carries with stream := ?_, agrees := ?_ }, ?_⟩
  · have longer := isFrame.drain_snoc rfl carries.stream
    simpa [onePass] using longer
  · simp only [pending]
    exact carries.agrees.congr rfl rfl
  · simp only [pending]

/-- What is handled is called for, and owed no more. -/
theorem Owes.handle (owes : Owes config path owed) {chunks : List Bytes} {tsUs : UInt64} {msg : Message}
    {consumed : Nat} {inbuf rest : Bytes} {gate : Gate (Int32 × Int32)} {operations : List HostOperation}
    {host : HostState} {calls : List RunnerCall} (arrives : path.wire = chunks.flatten ++ rest)
    (nonempty : ∀ chunk ∈ chunks, chunk ≠ [])
    (read : readNextTcp config.host (chunks.map .data) path.inbuf =
      { received := .message msg, consumed, inbuf, reads := [] })
    (passed : tcpConnection.pass path.gate msg = (gate, operations))
    (performed : performAll tsUs path.host operations = (host, calls)) :
    ∃ left, Owes config { path with wire := rest, inbuf, gate, host } left ∧ owed = calls ++ left := by
  obtain ⟨⟨tabId, pointer⟩, sent, greeting, greeted, ⟨opens, stream, active, agrees⟩, rfl⟩ := owes
  have front : (messageFraming config.host).front (path.inbuf ++ chunks.flatten) = .item msg inbuf := by
    have outcome := receiveNext_outcome config.host .tcp nonempty path.inbuf
    have same : receiveNext .tcp config.host (chunks.map .data) path.inbuf = _ := read
    rw [same] at outcome
    generalize unread : ([] : List ReadOutcome) = reads at outcome
    cases outcome with
    | message _ _ _ others _ found _ =>
        cases others with
        | nil => simpa using found
        | cons => cases unread
  rw [arrives, ← List.append_assoc] at stream
  obtain ⟨others, first, behind⟩ := Framing.drain_behind front stream
  generalize path.gate = before at opens passed
  cases opens with
  | waiting =>
      cases first
      cases passed
      cases performed
      exact ⟨_, ⟨⟨tabId, (0, 0)⟩, sent, [], [], ⟨.opened, behind, active, agrees⟩, rfl⟩, rfl⟩
  | opened =>
      cases sent with
      | nil => cases first
      | cons event sent =>
          obtain ⟨ev, sentUs⟩ := event
          cases first
          cases passed
          obtain ⟨rfl, kept, pointed⟩ := @performs_event ⟨tabId, pointer⟩ path.host host calls ev sentUs tsUs active performed
          refine ⟨_, ⟨Standing.after ⟨tabId, pointer⟩ ev, sent, [], [], ⟨?_, behind, kept.symm, agrees⟩, rfl⟩, ?_⟩
          · rw [← pointed]
            exact .opened
          · simp [Standing.calls]

/-- What is issued is owed until it is called for. -/
theorem owes_step (owes : Owes config path owed) {event : CommandEvent} {deeds : List Deed}
    {next : CommandPath} (stepped : soundCommandStep config path event deeds next) :
    ∃ left, Owes config next left ∧ owed ++ wanted deeds = done deeds ++ left := by
  obtain ⟨sound, stepped⟩ := stepped
  have nothing {next : CommandPath} (still : Owes config next owed) :
      ∃ left, Owes config next left ∧ owed ++ wanted [] = done [] ++ left :=
    ⟨owed, still, List.append_nil owed⟩
  cases stepped with
  | input returned told =>
      refine ⟨_, owes.input sound returned told, ?_⟩
      simp only [wanted_issued, done_issued, List.nil_append]
  | network applied =>
      have told := (BrowserCore.applied_applyMessage _ _ applied).outboundInputs
      exact nothing (owes.quiet told (sound _ applied) (BrowserCore.cursor_applyMessage _ _ applied))
  | render returned =>
      obtain ⟨base, _, _, _, _, rfl | rfl, rfl⟩ := BrowserCore.renderInto_eq_ok returned
      · exact nothing (owes.quiet rfl rfl rfl)
      · exact nothing (owes.quiet rfl rfl rfl)
  | write queued encodes => exact nothing (owes.write queued (sound _ (by simp [queued])) encodes)
  | handle arrives small read passed performed =>
      obtain ⟨left, still, same⟩ :=
        owes.handle arrives (fun chunk member => (small chunk member).1) read passed performed
      exact ⟨left, still, by simpa using same⟩
  | host stepped => exact nothing (owes.hosted (stays_active sound stepped.2))
  | other => exact nothing (owes.hosted (keepsTab_active path.host sound _))

theorem encodable_clientHello (target : Target) : Encodable target clientHello := by
  have field (width value : Nat) : Within (extend (toLeBytes width value)) width :=
    ⟨_, emits_extend _, Nat.le_of_eq (length_toLeBytes width value)⟩
  exact encodable_of_within trivial
    ((field 4 _).seq ((field 2 _).seq ((field 2 _).seq ((field 2 _).seq ((field 4 _).seq (within_str _))))))
    (by decide)

theorem owes_start (hostUrl initialUrl : String) (width height : UInt32) (nav : Option String) {hello : Bytes}
    (greets : encodeItem config.client clientHello = .ok hello) :
    Owes config (.start hostUrl initialUrl width height nav hello)
      (.resizeAll 1280 648 :: nav.toList.map (.loadUri 1)) := by
  have stream : onePass config.host ([] ++ hello) = ⟨[] ++ [clientHello], none, []⟩ := by
    obtain ⟨frame, emits, isFrame⟩ := (encodable_clientHello config.client).isFrame config.host
    cases greets.symm.trans (encoded_of_emits emits)
    exact isFrame.drain_snoc rfl (Framing.drain_incomplete rfl)
  refine ⟨⟨1, (0, 0)⟩, [], [clientHello], [.resizeAll 1280 648], ⟨.waiting, stream, rfl, ?_⟩, ?_⟩
  · have off : ¬ (CommandPath.start hostUrl initialUrl width height nav hello).core.OnPage := by
      change ¬ (0 : Int32).toInt ≥ chromeH.toNat
      decide
    cases nav with
    | none => exact ⟨rfl, fun page => absurd page off⟩
    | some url => exact ⟨rfl, fun page => absurd page off⟩
  · cases nav <;> rfl

/-- Nothing is owed when nothing is on its way. -/
theorem Owes.idle (owes : Owes config path owed) (idle : path.Idle) : owed = [] := by
  obtain ⟨standing, sent, greeting, greeted, carries, rfl⟩ := owes
  obtain ⟨queue, wire, inbuf⟩ := idle
  have stream := carries.stream
  have nothing : onePass config.host [] = ⟨[], none, []⟩ := Framing.drain_incomplete rfl
  rw [inbuf, wire, List.append_nil, nothing] at stream
  obtain ⟨noGreeting, noEvents⟩ := List.append_eq_nil_iff.mp (congrArg Drained.messages stream).symm
  have opens := carries.opens
  generalize path.gate = gate, standing.pointer = pointer at opens
  subst noGreeting
  cases opens with
  | opened => simp [List.map_eq_nil_iff.mp noEvents, queue, Standing.calls]

theorem Owes.accepts (owes : Owes config path owed) : path.Accepts config.host := by
  intro chunks rest arrives nonempty error
  obtain ⟨standing, sent, greeting, greeted, carries, rfl⟩ := owes
  have stream := carries.stream
  rw [arrives, ← List.append_assoc] at stream
  have outcome := receiveNext_outcome config.host .tcp nonempty path.inbuf
  unfold readNextTcp
  generalize receiveNext .tcp config.host (chunks.map .data) path.inbuf = result at outcome
  cases outcome with
  | message => simp
  | malformed stop _ _ found => exact absurd found (Framing.front_ne_malformed stream stop)
  | waiting => simp

end Owing

end ExoBrowser.Session
