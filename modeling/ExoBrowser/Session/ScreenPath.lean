import ExoBrowser.Client.IngestProperties
import ExoBrowser.Client.InputProperties
import ExoBrowser.Client.Portrait
import ExoBrowser.Host.Lag
import ExoBrowser.Host.Publish

/-!
# From the page to the screen

A host, the task that writes its bus to a connection, the bytes on their way and a client that
ingests and renders them, in any order of their steps. When nothing is on its way any more, a
render shows the frame that the host has stored for its active tab.
-/

set_option autoImplicit false

namespace ExoBrowser.Session

open Library Proto Host Client Link Checked

/-! ## Steps -/

/-- The two ends of a connection and the task that writes to it. The client has the glyphs of `font`
and no others. -/
structure PathConfig where
  host : Target
  client : Target
  build : Build
  font : BasicFonts
  writer : Writer

structure ScreenPath where
  host : HostState
  writer : WriterState
  wire : Bytes
  core : BrowserCore
  inbuf : Bytes
  canvas : List UInt32

/-- What can happen: a step of the host or an item that another of its tasks publishes, a step
of the writer, the arrival of some of the bytes, an input at the client and a render. -/
inductive PathEvent where
  | host (event : Event)
  | publish (m : Message)
  | receive
  | snapshot (tsUs : UInt64)
  | reply (m : Message)
  | arrive (chunk : Bytes)
  | input (device : Device)
  | render

/-- The bytes that an action puts on the wire. -/
def actionBytes (target : Target) : Action → Checked Error Bytes
  | .lost _ _ => return []
  | .item _ m => encodeItem target m
  | .snapshot none => return []
  | .snapshot (some m) => encodeItem target m
  | .reply bytes => return bytes

def writtenBytes (target : Target) (actions : List Action) : Checked Error Bytes := do
  return (← actions.mapM (actionBytes target)).flatten

/-- The path with more on its bus. -/
def ScreenPath.publish (path : ScreenPath) (published : List Message) : ScreenPath :=
  { path with writer := { path.writer with sent := path.writer.sent ++ published } }

inductive PathStep (config : PathConfig) : Step ScreenPath PathEvent Action where
  | host {path event next published} : event.Allowed path.host →
      path.host.step event = .ok (next, published) →
      PathStep config path (.host event) []
        (ScreenPath.publish { path with host := next } published)
  | publish {path m} : PathStep config path (.publish m) [] (path.publish [m])
  | receive {path actions writer bytes} : writerStep config.writer path.writer .receive actions writer →
      writtenBytes config.host actions = .ok bytes →
      PathStep config path .receive actions { path with writer, wire := path.wire ++ bytes }
  | snapshot {path tsUs actions writer bytes} :
      writerStep config.writer { path.writer with stored := path.host.snapshot tsUs } .snapshot actions writer →
      writtenBytes config.host actions = .ok bytes →
      PathStep config path (.snapshot tsUs) actions { path with writer, wire := path.wire ++ bytes }
  | reply {path m actions writer bytes} : encodeItem config.host m = .ok bytes →
      writerStep config.writer path.writer (.reply bytes) actions writer →
      PathStep config path (.reply m) actions { path with writer, wire := path.wire ++ bytes }
  | arrive {path chunk rest core inbuf applied result} : path.wire = chunk ++ rest →
      path.core.ingestWireBytes config.build config.client (path.inbuf ++ chunk) =
        .ok { core, inbuf, applied, result } →
      PathStep config path (.arrive chunk) [] { path with core, inbuf, wire := rest }
  | input {path device core} : device.input config.build path.core = .ok core →
      PathStep config path (.input device) [] { path with core }
  | render {path core canvas damage} :
      path.core.renderInto config.build (noStdPainter config.build config.font) path.canvas =
        .ok (core, canvas, damage) →
      PathStep config path .render [] { path with core, canvas }

/-- A message that shows no picture and selects no tab. -/
def Beside (m : Message) : Prop := Portrayable m ∧ IsFrame m = false

/-- What keeps a client on one tab in step: the pixels of every message arrive as they were sent, so
that no changed rectangle of 96,000 pixels or more is halved, and its payload is not too long. No
tab is selected or told of, the writer does not learn from `try_recv` that it lags, and the user
does not touch the content area. -/
def PathEvent.Sound (config : PathConfig) (path : ScreenPath) : PathEvent → Prop
  | .host event => event.Stays ∧ ∀ next published, path.host.step event = .ok (next, published) →
      ∀ m ∈ published, Encodable config.host m
  | .publish m => Beside m ∧ Encodable config.host m
  | .receive => InTime path.writer .receive
  | .snapshot tsUs => ∀ m ∈ path.host.snapshot tsUs, Encodable config.host m
  | .reply m => Beside m ∧ Encodable config.host m
  | .input device => ∀ core, device.input config.build path.core = .ok core →
      path.core.Undisturbed core
  | .arrive _ | .render => True

def soundStep (config : PathConfig) : Step ScreenPath PathEvent Action :=
  (PathStep config).guarded (PathEvent.Sound config)

/-! ## Messages on their way -/

theorem writtenBytes_singleton {target : Target} {action : Action} {bytes : Bytes} :
    writtenBytes target [action] = .ok bytes ↔ actionBytes target action = .ok bytes := by
  unfold writtenBytes
  rw [List.mapM_cons, List.mapM_nil]
  cases actionBytes target action with
  | ok written => simp
  | error stop => simp

theorem encodable_frame {host client : Target} {m : Message} {bytes : Bytes}
    (encodable : Encodable host m) (encodes : encodeItem host m = .ok bytes) :
    (messageFraming client).IsFrame bytes m := by
  obtain ⟨frame, emits, isFrame⟩ := encodable.isFrame client
  cases encodes.symm.trans (encoded_of_emits emits)
  exact isFrame

theorem lossless_of_encodable {target : Target} {m : Message} (encodable : Encodable target m) :
    Lossless m := by
  have lossless {compression : UInt8} {pixels : Bytes} (payload : LosslessPayload compression pixels) :
      compression ≠ Compression.lz4DeltaQ2 := by
    rcases payload with rfl | ⟨rfl, _⟩ | ⟨rfl, _⟩ <;> decide
  have valid := encodable.1
  cases m with
  | rawFrame => exact lossless valid.2
  | subframe => exact lossless valid.2
  | _ => trivial

theorem belowQ2_of_encodable {target : Target} {m : Message} (ordinary : Ordinary m)
    (encodable : Encodable target m) : BelowQ2 m := by
  have lossless := lossless_of_encodable encodable
  rcases ordinary with ⟨f, tsUs, _, sends⟩ | told
  · cases sends with
    | whole => trivial
    | @part region sub =>
        by_contra large
        refine lossless (?_ : regionCompression region = Compression.lz4DeltaQ2)
        exact if_pos (Nat.le_of_not_lt large)
  · cases told <;> trivial

theorem portrayable_of_ordinary {m : Message} (ordinary : Ordinary m) : Portrayable m := by
  rcases ordinary with ⟨f, tsUs, wellFormed, sends⟩ | told
  · cases sends with
    | whole =>
        have width : (UInt16.ofNat f.width).toUInt32.toNat = f.width := by
          rw [UInt16.toNat_toUInt32, wellFormed.toNat_width]
        have height : (UInt16.ofNat f.height).toUInt32.toNat = f.height := by
          rw [UInt16.toNat_toUInt32, wellFormed.toNat_height]
        have some (v : UInt32) (pos : 0 < v.toNat) : v ≠ 0 := by
          rintro rfl
          exact absurd pos (by decide)
        refine ⟨some _ (by rw [width]; exact wellFormed.width_pos),
          some _ (by rw [height]; exact wellFormed.height_pos), ?_, ?_⟩
        · simp only [width, f.toNat_stride]
          exact wellFormed.stride_ge
        · simp only [height, f.toNat_stride]
          exact Nat.le_of_eq wellFormed.pixels_length.symm
    | @part region sub cols rows wide tall length =>
        have some (v : UInt16) (pos : 0 < v.toNat) : v.toUInt32 ≠ 0 := by
          intro zero
          have := congrArg UInt32.toNat zero
          rw [UInt16.toNat_toUInt32] at this
          exact absurd this (Nat.ne_of_gt pos)
        have narrow (v : UInt16) : Window.Narrow v.toUInt32 := by
          unfold Window.Narrow
          rw [UInt16.toNat_toUInt32]
          exact Nat.le_of_lt_succ v.toNat_lt
        refine ⟨some _ wide, some _ tall, ⟨?_, ?_⟩, narrow _, narrow _, narrow _, narrow _⟩
        · simp only [UInt16.toNat_toUInt32, region.toNat_stride]
          exact Nat.le_refl _
        · simp only [UInt16.toNat_toUInt32, region.toNat_stride, length]
          rw [Nat.mul_comm]
  · cases told <;> trivial

/-! ## What is due -/

section Due

variable {window : Window} {picture : Picture UInt32} {aim nextAim : Nat → Nat → UInt32}

/-- After the messages, a window that shows the picture shows what it has to. -/
def Due (window : Window) (picture : Picture UInt32) (messages : List Message)
    (aim : Nat → Nat → UInt32) : Prop :=
  (messages.foldl window.depicted picture).Shows window.view.width window.view.height aim

theorem depicted_sized {m : Message} (sized : picture.width = window.view.width ∧
    picture.height = window.view.height) :
    (window.depicted picture m).width = window.view.width ∧
      (window.depicted picture m).height = window.view.height := by
  unfold Window.depicted
  cases RenderEvent.fromProtoMessage m with
  | none => exact sized
  | some event =>
      cases event with
      | frame f => exact ⟨rfl, rfl⟩
      | _ => exact sized

theorem foldl_depicted_sized {messages : List Message} (sized : picture.width = window.view.width ∧
    picture.height = window.view.height) :
    (messages.foldl window.depicted picture).width = window.view.width ∧
      (messages.foldl window.depicted picture).height = window.view.height := by
  induction messages generalizing picture with
  | nil => exact sized
  | cons m messages ih => exact ih (depicted_sized sized)

theorem due_append {target : Target} {messages published : List Message} (due : Due window picture messages aim)
    (lossless : ∀ m ∈ published, Lossless m)
    (leads : Leads window.view.width window.view.height aim nextAim (seenEdits window.view target published)) :
    Due window picture (messages ++ published) nextAim := by
  obtain ⟨result, replayed, shows⟩ := leads.shows due
  rw [replay_seenEdits lossless] at replayed
  cases replayed
  unfold Due
  rw [List.foldl_append]
  exact shows

theorem depicted_beside {m : Message} (beside : IsFrame m = false) : window.depicted picture m = picture := by
  cases m with
  | rawFrame => cases beside
  | subframe => cases beside
  | welcome protoVersion sessionId features cursorTrackId url =>
      simp only [Window.depicted, RenderEvent.fromProtoMessage]
      cases url.isEmpty <;> rfl
  | _ => rfl

theorem editsOf_beside {target : Target} {m : Message} (beside : IsFrame m = false) :
    editsOf target [m] = [] := by
  cases m with
  | rawFrame => cases beside
  | subframe => cases beside
  | _ => rfl

/-- A frame that a newer one hides may as well be dropped. -/
theorem depicted_superseded {item newer : Message} (drops : superseded item newer)
    (item_lossless : Lossless item) (newer_lossless : Lossless newer) :
    window.depicted (window.depicted picture item) newer = window.depicted picture newer := by
  obtain ⟨_, _, earlier, later, item_eq, newer_eq, hides⟩ := superseded_cases .bits64 drops
  have both := @replay_seenEdits window .bits64 [item, newer]
    (by simp [item_lossless, newer_lossless]) picture
  have alone := @replay_seenEdits window .bits64 [newer]
    (by simp [newer_lossless]) picture
  simp only [seenEdits, editsOf, List.filterMap_cons, item_eq, newer_eq, List.filterMap_nil,
    List.map_cons, List.map_nil, replay_cons, replay_nil, List.foldl_cons, List.foldl_nil] at both alone
  rw [(window.view.hides hides).apply, alone] at both
  exact (Option.some.inj both).symm

end Due

/-! ## The invariant -/

/-- What may be on its way. -/
def Carried (config : PathConfig) (m : Message) : Prop := Portrayable m ∧ Encodable config.host m

def ScreenPath.stored (path : ScreenPath) : Option Frame := path.host.lastFrames path.host.activeTabId

/-- The messages that the client has not applied: on the wire, with the writer, on the bus. -/
def ScreenPath.outstanding (path : ScreenPath) (inFlight : List Message) : List Message :=
  inFlight ++ path.writer.phase.pending ++ path.writer.sent.drop path.writer.next

/-- What holds of a connection from the item `since` of the bus on. -/
structure Streams (config : PathConfig) (window : Window) (since : Nat) (path : ScreenPath)
    (aim : Nat → Nat → UInt32) (picture : Picture UInt32) (inFlight : List Message) : Prop where
  valid : path.host.Valid
  aims : path.host.Aims window.view aim
  since_le : since ≤ path.writer.next
  next_le : path.writer.next ≤ path.writer.sent.length
  wire : onePass config.client (path.inbuf ++ path.wire) = ⟨inFlight, none, []⟩
  drained : (onePass config.client path.inbuf).messages = []
  portrays : path.core.Portrays window path.canvas picture
  carried : ∀ m ∈ inFlight ++ path.writer.phase.pending, Carried config m
  published : ∀ m ∈ path.writer.sent.drop since, Carried config m
  refreshes : Refreshes window.view.width window.view.height aim
    (seenEdits window.view config.client (path.writer.sent.drop since))
  due : path.writer.phase ≠ .lagged → path.stored.isSome →
    Due window picture (path.outstanding inFlight) aim

namespace Streams

variable {config : PathConfig} {window : Window} {since : Nat} {path : ScreenPath}
  {aim : Nat → Nat → UInt32} {picture : Picture UInt32} {inFlight : List Message}

theorem sized (streams : Streams config window since path aim picture inFlight) :
    picture.width = window.view.width ∧ picture.height = window.view.height := by
  obtain ⟨width, height, _⟩ := streams.portrays.due
  have size := BrowserCore.due_size path.core path.canvas
  rw [streams.portrays.window] at size
  exact ⟨width.symm.trans size.1, height.symm.trans size.2⟩

theorem queued (streams : Streams config window since path aim picture inFlight) :
    ∀ m ∈ path.writer.sent.drop path.writer.next, Carried config m := by
  intro m member
  exact streams.published m (List.drop_subset_drop_left _ streams.since_le member)

/-- More on the bus, with a frame that it leads to. -/
theorem publish (streams : Streams config window since path aim picture inFlight) {next : HostState}
    {published : List Message} (carried : ∀ m ∈ published, Carried config m) (valid : next.Valid)
    (leads : ∀ held, path.host.Aims window.view held →
      LeadsOn config.client window.view held next published) :
    ∃ nextAim, Streams config window since (ScreenPath.publish { path with host := next } published)
      nextAim picture inFlight := by
  obtain ⟨nextAim, aims, leading⟩ := leads aim streams.aims
  have lossless : ∀ m ∈ published, Lossless m := fun m member =>
    lossless_of_encodable (carried m member).2
  have split : (path.writer.sent ++ published).drop since = path.writer.sent.drop since ++ published :=
    List.drop_append_of_le_length (Nat.le_trans streams.since_le streams.next_le)
  refine ⟨nextAim, { streams with
    valid
    aims
    next_le := Nat.le_trans streams.next_le (by simp [ScreenPath.publish])
    published := ?_
    refreshes := ?_
    due := ?_ }⟩
  · simp only [ScreenPath.publish, split]
    exact List.forall_mem_append.mpr ⟨streams.published, carried⟩
  · simp only [ScreenPath.publish, split, seenEdits_append]
    exact streams.refreshes.append leading
  · intro active present
    obtain ⟨f, stored⟩ := Option.isSome_iff_exists.mp present
    have outstanding : (ScreenPath.publish { path with host := next } published).outstanding inFlight =
        path.outstanding inFlight ++ published := by
      simp only [ScreenPath.outstanding, ScreenPath.publish,
        List.drop_append_of_le_length streams.next_le, List.append_assoc]
    rw [outstanding]
    cases before : path.stored with
    | some prev => exact due_append (streams.due active (by rw [before]; rfl)) lossless leading
    | none =>
        -- nothing was stored, so whatever the window shows is what it has to show
        let shown := (path.outstanding inFlight).foldl window.depicted picture
        have sized := @foldl_depicted_sized window picture (path.outstanding inFlight) streams.sized
        have shows : Due window picture (path.outstanding inFlight) shown.pixel :=
          ⟨sized.1, sized.2, fun _ _ _ _ => rfl⟩
        obtain ⟨other, otherAims, otherLeading⟩ := leads shown.pixel fun g found => by
          rw [ScreenPath.stored] at before
          rw [before] at found
          cases found
        rw [aims f stored, ← otherAims f stored]
        exact due_append shows lossless otherLeading

theorem unwritten (streams : Streams config window since path aim picture inFlight) :
    onePass config.client (path.inbuf ++ (path.wire ++ [])) = ⟨inFlight, none, []⟩ := by
  rw [List.append_nil]
  exact streams.wire

/-- A message written is a message more on the wire. -/
theorem wired (streams : Streams config window since path aim picture inFlight) {m : Message} {bytes : Bytes}
    (encodable : Encodable config.host m) (encodes : encodeItem config.host m = .ok bytes) :
    onePass config.client (path.inbuf ++ (path.wire ++ bytes)) = ⟨inFlight ++ [m], none, []⟩ := by
  rw [← List.append_assoc]
  exact (encodable_frame encodable encodes).drain_snoc rfl streams.wire

theorem receive (streams : Streams config window since path aim picture inFlight) {actions : List Action}
    {writer : WriterState} {bytes : Bytes} (inTime : InTime path.writer .receive)
    (stepped : writerStep config.writer path.writer .receive actions writer)
    (written : writtenBytes config.host actions = .ok bytes) :
    ∃ inFlight, Streams config window since { path with writer, wire := path.wire ++ bytes } aim picture
      inFlight := by
  obtain ⟨host, ⟨sent, stored, next, phase⟩, wire, core, inbuf, canvas⟩ := path
  have queued := streams.queued
  have since_le := streams.since_le
  have carried := streams.carried
  have moved := move_of_writerStep stepped
  cases moved with
  | take current found =>
      obtain rfl : [] = bytes := Except.ok.inj written
      obtain ⟨inside, rfl⟩ := List.getElem?_eq_some_iff.mp found
      have rest : sent.drop next = sent[next] :: sent.drop (next + 1) := List.drop_eq_getElem_cons inside
      refine ⟨inFlight, { streams with
        since_le := Nat.le_succ_of_le since_le
        next_le := inside
        wire := streams.unwritten
        carried := ?_
        due := fun _ present => ?_ }⟩
      · refine List.forall_mem_append.mpr ⟨fun m member => carried m (List.mem_append_left _ member), ?_⟩
        exact List.forall_mem_singleton.mpr (queued _ (rest ▸ List.mem_cons_self))
      · have due := streams.due (fun told => nomatch told) present
        simp only [ScreenPath.outstanding, Phase.pending, rest] at due ⊢
        rwa [List.append_nil, List.append_cons] at due
  | lag lags =>
      have behind : next ≤ Broadcast.oldest busCapacity sent := Nat.le_of_lt lags
      have kept : Broadcast.oldest busCapacity sent ≤ sent.length := Nat.sub_le _ _
      obtain rfl : [] = bytes := Except.ok.inj (writtenBytes_singleton.mp written)
      generalize Broadcast.oldest busCapacity sent = position at behind kept ⊢
      refine ⟨inFlight, { streams with
        since_le := Nat.le_trans since_le behind
        next_le := kept
        wire := streams.unwritten
        carried := carried
        due := fun active => absurd rfl active }⟩
  | supersede current found drops =>
      obtain rfl : [] = bytes := Except.ok.inj written
      obtain ⟨inside, rfl⟩ := List.getElem?_eq_some_iff.mp found
      have rest : sent.drop next = sent[next] :: sent.drop (next + 1) := List.drop_eq_getElem_cons inside
      have newer := queued _ (rest ▸ List.mem_cons_self)
      have item := carried _ (List.mem_append_right _ List.mem_cons_self)
      refine ⟨inFlight, { streams with
        since_le := Nat.le_succ_of_le since_le
        next_le := inside
        wire := streams.unwritten
        carried := ?_
        due := fun _ present => ?_ }⟩
      · refine List.forall_mem_append.mpr ⟨fun m member => carried m (List.mem_append_left _ member), ?_⟩
        exact List.forall_mem_singleton.mpr newer
      · have due := streams.due (fun told => nomatch told) present
        simp only [ScreenPath.outstanding, Phase.pending, rest, Due, List.foldl_append, List.foldl_cons,
          List.foldl_nil] at due ⊢
        rwa [depicted_superseded drops (lossless_of_encodable item.2)
          (lossless_of_encodable newer.2)] at due
  | @write _ _ _ index item newer current found keeps =>
      have encodes := writtenBytes_singleton.mp written
      obtain ⟨inside, rfl⟩ := List.getElem?_eq_some_iff.mp found
      have rest : sent.drop next = sent[next] :: sent.drop (next + 1) := List.drop_eq_getElem_cons inside
      have newer := queued _ (rest ▸ List.mem_cons_self)
      have item := carried _ (List.mem_append_right _ List.mem_cons_self)
      refine ⟨inFlight ++ [_], { streams with
        since_le := Nat.le_succ_of_le since_le
        next_le := inside
        wire := streams.wired item.2 encodes
        carried := ?_
        due := fun _ present => ?_ }⟩
      · exact List.forall_mem_append.mpr ⟨carried, List.forall_mem_singleton.mpr newer⟩
      · have due := streams.due (fun told => nomatch told) present
        simp only [ScreenPath.outstanding, Phase.pending, rest] at due ⊢
        rwa [List.append_cons] at due
  | swallow lags => exact absurd lags (inTime rfl _ _ rfl)
  | finish current =>
      have encodes := writtenBytes_singleton.mp written
      have item := carried _ (List.mem_append_right _ List.mem_cons_self)
      refine ⟨inFlight ++ [_], { streams with
        wire := streams.wired item.2 encodes
        carried := ?_
        due := fun _ present => ?_ }⟩
      · rw [pending_waiting, List.append_nil]
        exact carried
      · have due := streams.due (fun told => nomatch told) present
        simp only [ScreenPath.outstanding, Phase.pending] at due ⊢
        rwa [List.append_nil]

/-- The snapshot shows what is due, and the older items that follow do not spoil it. -/
theorem snapshot (streams : Streams config window since path aim picture inFlight) {tsUs : UInt64}
    {actions : List Action} {writer : WriterState} {bytes : Bytes}
    (encodable : ∀ m ∈ path.host.snapshot tsUs, Encodable config.host m)
    (stepped : writerStep config.writer { path.writer with stored := path.host.snapshot tsUs } .snapshot
      actions writer)
    (written : writtenBytes config.host actions = .ok bytes) :
    ∃ inFlight, Streams config window since { path with writer, wire := path.wire ++ bytes } aim picture
      inFlight := by
  obtain ⟨host, ⟨sent, stored, next, phase⟩, wire, core, inbuf, canvas⟩ := path
  have carried := streams.carried
  have moved := move_of_writerStep stepped
  cases moved with
  | snapshot =>
      cases snapped : host.snapshot tsUs with
      | none =>
          rw [snapped] at written
          obtain rfl : [] = bytes := Except.ok.inj (writtenBytes_singleton.mp written)
          refine ⟨inFlight, { streams with
            wire := streams.unwritten
            carried := carried
            due := fun _ stored => ?_ }⟩
          obtain ⟨f, found⟩ := Option.isSome_iff_exists.mp stored
          replace found : host.lastFrames host.activeTabId = some f := found
          simp [HostState.snapshot, found] at snapped
      | some answer =>
          rw [snapped] at written
          have encodes := writtenBytes_singleton.mp written
          have ordinary := snapshot_ordinary streams.valid tsUs answer snapped
          have answered : Carried config answer :=
            ⟨portrayable_of_ordinary ordinary, encodable answer snapped⟩
          refine ⟨inFlight ++ [answer], { streams with
            wire := streams.wired answered.2 encodes
            carried := ?_
            due := fun _ _ => ?_ }⟩
          · rw [pending_waiting, List.append_nil]
            refine List.forall_mem_append.mpr ⟨fun m member => ?_, List.forall_mem_singleton.mpr answered⟩
            exact carried m (List.mem_append_left _ member)
          · obtain ⟨shown, replayed, shows⟩ := @snapshot_shows _ _ config.client _ _ streams.valid
              streams.aims tsUs (some (inFlight.foldl window.depicted picture)) _ snapped
            rw [replay_seenEdits (List.forall_mem_singleton.mpr (lossless_of_encodable answered.2))] at replayed
            cases replayed
            have cut : seenEdits window.view config.client (sent.drop next) <:+
                seenEdits window.view config.client (sent.drop since) := by
              obtain ⟨early, split⟩ := List.drop_suffix_drop_left sent streams.since_le
              rw [← split, seenEdits_append]
              exact List.suffix_append _ _
            obtain ⟨result, onward, showsLast⟩ := streams.refreshes.shows cut shows
            rw [replay_seenEdits fun m member => lossless_of_encodable (streams.queued m member).2] at onward
            cases onward
            simp only [ScreenPath.outstanding, Phase.pending, Due, List.append_nil, List.foldl_append]
            exact showsLast

theorem reply (streams : Streams config window since path aim picture inFlight) {m : Message}
    {actions : List Action} {writer : WriterState} {bytes : Bytes} (beside : Beside m)
    (encodable : Encodable config.host m) (encodes : encodeItem config.host m = .ok bytes)
    (stepped : writerStep config.writer path.writer (.reply bytes) actions writer) :
    ∃ inFlight, Streams config window since { path with writer, wire := path.wire ++ bytes } aim picture
      inFlight := by
  obtain ⟨host, ⟨sent, stored, next, phase⟩, wire, core, inbuf, canvas⟩ := path
  have moved := move_of_writerStep stepped
  cases moved with
  | reply =>
      have carried := streams.carried
      simp only [pending_waiting, List.append_nil] at carried
      refine ⟨inFlight ++ [m], { streams with
        wire := streams.wired encodable encodes
        carried := ?_
        due := fun active present => ?_ }⟩
      · rw [pending_waiting, List.append_nil]
        exact List.forall_mem_append.mpr ⟨carried, List.forall_mem_singleton.mpr ⟨beside.1, encodable⟩⟩
      · have due := streams.due active present
        simp only [ScreenPath.outstanding, pending_waiting, List.append_nil, Due, List.foldl_append,
          List.foldl_cons, List.foldl_nil, depicted_beside beside.2] at due ⊢
        exact due

/-- What arrives is applied. -/
theorem arrive (streams : Streams config window since path aim picture inFlight) {chunk rest : Bytes}
    {ingested : Ingested} (split : path.wire = chunk ++ rest)
    (ingests : path.core.ingestWireBytes config.build config.client (path.inbuf ++ chunk) = .ok ingested) :
    ∃ picture inFlight, Streams config window since
      { path with core := ingested.core, inbuf := ingested.inbuf, wire := rest } aim picture inFlight := by
  obtain ⟨result, _, spec⟩ := ingest_eq config.build config.client path.core (path.inbuf ++ chunk)
  obtain ⟨core, applied, same⟩ := bind_eq_ok (spec.symm.trans ingests)
  cases same
  have stream := streams.wire
  rw [split, ← List.append_assoc] at stream
  obtain ⟨clean, later, parts, onward⟩ := Framing.drain_prefix stream
  have left : (messageFraming config.client).kept (path.inbuf ++ chunk) =
      (onePass config.client (path.inbuf ++ chunk)).left := by
    unfold Framing.kept
    rw [clean]
    rfl
  have carried := streams.carried
  rw [parts, List.append_assoc] at carried
  obtain ⟨here, ahead⟩ := List.forall_mem_append.mp carried
  refine ⟨(onePass config.client (path.inbuf ++ chunk)).messages.foldl window.depicted picture, later,
    { streams with
      wire := ?_
      drained := ?_
      portrays := ?_
      carried := ahead
      due := fun active present => ?_ }⟩
  · rw [left]
    exact onward
  · simp only [left]
    exact Framing.drain_drain_left clean
  · exact BrowserCore.applyMessages_portrays streams.portrays (fun m member => (here m member).1) core applied
  · have due := streams.due active present
    simp only [ScreenPath.outstanding, parts, Due, List.foldl_append] at due ⊢
    exact due

/-- One step of a path. -/
theorem step (narrow : window.bw.toNat ≤ 65535 ∧ window.bh.toNat ≤ 65535) (wide : 0 < window.bw.toNat)
    (tall : chromeH.toNat < window.bh.toNat)
    (streams : Streams config window since path aim picture inFlight) {event : PathEvent}
    {actions : List Action} {next : ScreenPath} (sound : event.Sound config path)
    (stepped : PathStep config path event actions next) :
    ∃ aim picture inFlight, Streams config window since next aim picture inFlight := by
  cases stepped with
  | @host _ event next published allowed stepped =>
      obtain ⟨stays, encodable⟩ := sound
      have ordinary := step_publishes streams.valid allowed stays stepped
      have sent := encodable next published stepped
      have small : ∀ m ∈ published, BelowQ2 m := fun m member =>
        belowQ2_of_encodable (ordinary m member) (sent m member)
      have carried : ∀ m ∈ published, Carried config m := fun m member =>
        ⟨portrayable_of_ordinary (ordinary m member), sent m member⟩
      have valid := (keeps_of_hostStep streams.valid ⟨allowed, stepped⟩).valid
      obtain ⟨nextAim, onward⟩ := streams.publish carried valid fun held aims =>
        step_leadsOn streams.valid aims allowed stays stepped small
      exact ⟨nextAim, picture, inFlight, onward⟩
  | @publish _ m =>
      obtain ⟨beside, encodable⟩ := sound
      have carried : ∀ other ∈ [m], Carried config other :=
        List.forall_mem_singleton.mpr ⟨beside.1, encodable⟩
      obtain ⟨nextAim, onward⟩ := streams.publish carried streams.valid fun held aims =>
        leadsOn_quiet aims rfl (fun _ => id) (editsOf_beside beside.2)
      exact ⟨nextAim, picture, inFlight, onward⟩
  | receive stepped written =>
      obtain ⟨inFlight, onward⟩ := streams.receive sound stepped written
      exact ⟨aim, picture, inFlight, onward⟩
  | snapshot stepped written =>
      obtain ⟨inFlight, onward⟩ := streams.snapshot sound stepped written
      exact ⟨aim, picture, inFlight, onward⟩
  | reply encodes stepped =>
      obtain ⟨inFlight, onward⟩ := streams.reply sound.1 sound.2 encodes stepped
      exact ⟨aim, picture, inFlight, onward⟩
  | arrive split ingests =>
      obtain ⟨picture, inFlight, onward⟩ := streams.arrive split ingests
      exact ⟨aim, picture, inFlight, onward⟩
  | input returned =>
      exact ⟨aim, picture, inFlight, { streams with
        portrays := (sound _ returned).portrays streams.portrays
        due := streams.due }⟩
  | render returned =>
      have narrowCore : path.core.Narrow :=
        ⟨streams.portrays.window ▸ narrow.1, streams.portrays.window ▸ narrow.2⟩
      have rendered : Returns _ _ := @BrowserCore.renderInto_portrays config.build config.font _ _ _ _
        narrowCore tall wide streams.portrays
      obtain ⟨result, again, portrays, _⟩ := rendered
      cases returned.symm.trans again
      exact ⟨aim, picture, inFlight, { streams with
        portrays
        due := streams.due }⟩

end Streams

/-! ## Runs -/

/-- A client that has just connected. The writer starts as one that was told that it lags: it
sends a snapshot before its loop. -/
def ScreenPath.connected (host : HostState) (sent : List Message) (greeting : Bytes)
    (core : BrowserCore) (canvas : List UInt32) : ScreenPath where
  host
  writer := { sent, stored := none, next := sent.length, phase := .lagged }
  wire := greeting
  core
  inbuf := []
  canvas

theorem connected_streams {config : PathConfig} {width height : UInt32} {host : HostState}
    (valid : host.Valid) (sent : List Message) {greeting : Message} {bytes : Bytes}
    (beside : Beside greeting) (encodable : Encodable config.host greeting)
    (encodes : encodeItem config.host greeting = .ok bytes) (initialUrl : String) (editing : Bool)
    {canvas : List UInt32} (sized : canvas.length = width.toNat * height.toNat) :
    ∃ aim picture inFlight, Streams config { bw := width, bh := height } sent.length
      (.connected host sent bytes (.newNoStd width height initialUrl editing) canvas) aim picture
      inFlight := by
  let window : Window := { bw := width, bh := height }
  have aimed : ∃ aim, host.Aims window.view aim := by
    cases stored : host.lastFrames host.activeTabId with
    | none => exact ⟨fun _ _ => background, fun f found => nomatch stored.symm.trans found⟩
    | some f => exact ⟨f.seen window.view, fun g found => by cases stored.symm.trans found; rfl⟩
  obtain ⟨aim, aims⟩ := aimed
  have empty : onePass config.client [] = ⟨[], none, []⟩ := Framing.drain_incomplete rfl
  have greeted : onePass config.client ([] ++ bytes) = ⟨[greeting], none, []⟩ :=
    (encodable_frame encodable encodes).drain_snoc rfl empty
  have nothing : sent.drop sent.length = [] := List.drop_length
  refine ⟨aim, window.blank, [greeting], {
    valid
    aims
    since_le := Nat.le_refl _
    next_le := Nat.le_refl _
    wire := greeted
    drained := by
      change (onePass config.client []).messages = []
      rw [empty]
    portrays := {
      window := rfl
      few := Nat.one_lt_two_pow (by decide)
      intact := .newNoStd width height initialUrl editing
      rows := ⟨nofun, nofun⟩
      subframes := nofun
      tiles := rfl
      toast := rfl
      length := sized
      due := ⟨rfl, rfl, fun _ _ _ _ => rfl⟩ }
    carried := List.forall_mem_singleton.mpr ⟨beside.1, encodable⟩
    published := ?_
    refreshes := ?_
    due := fun active => absurd rfl active }⟩
  · change ∀ m ∈ sent.drop sent.length, Carried config m
    rw [nothing]
    exact fun m absent => absurd absent List.not_mem_nil
  · change Refreshes _ _ aim (seenEdits window.view config.client (sent.drop sent.length))
    rw [nothing]
    exact .nil

theorem encodable_rawFrame (host : Target) {f : Frame} (wellFormed : f.WellFormed) (fits : f.Fits)
    (tsUs : UInt64) : Encodable host (f.rawFrame tsUs) := by
  obtain ⟨payload, emits, length⟩ := f.emits_rawFrame host tsUs fits.pixels_le
  refine ⟨⟨f.rawFrame_rows wellFormed, .inr (.inl ⟨rfl, fits.pixels_le⟩)⟩, payload, encoded_of_emits emits, ?_⟩
  rw [length]
  exact fits.block_le

theorem encodes_of_encodable {host : Target} {m : Message} (encodable : Encodable host m) :
    ∃ bytes, encodeItem host m = .ok bytes := by
  obtain ⟨frame, emits, _⟩ := encodable.isFrame host
  exact ⟨frame, encoded_of_emits emits⟩

def rowPath : PathConfig where
  host := .bits64
  client := .bits32
  build := ⟨true⟩
  font := fun _ => none
  writer := tcpWriter

end ExoBrowser.Session
