import ExoBrowser.Host.Lag
import ExoBrowser.Web.PageCanvas

/-!
# From the browser to the web page

A host, the task that writes its bus and its replies to a WebSocket, the messages on their way and
a page that handles them, in any order of their steps. When nothing is on its way any more, the
canvas has the frame that the host has stored for its active tab.
-/

set_option autoImplicit false

namespace ExoBrowser.Session

open Library Proto Host Web Checked

/-! ## Steps -/

/-- One end and the other of `handle_websocket`. The queue of replies holds messages, which are
encoded when they are written. -/
structure WebPath where
  host : HostState
  /-- The writer starts after the snapshot for the page is in the queue. -/
  greeted : Bool
  writer : WriterState
  replies : List Message
  wire : List Bytes
  page : Page

/-- What can happen: a step of the host or an item that another of its tasks publishes, the snapshot
for the page and another reply, a step of the writer, and a message that the page handles. -/
inductive WebEvent where
  | host (event : Event)
  | publish (m : Message)
  | greet (tsUs : UInt64)
  | answer (m : Message)
  | receive
  | snapshot (tsUs : UInt64)
  | reply
  | arrive

/-- What is sent for an item, and for a reply, which is no image. -/
def webItem (target : Target) (m : Message) : Checked Error Bytes :=
  match encodes : encoded (m.encode target) with
  | .ok wireQuic => encodeWsItem { msg := m, wireQuic, encodes }
  | .error stop => .error stop

/-- Each is a message of the WebSocket. -/
def actionFrames (target : Target) : Action → Checked Error (List Bytes)
  | .lost _ _ => return []
  | .item _ m => return [← webItem target m]
  | .snapshot none => return []
  | .snapshot (some m) => return [← webItem target m]
  | .reply bytes => return [bytes]

def writtenFrames (target : Target) (actions : List Action) : Checked Error (List Bytes) := do
  return (← actions.mapM (actionFrames target)).flatten

/-- The path with more on its bus. -/
def WebPath.publish (path : WebPath) (published : List Message) : WebPath :=
  { path with writer := { path.writer with sent := path.writer.sent ++ published } }

inductive WebStep (target : Target) : Step WebPath WebEvent Action where
  | host {path event next published} : event.Allowed path.host →
      path.host.step event = .ok (next, published) →
      WebStep target path (.host event) [] (WebPath.publish { path with host := next } published)
  | publish {path m} : WebStep target path (.publish m) [] (path.publish [m])
  | greet {path tsUs} : path.greeted = false →
      WebStep target path (.greet tsUs) []
        { path with greeted := true, replies := path.replies ++ (path.host.snapshot tsUs).toList }
  | answer {path m} : path.greeted = true →
      WebStep target path (.answer m) [] { path with replies := path.replies ++ [m] }
  | receive {path actions writer frames} : path.greeted = true →
      writerStep webSocketWriter path.writer .receive actions writer →
      writtenFrames target actions = .ok frames →
      WebStep target path .receive actions { path with writer, wire := path.wire ++ frames }
  | snapshot {path tsUs actions writer frames} : path.greeted = true →
      writerStep webSocketWriter { path.writer with stored := path.host.snapshot tsUs } .snapshot actions
        writer →
      writtenFrames target actions = .ok frames →
      WebStep target path (.snapshot tsUs) actions { path with writer, wire := path.wire ++ frames }
  | reply {path m rest bytes actions writer frames} : path.greeted = true → path.replies = m :: rest →
      webItem target m = .ok bytes →
      writerStep webSocketWriter path.writer (.reply bytes) actions writer →
      writtenFrames target actions = .ok frames →
      WebStep target path .reply actions { path with writer, replies := rest, wire := path.wire ++ frames }
  | arrive {path bytes rest page} (play : Player) : path.wire = bytes :: rest →
      path.page.receive play bytes = .ok page →
      WebStep target path .arrive [] { path with page, wire := rest }

/-- What keeps a page on one tab in step: no tab is selected or told of, what is sent is short, the
writer does not learn from `try_recv` that it lags, and it takes the snapshot for the page before it
takes anything from the bus. `select!` does not see to the last. -/
def WebEvent.Sound (target : Target) (path : WebPath) : WebEvent → Prop
  | .host event => event.Stays ∧ ∀ next published, path.host.step event = .ok (next, published) →
      ∀ m ∈ published, Short target m
  | .publish m => Aside m ∧ Short target m
  | .greet tsUs => ∀ m ∈ path.host.snapshot tsUs, Short target m
  | .answer m => Aside m ∧ Short target m
  | .receive => Host.InTime path.writer .receive ∧ ∀ m ∈ path.replies, sentEdit m = none
  | .snapshot tsUs => ∀ m ∈ path.host.snapshot tsUs, Short target m
  | .reply | .arrive => True

def soundWebStep (target : Target) : Step WebPath WebEvent Action :=
  (WebStep target).guarded (WebEvent.Sound target)

/-! ## Messages on their way -/

theorem writtenFrames_singleton {target : Target} {action : Action} {frames : List Bytes} :
    writtenFrames target [action] = .ok frames ↔ actionFrames target action = .ok frames := by
  unfold writtenFrames
  rw [List.mapM_cons, List.mapM_nil]
  cases actionFrames target action with
  | ok written => simp
  | error stop => simp

/-- What the page has no trouble with. -/
def Served (target : Target) (m : Message) : Prop := Web.Sound target m ∧ selectsTab m = false

theorem served_of_ordinary {target : Target} {m : Message} (ordinary : Ordinary m)
    (short : Short target m) : Served target m := by
  obtain ⟨drawable, stays⟩ := drawable_of_ordinary ordinary
  exact ⟨⟨drawable, short⟩, stays⟩

theorem served_of_aside {target : Target} {m : Message} (aside : Aside m) (short : Short target m) :
    Served target m := ⟨⟨aside_drawable aside, short⟩, aside.2⟩

theorem sent_of_webItem {target : Target} {m : Message} {bytes : Bytes}
    (encodes : webItem target m = .ok bytes) : Sent target bytes m := by
  unfold webItem at encodes
  split at encodes
  case h_1 wireQuic quic =>
    let item : BusItem target := { msg := m, wireQuic, encodes := quic }
    exact @Sent.item target item bytes encodes
  case h_2 => cases encodes

theorem sentEdits_silent {messages : List Message} (silent : ∀ m ∈ messages, sentEdit m = none) :
    sentEdits messages = [] := List.filterMap_eq_nil_iff.mpr silent

/-- A frame that a newer one hides may as well be dropped. -/
theorem replay_sent_superseded {item newer : Message} (drops : superseded item newer)
    (shown : Option (Picture Bytes)) :
    replay (sentEdits [newer]) (replay (sentEdits [item]) shown) = replay (sentEdits [newer]) shown := by
  obtain ⟨earlier, later, item_eq, newer_eq, hides⟩ := superseded_sent drops
  simp only [sentEdits, List.filterMap_cons, item_eq, newer_eq, List.filterMap_nil, replay_cons, replay_nil]
  exact hides.apply shown

/-! ## The invariant -/

def WebPath.stored (path : WebPath) : Option Frame := path.host.lastFrames path.host.activeTabId

/-- The messages that the page has not handled: on the wire, in the queue, with the writer, on the bus. -/
def WebPath.outstanding (path : WebPath) (inFlight : List (Bytes × Message)) : List Message :=
  inFlight.map Prod.snd ++ path.replies ++ path.writer.phase.pending ++
    path.writer.sent.drop path.writer.next

/-- What holds of a connection from the item `since` of the bus on, for a page that has the colours
of the picture `shown`. -/
structure Serves (target : Target) (since : Nat) (path : WebPath) (aim : Picture Bytes)
    (shown : Option (Picture Bytes)) (inFlight : List (Bytes × Message)) : Prop where
  valid : path.host.Valid
  aims : ∀ f, path.stored = some f → aim = f.picture
  since_le : since ≤ path.writer.next
  next_le : path.writer.next ≤ path.writer.sent.length
  idle : path.greeted = false → path.replies = [] ∧ path.writer.phase = .waiting
  /-- Only while the writer waits may the snapshot be in the queue. -/
  settled : path.writer.phase ≠ .waiting → ∀ m ∈ path.replies, sentEdit m = none
  wire : path.wire = inFlight.map Prod.fst
  sent : ∀ frame ∈ inFlight, Sent target frame.1 frame.2 ∧ Served target frame.2
  served : ∀ m ∈ path.replies ++ path.writer.phase.pending, Served target m
  published : ∀ m ∈ path.writer.sent.drop since, Served target m
  refreshes : Refreshes aim.width aim.height aim.pixel (sentEdits (path.writer.sent.drop since))
  depicts : path.page.Depicts shown
  due : path.greeted = true → path.writer.phase ≠ .lagged →
    path.host.Shown (replay (sentEdits (path.outstanding inFlight)) shown)

/-- A backlog that is older than the snapshot does not spoil it. -/
theorem snapshot_refreshed {host : HostState} {aim : Picture Bytes} {since next : Nat} {sent : List Message}
    (valid : host.Valid) (aims : ∀ f, host.lastFrames host.activeTabId = some f → aim = f.picture)
    (refreshes : Refreshes aim.width aim.height aim.pixel (sentEdits (sent.drop since)))
    (since_le : since ≤ next) (tsUs : UInt64) (shown : Option (Picture Bytes)) :
    host.Shown (replay (sentEdits (sent.drop next)) (replay (sentEdits (host.snapshot tsUs).toList) shown)) := by
  intro f stored
  have snapped : (host.snapshot tsUs).toList = [f.rawFrame tsUs] := by
    rw [HostState.snapshot, stored]
    rfl
  obtain ⟨picture, replayed, shows⟩ := replay_rawFrame (valid _ f stored) tsUs shown
  have cut : sentEdits (sent.drop next) <:+ sentEdits (sent.drop since) :=
    (List.drop_suffix_drop_left sent since_le).filterMap sentEdit
  rw [snapped, replayed]
  cases aims f stored
  exact refreshes.shows cut shows

/-- What a host publishes that stays on its tab leads on to what it stores. -/
theorem refreshes_delivered {state next : HostState} {published backlog : List Message} {aim : Picture Bytes}
    (valid : state.Valid) (aims : ∀ f, state.lastFrames state.activeTabId = some f → aim = f.picture)
    (refreshes : Refreshes aim.width aim.height aim.pixel (sentEdits backlog))
    (delivers : Delivers state next published) :
    ∃ nextAim : Picture Bytes, (∀ f, next.lastFrames state.activeTabId = some f → nextAim = f.picture) ∧
      Refreshes nextAim.width nextAim.height nextAim.pixel (sentEdits (backlog ++ published)) := by
  cases delivers with
  | quiet told stored =>
      refine ⟨aim, fun f found => aims f (stored f found), ?_⟩
      rw [sentEdits_append, sentEdits_silent fun m member => (told m member).silent, List.append_nil]
      exact refreshes
  | @whole f tsUs wellFormed stored sent =>
      refine ⟨f.picture, fun g found => congrArg Frame.picture (Option.some.inj (stored.symm.trans found)), ?_⟩
      rw [sent, sentEdits_append, sentEdits_rawFrame wellFormed]
      exact .replace ⟨rfl, rfl, fun _ _ _ _ => rfl⟩
  | @changes prev f aligned tsUs wellFormed stored before same delta =>
      refine ⟨f.picture, fun g found => congrArg Frame.picture (Option.some.inj (stored.symm.trans found)), ?_⟩
      obtain ⟨found, returned, leads, _⟩ :=
        deltaMessages_returns aligned (valid _ prev before) wellFormed same tsUs
      cases delta.symm.trans returned
      cases aims prev before
      obtain ⟨width, height, _⟩ := same
      simp only [Frame.picture, width, height] at refreshes ⊢
      rw [sentEdits_append]
      exact refreshes.append leads

namespace Serves

variable {target : Target} {since : Nat} {path : WebPath} {aim : Picture Bytes}
  {shown : Option (Picture Bytes)} {inFlight : List (Bytes × Message)}

theorem queued (serves : Serves target since path aim shown inFlight) :
    ∀ m ∈ path.writer.sent.drop path.writer.next, Served target m := by
  intro m member
  exact serves.published m (List.drop_subset_drop_left _ serves.since_le member)

/-- More on the bus, with a frame that it leads to. -/
theorem publish (serves : Serves target since path aim shown inFlight) {next : HostState}
    {published : List Message} {nextAim : Picture Bytes} (served : ∀ m ∈ published, Served target m)
    (valid : next.Valid) (aims : ∀ f, next.lastFrames next.activeTabId = some f → nextAim = f.picture)
    (refreshes : Refreshes nextAim.width nextAim.height nextAim.pixel
      (sentEdits (path.writer.sent.drop since ++ published)))
    (shows : ∀ shown, path.host.Shown shown → next.Shown (replay (sentEdits published) shown)) :
    Serves target since (WebPath.publish { path with host := next } published) nextAim shown inFlight := by
  have split : (path.writer.sent ++ published).drop since = path.writer.sent.drop since ++ published :=
    List.drop_append_of_le_length (Nat.le_trans serves.since_le serves.next_le)
  refine { serves with
    valid
    aims
    next_le := Nat.le_trans serves.next_le (by simp [WebPath.publish])
    published := ?_
    refreshes := ?_
    due := fun greeted active => ?_ }
  · simp only [WebPath.publish, split]
    exact List.forall_mem_append.mpr ⟨serves.published, served⟩
  · simp only [WebPath.publish, split]
    exact refreshes
  · have outstanding : (WebPath.publish { path with host := next } published).outstanding inFlight =
        path.outstanding inFlight ++ published := by
      simp only [WebPath.outstanding, WebPath.publish, List.drop_append_of_le_length serves.next_le,
        List.append_assoc]
    rw [outstanding, sentEdits_append, replay_append]
    exact shows _ (serves.due greeted active)

theorem host (serves : Serves target since path aim shown inFlight) {event : Event} {next : HostState}
    {published : List Message} (allowed : event.Allowed path.host) (stays : event.Stays)
    (stepped : path.host.step event = .ok (next, published)) (short : ∀ m ∈ published, Short target m) :
    ∃ nextAim, Serves target since (WebPath.publish { path with host := next } published) nextAim shown
      inFlight := by
  have kept := keeps_of_hostStep serves.valid ⟨allowed, stepped⟩
  have ordinary := step_publishes serves.valid allowed stays stepped
  obtain ⟨sameTab, delivers⟩ := step_delivers allowed stays stepped
  obtain ⟨nextAim, aims, refreshes⟩ := refreshes_delivered serves.valid serves.aims serves.refreshes delivers
  have served : ∀ m ∈ published, Served target m := fun m member =>
    served_of_ordinary (ordinary m member) (short m member)
  rw [← sameTab] at aims
  exact ⟨nextAim, serves.publish served kept.valid aims refreshes kept.shows⟩

theorem publishAside (serves : Serves target since path aim shown inFlight) {m : Message} (aside : Aside m)
    (short : Short target m) : Serves target since (path.publish [m]) aim shown inFlight := by
  have quiet : sentEdits [m] = [] := sentEdits_silent (List.forall_mem_singleton.mpr aside.1)
  refine serves.publish (List.forall_mem_singleton.mpr (served_of_aside aside short)) serves.valid serves.aims
    ?_ fun shown follows => ?_
  · rw [sentEdits_append, quiet, List.append_nil]
    exact serves.refreshes
  · rw [quiet, replay_nil]
    exact follows

theorem greet (serves : Serves target since path aim shown inFlight) (early : path.greeted = false)
    {tsUs : UInt64} (short : ∀ m ∈ path.host.snapshot tsUs, Short target m) :
    Serves target since
      { path with greeted := true, replies := path.replies ++ (path.host.snapshot tsUs).toList } aim shown
      inFlight := by
  obtain ⟨no_reply, waiting⟩ := serves.idle early
  have served := serves.served
  rw [no_reply, waiting, pending_waiting, List.append_nil] at served
  refine { serves with
    idle := fun late => nomatch late
    settled := fun busy => absurd waiting busy
    served := ?_
    due := fun _ _ => ?_ }
  · simp only [no_reply, waiting, pending_waiting, List.nil_append, List.append_nil]
    intro m member
    have snapped := Option.mem_toList.mp member
    exact served_of_ordinary (snapshot_ordinary serves.valid tsUs m snapped) (short m snapped)
  · simp only [WebPath.outstanding, no_reply, waiting, pending_waiting, List.nil_append, List.append_nil,
      sentEdits_append, replay_append]
    exact snapshot_refreshed serves.valid serves.aims serves.refreshes serves.since_le tsUs _

theorem answer (serves : Serves target since path aim shown inFlight) (greeted : path.greeted = true)
    {m : Message} (aside : Aside m) (short : Short target m) :
    Serves target since { path with replies := path.replies ++ [m] } aim shown inFlight := by
  have quiet : sentEdits [m] = [] := sentEdits_silent (List.forall_mem_singleton.mpr aside.1)
  refine { serves with
    idle := fun late => absurd (late.symm.trans greeted) Bool.false_ne_true
    settled := fun busy => ?_
    served := ?_
    due := fun greeted active => ?_ }
  · exact List.forall_mem_append.mpr ⟨serves.settled busy, List.forall_mem_singleton.mpr aside.1⟩
  · obtain ⟨replies, pending⟩ := List.forall_mem_append.mp serves.served
    refine List.forall_mem_append.mpr ⟨List.forall_mem_append.mpr ⟨replies, ?_⟩, pending⟩
    exact List.forall_mem_singleton.mpr (served_of_aside aside short)
  · have due := serves.due greeted active
    simp only [WebPath.outstanding, sentEdits_append, quiet, List.append_nil] at due ⊢
    exact due

theorem receive (serves : Serves target since path aim shown inFlight) (greeted : path.greeted = true)
    {actions : List Action} {writer : WriterState} {frames : List Bytes} (inTime : Host.InTime path.writer .receive)
    (settled : ∀ m ∈ path.replies, sentEdit m = none)
    (stepped : writerStep webSocketWriter path.writer .receive actions writer)
    (written : writtenFrames target actions = .ok frames) :
    ∃ inFlight, Serves target since { path with writer, wire := path.wire ++ frames } aim shown inFlight := by
  obtain ⟨host, _, ⟨sent, stored, next, phase⟩, replies, wire, page⟩ := path
  cases greeted
  have quiet : sentEdits replies = [] := sentEdits_silent settled
  have queued := serves.queued
  have since_le := serves.since_le
  obtain ⟨answers, pending⟩ := List.forall_mem_append.mp serves.served
  have moved := move_of_writerStep stepped
  cases moved with
  | take current found =>
      obtain rfl : [] = frames := Except.ok.inj written
      obtain ⟨inside, rfl⟩ := List.getElem?_eq_some_iff.mp found
      have rest : sent.drop next = [sent[next]] ++ sent.drop (next + 1) := List.drop_eq_getElem_cons inside
      have item := queued _ (rest ▸ List.mem_append_left _ List.mem_cons_self)
      refine ⟨inFlight, { serves with
        since_le := Nat.le_succ_of_le since_le
        next_le := inside
        idle := fun late => nomatch late
        settled := fun _ => settled
        wire := (List.append_nil _).trans serves.wire
        served := List.forall_mem_append.mpr ⟨answers, List.forall_mem_singleton.mpr item⟩
        due := fun greeted _ => ?_ }⟩
      have due := serves.due greeted (fun told => nomatch told)
      simp only [WebPath.outstanding, Phase.pending, rest, List.append_nil, List.append_assoc] at due ⊢
      exact due
  | lag lags =>
      have behind : next ≤ Broadcast.oldest busCapacity sent := Nat.le_of_lt lags
      have kept : Broadcast.oldest busCapacity sent ≤ sent.length := Nat.sub_le _ _
      obtain rfl : [] = frames := Except.ok.inj (writtenFrames_singleton.mp written)
      generalize Broadcast.oldest busCapacity sent = position at behind kept ⊢
      exact ⟨inFlight, { serves with
        since_le := Nat.le_trans since_le behind
        next_le := kept
        idle := fun late => nomatch late
        settled := fun _ => settled
        wire := (List.append_nil _).trans serves.wire
        served := serves.served
        due := fun _ active => absurd rfl active }⟩
  | supersede current found drops =>
      obtain rfl : [] = frames := Except.ok.inj written
      obtain ⟨inside, rfl⟩ := List.getElem?_eq_some_iff.mp found
      have rest : sent.drop next = [sent[next]] ++ sent.drop (next + 1) := List.drop_eq_getElem_cons inside
      have newer := queued _ (rest ▸ List.mem_append_left _ List.mem_cons_self)
      refine ⟨inFlight, { serves with
        since_le := Nat.le_succ_of_le since_le
        next_le := inside
        idle := fun late => nomatch late
        settled := fun _ => settled
        wire := (List.append_nil _).trans serves.wire
        served := List.forall_mem_append.mpr ⟨answers, List.forall_mem_singleton.mpr newer⟩
        due := fun greeted _ => ?_ }⟩
      have due := serves.due greeted (fun told => nomatch told)
      simp only [WebPath.outstanding, Phase.pending, rest, sentEdits_append, replay_append,
        replay_sent_superseded drops] at due ⊢
      exact due
  | @write _ _ _ index item newer current found keeps =>
      obtain ⟨bytes, encodes, same⟩ := bind_eq_ok (writtenFrames_singleton.mp written)
      obtain rfl : [bytes] = frames := Except.ok.inj same
      obtain ⟨inside, rfl⟩ := List.getElem?_eq_some_iff.mp found
      have rest : sent.drop next = [sent[next]] ++ sent.drop (next + 1) := List.drop_eq_getElem_cons inside
      have newer := queued _ (rest ▸ List.mem_append_left _ List.mem_cons_self)
      have item_served := pending item List.mem_cons_self
      refine ⟨inFlight ++ [(bytes, item)], { serves with
        since_le := Nat.le_succ_of_le since_le
        next_le := inside
        idle := fun late => nomatch late
        settled := fun _ => settled
        wire := ?_
        sent := ?_
        served := List.forall_mem_append.mpr ⟨answers, List.forall_mem_singleton.mpr newer⟩
        due := fun greeted _ => ?_ }⟩
      · rw [List.map_append, ← serves.wire]
        rfl
      · exact List.forall_mem_append.mpr ⟨serves.sent,
          List.forall_mem_singleton.mpr ⟨sent_of_webItem encodes, item_served⟩⟩
      · have due := serves.due greeted (fun told => nomatch told)
        simp only [WebPath.outstanding, Phase.pending, rest, sentEdits_append, quiet, List.nil_append,
          List.map_append, List.append_assoc, List.map_cons, List.map_nil] at due ⊢
        exact due
  | swallow lags => exact absurd lags (inTime rfl _ _ rfl)
  | @finish _ _ _ index item current =>
      obtain ⟨bytes, encodes, same⟩ := bind_eq_ok (writtenFrames_singleton.mp written)
      obtain rfl : [bytes] = frames := Except.ok.inj same
      have item_served := pending item List.mem_cons_self
      refine ⟨inFlight ++ [(bytes, item)], { serves with
        idle := fun late => nomatch late
        settled := fun _ => settled
        wire := ?_
        sent := ?_
        served := List.forall_mem_append.mpr ⟨answers, List.forall_mem_nil _⟩
        due := fun greeted _ => ?_ }⟩
      · rw [List.map_append, ← serves.wire]
        rfl
      · exact List.forall_mem_append.mpr ⟨serves.sent,
          List.forall_mem_singleton.mpr ⟨sent_of_webItem encodes, item_served⟩⟩
      · have due := serves.due greeted (fun told => nomatch told)
        simp only [WebPath.outstanding, Phase.pending, sentEdits_append, quiet, List.append_nil, List.map_append,
          List.append_assoc, List.map_cons, List.map_nil] at due ⊢
        exact due

theorem snapshot (serves : Serves target since path aim shown inFlight) (greeted : path.greeted = true)
    {tsUs : UInt64} {actions : List Action} {writer : WriterState} {frames : List Bytes}
    (short : ∀ m ∈ path.host.snapshot tsUs, Short target m)
    (stepped : writerStep webSocketWriter { path.writer with stored := path.host.snapshot tsUs } .snapshot
      actions writer)
    (written : writtenFrames target actions = .ok frames) :
    ∃ inFlight, Serves target since { path with writer, wire := path.wire ++ frames } aim shown inFlight := by
  obtain ⟨host, _, ⟨sent, stored, next, phase⟩, replies, wire, page⟩ := path
  cases greeted
  obtain ⟨answers, _⟩ := List.forall_mem_append.mp serves.served
  have since_le : since ≤ next := serves.since_le
  have moved := move_of_writerStep stepped
  cases moved with
  | snapshot =>
      have settled : ∀ m ∈ replies, sentEdit m = none := serves.settled fun waiting => nomatch waiting
      have quiet : sentEdits replies = [] := sentEdits_silent settled
      have served := List.forall_mem_append.mpr ⟨answers, List.forall_mem_nil _⟩
      -- whatever is shown by then, the snapshot and what the bus still holds lead on from it
      have refreshed := snapshot_refreshed serves.valid serves.aims serves.refreshes since_le tsUs
        (replay (sentEdits (inFlight.map Prod.snd)) shown)
      cases snapped : host.snapshot tsUs with
      | none =>
          rw [snapped] at written refreshed
          obtain rfl : [] = frames := Except.ok.inj (writtenFrames_singleton.mp written)
          refine ⟨inFlight, { serves with
            idle := fun late => nomatch late
            settled := fun _ => settled
            wire := (List.append_nil _).trans serves.wire
            served := served
            due := fun _ _ => ?_ }⟩
          simp only [WebPath.outstanding, Phase.pending, sentEdits_append, quiet, List.append_nil, replay_append]
          exact refreshed
      | some answer =>
          rw [snapped] at written refreshed
          obtain ⟨bytes, encodes, same⟩ := bind_eq_ok (writtenFrames_singleton.mp written)
          obtain rfl : [bytes] = frames := Except.ok.inj same
          have answer_served : Served target answer :=
            served_of_ordinary (snapshot_ordinary serves.valid tsUs answer snapped) (short answer snapped)
          refine ⟨inFlight ++ [(bytes, answer)], { serves with
            idle := fun late => nomatch late
            settled := fun _ => settled
            wire := ?_
            sent := ?_
            served := served
            due := fun _ _ => ?_ }⟩
          · rw [List.map_append, ← serves.wire]
            rfl
          · exact List.forall_mem_append.mpr ⟨serves.sent,
              List.forall_mem_singleton.mpr ⟨sent_of_webItem encodes, answer_served⟩⟩
          · simp only [WebPath.outstanding, Phase.pending, sentEdits_append, quiet, List.append_nil, List.map_append,
              replay_append, List.map_cons, List.map_nil]
            exact refreshed

theorem reply (serves : Serves target since path aim shown inFlight) (greeted : path.greeted = true)
    {m : Message} {rest : List Message} {bytes : Bytes} {actions : List Action} {writer : WriterState}
    {frames : List Bytes} (queue : path.replies = m :: rest) (encodes : webItem target m = .ok bytes)
    (stepped : writerStep webSocketWriter path.writer (.reply bytes) actions writer)
    (written : writtenFrames target actions = .ok frames) :
    ∃ inFlight, Serves target since
      { path with writer, replies := rest, wire := path.wire ++ frames } aim shown inFlight := by
  obtain ⟨host, _, ⟨sent, stored, next, phase⟩, replies, wire, page⟩ := path
  cases greeted
  cases queue
  have moved := move_of_writerStep stepped
  cases moved with
  | reply =>
      obtain rfl : [bytes] = frames := Except.ok.inj (writtenFrames_singleton.mp written)
      obtain ⟨answers, _⟩ := List.forall_mem_append.mp serves.served
      obtain ⟨first, others⟩ := List.forall_mem_cons.mp answers
      refine ⟨inFlight ++ [(bytes, m)], { serves with
        idle := fun late => nomatch late
        settled := fun busy => absurd rfl busy
        wire := ?_
        sent := ?_
        served := List.forall_mem_append.mpr ⟨others, List.forall_mem_nil _⟩
        due := fun greeted active => ?_ }⟩
      · rw [List.map_append, ← serves.wire]
        rfl
      · exact List.forall_mem_append.mpr ⟨serves.sent,
          List.forall_mem_singleton.mpr ⟨sent_of_webItem encodes, first⟩⟩
      · have due := serves.due greeted active
        have same : inFlight.map Prod.snd ++ m :: rest = (inFlight ++ [(bytes, m)]).map Prod.snd ++ rest := by
          rw [List.map_append, List.append_assoc]
          rfl
        simp only [WebPath.outstanding, same] at due ⊢
        exact due

/-- What arrives is handled. -/
theorem arrive (serves : Serves target since path aim shown inFlight) {bytes : Bytes} {rest : List Bytes}
    {play : Player} {page : Page} (front : path.wire = bytes :: rest)
    (handled : path.page.receive play bytes = .ok page) :
    ∃ shown inFlight, Serves target since { path with page, wire := rest } aim shown inFlight := by
  cases inFlight with
  | nil => exact absurd (front.symm.trans serves.wire) (List.cons_ne_nil _ _)
  | cons frame later =>
      obtain ⟨same, rest_eq⟩ := List.cons.inj (front.symm.trans serves.wire)
      obtain ⟨⟨sent, sound, stays⟩, others⟩ := List.forall_mem_cons.mp serves.sent
      rw [same] at handled
      cases handled.symm.trans (receive_frame sent sound)
      refine ⟨replay (sentEdits [frame.2]) shown, later, { serves with
        wire := rest_eq
        sent := others
        depicts := depicts_apply serves.depicts stays
        due := fun greeted active => ?_ }⟩
      have due := serves.due greeted active
      have split : path.outstanding (frame :: later) = [frame.2] ++ path.outstanding later := rfl
      rw [split, sentEdits_append, replay_append] at due
      exact due

/-- One step of a path. -/
theorem step (serves : Serves target since path aim shown inFlight) {event : WebEvent} {actions : List Action}
    {next : WebPath} (sound : event.Sound target path) (stepped : WebStep target path event actions next) :
    ∃ aim shown inFlight, Serves target since next aim shown inFlight := by
  cases stepped with
  | host allowed stepped =>
      obtain ⟨stays, short⟩ := sound
      obtain ⟨nextAim, onward⟩ := serves.host allowed stays stepped (short _ _ stepped)
      exact ⟨nextAim, shown, inFlight, onward⟩
  | publish =>
      obtain ⟨aside, short⟩ := sound
      exact ⟨aim, shown, inFlight, serves.publishAside aside short⟩
  | greet early => exact ⟨aim, shown, inFlight, serves.greet early sound⟩
  | answer greeted =>
      obtain ⟨aside, short⟩ := sound
      exact ⟨aim, shown, inFlight, serves.answer greeted aside short⟩
  | receive greeted stepped written =>
      obtain ⟨inTime, settled⟩ := sound
      obtain ⟨inFlight, onward⟩ := serves.receive greeted inTime settled stepped written
      exact ⟨aim, shown, inFlight, onward⟩
  | snapshot greeted stepped written =>
      obtain ⟨inFlight, onward⟩ := serves.snapshot greeted sound stepped written
      exact ⟨aim, shown, inFlight, onward⟩
  | reply greeted queue encodes stepped written =>
      obtain ⟨inFlight, onward⟩ := serves.reply greeted queue encodes stepped written
      exact ⟨aim, shown, inFlight, onward⟩
  | arrive _ front handled =>
      obtain ⟨shown, inFlight, onward⟩ := serves.arrive front handled
      exact ⟨aim, shown, inFlight, onward⟩

end Serves

/-! ## Runs -/

/-- `handle_websocket` has just subscribed, for a page that may have been connected before. -/
def WebPath.connected (host : HostState) (sent : List Message) (page : Page) : WebPath where
  host
  greeted := false
  writer := .subscribe sent none
  replies := []
  wire := []
  page

theorem connected_serves {target : Target} {host : HostState} (valid : host.Valid) (sent : List Message)
    (page : Page) :
    ∃ aim shown inFlight, Serves target sent.length (.connected host sent page) aim shown inFlight := by
  have aimed : ∃ aim : Picture Bytes, ∀ f, host.lastFrames host.activeTabId = some f → aim = f.picture := by
    cases stored : host.lastFrames host.activeTabId with
    | none => exact ⟨⟨0, 0, fun _ _ => []⟩, fun f found => nomatch found⟩
    | some f => exact ⟨f.picture, fun g found => congrArg Frame.picture (Option.some.inj found)⟩
  obtain ⟨aim, aims⟩ := aimed
  have nothing : sent.drop sent.length = [] := List.drop_length
  refine ⟨aim, none, [], {
    valid
    aims
    since_le := Nat.le_refl _
    next_le := Nat.le_refl _
    idle := fun _ => ⟨rfl, rfl⟩
    settled := fun busy => absurd rfl busy
    wire := rfl
    sent := List.forall_mem_nil _
    served := List.forall_mem_nil _
    published := ?_
    refreshes := ?_
    depicts := depicts_none page
    due := fun greeted => nomatch greeted }⟩
  · change ∀ m ∈ sent.drop sent.length, Served target m
    rw [nothing]
    exact List.forall_mem_nil _
  · change Refreshes _ _ _ (sentEdits (sent.drop sent.length))
    rw [nothing]
    exact .nil

def firstRow : Message := (rowFrame 0).rawFrame 1

def changedRow : Message := .subframe 2 0 0 1 1 4 0 Compression.zstdDelta [9, 7, 7, 7]

theorem webItem_returns {target : Target} {m : Message} (whole : (encoded (m.encode target)).isOk)
    (short : Short target m) : ∃ bytes, webItem target m = .ok bytes := by
  cases encodes : encoded (m.encode target) with
  | error stop =>
      rw [encodes] at whole
      cases whole
  | ok wireQuic =>
      let item : BusItem target := { msg := m, wireQuic, encodes }
      obtain ⟨payload, payloads⟩ := encoded_uncompressed item
      refine ⟨frameBytes m.tag payload, ?_⟩
      unfold webItem
      split
      case h_1 => exact encodeWsItem_eq payloads (Nat.lt_trans (short payload payloads) (by decide))
      case h_2 stop failed => cases encodes.symm.trans failed

theorem firstRow_served : Served .bits64 firstRow := by
  refine ⟨⟨⟨by decide, by decide, by decide, by decide⟩, fun payload payloads => ?_⟩, rfl⟩
  have fields : encoded ((uncompressed firstRow).encodePayload .bits64) = .ok _ := rfl
  cases payloads.symm.trans fields
  decide

theorem changedRow_served : Served .bits64 changedRow := by
  refine ⟨⟨⟨by decide, by decide, by decide, by decide⟩, fun payload payloads => ?_⟩, rfl⟩
  have fields : encoded ((uncompressed changedRow).encodePayload .bits64) = .ok _ := rfl
  cases payloads.symm.trans fields
  decide

theorem firstRow_encodes : ∃ bytes, webItem .bits64 firstRow = .ok bytes :=
  webItem_returns (by decide +kernel) firstRow_served.1.small

theorem changedRow_encodes : ∃ bytes, webItem .bits64 changedRow = .ok bytes :=
  webItem_returns (by decide +kernel) changedRow_served.1.small

def secondStored : HostState := (firstStored.removeForceFull 1).insertFrame (rowFrame 9)

/-- The second frame is on the bus. -/
def rowsPath (replies : List Message) (next : Nat) (phase : Phase) (wire : List Bytes) (page : Page) : WebPath where
  host := secondStored
  greeted := true
  writer := { sent := [changedRow], stored := none, next, phase }
  replies
  wire
  page

theorem rows_current (next : Nat) : ¬ Broadcast.Lags busCapacity [changedRow] next := by
  unfold Broadcast.Lags Broadcast.oldest busCapacity
  simp

section Steps

variable {replies : List Message} {next : Nat} {phase : Phase} {wire : List Bytes} {page : Page}

theorem rows_taken : WebStep .bits64 (rowsPath replies 0 .waiting wire page) .receive []
    (rowsPath replies 1 (.draining 0 changedRow) (wire ++ []) page) := by
  have first : [changedRow][0]? = some changedRow := rfl
  refine .receive rfl ?_ rfl
  simp only [rowsPath, writerStep, WriterState.step, Broadcast.receive_item (rows_current 0) first]

theorem rows_written {bytes : Bytes} (encodes : webItem .bits64 changedRow = .ok bytes) :
    WebStep .bits64 (rowsPath replies 1 (.draining 0 changedRow) wire page) .receive [.item 0 changedRow]
      (rowsPath replies 1 .waiting (wire ++ [bytes]) page) := by
  have last : [changedRow][1]? = none := rfl
  refine .receive rfl ?_ (writtenFrames_singleton.mpr ?_)
  · simp only [rowsPath, writerStep, WriterState.step, Broadcast.receive_empty (rows_current 1) last]
  · simp only [actionFrames, encodes]
    rfl

theorem rows_answered {bytes : Bytes} (encodes : webItem .bits64 firstRow = .ok bytes) :
    WebStep .bits64 (rowsPath [firstRow] next .waiting wire page) .reply [.reply bytes]
      (rowsPath [] next .waiting (wire ++ [bytes]) page) :=
  .reply rfl rfl encodes rfl (writtenFrames_singleton.mpr rfl)

/-- The page plays no sound. -/
theorem rows_arrived {m : Message} {bytes : Bytes} {rest : List Bytes}
    (encodes : webItem .bits64 m = .ok bytes) (served : Served .bits64 m) :
    WebStep .bits64 (rowsPath replies next phase (bytes :: rest) page) .arrive []
      (rowsPath replies next phase rest (page.apply m)) :=
  .arrive (fun _ _ _ => .ok ()) rfl (receive_frame (sent_of_webItem encodes) served.1)

end Steps

/-- A page that connects between two frames. -/
theorem rows_greeted (page : Page) : Runs (soundWebStep .bits64) (.connected firstStored [] page)
    [.greet 1, .host (.frame (rowFrame 9) 2 fun _ => true)] [] (rowsPath [firstRow] 0 .waiting [] page) := by
  let between : WebPath := { WebPath.connected firstStored [] page with greeted := true, replies := [firstRow] }
  have greeted : soundWebStep .bits64 (.connected firstStored [] page) (.greet 1) [] between := by
    refine ⟨fun m snapped => ?_, .greet rfl⟩
    cases snapped
    exact firstRow_served.1.small
  have published : soundWebStep .bits64 between (.host (.frame (rowFrame 9) 2 fun _ => true)) []
      (rowsPath [firstRow] 0 .waiting [] page) := by
    refine ⟨⟨trivial, fun next published stepped => ?_⟩, .host (rowFrame_wellFormed 9) secondStored_eq⟩
    have stored : firstStored.step (.frame (rowFrame 9) 2 fun _ => true) = .ok (secondStored, [changedRow]) :=
      secondStored_eq
    cases stored.symm.trans stepped
    exact List.forall_mem_singleton.mpr changedRow_served.1.small
  exact (Runs.single greeted).trans (.single published)

/-- `select!` may take the rectangle before the snapshot that is in the queue for longer. Then the
page stays on the first frame. -/
theorem snapshot_overtaken : ∃ events actions path,
    Runs (WebStep .bits64) (.connected firstStored [] (.start 1 1)) events actions path ∧
      path.greeted = true ∧ path.replies = [] ∧ path.writer.phase = .waiting ∧
      path.writer.next = path.writer.sent.length ∧ path.wire = [] ∧ path.stored = some (rowFrame 9) ∧
      path.page.canvas.pixel 0 0 = shade ((rowFrame 0).pixel 0 0) ∧
      shade ((rowFrame 0).pixel 0 0) ≠ shade ((rowFrame 9).pixel 0 0) := by
  obtain ⟨whole, whole_eq⟩ := firstRow_encodes
  obtain ⟨part, part_eq⟩ := changedRow_encodes
  let page : Page := .start 1 1
  have taken : WebStep .bits64 (rowsPath [firstRow] 0 .waiting [] page) .receive []
      (rowsPath [firstRow] 1 (.draining 0 changedRow) [] page) := rows_taken
  have written : WebStep .bits64 (rowsPath [firstRow] 1 (.draining 0 changedRow) [] page) .receive
      [.item 0 changedRow] (rowsPath [firstRow] 1 .waiting [part] page) := rows_written part_eq
  have answered : WebStep .bits64 (rowsPath [firstRow] 1 .waiting [part] page) .reply [.reply whole]
      (rowsPath [] 1 .waiting [part, whole] page) := rows_answered whole_eq
  have handledChange : WebStep .bits64 (rowsPath [] 1 .waiting [part, whole] page) .arrive []
      (rowsPath [] 1 .waiting [whole] (page.apply changedRow)) := rows_arrived part_eq changedRow_served
  have handledFirst : WebStep .bits64 (rowsPath [] 1 .waiting [whole] (page.apply changedRow)) .arrive []
      (rowsPath [] 1 .waiting [] ((page.apply changedRow).apply firstRow)) :=
    rows_arrived whole_eq firstRow_served
  have ran := ((((rows_greeted page).of_guarded.trans (.single taken)).trans (.single written)).trans
    (.single answered)).trans ((Runs.single handledChange).trans (.single handledFirst))
  exact ⟨_, _, _, ran, rfl, rfl, rfl, rfl, rfl, rfl, by decide, by decide⟩

end ExoBrowser.Session
