import ExoBrowser.Host.DeltaStream
import ExoBrowser.Host.Writer

/-!
# Writer task laws

What a task drops, a later item hides. A task told that it lags sends the snapshot
next, where it is told by `recv`.
-/

set_option autoImplicit false

namespace ExoBrowser.Host

open Library Proto

/-! ## Coalescing -/

def IsFrame : Message → Bool
  | .rawFrame .. => true
  | .subframe .. => true
  | _ => false

/-- `written` is `taken` without some frames, and leaves the same picture. -/
structure Coalesces (target : Target) (taken written : List Message) : Prop where
  sublist : written.Sublist taken
  others : written.filter (fun m => !IsFrame m) = taken.filter fun m => !IsFrame m
  picture : ∀ shown, replay (editsOf target written) shown = replay (editsOf target taken) shown

section Coalescing

variable (target : Target) {item newer : Message} {taken written : List Message}

/-- Only frames are dropped, and only under an edit that hides them. -/
theorem superseded_cases (drops : superseded item newer) :
    IsFrame item ∧ IsFrame newer ∧ ∃ earlier later, editOf target item = some earlier ∧
      editOf target newer = some later ∧ later.Hides earlier := by
  unfold superseded at drops
  split at drops
  case h_1 => exact ⟨rfl, rfl, _, _, rfl, rfl, trivial⟩
  case h_2 => exact ⟨rfl, rfl, _, _, rfl, rfl, trivial⟩
  case h_3 tsUs x1 y1 w1 h1 stride format compression pixels tsUs' x2 y2 w2 h2 _ _ _ _ =>
    have inside : x2 ≤ x1 ∧ y2 ≤ y1 ∧ x2.toNat + w2.toNat ≥ x1.toNat + w1.toNat ∧
      y2.toNat + h2.toNat ≥ y1.toNat + h1.toNat := of_decide_eq_true drops
    exact ⟨rfl, rfl, _, _, rfl, rfl, inside⟩
  case h_4 => cases drops

/-- So it is with the pixels as they are sent. -/
theorem superseded_sent (drops : superseded item newer) :
    ∃ earlier later, sentEdit item = some earlier ∧ sentEdit newer = some later ∧ later.Hides earlier := by
  unfold superseded at drops
  split at drops
  case h_1 => exact ⟨_, _, rfl, rfl, trivial⟩
  case h_2 => exact ⟨_, _, rfl, rfl, trivial⟩
  case h_3 tsUs x1 y1 w1 h1 stride format compression pixels tsUs' x2 y2 w2 h2 _ _ _ _ =>
    have inside : x2 ≤ x1 ∧ y2 ≤ y1 ∧ x2.toNat + w2.toNat ≥ x1.toNat + w1.toNat ∧
      y2.toNat + h2.toNat ≥ y1.toNat + h1.toNat := of_decide_eq_true drops
    exact ⟨_, _, rfl, rfl, inside⟩
  case h_4 => cases drops

theorem replay_superseded (drops : superseded item newer) (shown : Option (Picture Bytes)) :
    replay (editsOf target [item, newer]) shown = replay (editsOf target [newer]) shown := by
  obtain ⟨_, _, earlier, later, item_eq, newer_eq, hides⟩ := superseded_cases target drops
  simp only [editsOf, List.filterMap_cons, item_eq, newer_eq, List.filterMap_nil, replay_cons,
    replay_nil]
  exact hides.apply shown

variable {target}

theorem Coalesces.refl (taken : List Message) : Coalesces target taken taken :=
  ⟨List.Sublist.refl taken, rfl, fun _ => rfl⟩

theorem Coalesces.append {moreTaken moreWritten : List Message}
    (first : Coalesces target taken written) (second : Coalesces target moreTaken moreWritten) :
    Coalesces target (taken ++ moreTaken) (written ++ moreWritten) where
  sublist := first.sublist.append second.sublist
  others := by rw [List.filter_append, List.filter_append, first.others, second.others]
  picture := fun shown => by
    rw [editsOf_append, editsOf_append, replay_append, replay_append, first.picture, second.picture]

theorem Coalesces.supersede (coalesces : Coalesces target taken (written ++ [item]))
    (drops : superseded item newer) : Coalesces target (taken ++ [newer]) (written ++ [newer]) := by
  obtain ⟨item_frame, _, _⟩ := superseded_cases target drops
  obtain ⟨sublist, others, picture⟩ := coalesces
  constructor
  · exact ((List.sublist_append_left written [item]).trans sublist).append (List.Sublist.refl _)
  · rw [List.filter_append, List.filter_append, ← others, List.filter_append]
    simp [item_frame]
  · intro shown
    have hidden := replay_superseded target drops (replay (editsOf target written) shown)
    calc replay (editsOf target (written ++ [newer])) shown
        = replay (editsOf target [item, newer]) (replay (editsOf target written) shown) := by
          rw [editsOf_append, replay_append, hidden]
      _ = replay (editsOf target [newer]) (replay (editsOf target (written ++ [item])) shown) := by
          rw [← List.singleton_append, editsOf_append, editsOf_append, replay_append, replay_append]
      _ = replay (editsOf target (taken ++ [newer])) shown := by
          rw [picture, editsOf_append, replay_append]

/-- What the loops write of a batch is the batch without frames that a newer frame hides. -/
theorem writeBatch_coalesces (target : Target) (item : Message) (items : List Message) :
    Coalesces target (item :: items) (writeBatch item items) := by
  suffices general : ∀ done written, Coalesces target done (written ++ [item]) →
      Coalesces target (done ++ items) (written ++ writeBatch item items) from
    general [item] [] (.refl [item])
  intro done written coalesces
  induction items generalizing item done written with
  | nil => rwa [List.append_nil]
  | cons newer items ih =>
      rw [writeBatch, List.append_cons done]
      split
      case isTrue drops => exact ih newer _ _ (coalesces.supersede drops)
      case isFalse =>
        rw [List.append_cons written]
        exact ih newer _ _ (coalesces.append (.refl [newer]))

end Coalescing

/-! ## Steps of a task -/

inductive Move (writer : Writer) : WriterState → WriterEvent → List Action → WriterState → Prop where
  | publish {state m} :
      Move writer state (.publish m) [] { state with sent := state.sent ++ [m] }
  | store {state stored} : Move writer state (.store stored) [] { state with stored }
  | take {sent stored next item} :
      ¬ Broadcast.Lags busCapacity sent next → sent[next]? = some item →
      Move writer ⟨sent, stored, next, .waiting⟩ .receive [] ⟨sent, stored, next + 1, .draining next item⟩
  | lag {sent stored next} :
      Broadcast.Lags busCapacity sent next →
      Move writer ⟨sent, stored, next, .waiting⟩ .receive
        [.lost next (Broadcast.oldest busCapacity sent - next)]
        ⟨sent, stored, Broadcast.oldest busCapacity sent, .lagged⟩
  | supersede {sent stored next index item newer} :
      ¬ Broadcast.Lags busCapacity sent next → sent[next]? = some newer → superseded item newer →
      Move writer ⟨sent, stored, next, .draining index item⟩ .receive []
        ⟨sent, stored, next + 1, .draining next newer⟩
  | write {sent stored next index item newer} :
      ¬ Broadcast.Lags busCapacity sent next → sent[next]? = some newer →
      ¬ superseded item newer →
      Move writer ⟨sent, stored, next, .draining index item⟩ .receive [.item index item]
        ⟨sent, stored, next + 1, .draining next newer⟩
  | swallow {sent stored next index item} :
      Broadcast.Lags busCapacity sent next →
      Move writer ⟨sent, stored, next, .draining index item⟩ .receive
        [.lost next (Broadcast.oldest busCapacity sent - next), .item index item]
        ⟨sent, stored, Broadcast.oldest busCapacity sent, .waiting⟩
  | finish {sent stored next index item} :
      ¬ Broadcast.Lags busCapacity sent next →
      Move writer ⟨sent, stored, next, .draining index item⟩ .receive [.item index item]
        ⟨sent, stored, next, .waiting⟩
  | snapshot {sent stored next} :
      Move writer ⟨sent, stored, next, .lagged⟩ .snapshot [.snapshot stored]
        ⟨sent, stored, next, .waiting⟩
  | reply {sent stored next bytes} :
      writer.replies →
      Move writer ⟨sent, stored, next, .waiting⟩ (.reply bytes) [.reply bytes] ⟨sent, stored, next, .waiting⟩

theorem move_of_writerStep {writer : Writer} {state final : WriterState} {event : WriterEvent}
    {actions : List Action} (stepped : writerStep writer state event actions final) :
    Move writer state event actions final := by
  obtain ⟨sent, stored, next, phase⟩ := state
  cases event with
  | publish m =>
      cases stepped
      exact .publish
  | store stored =>
      cases stepped
      exact .store
  | receive =>
      rcases Broadcast.receive_cases busCapacity sent next with ⟨lags, received⟩ |
        ⟨value, current, found, received⟩ | ⟨current, received⟩
      · cases phase <;> simp only [writerStep, WriterState.step, received] at stepped
        · cases stepped
          exact .lag lags
        · cases stepped
          exact .swallow lags
        · cases stepped
      · cases phase with
        | waiting =>
            simp only [writerStep, WriterState.step, received] at stepped
            cases stepped
            exact .take current found
        | draining index item =>
            simp only [writerStep, WriterState.step, received] at stepped
            cases stepped
            split
            case isTrue drops => exact .supersede current found drops
            case isFalse keeps => exact .write current found keeps
        | lagged =>
            simp only [writerStep, WriterState.step] at stepped
            cases stepped
      · cases phase <;> simp only [writerStep, WriterState.step, received] at stepped
        · cases stepped
        · cases stepped
          exact .finish current
        · cases stepped
  | snapshot =>
      simp only [writerStep, WriterState.step] at stepped
      split at stepped
      case isTrue told =>
        cases told
        cases stepped
        exact .snapshot
      case isFalse => cases stepped
  | reply bytes =>
      simp only [writerStep, WriterState.step] at stepped
      split at stepped
      case isTrue taken =>
        obtain ⟨replies, waiting⟩ := taken
        cases waiting
        cases stepped
        exact .reply replies
      case isFalse => cases stepped

/-! ## Batches -/

@[simp] theorem writtenItems_append (first second : List Action) :
    writtenItems (first ++ second) = writtenItems first ++ writtenItems second :=
  List.filterMap_append

/-- A task with an item writes what `writeBatch` makes of it and of everything published
since, if it does not lag and nothing more is published. -/
theorem drain_writes_batch (writer : Writer) {sent : List Message} {stored : Option Message}
    {next index : Nat} (item : Message) (current : ¬ Broadcast.Lags busCapacity sent next) :
    ∃ events actions final, Runs (writerStep writer) ⟨sent, stored, next, .draining index item⟩ events
      actions final ∧ final.phase = .waiting ∧
      writtenItems actions = writeBatch item (sent.drop next) := by
  induction remaining : sent.length - next generalizing next index item with
  | zero =>
      have behind : sent.length ≤ next := by omega
      have absent : sent[next]? = none := List.getElem?_eq_none behind
      have stepped : writerStep writer ⟨sent, stored, next, .draining index item⟩ .receive
          [.item index item] ⟨sent, stored, next, .waiting⟩ := by
        simp only [writerStep, WriterState.step, Broadcast.receive_empty current absent]
      refine ⟨_, _, _, .single stepped, rfl, ?_⟩
      rw [List.drop_eq_nil_of_le behind]
      rfl
  | succ left ih =>
      have inside : next < sent.length := by omega
      have found : sent[next]? = some sent[next] := List.getElem?_eq_getElem inside
      have onward : ¬ Broadcast.Lags busCapacity sent (next + 1) := fun lags =>
        current (Nat.lt_of_succ_lt lags)
      have fewer : sent.length - (next + 1) = left := by omega
      obtain ⟨events, actions, final, ran, waiting, written⟩ : ∃ events actions final,
          Runs (writerStep writer) ⟨sent, stored, next + 1, .draining next sent[next]⟩ events actions final ∧
            final.phase = .waiting ∧
            writtenItems actions = writeBatch sent[next] (sent.drop (next + 1)) :=
        ih sent[next] onward fewer
      have stepped : writerStep writer ⟨sent, stored, next, .draining index item⟩ .receive
          (if superseded item sent[next] then [] else [.item index item])
          ⟨sent, stored, next + 1, .draining next sent[next]⟩ := by
        simp only [writerStep, WriterState.step, Broadcast.receive_item current found]
      refine ⟨_, _, final, (Runs.single stepped).trans ran, waiting, ?_⟩
      rw [List.drop_eq_getElem_cons inside, writeBatch, writtenItems_append, written]
      split <;> rfl

def Phase.pending : Phase → List Message
  | .draining _ item => [item]
  | _ => []

@[simp] theorem pending_waiting : Phase.waiting.pending = [] := rfl

/-- What a task has taken since it subscribed to `sent`, and what it wrote of it. -/
structure Delivered (target : Target) (sent : List Message) (actions : List Action)
    (state : WriterState) : Prop where
  subscribed : sent.length ≤ state.next
  received : state.next ≤ state.sent.length
  active : state.phase ≠ .lagged
  coalesces : Coalesces target ((state.sent.take state.next).drop sent.length)
    (writtenItems actions ++ state.phase.pending)

private theorem taken_succ {sent : List Message} {start next : Nat} {m : Message} (later : start ≤ next)
    (found : sent[next]? = some m) :
    (sent.take (next + 1)).drop start = (sent.take next).drop start ++ [m] := by
  obtain ⟨inside, _⟩ := List.getElem?_eq_some_iff.mp found
  rw [List.take_add_one, found, Option.toList_some, List.drop_append_of_le_length]
  rw [List.length_take]
  omega

theorem delivered_move {target : Target} {writer : Writer} {sent : List Message}
    {state next : WriterState} {event : WriterEvent} {actions added : List Action}
    (delivered : Delivered target sent actions state) (noLoss : ∀ first count, .lost first count ∉ added)
    (move : Move writer state event added next) : Delivered target sent (actions ++ added) next := by
  obtain ⟨subscribed, received, active, coalesces⟩ := delivered
  cases move with
  | publish =>
      refine ⟨subscribed, Nat.le_trans received (by simp), active, ?_⟩
      rw [List.append_nil, List.take_append_of_le_length received]
      exact coalesces
  | store =>
      rw [List.append_nil]
      exact ⟨subscribed, received, active, coalesces⟩
  | @take _ _ _ item current found =>
      obtain ⟨inside, _⟩ := List.getElem?_eq_some_iff.mp found
      refine ⟨Nat.le_succ_of_le subscribed, inside, fun told => (nomatch told), ?_⟩
      rw [taken_succ subscribed found, List.append_nil]
      rw [pending_waiting, List.append_nil] at coalesces
      exact coalesces.append (.refl [item])
  | lag => exact absurd List.mem_cons_self (noLoss _ _)
  | supersede current found drops =>
      obtain ⟨inside, _⟩ := List.getElem?_eq_some_iff.mp found
      refine ⟨Nat.le_succ_of_le subscribed, inside, fun told => (nomatch told), ?_⟩
      rw [taken_succ subscribed found, List.append_nil]
      exact coalesces.supersede drops
  | @write _ _ _ _ _ newer current found keeps =>
      obtain ⟨inside, _⟩ := List.getElem?_eq_some_iff.mp found
      refine ⟨Nat.le_succ_of_le subscribed, inside, fun told => (nomatch told), ?_⟩
      rw [taken_succ subscribed found, writtenItems_append]
      exact coalesces.append (.refl [newer])
  | swallow => exact absurd List.mem_cons_self (noLoss _ _)
  | finish =>
      refine ⟨subscribed, received, fun told => (nomatch told), ?_⟩
      rw [writtenItems_append, pending_waiting, List.append_nil]
      exact coalesces
  | snapshot => exact absurd rfl active
  | @reply _ _ _ bytes =>
      have nothing : writtenItems [.reply bytes] = [] := rfl
      refine ⟨subscribed, received, active, ?_⟩
      rw [writtenItems_append, nothing, List.append_nil]
      exact coalesces

/-- However publishing interleaves with it, a task that loses nothing has written, with the
item it holds, what it took without frames that a newer frame hides. -/
theorem run_coalesces (target : Target) (writer : Writer) {sent : List Message}
    {stored : Option Message} {events : List WriterEvent} {actions : List Action} {state : WriterState}
    (ran : Runs (writerStep writer) (.subscribe sent stored) events actions state)
    (noLoss : ∀ first count, .lost first count ∉ actions) :
    Coalesces target ((state.sent.take state.next).drop sent.length)
      (writtenItems actions ++ state.phase.pending) := by
  have start : Delivered target sent [] (.subscribe sent stored) := by
    refine ⟨Nat.le_refl _, Nat.le_refl _, nofun, ?_⟩
    rw [WriterState.subscribe, List.take_length, List.drop_length]
    exact .refl []
  have delivered := ran.invariant
    (fun actions state => (∀ first count, .lost first count ∉ actions) →
      Delivered target sent actions state) (fun _ => start)
    fun actions state event added next delivered stepped noLoss =>
      delivered_move (delivered fun first count member =>
        noLoss first count (List.mem_append_left _ member))
        (fun first count member => noLoss first count (List.mem_append_right _ member))
        (move_of_writerStep stepped)
  exact (delivered noLoss).coalesces

end ExoBrowser.Host
