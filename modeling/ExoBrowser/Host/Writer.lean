import ExoBrowser.Host.State
import ExoBrowser.Library.Broadcast

/-!
# Writer tasks

The tasks that take items from the bus and write them to a client: the QUIC video
stream, the TCP writer and the WebSocket writer. They drop frames that a newer frame
hides, and send a snapshot where the bus tells them that they lag.
-/

set_option autoImplicit false

namespace ExoBrowser.Host

open Library Proto

/-- `broadcast::channel(256)`. -/
def busCapacity : Nat := 256

/-! ## Coalescing -/

/-- Whether the loops drop `item` when `newer` follows it: a `RawFrame` hides every
frame, a `Subframe` the ones inside it. -/
def superseded : Message → Message → Bool
  | .rawFrame .., .rawFrame .. => true
  | .subframe .., .rawFrame .. => true
  | .subframe _ x1 y1 w1 h1 _ _ _ _, .subframe _ x2 y2 w2 h2 _ _ _ _ =>
      x2 ≤ x1 ∧ y2 ≤ y1 ∧ x2.toNat + w2.toNat ≥ x1.toNat + w1.toNat ∧
        y2.toNat + h2.toNat ≥ y1.toNat + h1.toNat
  | _, _ => false

/-- `while let Ok(newer) = try_recv()`, from the item that `recv` returned, with the
items that `try_recv` returns: what is written. -/
def writeBatch : Message → List Message → List Message
  | item, [] => [item]
  | item, newer :: rest =>
      if superseded item newer then writeBatch newer rest else item :: writeBatch newer rest

/-! ## The task -/

/-- What distinguishes the three tasks: whether `select!` also takes replies. -/
structure Writer where
  replies : Bool

/-- The video stream of `handle_connection`. Its replies go over another stream. -/
def quicWriter : Writer := { replies := false }

/-- The `writer_task` of `handle_tcp_connection`. -/
def tcpWriter : Writer := { replies := true }

/-- The `writer_task` of `handle_websocket`. -/
def webSocketWriter : Writer := { replies := true }

/-- Where a task is: at `select!`, in the inner loop with an item and its position on
the bus, or told that it lags. -/
inductive Phase where
  | waiting
  | draining (index : Nat) (item : Message)
  | lagged
deriving DecidableEq

/-- Everything published so far, what `snapshot()` would answer, and a task with its
receiver. -/
structure WriterState where
  sent : List Message
  stored : Option Message
  next : Nat
  phase : Phase
deriving DecidableEq

def WriterState.subscribe (sent : List Message) (stored : Option Message) : WriterState :=
  { sent, stored, next := sent.length, phase := .waiting }

/-- What can happen: the host publishes or stores another frame, the task calls `recv` or
`try_recv`, it calls `snapshot()`, or it takes a reply. -/
inductive WriterEvent where
  | publish (m : Message)
  | store (stored : Option Message)
  | receive
  | snapshot
  | reply (bytes : Bytes)
deriving DecidableEq

/-- What the task does: it writes the item published at `index`, it writes the snapshot
if there is one, it writes a reply. That the `count` items from `first` on are gone, it
does not do but suffer. -/
inductive Action where
  | lost (first count : Nat)
  | item (index : Nat) (m : Message)
  | snapshot (answer : Option Message)
  | reply (bytes : Bytes)
deriving DecidableEq

/-- One step of the bus and a task whose writes succeed. A write that fails ends the
stream, and so the task. -/
def WriterState.step (writer : Writer) (state : WriterState) :
    WriterEvent → Option (WriterState × List Action)
  | .publish m => some ({ state with sent := state.sent ++ [m] }, [])
  | .store stored => some ({ state with stored }, [])
  | .receive =>
      match state.phase, Broadcast.receive busCapacity state.sent state.next with
      | .waiting, (.item item, next) =>
          some ({ state with next, phase := .draining state.next item }, [])
      | .waiting, (.lagged missed, next) =>
          some ({ state with next, phase := .lagged }, [.lost state.next missed])
      | .waiting, (.empty, _) => none
      | .draining index item, (.item newer, next) =>
          some ({ state with next, phase := .draining state.next newer },
            if superseded item newer then [] else [.item index item])
      -- any error ends the inner loop, this one as well as an empty channel
      | .draining index item, (.lagged missed, next) =>
          some ({ state with next, phase := .waiting },
            [.lost state.next missed, .item index item])
      | .draining index item, (.empty, next) =>
          some ({ state with next, phase := .waiting }, [.item index item])
      | .lagged, _ => none
  | .snapshot =>
      if state.phase = .lagged then
        some ({ state with phase := .waiting }, [.snapshot state.stored])
      else none
  | .reply bytes =>
      if writer.replies ∧ state.phase = .waiting then some (state, [.reply bytes]) else none

def writerStep (writer : Writer) : Library.Step WriterState WriterEvent Action :=
  fun state event actions next => state.step writer event = some (next, actions)

def writtenItems (actions : List Action) : List Message :=
  actions.filterMap fun
    | .item _ m => some m
    | _ => none

/-- The `count` items from `first` on were lost, and no snapshot followed. -/
def Owing (actions : List Action) (first count : Nat) : Prop :=
  ∃ earlier between, actions = earlier ++ .lost first count :: between ∧
    ∀ answer, .snapshot answer ∉ between

/-- No item newer than lost ones is written before the snapshot, if there is one. -/
def Resynced (actions : List Action) : Prop :=
  ∀ before index m later, actions = before ++ .item index m :: later →
    ∀ first count, Owing before first count → index < first + count

end ExoBrowser.Host
