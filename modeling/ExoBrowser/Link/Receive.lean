import ExoBrowser.Library.Framing
import ExoBrowser.Proto.Codec

/-!
# Receive loops

The three loops that reassemble messages from a byte stream, and the callers that
take messages from them until the stream ends.
-/

set_option autoImplicit false

namespace ExoBrowser.Link

open Library Proto

inductive ReadOutcome where
  | data (bytes : Bytes)
  | eof
  | connectionLost
  | failed
deriving DecidableEq

inductive ReadError where
  | decode (stop : Stop Error)
  | midFrame (len : Nat)
  | transport
deriving DecidableEq

inductive Arrival where
  | append (bytes : Bytes)
  | close
  | fail (error : ReadError)
deriving DecidableEq

/-- `if inbuf.is_empty() { Ok(None) } else { Err(..) }` at the end of the stream. -/
def atEof (inbuf : Bytes) : Arrival :=
  if inbuf.isEmpty then .close else .fail (.midFrame inbuf.length)

def atLoss (inbuf : Bytes) : Arrival :=
  if inbuf.isEmpty then .close else .fail .transport

inductive Reader where
  | quic
  | tcp
  | std
deriving DecidableEq

/-- The `match recv.read(chunk)` of each loop. The sockets report their end as a
read of no bytes, QUIC reports it as `Ok(None)`. -/
def Reader.arrival : Reader → Bytes → ReadOutcome → Arrival
  | .quic, _, .data bytes => .append bytes
  | .quic, inbuf, .eof => atEof inbuf
  | .quic, inbuf, .connectionLost => atLoss inbuf
  | .tcp, inbuf, .data bytes => if bytes.isEmpty then atEof inbuf else .append bytes
  | .tcp, inbuf, .eof => atEof inbuf
  | .tcp, inbuf, .connectionLost => atLoss inbuf
  | .std, inbuf, .data bytes => if bytes.isEmpty then atEof inbuf else .append bytes
  | .std, inbuf, .eof => atEof inbuf
  | .std, _, .connectionLost => .fail .transport
  | _, _, .failed => .fail .transport

inductive Received where
  | message (msg : Message)
  | closed
  | waiting
  | failed (error : ReadError)
deriving DecidableEq

/-- A return of a receive loop: its result, the bytes it drained, the buffer it
leaves and the reads that have not happened yet. -/
structure ReadReturn where
  received : Received
  consumed : Nat
  inbuf : Bytes
  reads : List ReadOutcome
deriving DecidableEq

/-- One call of a receive loop. It waits where no further read has come back. -/
def receiveNext (reader : Reader) (target : Target) : List ReadOutcome → Bytes → ReadReturn
  | reads, inbuf =>
      match Message.decode target inbuf with
      | (.ok (some msg), cur) =>
          let consumed := inbuf.length - cur.length
          { received := .message msg, consumed, inbuf := inbuf.drop consumed, reads }
      | (.error stop, _) =>
          { received := .failed (.decode stop), consumed := 0, inbuf, reads }
      | (.ok none, _) =>
          match reads with
          | [] => { received := .waiting, consumed := 0, inbuf, reads }
          | outcome :: reads =>
              match reader.arrival inbuf outcome with
              | .append bytes => receiveNext reader target reads (inbuf ++ bytes)
              | .close => { received := .closed, consumed := 0, inbuf, reads }
              | .fail error => { received := .failed error, consumed := 0, inbuf, reads }

def readNext : Target → List ReadOutcome → Bytes → ReadReturn := receiveNext .quic

def readNextTcp : Target → List ReadOutcome → Bytes → ReadReturn := receiveNext .tcp

def readNextStream : Target → List ReadOutcome → Bytes → ReadReturn := receiveNext .std

structure ReceiveRun where
  messages : List Message
  consumed : Nat
  last : ReadReturn
deriving DecidableEq

/-- `while let Some(msg) = read_next(..)? { .. }`, for at most `fuel` messages. -/
def receiveLoop (reader : Reader) (target : Target) : Nat → List ReadOutcome → Bytes → ReceiveRun
  | 0, reads, inbuf => ⟨[], 0, { received := .waiting, consumed := 0, inbuf, reads }⟩
  | fuel + 1, reads, inbuf =>
      let next := receiveNext reader target reads inbuf
      match next.received with
      | .message msg =>
          let run := receiveLoop reader target fuel next.reads next.inbuf
          { run with messages := msg :: run.messages, consumed := next.consumed + run.consumed }
      | _ => ⟨[], 0, next⟩

def ReadOutcome.bytes : ReadOutcome → Bytes
  | .data bytes => bytes
  | _ => []

def delivered (reads : List ReadOutcome) : Bytes := reads.flatMap ReadOutcome.bytes

/-- The whole loop, from an empty buffer. Each message takes some of the bytes
that arrive, so their number bounds the calls. -/
def receiveAll (reader : Reader) (target : Target) (reads : List ReadOutcome) : ReceiveRun :=
  receiveLoop reader target ((delivered reads).length + 1) reads []

def decodeFront (target : Target) (buf : Bytes) : Front UInt8 Message (Stop Error) :=
  match Message.decode target buf with
  | (.ok none, _) => .incomplete
  | (.ok (some msg), rest) => .item msg rest
  | (.error stop, _) => .malformed stop

end ExoBrowser.Link
