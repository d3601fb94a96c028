import Tftp.Pipe.Basic
import Tftp.Packet.Basic
import Tftp.Address
import Tftp.Number

/-! # Sessions as programs

    A transfer session talks to its surroundings in a few ways only: it reads the clock, asks its
    socket for its local address, sends and receives datagrams, closes its socket, calls its end
    of the pipe, and hands its statistics to whoever asked for them.  A `Program` is a session
    written as a tree of such requests: each `ask` waits for a `Response` and goes on with the
    branch for it.

    The session is the same program whatever answers it gets, so one definition serves a real
    network, a scripted one, and statements about every possible network. -/

namespace Tftp

/-- Where a transfer stands. -/
inductive Phase where
  | awaitData
  | awaitAck
  | done
  | failed
  deriving DecidableEq, Repr, Inhabited

/-- The name of a phase, as reports show it. -/
def Phase.name : Phase → String
  | .awaitData => "await_data"
  | .awaitAck => "await_ack"
  | .done => "done"
  | .failed => "failed"

/-- The digest of a transfer, filled in while it runs and final once it ended. -/
structure Stats where
  peer : Address
  localAddress : Option Address
  filename : Value
  mode : Value
  /-- the fault that ended the transfer, if it failed -/
  error : Option Fault
  packetsSent : Nat
  packetsAcked : Nat
  bytesSent : Nat
  bytesReceived : Nat
  retransmits : Nat
  startTime : Number
  endTime : Option Number
  deriving Inhabited

/-- How long the transfer took, or has taken by `now` if it has not ended; none when the
    difference has no double. -/
def Stats.duration? (s : Stats) (now : Number) : Option Number :=
  (s.endTime.getD now).sub? s.startTime

/-- What a session asks of its surroundings. -/
inductive Request where
  /-- the clock's reading -/
  | now
  /-- the local address of the session's socket -/
  | localAddress
  /-- send a datagram -/
  | send (datagram : List UInt8) (target : Address)
  /-- wait at most `timeout` seconds for a datagram; `phase` is where the session stands -/
  | receive (timeout : Number) (phase : Option Phase)
  /-- close the socket -/
  | closeSocket
  /-- a call on the session's end of the pipe, until it returns -/
  | stream (call : Call)
  /-- close the session's end of the pipe, with an error if one is given -/
  | closeStream (error : Option Failure)
  /-- hand the final statistics to whoever asked for them -/
  | report (stats : Stats)

/-- What the surroundings answer. -/
inductive Response where
  /-- done, for requests that return nothing -/
  | ok
  /-- the clock's reading -/
  | time (t : Number)
  /-- the socket's local address, or none when the socket cannot tell -/
  | address (a : Option Address)
  /-- the datagram was sent -/
  | sent
  /-- sending failed, for the given reason -/
  | sendFailed (reason : String)
  /-- a datagram arrived from a source -/
  | datagram (bytes : List UInt8) (source : Address)
  /-- nothing arrived in time -/
  | timedOut
  /-- receiving failed with the given failure -/
  | receiveFailed (failure : Failure)
  /-- what the pipe call returned -/
  | streamed (result : Except Failure Reply)
  deriving Inhabited

/-- A computation that asks its surroundings and ends with a value. -/
inductive Program (α : Type) where
  | done (a : α)
  | ask (r : Request) (k : Response → Program α)

namespace Program

/-- Run a program, then the program its value chooses. -/
def bind {α β : Type} : Program α → (α → Program β) → Program β
  | .done a, f => f a
  | .ask r k, f => .ask r fun x => (k x).bind f

instance : Monad Program where
  pure := .done
  bind := bind

/-- Ask once. -/
def call (r : Request) : Program Response := .ask r .done

end Program

end Tftp
