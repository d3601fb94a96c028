import Tftp.Session.Program
import Tftp.Packet.Draft
import Tftp.Value.Arithmetic
import Tftp.Packet.Decode
import Tftp.RetryPolicy

/-! # Session state and the steps both roles share

    A session holds its peer, whether the peer is pinned yet, its phase, the retransmission timer
    and its counters, the last packet it transmitted and its statistics; a sender or a receiver
    adds its block counters (`Role`).

    The shared steps:

    * `send` writes a packet to the peer; a socket failure is a `TransportFailure`.
    * `transmit` sends a fresh packet, restarts the timer and the retry count; `retransmit`
      resends the last one.  `handleTimeout` retransmits while the retry budget lasts and fails
      with `ProtocolTimeout` after.
    * `receive` waits for the rest of the timer.  It drops malformed datagrams, pins a client's
      peer to the first source whose datagram decodes, answers other sources with ERROR 5 and
      drops their datagrams, and turns an ERROR from the peer into `PeerAbort`.  A socket error
      of the operating system is a `TransportFailure`; any other failure passes through.
    * The timer's arithmetic mixes the clock with the timeout; an integer too large for a
      double there raises `Failure.tooLarge`.
    * `fail` records the fault that ends the session; a handler's failure is also reported to
      the peer, once and without retransmission. -/

namespace Tftp

/-- What a sender adds: its block counter, which holds the last block number sent or the value it
    was preset to, the block in flight, and whether it was the last one. -/
structure Sender where
  lastSent : Value
  current : Option (List UInt8)
  awaitingLastAck : Bool
  deriving Inhabited

/-- What a receiver adds: its block counter, which holds the last block number delivered to the
    handler or the value it was preset to, and whether any block was delivered. -/
structure Receiver where
  lastDelivered : Value
  deliveredAny : Bool
  deriving Inhabited

/-- The role of a session and its block counters. -/
inductive Role where
  | sender (s : Sender)
  | receiver (r : Receiver)
  deriving Inhabited

/-- The state of a session. -/
structure Session where
  role : Role
  /-- the session opened the transfer with a request -/
  client : Bool
  peer : Address
  /-- the peer can no longer change -/
  pinned : Bool
  filename : Value
  mode : Value
  policy : RetryPolicy
  phase : Option Phase
  /-- retransmissions since the last fresh transmission -/
  retransmits : Nat
  /-- retransmissions in the whole session -/
  totalRetransmits : Nat
  lastPacket : Option Draft
  /-- when the retransmission timer expires -/
  expiry : Number
  error : Option Fault
  stats : Stats
  deriving Inhabited

/-- A session step: it may ask its surroundings, change the session, and raise a failure; the
    session keeps the changes made before a failure. -/
abbrev SessionM := ExceptT Failure (StateT Session Program)

namespace Session

/-- Ask the surroundings. -/
def ask (r : Request) : SessionM Response :=
  monadLift (Program.call r)

/-- The clock's reading. -/
def now : SessionM Number := do
  match ← ask .now with
  | .time t => pure t
  | _ => pure 0

/-- Change the statistics. -/
def updateStats (f : Stats → Stats) : SessionM Unit :=
  modify fun s => { s with stats := f s.stats }

/-- Restart the retransmission timer: it expires a timeout from now. -/
def resetTimeout : SessionM Unit := do
  let t ← now
  match t.add? (← get).policy.seconds with
  | some e => modify fun s => { s with expiry := e }
  | none => throw Failure.tooLarge

/-- The time left before the timer expires. -/
def timeLeft : SessionM Number := do
  let t ← now
  match (← get).expiry.sub? t with
  | some d => pure d
  | none => throw Failure.tooLarge

/-- Send a packet to the peer; a packet that cannot be written raises the codec's error, and a
    socket failure raises a `TransportFailure`. -/
def send (p : Draft) : SessionM Unit := do
  let bytes ← match p.encode with
    | .ok b => pure b
    | .error e => throw e.failure
  let peer := (← get).peer
  match ← ask (.send bytes peer) with
  | .sendFailed reason =>
    throw (.ofKind .transportFailure ("sending to " ++ peer.literal ++ " failed: " ++ reason))
  | _ => updateStats fun st => { st with packetsSent := st.packetsSent + 1 }

/-- Send a fresh packet, which is resent if the peer stays silent. -/
def transmit (p : Draft) : SessionM Unit := do
  send p
  modify fun s => { s with lastPacket := some p, retransmits := 0 }
  resetTimeout

/-- Resend the last packet. -/
def retransmit : SessionM Unit := do
  match (← get).lastPacket with
  | some p => send p
  | none => pure ()
  modify fun s => { s with retransmits := s.retransmits + 1,
                           totalRetransmits := s.totalRetransmits + 1 }
  resetTimeout

/-- The peer was silent until the timer expired: resend while the budget lasts, else give up. -/
def handleTimeout : SessionM Unit := do
  let s ← get
  if s.retransmits < s.policy.retries then retransmit
  else throw (.ofKind .protocolTimeout ("timeout after " ++ toString s.retransmits ++ " retransmits."))

/-- Tell a source other than the peer that it has no transfer here; a failure to tell it is
    ignored and the message is not counted. -/
def rejectForeign (source : Address) : SessionM Unit := do
  let f := Fault.make .foreignPeer "unknown transfer ID" none
  match (Draft.error f.code f.message).encode with
  | .ok bytes => discard (ask (.send bytes source))
  | .error _ => pure ()

/-- A datagram from `source` that decoded: pin the peer, or refuse a foreign source; an ERROR
    from the peer ends the session. -/
def accept (source : Address) (p : Packet) : SessionM (Option Packet) := do
  let s ← get
  if !s.pinned then
    set { s with peer := source, pinned := true, stats := { s.stats with peer := source } }
  else if source != s.peer then
    rejectForeign source
    return none
  match p with
  | .error code message =>
    throw (.fault (Fault.make .peerAbort ("error reported by peer: " ++ message) (some code)))
  | _ => pure (some p)

/-- Wait for a packet from the peer until the timer expires: `none` if nothing usable came. -/
def receive : SessionM (Option Packet) := do
  let timeout ← timeLeft
  if timeout.isNonpos then return none
  let s ← get
  match ← ask (.receive timeout s.phase) with
  | .receiveFailed f =>
    if f.isOSError then
      throw (.ofKind .transportFailure
        (Text.ofString ("receiving from " ++ s.peer.literal ++ " failed: ") ++ f.text))
    else throw f
  | .datagram bytes source =>
    match Packet.decode bytes with
    | .error _ => pure none
    | .ok p => accept source p
  | _ => pure none

/-- The fault that reports a failure of the handler behind the session's end of the pipe. -/
def handlerFailure (cause : Failure) : Failure :=
  .fault cause.toHandlerFault

/-- Report a fault to the peer, once.  A transport failure, or a code or message that cannot be
    written, is ignored; any other failure of the report escapes. -/
def transmitError (f : Fault) : SessionM Unit :=
  tryCatch (send (.error f.code f.message)) fun e =>
    if e.isTransport || e.isValueError then pure () else throw e

/-- End the session with a fault. -/
def fail (f : Fault) : SessionM Unit := do
  modify fun s => { s with phase := some .failed, error := some f,
                           stats := { s.stats with error := some f } }
  if f.kind == .handlerFailure then transmitError f

/-- The last steps of every session: close the session's end of the pipe (with the fault, if
    the session failed) and the socket, then report the statistics. -/
def finish : SessionM Unit := do
  let s ← get
  discard (ask (.closeStream (s.error.map Failure.fault)))
  discard (ask .closeSocket)
  let t ← now
  modify fun s => { s with stats := { s.stats with retransmits := s.totalRetransmits,
                                                   endTime := some t } }
  discard (ask (.report (← get).stats))

/-- The session has ended. -/
def ended (s : Session) : Bool :=
  s.phase == some .done || s.phase == some .failed

end Session

end Tftp
