import Tftp.Session.Basic

/-! # The receiving session

    A receiver pulls a stream from the peer: it writes each new DATA payload to its end of the
    pipe, which returns once the handler has read all of it, and only then acknowledges the
    block.  A payload shorter than 512 bytes is the last.  A client receiver first sends a read
    request; a server receiver first waits until the handler reads, so that a handler that gave
    up is noticed before ACK 0 goes out.

    The expected block is one more than the last delivered, wrapping from 65535 to 0.  Once a
    block was delivered, a repeat of it is acknowledged again with a plain send; every other
    DATA is dropped.

    After the last block the session dallies for one more timeout: the handler sees the end of
    the stream at once, and a repeat of the last block, whose acknowledgement the peer may have
    lost, is acknowledged again.  Nothing that happens while dallying changes the outcome. -/

namespace Tftp

namespace Session

/-- The receiver's counters. -/
def receiver : SessionM Receiver := do
  match (← get).role with
  | .receiver r => pure r
  | .sender _ => pure default

/-- Change the receiver's counters. -/
def updateReceiver (f : Receiver → Receiver) : SessionM Unit :=
  modify fun s => match s.role with
    | .receiver x => { s with role := .receiver (f x) }
    | .sender _ => s

/-- Hand a payload to the handler, returning once it was read (for no bytes: once a read
    waits); a failing write is the handler's failure. -/
def deliver (payload : List UInt8) : SessionM Unit := do
  match ← ask (.stream (.write payload)) with
  | .streamed (.error e) => throw (handlerFailure e)
  | _ => pure ()

/-- Open the transfer: a client sends its read request; a server waits for the handler to read
    and then acknowledges block 0. -/
def startReceiving : SessionM Unit := do
  let s ← get
  if s.client then transmit (.rrq s.filename s.mode)
  else
    deliver []
    transmit (.ack (.int 0))
  modify fun s => { s with phase := some .awaitData }

/-- A DATA packet: deliver and acknowledge the expected block, the one after the counter,
    wrapping after 65535; acknowledge a repeat of the last delivered block again; drop anything
    else, where the note about it writes the expected block in decimal.  A counter that has no
    successor, or an expected block that cannot be written, fails the step. -/
def handleData (block : Int) (payload : List UInt8) : SessionM Unit := do
  let x ← receiver
  let next ← MonadExcept.ofExcept (x.lastDelivered.succ false)
  let expected : Number := if next.gtInt maxBlockNumber then .int 0 else next
  if expected.eqInt block then
    deliver payload
    updateReceiver fun x => { x with lastDelivered := .int block, deliveredAny := true }
    updateStats fun st => { st with bytesReceived := st.bytesReceived + payload.length }
    transmit (.ack (.int block))
    if payload.length < blockSize then modify fun s => { s with phase := some .done }
  else if x.deliveredAny && x.lastDelivered.eqInt block then
    send (.ack (.int block))
  else discard (MonadExcept.ofExcept expected.toValue.decimal)

/-- One step of a receiver: wait for DATA, and resend on silence. -/
def receiveOnce : SessionM Unit := do
  match ← receive with
  | some (.data block payload) => handleData block payload
  | _ => pure ()
  if (← get).phase == some .awaitData then
    if (← timeLeft).isNonpos then handleTimeout

/-- Keep the socket open until the restarted timer expires, at most `fuel` receives: a repeat of
    the last block is acknowledged again, and a fault from the socket or the peer ends the
    dally early.  Any other failure escapes. -/
def dallyFor : Nat → SessionM Unit
  | 0 => pure ()
  | fuel + 1 => do
    if (← timeLeft).isNonpos then return
    let got ← tryCatch (some <$> receive) fun e => if e.isFault then pure none else throw e
    match got with
    | none => return
    | some (some (.data block _)) =>
      if (← receiver).lastDelivered.eqInt block then
        let sent ← tryCatch (send (.ack (.int block)) *> pure true) fun e =>
          if e.isFault then pure false else throw e
        if !sent then return
      dallyFor fuel
    | some _ => dallyFor fuel

/-- After the last block: the handler sees the end of the stream, then the session dallies. -/
def dally (fuel : Nat) : SessionM Unit := do
  discard (ask (.closeStream none))
  resetTimeout
  dallyFor fuel

end Session

end Tftp
