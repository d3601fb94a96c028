import Tftp.Session.Basic

/-! # The sending session

    A sender pushes the handler's stream to the peer one block at a time: it reads a block of up
    to 512 bytes from its end of the pipe, transmits it as the next DATA packet, and reads the
    next block only once the peer acknowledged this one.  A block shorter than 512 bytes is the
    last; its acknowledgement ends the transfer.  A client sender first sends a write request and
    waits for the acknowledgement of block 0.

    Block numbers count up from 1 and wrap from 65535 to 0.  An ACK for another block than the
    last one sent, and every packet that is no ACK, is ignored. -/

namespace Tftp

namespace Session

/-- The sender's counters. -/
def sender : SessionM Sender := do
  match (← get).role with
  | .sender s => pure s
  | .receiver _ => pure default

/-- Change the sender's counters. -/
def updateSender (f : Sender → Sender) : SessionM Unit :=
  modify fun s => match s.role with
    | .sender x => { s with role := .sender (f x) }
    | .receiver _ => s

/-- Open the transfer: a client sends its write request and waits for ACK 0; a server starts
    with the first block. -/
def startSending : SessionM Unit := do
  let s ← get
  if s.client then
    transmit (.wrq s.filename s.mode)
    modify fun s => { s with phase := some .awaitAck }
  else modify fun s => { s with phase := some .awaitData }

/-- Read from the pipe until `gathered` holds a full block or the stream ends, at most `fuel`
    reads; a failing read is the handler's failure. -/
def gather (gathered : List UInt8) : Nat → SessionM (List UInt8)
  | 0 => pure gathered
  | fuel + 1 => do
    if gathered.length ≥ blockSize then return gathered
    match ← ask (.stream (.read (.upTo (blockSize - gathered.length)) false)) with
    | .streamed (.ok (.bytes [])) => pure gathered
    | .streamed (.ok (.bytes data)) => gather (gathered ++ data) fuel
    | .streamed (.error e) => throw (handlerFailure e)
    | _ => pure gathered

/-- Step the block counter, wrapping after 65535, and read the next block.  A counter that has
    no successor fails the step. -/
def nextBlock : SessionM Unit := do
  let n ← MonadExcept.ofExcept ((← sender).lastSent.succ true)
  updateSender fun x =>
    { x with lastSent := if n.gtInt maxBlockNumber then .int 0 else n.toValue }
  let block ← gather [] (blockSize + 1)
  updateSender fun x => { x with current := some block }

/-- Transmit the block read last as the next DATA packet and wait for its acknowledgement. -/
def transmitData : SessionM Unit := do
  let x ← sender
  let payload := x.current.getD []
  transmit (.data x.lastSent payload)
  updateStats fun st => { st with bytesSent := st.bytesSent + payload.length }
  if payload.length < blockSize then updateSender fun x => { x with awaitingLastAck := true }
  modify fun s => { s with phase := some .awaitAck }

/-- An acknowledgement of `block`: for the last block sent, count it and go on with the next
    block, or end the transfer after the last one.  Any other block is ignored, and the note
    about it writes the counter in decimal, which fails for a counter that is no number. -/
def handleAck (block : Int) : SessionM Unit := do
  let x ← sender
  if !x.lastSent.eqInt block then
    discard (MonadExcept.ofExcept x.lastSent.decimal)
    return
  if x.current.isSome then updateStats fun st => { st with packetsAcked := st.packetsAcked + 1 }
  if x.awaitingLastAck then modify fun s => { s with phase := some .done }
  else modify fun s => { s with phase := some .awaitData }

/-- One step of a sender: read and send a block, or wait for an acknowledgement and resend on
    silence. -/
def sendOnce : SessionM Unit := do
  if (← get).phase == some .awaitData then
    nextBlock
    transmitData
  else
    match ← receive with
    | some (.ack block) => handleAck block
    | _ => pure ()
    if (← get).phase == some .awaitAck then
      if (← timeLeft).isNonpos then handleTimeout

end Session

end Tftp
