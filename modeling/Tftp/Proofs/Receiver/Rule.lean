import Tftp.Proofs.Exchanges

/-! # The receiver's rule, read off a run

    What a receiving session must do is a function of the datagrams that reached it: the first
    decodable datagram pins a client's peer; a DATA from the peer with the block after the last
    delivered one is delivered, until a payload shorter than a block was; a repeat of the last
    delivered block is acknowledged again; everything else is dropped.  This module states that
    rule over the exchanges of a run, without the session's state.

    * `Delivered` is what the rule has delivered so far, `Delivered.after` folds it over a run.
    * `Delivered.verdict` is what the rule makes of one datagram; `Verdict.Answered` says which
      deeds (`Deed`: writes to the handler and acknowledgements) answer it.
    * `writes` and `reaction` are the views of a run the statements use: the payloads written,
      and the deeds that follow a datagram before the clock is read again.
    * `ReceiverContract` is what a receiver's whole run must show: its writes are the rule's
      deliveries, each datagram and each acknowledgement was answered by the rule; a session that
      ended done acknowledged the last block and then closed the pipe cleanly, and one that did
      not could not restart its timer after any such acknowledgement. -/

namespace Tftp

/-- What a receiving session does that its handler or its peer can see. -/
inductive Deed where
  /-- a payload handed to the handler, and whether the write returned -/
  | wrote (payload : List UInt8) (returned : Bool)
  /-- an acknowledgement of a block -/
  | acked (block : Int)
  deriving DecidableEq

namespace Exchange

/-- The exchange as a deed: a write to the handler, or a datagram that reads as an ACK. -/
def deed? : Exchange → Option Deed
  | (.stream (.write payload), .streamed (.error _)) => some (.wrote payload false)
  | (.stream (.write payload), _) => some (.wrote payload true)
  | (.send bytes _, _) =>
    match Packet.decode bytes with
    | .ok (.ack block) => some (.acked block)
    | _ => none
  | _ => none

/-- The exchange closes the session's end of the pipe, with the error it gives. -/
def streamClose? : Exchange → Option (Option Failure)
  | (.closeStream error, _) => some error
  | _ => none

/-- The payload of a write to the handler. -/
def written? (e : Exchange) : Option (List UInt8) :=
  match e.deed? with
  | some (.wrote payload _) => some payload
  | _ => none

theorem deed?_write (payload : List UInt8) (x : Response) :
    deed? (.stream (.write payload), x) = some (.wrote payload !x.streamFailed) := by
  rcases x with _ | _ | _ | _ | _ | _ | _ | _ | (_ | _) <;> rfl

@[simp] theorem deed?_now (x : Response) : deed? (.now, x) = none := rfl
@[simp] theorem deed?_receive (t : Number) (phase : Option Phase) (y : Response) :
    deed? (.receive t phase, y) = none := rfl
@[simp] theorem deed?_closeStream (error : Option Failure) (x : Response) :
    deed? (.closeStream error, x) = none := rfl
@[simp] theorem deed?_closeSocket (x : Response) : deed? (.closeSocket, x) = none := rfl
@[simp] theorem deed?_localAddress (x : Response) : deed? (.localAddress, x) = none := rfl
@[simp] theorem deed?_report (stats : Stats) (x : Response) : deed? (.report stats, x) = none :=
  rfl

theorem deed?_send_ack {bytes : List UInt8} {block : Int}
    (h : Packet.decode bytes = .ok (.ack block)) (target : Address) (x : Response) :
    deed? (.send bytes target, x) = some (.acked block) := by
  simp [deed?, h]

theorem deed?_send_of_not_ack {bytes : List UInt8} (h : ∀ block, Packet.decode bytes ≠ .ok (.ack block))
    (target : Address) (x : Response) : deed? (.send bytes target, x) = none := by
  show (match Packet.decode bytes with
    | .ok (.ack block) => some (Deed.acked block)
    | _ => none) = none
  cases hd : Packet.decode bytes with
  | error e => rfl
  | ok p =>
    cases p with
    | ack block => exact absurd hd (h block)
    | _ => rfl

@[simp] theorem written?_write (payload : List UInt8) (x : Response) :
    written? (.stream (.write payload), x) = some payload := by
  simp [written?, deed?_write]

@[simp] theorem written?_send (bytes : List UInt8) (target : Address) (x : Response) :
    written? (.send bytes target, x) = none := by
  by_cases hack : ∃ block, Packet.decode bytes = .ok (.ack block)
  · obtain ⟨block, hd⟩ := hack
    simp [written?, deed?_send_ack hd]
  · simp [written?, deed?_send_of_not_ack (fun b hb => hack ⟨b, hb⟩)]

@[simp] theorem written?_now (x : Response) : written? (.now, x) = none := rfl
@[simp] theorem written?_receive (t : Number) (phase : Option Phase) (y : Response) :
    written? (.receive t phase, y) = none := rfl
@[simp] theorem written?_closeStream (error : Option Failure) (x : Response) :
    written? (.closeStream error, x) = none := rfl
@[simp] theorem written?_closeSocket (x : Response) : written? (.closeSocket, x) = none := rfl
@[simp] theorem written?_report (stats : Stats) (x : Response) :
    written? (.report stats, x) = none := rfl

@[simp] theorem written?_of_deed?_none {e : Exchange} (h : e.deed? = none) : e.written? = none := by
  simp [written?, h]

@[simp] theorem arrival?_now (x : Response) : arrival? (.now, x) = none := rfl
@[simp] theorem arrival?_send (bytes : List UInt8) (target : Address) (x : Response) :
    arrival? (.send bytes target, x) = none := rfl
@[simp] theorem arrival?_write (payload : List UInt8) (x : Response) :
    arrival? (.stream (.write payload), x) = none := rfl
@[simp] theorem arrival?_closeStream (error : Option Failure) (x : Response) :
    arrival? (.closeStream error, x) = none := rfl
@[simp] theorem arrival?_closeSocket (x : Response) : arrival? (.closeSocket, x) = none := rfl
@[simp] theorem arrival?_localAddress (x : Response) : arrival? (.localAddress, x) = none := rfl
@[simp] theorem arrival?_report (stats : Stats) (x : Response) :
    arrival? (.report stats, x) = none := rfl

end Exchange

/-- The payloads written to the handler, in order, whatever the writes returned. -/
def writes (h : List Exchange) : List (List UInt8) := h.filterMap Exchange.written?

/-- The deeds of the exchanges `B` that follow a datagram, up to the next clock reading. -/
def reaction (B : List Exchange) : List Deed :=
  (B.takeWhile fun e => !e.isClock).filterMap Exchange.deed?

/-- What the rule makes of a datagram. -/
inductive Verdict where
  /-- deliver the payload of this block to the handler, then acknowledge it -/
  | deliver (block : Int) (payload : List UInt8)
  /-- acknowledge this block again -/
  | again (block : Int)
  /-- drop the datagram -/
  | drop
  deriving DecidableEq

/-- The payloads a verdict delivers. -/
def Verdict.payloads : Verdict → List (List UInt8)
  | .deliver _ payload => [payload]
  | _ => []

/-- The deeds that answer a verdict: a delivered payload is written and, once the write
    returned, acknowledged; a repeat is acknowledged once; a dropped datagram has no answer. -/
def Verdict.Answered : Verdict → List Deed → Prop
  | .deliver block payload, ds =>
    ds = [.wrote payload true, .acked block] ∨ ds = [.wrote payload false]
  | .again block, ds => ds = [.acked block]
  | .drop, ds => ds = []

/-- What the rule has delivered: the peer it is pinned to, if any yet, and the payloads
    delivered, in order. -/
structure Delivered where
  peer : Option Address
  payloads : List (List UInt8)

namespace Delivered

/-- Before any datagram: a server knows its peer, a client does not yet. -/
def start (client : Bool) (server : Address) : Delivered :=
  ⟨if client then none else some server, []⟩

/-- A payload shorter than a block was delivered: the transfer is complete. -/
def complete (d : Delivered) : Bool :=
  match d.payloads.getLast? with
  | some p => decide (p.length < blockSize)
  | none => false

/-- The block number of the last delivered payload, counting from 1 and wrapping after 65535;
    0 before any. -/
def lastBlock (d : Delivered) : Int := ((d.payloads.length % 65536 : Nat) : Int)

/-- The block number the next payload must carry. -/
def nextBlock (d : Delivered) : Int := (((d.payloads.length + 1) % 65536 : Nat) : Int)

/-- The rule takes datagrams from the source: no peer is pinned yet, or it is the peer. -/
def takesFrom (d : Delivered) (source : Address) : Bool :=
  match d.peer with
  | some peer => peer == source
  | none => true

/-- What the rule makes of a packet from a source. -/
def judge (d : Delivered) (source : Address) : Packet → Verdict
  | .data block payload =>
    if d.takesFrom source then
      if d.complete = false ∧ block = d.nextBlock then .deliver block payload
      else if d.payloads ≠ [] ∧ block = d.lastBlock then .again block
      else .drop
    else .drop
  | _ => .drop

/-- What the rule makes of a datagram: one that does not decode is dropped. -/
def verdict (d : Delivered) (bytes : List UInt8) (source : Address) : Verdict :=
  match Packet.decode bytes with
  | .ok p => d.judge source p
  | .error _ => .drop

/-- The record after a datagram: one that decodes pins the peer, and a delivered payload is
    added. -/
def take (d : Delivered) (bytes : List UInt8) (source : Address) : Delivered :=
  match Packet.decode bytes with
  | .error _ => d
  | .ok p =>
    { peer := some (d.peer.getD source)
      payloads := match d.judge source p with
        | .deliver _ payload => d.payloads ++ [payload]
        | _ => d.payloads }

/-- The record after one exchange: only arrivals change it. -/
def step (d : Delivered) (e : Exchange) : Delivered :=
  match e.arrival? with
  | some (bytes, source) => d.take bytes source
  | none => d

/-- The record after the exchanges of a run. -/
def after (d : Delivered) (h : List Exchange) : Delivered := h.foldl step d

@[simp] theorem after_nil (d : Delivered) : d.after [] = d := rfl

@[simp] theorem after_append (d : Delivered) (h t : List Exchange) :
    d.after (h ++ t) = (d.after h).after t := List.foldl_append

@[simp] theorem after_cons (d : Delivered) (e : Exchange) (h : List Exchange) :
    d.after (e :: h) = (d.step e).after h := rfl

theorem step_of_arrival?_none {d : Delivered} {e : Exchange} (he : e.arrival? = none) :
    d.step e = d := by
  simp [step, he]

@[simp] theorem step_now (d : Delivered) (x : Response) : d.step (.now, x) = d := rfl
@[simp] theorem step_send (d : Delivered) (bytes : List UInt8) (target : Address) (x : Response) :
    d.step (.send bytes target, x) = d := rfl
@[simp] theorem step_write (d : Delivered) (payload : List UInt8) (x : Response) :
    d.step (.stream (.write payload), x) = d := rfl
@[simp] theorem step_closeStream (d : Delivered) (error : Option Failure) (x : Response) :
    d.step (.closeStream error, x) = d := rfl
@[simp] theorem step_closeSocket (d : Delivered) (x : Response) : d.step (.closeSocket, x) = d :=
  rfl
@[simp] theorem step_report (d : Delivered) (stats : Stats) (x : Response) :
    d.step (.report stats, x) = d := rfl

@[simp] theorem step_arrival (d : Delivered) (t : Number) (phase : Option Phase)
    (bytes : List UInt8) (source : Address) :
    d.step (.receive t phase, .datagram bytes source) = d.take bytes source := rfl

end Delivered

end Tftp

namespace Tftp

/-! ## The views after one more step -/

@[simp] theorem writes_nil : writes [] = [] := rfl

@[simp] theorem writes_append (h t : List Exchange) : writes (h ++ t) = writes h ++ writes t :=
  List.filterMap_append

@[simp] theorem writes_cons (e : Exchange) (h : List Exchange) :
    writes (e :: h) = (e.written?.toList) ++ writes h := by
  cases he : e.written? <;> simp [writes, he]

@[simp] theorem reaction_nil : reaction [] = [] := rfl

theorem reaction_cons (e : Exchange) (B : List Exchange) :
    reaction (e :: B) = if e.isClock then [] else e.deed?.toList ++ reaction B := by
  cases hc : e.isClock <;> cases hd : e.deed? <;> simp [reaction, hc, hd]

/-- Exchanges whose deeds all come after a clock reading do not change what answers an earlier
    datagram. -/
theorem reaction_append_of_quiet {B δ : List Exchange} (hδ : reaction δ = []) :
    reaction (B ++ δ) = reaction B := by
  induction B with
  | nil => exact hδ
  | cons e B ih =>
    simp only [List.cons_append, reaction_cons]
    split
    · rfl
    · rw [ih]

end Tftp

namespace Tftp

namespace Delivered

/-- What a datagram adds to the record: the payload it delivers, if the verdict is to deliver. -/
theorem take_payloads (d : Delivered) (bytes : List UInt8) (source : Address) :
    (d.take bytes source).payloads = d.payloads ++ (d.verdict bytes source).payloads := by
  unfold take verdict
  cases Packet.decode bytes with
  | error e => simp [Verdict.payloads]
  | ok p =>
    dsimp only
    cases d.judge source p <;> simp [Verdict.payloads]

/-- A datagram that decodes pins the record's peer, if it had none. -/
theorem take_peer (d : Delivered) (bytes : List UInt8) (source : Address) :
    (d.take bytes source).peer = match Packet.decode bytes with
      | .ok _ => some (d.peer.getD source)
      | .error _ => d.peer := by
  unfold take
  cases Packet.decode bytes <;> rfl

/-- The verdict on a DATA packet from a source the rule takes from. -/
theorem verdict_data {d : Delivered} {bytes : List UInt8} {source : Address} {block : Int}
    {payload : List UInt8} (hdec : Packet.decode bytes = .ok (.data block payload))
    (ht : d.takesFrom source = true) :
    d.verdict bytes source =
      if d.complete = false ∧ block = d.nextBlock then .deliver block payload
      else if d.payloads ≠ [] ∧ block = d.lastBlock then .again block else .drop := by
  simp only [verdict, hdec, judge, ht, if_true]

/-- Only DATA is ever delivered or acknowledged again. -/
theorem verdict_of_not_data {d : Delivered} {bytes : List UInt8} {source : Address} {p : Packet}
    (hdec : Packet.decode bytes = .ok p) (hp : ∀ block payload, p ≠ .data block payload) :
    d.verdict bytes source = .drop := by
  simp only [verdict, hdec]
  cases p with
  | data block payload => exact absurd rfl (hp block payload)
  | _ => rfl

theorem verdict_of_decode_error {d : Delivered} {bytes : List UInt8} {source : Address}
    {e : Malformation} (hdec : Packet.decode bytes = .error e) : d.verdict bytes source = .drop := by
  simp only [verdict, hdec]

/-- A source the rule does not take from is dropped. -/
theorem verdict_of_not_takesFrom {d : Delivered} {bytes : List UInt8} {source : Address}
    (ht : d.takesFrom source = false) : d.verdict bytes source = .drop := by
  unfold verdict
  split
  · next p _ =>
    cases p with
    | data block payload => simp only [judge, ht, Bool.false_eq_true, if_false]
    | _ => rfl
  · rfl

/-- A complete record delivers nothing more: at most it acknowledges a repeat again. -/
theorem verdict_ne_deliver_of_complete {d : Delivered} (hd : d.complete = true)
    (bytes : List UInt8) (source : Address) (block : Int) (payload : List UInt8) :
    d.verdict bytes source ≠ .deliver block payload := by
  unfold verdict
  split
  · next p _ =>
    cases p with
    | data b q =>
      simp only [judge, hd, Bool.true_eq_false, false_and, if_false]
      split
      · split <;> exact Verdict.noConfusion
      · exact Verdict.noConfusion
    | _ => exact Verdict.noConfusion
  · exact Verdict.noConfusion

/-- A complete transfer delivers nothing more. -/
theorem take_payloads_of_complete {d : Delivered} (hd : d.complete = true) (bytes : List UInt8)
    (source : Address) : (d.take bytes source).payloads = d.payloads := by
  rw [take_payloads]
  cases hv : d.verdict bytes source with
  | deliver block payload => exact absurd hv (verdict_ne_deliver_of_complete hd _ _ _ _)
  | again block => simp [Verdict.payloads]
  | drop => simp [Verdict.payloads]

/-- The rule delivers only the block after the last one, while not complete. -/
theorem verdict_deliver {d : Delivered} {bytes : List UInt8} {source : Address} {block : Int}
    {payload : List UInt8} (hv : d.verdict bytes source = .deliver block payload) :
    d.complete = false ∧ block = d.nextBlock := by
  unfold verdict at hv
  split at hv
  · next p _ =>
    cases p with
    | data b q =>
      simp only [judge] at hv
      split at hv
      · split at hv
        · next hc => cases hv; exact hc
        · split at hv <;> cases hv
      · cases hv
    | _ => cases hv
  · cases hv

/-- A verdict that delivers nothing leaves the payloads as they were. -/
theorem take_payloads_of_nil {d : Delivered} {bytes : List UInt8} {source : Address}
    (hv : (d.verdict bytes source).payloads = []) : (d.take bytes source).payloads = d.payloads := by
  rw [take_payloads, hv, List.append_nil]

/-- A complete record has delivered a payload. -/
theorem payloads_ne_nil_of_complete {d : Delivered} (hd : d.complete = true) : d.payloads ≠ [] := by
  intro hnil
  simp [complete, hnil] at hd

/-- The rule acknowledges again only the last delivered block, once one was. -/
theorem verdict_again {d : Delivered} {bytes : List UInt8} {source : Address} {block : Int}
    (hv : d.verdict bytes source = .again block) : d.payloads ≠ [] ∧ block = d.lastBlock := by
  unfold verdict at hv
  split at hv
  · next p _ =>
    cases p with
    | data b q =>
      simp only [judge] at hv
      split at hv
      · split at hv
        · cases hv
        · split at hv
          · next ha => cases hv; exact ha
          · cases hv
      · cases hv
    | _ => cases hv
  · cases hv

theorem step_payloads_of_complete {d : Delivered} (hd : d.complete = true) (e : Exchange) :
    (d.step e).payloads = d.payloads := by
  unfold step
  split
  · exact take_payloads_of_complete hd _ _
  · rfl

/-- Once complete, the record of payloads stays as it is over the rest of the run. -/
theorem after_payloads_of_complete {d : Delivered} (hd : d.complete = true) (h : List Exchange) :
    (d.after h).payloads = d.payloads := by
  induction h generalizing d with
  | nil => rfl
  | cons e h ih =>
    have hstep := step_payloads_of_complete hd e
    have hc : (d.step e).complete = true := by simpa [complete, hstep] using hd
    rw [after_cons, ih hc, hstep]

/-- Once complete, a record stays complete over the rest of the run. -/
theorem complete_after {d : Delivered} (hd : d.complete = true) (h : List Exchange) :
    (d.after h).complete = true := by
  unfold complete at hd ⊢
  rw [after_payloads_of_complete hd]
  exact hd

/-- The block number after one more delivered payload is the one it had to carry. -/
theorem lastBlock_append (d : Delivered) (payload : List UInt8) :
    ({ d with payloads := d.payloads ++ [payload] } : Delivered).lastBlock = d.nextBlock := by
  simp [lastBlock, nextBlock]

end Delivered

/-! ## What a receiver's run must show -/

/-- What a receiver writes before any datagram: a server first waits, with a write of nothing,
    until its handler reads. -/
def handshake (client : Bool) : List (List UInt8) := if client then [] else [[]]

/-- Every datagram that arrived is answered by the rule's verdict on it. -/
def AnswersByRule (d₀ : Delivered) (H : List Exchange) : Prop :=
  ∀ A e B, H = A ++ e :: B → ∀ bytes source, e.arrival? = some (bytes, source) →
    ((d₀.after A).verdict bytes source).Answered (reaction B)

/-- Every acknowledgement comes after the writes of the handshake and of every payload the rule
    delivered so far, each of which returned, and acknowledges the last delivered block. -/
def AcksFollowWrites (client : Bool) (d₀ : Delivered) (H : List Exchange) : Prop :=
  ∀ A e B, H = A ++ e :: B → ∀ block, e.deed? = some (.acked block) →
    writes A = handshake client ++ (d₀.after A).payloads ∧
    (∀ payload returned, Deed.wrote payload returned ∈ A.filterMap Exchange.deed? →
      returned = true) ∧
    block = (d₀.after A).lastBlock

variable {d₀ : Delivered} {client : Bool} {h δ : List Exchange}

/-- Exchanges whose deeds come only after a clock reading leave the answers to earlier datagrams
    as they were; the datagrams among them must be answered in turn. -/
theorem AnswersByRule.append (hh : AnswersByRule d₀ h) (hδ : reaction δ = [])
    (hnew : ∀ A e B, δ = A ++ e :: B → ∀ bytes source, e.arrival? = some (bytes, source) →
      ((d₀.after (h ++ A)).verdict bytes source).Answered (reaction B)) :
    AnswersByRule d₀ (h ++ δ) := by
  unfold AnswersByRule
  rw [forall_split_append]
  refine ⟨?_, hnew⟩
  intro A e B hsplit bytes source harr
  rw [reaction_append_of_quiet hδ]
  exact hh A e B hsplit bytes source harr

/-- Acknowledgements before the new exchanges keep what they had; new ones are checked with
    the whole run before them. -/
theorem AcksFollowWrites.append (hh : AcksFollowWrites client d₀ h)
    (hnew : ∀ A e B, δ = A ++ e :: B → ∀ block, e.deed? = some (.acked block) →
      writes (h ++ A) = handshake client ++ (d₀.after (h ++ A)).payloads ∧
      (∀ payload returned, Deed.wrote payload returned ∈ (h ++ A).filterMap Exchange.deed? →
        returned = true) ∧
      block = (d₀.after (h ++ A)).lastBlock) :
    AcksFollowWrites client d₀ (h ++ δ) := by
  unfold AcksFollowWrites
  rw [forall_split_append]
  exact ⟨fun A e B hsplit => hh A e (B) hsplit, hnew⟩

end Tftp

namespace Tftp

/-- After the exchanges `A`, the exchange `e` sends, without a failure, the acknowledgement of
    the last delivered payload, which was short, once every delivered payload was written. -/
def AcksLastAt (client : Bool) (d₀ : Delivered) (A : List Exchange) (e : Exchange) : Prop :=
  ∃ bytes target x, e = (.send bytes target, x) ∧ x.failedSend = false ∧
    Packet.decode bytes = .ok (.ack (d₀.after A).lastBlock) ∧ (d₀.after A).complete = true ∧
    writes A = handshake client ++ (d₀.after A).payloads

/-- After every such acknowledgement the timer could not be restarted: the clock reading right
    after it was too large to add the timeout to. -/
def TimerFailsAfterLastAck (client : Bool) (d₀ : Delivered) (seconds : Number)
    (H : List Exchange) : Prop :=
  ∀ A e B, H = A ++ e :: B → AcksLastAt client d₀ A e →
    ∃ t B', B = (.now, t) :: B' ∧ (Setup.clockOf t).add? seconds = none

variable {client : Bool} {d₀ : Delivered} {seconds : Number} {h δ H : List Exchange}

/-- Some exchange of the run acknowledged the last block. -/
def AcksLast (client : Bool) (d₀ : Delivered) (H : List Exchange) : Prop :=
  ∃ A e B, H = A ++ e :: B ∧ AcksLastAt client d₀ A e

/-- The first close of the handler's end of the pipe in the run gave no fault, and nothing was
    written to the handler after it. -/
def ClosesClean (H : List Exchange) : Prop :=
  ∃ (A : List Exchange) (x : Response) (B : List Exchange), H = A ++ (.closeStream none, x) :: B ∧
    (∀ e ∈ A, e.streamClose? = none) ∧ writes B = []

/-- The contract of a receiver's whole run `H`, for a client, or a server of the peer `server`,
    with the timeout `seconds`; `done` says whether the session ended done. -/
structure ReceiverContract (client : Bool) (server : Address) (seconds : Number) (done : Prop)
    (H : List Exchange) : Prop where
  /-- the handler is written the handshake, then each payload the rule delivered, once, in
      order -/
  writes : writes H = handshake client ++ ((Delivered.start client server).after H).payloads
  /-- every datagram is answered by the rule's verdict on it -/
  answered : AnswersByRule (Delivered.start client server) H
  /-- every acknowledgement follows the writes, all returned, of the blocks it acknowledges -/
  acks : AcksFollowWrites client (Delivered.start client server) H
  /-- a session that ended done acknowledged the last block, then closed the pipe cleanly -/
  finished : done → AcksLast client (Delivered.start client server) H ∧ ClosesClean H
  /-- a session that did not end done could not restart its timer after acknowledging a last
      block -/
  unfinished : ¬ done → TimerFailsAfterLastAck client (Delivered.start client server) seconds H

/-- A run that acknowledged the last block has a complete record. -/
theorem AcksLast.complete (hl : AcksLast client d₀ H) : (d₀.after H).complete = true := by
  obtain ⟨A, e, B, rfl, hlast⟩ := hl
  obtain ⟨_, _, _, _, _, _, hcomplete, _⟩ := hlast
  rw [Delivered.after_append]
  exact Delivered.complete_after hcomplete (e :: B)

/-- A run whose record is not complete acknowledged no last block. -/
theorem TimerFailsAfterLastAck.of_incomplete (hinc : (d₀.after H).complete = false) :
    TimerFailsAfterLastAck client d₀ seconds H := by
  rintro A e B rfl ⟨_, _, _, _, _, _, hcomplete, _⟩
  have hall := Delivered.complete_after hcomplete (e :: B)
  rw [← Delivered.after_append, hinc] at hall
  cases hall

/-- Acknowledgements of the last block before the new exchanges keep the failed timer after
    them; new ones are checked where they are. -/
theorem TimerFailsAfterLastAck.append (hh : TimerFailsAfterLastAck client d₀ seconds h)
    (hnew : ∀ A e B, δ = A ++ e :: B → AcksLastAt client d₀ (h ++ A) e →
      ∃ t B', B = (.now, t) :: B' ∧ (Setup.clockOf t).add? seconds = none) :
    TimerFailsAfterLastAck client d₀ seconds (h ++ δ) := by
  unfold TimerFailsAfterLastAck
  rw [forall_split_append]
  refine ⟨?_, hnew⟩
  intro A e B hsplit hlast
  obtain ⟨t, B', rfl, hadd⟩ := hh A e B hsplit hlast
  exact ⟨t, B' ++ δ, rfl, hadd⟩

end Tftp
