import Tftp.Proofs.Sender.Steps

/-! # The sender's invariants

    What a sending session keeps from step to step: its run follows the rule (`FollowsRule`), and
    its state agrees with the rule's record of the run (`Sending.Agrees`: its counters and its
    peer).  Between two steps a sender is in one of four states, each a structure over the run:

    * `Sending.Ready`: the last block, or the request, was acknowledged, and the blocks sent so
      far are the stream read so far cut into full blocks.  The sender reads the next block.
    * `Sending.Waiting`: the last block sent waits for its acknowledgement; every block but the
      last is full, and the packet the sender resends is the last block, or the request.
    * `Sending.Done`: the last block was short and acknowledged.
    * `Sending.Failing`: the run follows the rule, and the transfer did not finish.

    The step lemmas say which exchanges keep which state: a block read and sent takes `Ready` to
    `Waiting` (`Ready.sent`); an acknowledgement of the last block takes `Waiting` to `Ready`, or
    to `Done` after the last block (`Waiting.accept`, `Waiting.acceptLast`); every other exchange
    of a waiting sender keeps it waiting (`Waiting.quiet`, `Waiting.silent`, `Waiting.foreign`,
    `Waiting.pass`, `Waiting.resent`).  A failure at any point leaves `Failing`. -/

namespace Tftp

/-! ## The rule's record of a run -/

namespace Setup

/-- The sender's record after the exchanges `h` of a session set up by `st`. -/
def pushed (st : Setup) (h : List Exchange) : Pushed :=
  (Pushed.start st.client st.peer).after h

@[simp] theorem pushed_nil (st : Setup) : st.pushed [] = Pushed.start st.client st.peer := rfl

@[simp] theorem pushed_append (st : Setup) (h t : List Exchange) :
    st.pushed (h ++ t) = (st.pushed h).after t := by
  simp [pushed]

end Setup

namespace Exchange

/-- The exchange neither reads, sends nor receives: a clock reading, the socket's address, the
    closing of the pipe or of the socket, the report. -/
def isQuiet : Exchange → Bool
  | (.now, _) | (.localAddress, _) | (.closeStream _, _) | (.closeSocket, _) | (.report _, _) =>
    true
  | _ => false

@[simp] theorem isQuiet_now (x : Response) : isQuiet (.now, x) = true := rfl
@[simp] theorem isQuiet_localAddress (x : Response) : isQuiet (.localAddress, x) = true := rfl
@[simp] theorem isQuiet_closeStream (error : Option Failure) (x : Response) :
    isQuiet (.closeStream error, x) = true := rfl
@[simp] theorem isQuiet_closeSocket (x : Response) : isQuiet (.closeSocket, x) = true := rfl
@[simp] theorem isQuiet_report (stats : Stats) (x : Response) : isQuiet (.report stats, x) = true :=
  rfl

theorem read?_of_isQuiet {e : Exchange} (he : e.isQuiet = true) : e.read? = none := by
  obtain ⟨r, x⟩ := e
  cases r with
  | send _ _ | receive _ _ | stream _ => cases he
  | _ => rfl

end Exchange

/-- Exchanges that neither read, send nor receive read no bytes. -/
theorem readBytes_of_isQuiet {δ : List Exchange} (hδ : ∀ e ∈ δ, e.isQuiet = true) :
    readBytes δ = [] := by
  simp only [readBytes, List.flatten_eq_nil_iff, List.mem_filterMap]
  rintro l ⟨e, he, hread⟩
  rw [Exchange.read?_of_isQuiet (hδ e he)] at hread
  cases hread

/-- A request's encoding never reads back as DATA. -/
theorem wrq_encode_not_data {filename mode : Value} {bytes : List UInt8}
    (henc : (Draft.wrq filename mode).encode = .ok bytes) (block : Int) (payload : List UInt8) :
    Packet.decode bytes ≠ .ok (.data block payload) := fun hdec =>
  Opcode.noConfusion (wrq_encode_opcode henc hdec)

/-- An ERROR's encoding never reads back as DATA. -/
theorem error_encode_not_data {code message : Value} {bytes : List UInt8}
    (henc : (Draft.error code message).encode = .ok bytes) (block : Int) (payload : List UInt8) :
    Packet.decode bytes ≠ .ok (.data block payload) := fun hdec =>
  Opcode.noConfusion (error_encode_opcode henc hdec)

namespace Pushed

/-- The sender's counters the record gives: the number of the last block sent, the block, and
    whether it is the stream's last. -/
def counters (d : Pushed) : Sender := ⟨.int d.lastBlock, d.payloads.getLast?, d.lastShort⟩

/-- The packet a waiting sender resends: its last block, or before any its request. -/
def resend (d : Pushed) (st : Setup) : Draft :=
  match d.payloads.getLast? with
  | some payload => .data (.int d.lastBlock) payload
  | none => .wrq st.filename st.mode

/-- The blocks sent are the bytes `read` so far cut into blocks: each is full but the last, which
    may be short. -/
structure Chunks (d : Pushed) (read : List UInt8) : Prop where
  full : ∀ q ∈ d.payloads.dropLast, q.length = blockSize
  fits : ∀ q ∈ d.payloads, q.length ≤ blockSize
  read : read = d.payloads.flatten

variable {d : Pushed} {client : Bool} {read : List UInt8} {eof : Prop}

theorem step_of_isQuiet {e : Exchange} (he : e.isQuiet = true) : d.step e = d := by
  obtain ⟨r, x⟩ := e
  cases r with
  | send _ _ | receive _ _ | stream _ => cases he
  | _ => rfl

theorem step_of_isRead {e : Exchange} (he : e.isRead = true) : d.step e = d := by
  obtain ⟨r, x⟩ := e
  cases r with
  | stream _ => rfl
  | _ => cases he

/-- The record stays as it is over exchanges that each leave it so. -/
theorem after_of_step_eq {δ : List Exchange} (hδ : ∀ e ∈ δ, d.step e = d) : d.after δ = d := by
  induction δ with
  | nil => rfl
  | cons e δ ih =>
    rw [after_cons, hδ e (List.mem_cons_self ..)]
    exact ih fun e' he' => hδ e' (List.mem_cons_of_mem _ he')

theorem after_of_isQuiet {δ : List Exchange} (hδ : ∀ e ∈ δ, e.isQuiet = true) : d.after δ = d :=
  after_of_step_eq fun e he => step_of_isQuiet (hδ e he)

theorem after_of_isRead {δ : List Exchange} (hδ : ∀ e ∈ δ, e.isRead = true) : d.after δ = d :=
  after_of_step_eq fun e he => step_of_isRead (hδ e he)

/-- The rule permits every exchange that neither reads, sends nor receives. -/
theorem permits_of_isQuiet {e : Exchange} (he : e.isQuiet = true) :
    d.Permits client read eof e := by
  obtain ⟨r, x⟩ := e
  cases r with
  | send _ _ | receive _ _ | stream _ => cases he
  | _ => trivial

/-- The rule permits a read once the last block was acknowledged. -/
theorem permits_of_isRead {e : Exchange} (he : e.isRead = true) (hacked : d.acked = true) :
    d.Permits client read eof e := by
  obtain ⟨r, x⟩ := e
  cases r with
  | stream call =>
    cases call with
    | read cut waiting => exact hacked
    | _ => cases he
  | _ => cases he

/-- The rule permits every datagram sent that is no DATA, and changes nothing for it. -/
theorem permits_send_of_not_data {bytes : List UInt8} {target : Address} {x : Response}
    (hnot : ∀ block payload, Packet.decode bytes ≠ .ok (.data block payload)) :
    d.Permits client read eof (.send bytes target, x) :=
  fun block payload hdec => absurd hdec (hnot block payload)

end Pushed

/-! ## Following the rule, exchange by exchange -/

variable {client : Bool} {d₀ : Pushed} {h δ : List Exchange}

/-- The rule is followed after one more exchange permitted where it stands. -/
theorem FollowsRule.snoc {e : Exchange} (hh : FollowsRule client d₀ h)
    (he : (d₀.after h).Permits client (readBytes h) (EndOfStream h) e) :
    FollowsRule client d₀ (h ++ [e]) := by
  apply hh.append
  rw [forall_split_cons]
  refine ⟨?_, forall_split_nil⟩
  rw [List.append_nil]
  exact he

/-- A run that neither read, sent nor received keeps to the rule. -/
theorem FollowsRule.of_isQuiet (hh : ∀ e ∈ h, e.isQuiet = true) : FollowsRule client d₀ h := by
  rintro A e B rfl
  exact Pushed.permits_of_isQuiet (hh e (by simp))

/-- Exchanges that neither read, send nor receive keep to the rule. -/
theorem FollowsRule.quiet (hh : FollowsRule client d₀ h) (hδ : ∀ e ∈ δ, e.isQuiet = true) :
    FollowsRule client d₀ (h ++ δ) := by
  apply hh.append
  rintro A e B rfl
  exact Pushed.permits_of_isQuiet (hδ e (by simp))

/-- Reads keep to the rule once the last block was acknowledged. -/
theorem FollowsRule.reads (hh : FollowsRule client d₀ h) (hacked : (d₀.after h).acked = true)
    (hδ : ∀ e ∈ δ, e.isRead = true) : FollowsRule client d₀ (h ++ δ) := by
  apply hh.append
  rintro A e B rfl
  have hA : d₀.after (h ++ A) = d₀.after h := by
    rw [Pushed.after_append, Pushed.after_of_isRead fun e' he' => hδ e' (by simp [he'])]
  rw [hA]
  exact Pushed.permits_of_isRead (hδ e (by simp)) hacked

namespace Pushed

variable {d : Pushed} {read : List UInt8} {block : List UInt8}

@[simp] theorem counters_start (client : Bool) (server : Address) :
    (start client server).counters = ⟨.int 0, none, false⟩ := rfl

theorem chunks_start (client : Bool) (server : Address) : (start client server).Chunks [] where
  full := by simp [start]
  fits := by simp [start]
  read := rfl

/-- The record after the next block was sent. -/
def pushBlock (d : Pushed) (block : List UInt8) : Pushed :=
  { d with payloads := d.payloads ++ [block], acked := false }

@[simp] theorem pushBlock_peer : (d.pushBlock block).peer = d.peer := rfl
@[simp] theorem pushBlock_payloads : (d.pushBlock block).payloads = d.payloads ++ [block] := rfl
@[simp] theorem pushBlock_acked : (d.pushBlock block).acked = false := rfl

theorem counters_pushBlock :
    (d.pushBlock block).counters = ⟨.int d.nextBlock, some block, decide (block.length < blockSize)⟩ := by
  simp [counters, lastBlock, nextBlock, lastShort]

theorem resend_pushBlock (st : Setup) :
    (d.pushBlock block).resend st = .data (.int d.nextBlock) block := by
  simp [resend, lastBlock, nextBlock]

/-- Blocks cut from the stream whose last is not short are all full. -/
theorem Chunks.full_of_more (hc : d.Chunks read) (hmore : d.lastShort = false) :
    ∀ q ∈ d.payloads, q.length = blockSize := by
  intro q hq
  cases hlast : d.payloads.getLast? with
  | none =>
    rw [List.getLast?_eq_none_iff] at hlast
    rw [hlast] at hq
    cases hq
  | some p =>
    obtain ⟨ys, hys⟩ := List.getLast?_eq_some_iff.mp hlast
    have hp : ¬ p.length < blockSize := by
      simpa [lastShort, hlast] using hmore
    rw [hys] at hq
    rcases List.mem_append.mp hq with hq | hq
    · exact hc.full q (by rw [hys, List.dropLast_concat]; exact hq)
    · have hfits := hc.fits p (by rw [hys]; simp)
      rw [List.mem_singleton.mp hq]
      omega

/-- A block sent after full blocks is cut from the stream read on. -/
theorem Chunks.push (hc : d.Chunks read) (hfull : ∀ q ∈ d.payloads, q.length = blockSize)
    (hlen : block.length ≤ blockSize) : (d.pushBlock block).Chunks (read ++ block) where
  full := by
    rw [pushBlock_payloads, List.dropLast_concat]
    exact hfull
  fits := by
    intro q hq
    rcases List.mem_append.mp hq with hq | hq
    · exact Nat.le_of_eq (hfull q hq)
    · rw [List.mem_singleton.mp hq]
      exact hlen
  read := by
    rw [hc.read]
    simp

theorem take_of_decode {bytes : List UInt8} {source : Address} {p : Packet}
    (hdec : Packet.decode bytes = .ok p) :
    d.take bytes source =
      { d with
        peer := some (d.peer.getD source)
        acked := d.acked || (d.acksLast p && d.takesFrom source) } := by
  simp [take, hdec]

theorem take_of_decode_error {bytes : List UInt8} {source : Address} {e : Malformation}
    (hdec : Packet.decode bytes = .error e) : d.take bytes source = d := by
  simp [take, hdec]

/-- The record takes from a source the session accepts. -/
theorem takesFrom_of_accepted {s : Session} {source : Address}
    (hpeer : d.peer = if s.pinned then some s.peer else none)
    (hsrc : s.pinned = true → source = s.peer) : d.takesFrom source = true := by
  unfold takesFrom
  cases hpin : s.pinned with
  | false => rw [hpeer, hpin]; rfl
  | true => rw [hpeer, hpin]; simp [hsrc hpin]

/-- A datagram from a source other than the pinned peer changes nothing. -/
theorem take_of_foreign {bytes : List UInt8} {source peer : Address} {p : Packet}
    (hdec : Packet.decode bytes = .ok p) (hpeer : d.peer = some peer) (hsrc : peer ≠ source) :
    d.take bytes source = d := by
  have htakes : d.takesFrom source = false := by
    simp [takesFrom, hpeer, hsrc]
  rw [take_of_decode hdec, htakes, Bool.and_false, Bool.or_false]
  cases d with
  | mk peer' payloads acked =>
    simp only at hpeer
    subst hpeer
    rfl

/-- The counters, the packet to resend and the cutting of the stream depend only on the blocks
    sent. -/
theorem lastShort_of_payloads {d' : Pushed} (hpay : d'.payloads = d.payloads) :
    d'.lastShort = d.lastShort := by
  simp [lastShort, hpay]

theorem counters_of_payloads {d' : Pushed} (hpay : d'.payloads = d.payloads) :
    d'.counters = d.counters := by
  simp [counters, lastBlock, lastShort_of_payloads hpay, hpay]

theorem resend_of_payloads {d' : Pushed} (hpay : d'.payloads = d.payloads) (st : Setup) :
    d'.resend st = d.resend st := by
  simp [resend, lastBlock, hpay]

theorem Chunks.of_payloads {d' : Pushed} (hc : d.Chunks read) (hpay : d'.payloads = d.payloads) :
    d'.Chunks read := by
  obtain ⟨hfull, hfits, hread⟩ := hc
  exact ⟨hpay ▸ hfull, hpay ▸ hfits, hpay ▸ hread⟩

/-- The packet resent reads back as DATA only when it is the last block. -/
theorem resend_decode {st : Setup} {bytes : List UInt8} {block : Int} {payload : List UInt8}
    (henc : (d.resend st).encode = .ok bytes) (hdec : Packet.decode bytes = .ok (.data block payload)) :
    block = d.lastBlock ∧ d.payloads.getLast? = some payload := by
  unfold resend at henc
  cases hlast : d.payloads.getLast? with
  | none =>
    rw [hlast] at henc
    exact absurd hdec (wrq_encode_not_data henc block payload)
  | some q =>
    rw [hlast] at henc
    have hq := (data_round_trip d.lastBlock q).2.2 bytes henc
    rw [hdec, Except.ok.injEq, Packet.data.injEq] at hq
    obtain ⟨rfl, rfl⟩ := hq
    exact ⟨rfl, rfl⟩

/-- A datagram that decodes pins the record's peer as it pins the session's. -/
theorem peer_pinTo {s : Session} {source : Address}
    (hpeer : d.peer = if s.pinned then some s.peer else none) :
    some (d.peer.getD source) =
      if (s.pinTo source).pinned then some (s.pinTo source).peer else none := by
  unfold Session.pinTo
  cases hpin : s.pinned with
  | false => simp [hpeer, hpin]
  | true => simp [hpeer, hpin]

end Pushed

/-! ## The states of a sender -/

namespace Sending

variable {st : Setup} {s s' : Session} {h δ : List Exchange}

/-- The session's state agrees with the rule's record `d`: its counters are the record's, and so
    is its peer. -/
structure Agrees (s : Session) (d : Pushed) : Prop where
  role : s.role = .sender d.counters
  peer : d.peer = if s.pinned then some s.peer else none

/-- A sender ready to read its next block. -/
structure Ready (st : Setup) (s : Session) (h : List Exchange) : Prop where
  agrees : Agrees s (st.pushed h)
  phase : s.phase = some .awaitData
  /-- the last block sent, or the request, was acknowledged -/
  acked : (st.pushed h).acked = true
  chunks : (st.pushed h).Chunks (readBytes h)
  /-- and it was not the stream's last -/
  more : (st.pushed h).lastShort = false
  follows : FollowsRule st.client (Pushed.start st.client st.peer) h

/-- A sender waiting for the acknowledgement of its last block, or of its request. -/
structure Waiting (st : Setup) (s : Session) (h : List Exchange) : Prop where
  agrees : Agrees s (st.pushed h)
  phase : s.phase = some .awaitAck
  acked : (st.pushed h).acked = false
  chunks : (st.pushed h).Chunks (readBytes h)
  resend : s.lastPacket = some ((st.pushed h).resend st)
  /-- a short block was sent only at the end of the stream -/
  eof : (st.pushed h).lastShort = true → EndOfStream h
  /-- a server waits only once it sent a block -/
  started : st.client = true ∨ (st.pushed h).payloads ≠ []
  follows : FollowsRule st.client (Pushed.start st.client st.peer) h

/-- A sender whose last block was short and acknowledged. -/
structure Done (st : Setup) (s : Session) (h : List Exchange) : Prop where
  agrees : Agrees s (st.pushed h)
  phase : s.phase = some .done
  acked : (st.pushed h).acked = true
  lastShort : (st.pushed h).lastShort = true
  eof : EndOfStream h
  read : readBytes h = (st.pushed h).payloads.flatten
  follows : FollowsRule st.client (Pushed.start st.client st.peer) h

/-- A run that follows the rule and has not finished the transfer: what a failure leaves. -/
structure Failing (st : Setup) (h : List Exchange) : Prop where
  follows : FollowsRule st.client (Pushed.start st.client st.peer) h
  unfinished : ¬((st.pushed h).acked = true ∧ (st.pushed h).lastShort = true)

/-! ## Failing -/

theorem Failing.of_unacked (hf : FollowsRule st.client (Pushed.start st.client st.peer) h)
    (hacked : (st.pushed h).acked = false) : Failing st h :=
  ⟨hf, fun hdone => by simp [hacked] at hdone⟩

/-- Exchanges that neither read, send nor receive leave a failing run failing. -/
theorem Failing.quiet (hf : Failing st h) (hδ : ∀ e ∈ δ, e.isQuiet = true) :
    Failing st (h ++ δ) := by
  refine ⟨hf.follows.quiet hδ, ?_⟩
  rw [Setup.pushed_append, Pushed.after_of_isQuiet hδ]
  exact hf.unfinished

/-- A datagram sent that is no DATA leaves a failing run failing. -/
theorem Failing.send (hf : Failing st h) {bytes : List UInt8} {target : Address} {x : Response}
    (hnot : ∀ block payload, Packet.decode bytes ≠ .ok (.data block payload)) :
    Failing st (h ++ [(.send bytes target, x)]) := by
  refine ⟨hf.follows.snoc (Pushed.permits_send_of_not_data hnot), ?_⟩
  rw [Setup.pushed_append, Pushed.after_cons, Pushed.step_send, Pushed.push_of_not_data hnot]
  exact hf.unfinished

theorem Ready.failing (hr : Ready st s h) : Failing st h :=
  ⟨hr.follows, fun hdone => by simp [hr.more] at hdone⟩

/-- Reads that fail the handler leave the transfer unfinished. -/
theorem Ready.readFailing (hr : Ready st s h) (hδ : ∀ e ∈ δ, e.isRead = true) :
    Failing st (h ++ δ) := by
  refine ⟨hr.follows.reads hr.acked hδ, ?_⟩
  rw [Setup.pushed_append, Pushed.after_of_isRead hδ]
  exact hr.failing.unfinished

theorem Waiting.failing (hw : Waiting st s h) : Failing st h :=
  Failing.of_unacked hw.follows hw.acked

/-! ## Reading and sending a block -/

section Send

variable {block bytes : List UInt8} {target : Address} {x : Response}

/-- Reading a block and sending it as the next DATA keeps to the rule. -/
theorem Ready.follows_send (hr : Ready st s h) (hg : Session.Gathers [] (.ok block) δ)
    (hdec : Packet.decode bytes = .ok (.data (st.pushed h).nextBlock block)) :
    FollowsRule st.client (Pushed.start st.client st.peer) (h ++ δ ++ [(.send bytes target, x)]) := by
  obtain ⟨hreads, hblock, hlen, heof⟩ := hg.of_ok
  have hafter : (Pushed.start st.client st.peer).after (h ++ δ) = st.pushed h := by
    rw [Pushed.after_append]
    exact Pushed.after_of_isRead hreads
  apply (hr.follows.reads hr.acked hreads).snoc
  rw [hafter]
  intro b payload hdec'
  rw [hdec, Except.ok.injEq, Packet.data.injEq] at hdec'
  obtain ⟨rfl, rfl⟩ := hdec'
  refine ⟨fun _ => ⟨rfl, ?_, hr.chunks.full_of_more hr.more, hlen,
    fun hshort => (heof hshort).append_left⟩, fun hne => ?_⟩
  · rw [readBytes_append, ← hr.chunks.read, hblock, List.nil_append]
  · rw [hr.acked] at hne
    cases hne

/-- The record after a block read and sent as the next DATA. -/
theorem Ready.pushed_send (hr : Ready st s h) (hg : Session.Gathers [] (.ok block) δ)
    (hdec : Packet.decode bytes = .ok (.data (st.pushed h).nextBlock block)) :
    st.pushed (h ++ δ ++ [(.send bytes target, x)]) = (st.pushed h).pushBlock block := by
  obtain ⟨hreads, -, -, -⟩ := hg.of_ok
  rw [Setup.pushed_append, Setup.pushed_append, Pushed.after_of_isRead hreads, Pushed.after_cons,
    Pushed.step_send, Pushed.push_fresh hdec hr.acked]
  rfl

/-- A block read and sent, whatever comes after, leaves the transfer unfinished. -/
theorem Ready.sendFailing (hr : Ready st s h) (hg : Session.Gathers [] (.ok block) δ)
    (hdec : Packet.decode bytes = .ok (.data (st.pushed h).nextBlock block)) :
    Failing st (h ++ δ ++ [(.send bytes target, x)]) :=
  Failing.of_unacked (hr.follows_send hg hdec) (by rw [hr.pushed_send hg hdec]; rfl)

/-- A block read and sent, with the timer restarted: the sender waits for its
    acknowledgement. -/
theorem Ready.sent (hr : Ready st s h) (hg : Session.Gathers [] (.ok block) δ)
    (hdec : Packet.decode bytes = .ok (.data (st.pushed h).nextBlock block)) (t : Response)
    (expiry : Number) :
    Waiting st (s.sentBlock (st.pushed h).nextBlock block expiry)
      (h ++ δ ++ [(.send bytes s.peer, x), (.now, t)]) := by
  obtain ⟨hreads, hblock, hlen, heof⟩ := hg.of_ok
  have hsplit : h ++ δ ++ [(.send bytes s.peer, x), (.now, t)] =
      h ++ δ ++ [(.send bytes s.peer, x)] ++ [(.now, t)] := by simp
  have hrec : st.pushed (h ++ δ ++ [(.send bytes s.peer, x), (.now, t)]) =
      (st.pushed h).pushBlock block := by
    rw [hsplit, Setup.pushed_append, hr.pushed_send hg hdec]
    rfl
  refine ⟨⟨?_, ?_⟩, rfl, ?_, ?_, ?_, ?_, ?_, ?_⟩
  · rw [hrec, Pushed.counters_pushBlock]
    rfl
  · rw [hrec]
    exact hr.agrees.peer
  · rw [hrec]
    rfl
  · rw [hrec]
    have hread : readBytes (h ++ δ ++ [(.send bytes s.peer, x), (.now, t)]) =
        readBytes h ++ block := by
      simp [hblock]
    rw [hread]
    exact hr.chunks.push (hr.chunks.full_of_more hr.more) hlen
  · rw [hrec, Pushed.resend_pushBlock]
    rfl
  · -- a short block ends the stream
    rw [hrec]
    intro hshort
    have hshort' : block.length < blockSize := by
      simpa [Pushed.lastShort] using hshort
    exact (heof hshort').append_left.append_right
  · rw [hrec]
    exact .inr (by simp)
  · rw [hsplit]
    exact (hr.follows_send hg hdec).quiet (by simp)

end Send

/-! ## Waiting for an acknowledgement -/

/-- A sender keeps waiting over exchanges that keep to the rule, read nothing and leave the
    blocks sent unacknowledged, if its counters, last packet and phase stay and its peer is the
    record's. -/
theorem Waiting.of_record (hw : Waiting st s h)
    (hf : FollowsRule st.client (Pushed.start st.client st.peer) (h ++ δ))
    (hpay : (st.pushed (h ++ δ)).payloads = (st.pushed h).payloads)
    (hacked : (st.pushed (h ++ δ)).acked = false) (hread : readBytes δ = [])
    (hpeer : (st.pushed (h ++ δ)).peer = if s'.pinned then some s'.peer else none)
    (hrole : s'.role = s.role) (hlast : s'.lastPacket = s.lastPacket)
    (hphase : s'.phase = s.phase) : Waiting st s' (h ++ δ) where
  agrees := ⟨by rw [hrole, hw.agrees.role, Pushed.counters_of_payloads hpay], hpeer⟩
  phase := hphase ▸ hw.phase
  acked := hacked
  chunks := by
    rw [readBytes_append, hread, List.append_nil]
    exact hw.chunks.of_payloads hpay
  resend := by rw [hlast, hw.resend, Pushed.resend_of_payloads hpay]
  eof := fun hshort =>
    (hw.eof (by rwa [Pushed.lastShort_of_payloads hpay] at hshort)).append_right
  started := by rw [hpay]; exact hw.started
  follows := hf

/-- Exchanges that neither read, send nor receive keep a sender waiting. -/
theorem Waiting.quiet (hw : Waiting st s h) (hδ : ∀ e ∈ δ, e.isQuiet = true)
    (hrole : s'.role = s.role) (hpinned : s'.pinned = s.pinned) (hpeer : s'.peer = s.peer)
    (hlast : s'.lastPacket = s.lastPacket) (hphase : s'.phase = s.phase) :
    Waiting st s' (h ++ δ) := by
  have hrec : st.pushed (h ++ δ) = st.pushed h := by
    rw [Setup.pushed_append, Pushed.after_of_isQuiet hδ]
  refine hw.of_record (hw.follows.quiet hδ) (by rw [hrec]) (by rw [hrec]; exact hw.acked)
    (readBytes_of_isQuiet hδ) ?_ hrole hlast hphase
  rw [hrec, hpinned, hpeer]
  exact hw.agrees.peer

section Datagram

variable {x : Response} {t : Number} {phase : Option Phase} {bytes : List UInt8}
  {source : Address}

/-- A receive after a clock reading keeps to the rule while the sender waits. -/
theorem Waiting.follows_receive (hw : Waiting st s h) (y : Response) :
    FollowsRule st.client (Pushed.start st.client st.peer)
      (h ++ [(.now, x), (.receive t phase, y)]) := by
  rw [show h ++ [(.now, x), (.receive t phase, y)] = h ++ [(.now, x)] ++ [(.receive t phase, y)]
    by simp]
  apply (hw.follows.quiet (by simp)).snoc
  have hrec : (Pushed.start st.client st.peer).after (h ++ [(.now, x)]) = st.pushed h := by
    simp [Setup.pushed]
  rw [hrec]
  exact hw.started

/-- Nothing usable comes: no datagram, or one that does not decode. -/
theorem Waiting.silent (hw : Waiting st s h) {y : Response}
    (hy : ∀ bytes source, y = .datagram bytes source → ∃ e, Packet.decode bytes = .error e) :
    Waiting st s (h ++ [(.now, x), (.receive t phase, y)]) := by
  have hrec : st.pushed (h ++ [(.now, x), (.receive t phase, y)]) = st.pushed h := by
    rw [Setup.pushed_append, Pushed.after_cons, Pushed.after_cons, Pushed.step_now]
    cases y with
    | datagram bytes source =>
      obtain ⟨e, he⟩ := hy bytes source rfl
      rw [Pushed.step_arrival, Pushed.take_of_decode_error he]
      rfl
    | _ => rfl
  refine hw.of_record (hw.follows_receive y) (by rw [hrec]) (by rw [hrec]; exact hw.acked)
    (by simp) ?_ rfl rfl rfl
  rw [hrec]
  exact hw.agrees.peer

/-- A datagram from a foreign source, refused with an ERROR, keeps the sender waiting. -/
theorem Waiting.foreign (hw : Waiting st s h) {p : Packet} {refusal : List UInt8} {z : Response}
    (hdec : Packet.decode bytes = .ok p) (hpin : s.pinned = true) (hsrc : source ≠ s.peer)
    (hrefusal : (Draft.error Session.foreignFault.code Session.foreignFault.message).encode = .ok refusal) :
    Waiting st s (h ++ [(.now, x), (.receive t phase, .datagram bytes source),
      (.send refusal source, z)]) := by
  have hpeer := hw.agrees.peer
  have hnot := error_encode_not_data hrefusal
  have hpinned : (st.pushed h).peer = some s.peer := by
    rw [hpeer, hpin]
    rfl
  have htake : (st.pushed h).take bytes source = st.pushed h :=
    Pushed.take_of_foreign hdec hpinned (Ne.symm hsrc)
  have hrecA : st.pushed (h ++ [(.now, x), (.receive t phase, .datagram bytes source)]) =
      st.pushed h := by
    rw [Setup.pushed_append, Pushed.after_cons, Pushed.after_cons, Pushed.step_now,
      Pushed.step_arrival, htake]
    rfl
  have hrec : st.pushed (h ++ [(.now, x), (.receive t phase, .datagram bytes source),
      (.send refusal source, z)]) = st.pushed h := by
    rw [show h ++ [(.now, x), (.receive t phase, .datagram bytes source), (.send refusal source, z)]
      = h ++ [(.now, x), (.receive t phase, .datagram bytes source)] ++ [(.send refusal source, z)]
      by simp, Setup.pushed_append, hrecA, Pushed.after_cons, Pushed.step_send,
      Pushed.push_of_not_data hnot]
    rfl
  refine hw.of_record ?_ (by rw [hrec]) (by rw [hrec]; exact hw.acked) (by simp) ?_ rfl rfl rfl
  · rw [show h ++ [(.now, x), (.receive t phase, .datagram bytes source), (.send refusal source, z)]
      = h ++ [(.now, x), (.receive t phase, .datagram bytes source)] ++ [(.send refusal source, z)]
      by simp]
    exact (hw.follows_receive _).snoc (Pushed.permits_send_of_not_data hnot)
  · rw [hrec]
    exact hpeer

/-- The record after a packet from a source the session accepts: the peer is pinned, and the
    last block is acknowledged if the packet acknowledges it. -/
theorem Waiting.pushed_arrive (hw : Waiting st s h) (x : Response) (t : Number)
    (phase : Option Phase) {p : Packet} (hdec : Packet.decode bytes = .ok p)
    (hsrc : s.pinned = true → source = s.peer) :
    st.pushed (h ++ [(.now, x), (.receive t phase, .datagram bytes source)]) =
      { st.pushed h with
        peer := some ((st.pushed h).peer.getD source)
        acked := (st.pushed h).acksLast p } := by
  rw [Setup.pushed_append, Pushed.after_cons, Pushed.after_cons, Pushed.step_now,
    Pushed.step_arrival, Pushed.take_of_decode hdec,
    Pushed.takesFrom_of_accepted hw.agrees.peer hsrc, hw.acked, Bool.false_or, Bool.and_true]
  rfl

/-- A packet from the peer that does not acknowledge the last block keeps the sender waiting,
    with its peer pinned. -/
theorem Waiting.pass (hw : Waiting st s h) {p : Packet} (hdec : Packet.decode bytes = .ok p)
    (hsrc : s.pinned = true → source = s.peer) (hnot : (st.pushed h).acksLast p = false) :
    Waiting st (s.pinTo source) (h ++ [(.now, x), (.receive t phase, .datagram bytes source)]) := by
  have hrec := hw.pushed_arrive x t phase hdec hsrc
  refine hw.of_record (hw.follows_receive _) (by rw [hrec]) (by rw [hrec]; exact hnot) (by simp)
    ?_ (Session.pinTo_role _ _) (Session.pinTo_lastPacket _ _) (Session.pinTo_phase _ _)
  rw [hrec]
  exact Pushed.peer_pinTo hw.agrees.peer

/-- The acknowledgement of the last block, from the peer, when the block was full: the sender
    reads the next. -/
theorem Waiting.accept (hw : Waiting st s h)
    (hdec : Packet.decode bytes = .ok (.ack (st.pushed h).lastBlock))
    (hsrc : s.pinned = true → source = s.peer) (hmore : (st.pushed h).lastShort = false) :
    Ready st ((s.pinTo source).ackAccepted (st.pushed h).counters)
      (h ++ [(.now, x), (.receive t phase, .datagram bytes source)]) := by
  have hrec := hw.pushed_arrive x t phase hdec hsrc
  have hacks : (st.pushed h).acksLast (.ack (st.pushed h).lastBlock) = true := by
    simp [Pushed.acksLast]
  refine ⟨⟨?_, ?_⟩, ?_, ?_, ?_, ?_, hw.follows_receive _⟩
  · rw [Session.ackAccepted_role, Session.pinTo_role, hw.agrees.role, hrec]
    rfl
  · rw [hrec]
    simpa using Pushed.peer_pinTo hw.agrees.peer
  · rw [Session.ackAccepted_phase]
    simp [Pushed.counters, hmore]
  · rw [hrec]
    exact hacks
  · rw [hrec, readBytes_append, show readBytes [(.now, x), (.receive t phase, .datagram bytes source)]
      = [] by simp, List.append_nil]
    exact hw.chunks.of_payloads rfl
  · rw [hrec]
    exact hmore

/-- The acknowledgement of the stream's last block, from the peer: the transfer is done. -/
theorem Waiting.acceptLast (hw : Waiting st s h)
    (hdec : Packet.decode bytes = .ok (.ack (st.pushed h).lastBlock))
    (hsrc : s.pinned = true → source = s.peer) (hlast : (st.pushed h).lastShort = true) :
    Done st ((s.pinTo source).ackAccepted (st.pushed h).counters)
      (h ++ [(.now, x), (.receive t phase, .datagram bytes source)]) := by
  have hrec := hw.pushed_arrive x t phase hdec hsrc
  refine ⟨⟨?_, ?_⟩, ?_, ?_, ?_, (hw.eof hlast).append_right, ?_, hw.follows_receive _⟩
  · rw [Session.ackAccepted_role, Session.pinTo_role, hw.agrees.role, hrec]
    rfl
  · rw [hrec]
    simpa using Pushed.peer_pinTo hw.agrees.peer
  · rw [Session.ackAccepted_phase]
    simp [Pushed.counters, hlast]
  · rw [hrec]
    simp [Pushed.acksLast]
  · rw [hrec]
    exact hlast
  · rw [hrec, readBytes_append, show readBytes [(.now, x), (.receive t phase, .datagram bytes source)]
      = [] by simp, List.append_nil]
    exact hw.chunks.read

end Datagram

/-- The packet to resend, sent again, keeps the sender waiting. -/
theorem Waiting.resent (hw : Waiting st s h) {bytes : List UInt8} {target : Address}
    {z : Response} (henc : ((st.pushed h).resend st).encode = .ok bytes) :
    Waiting st s (h ++ [(.send bytes target, z)]) := by
  have hrec : st.pushed (h ++ [(.send bytes target, z)]) = st.pushed h := by
    rw [Setup.pushed_append, Pushed.after_cons, Pushed.step_send, Pushed.push_again hw.acked]
    rfl
  refine hw.of_record ?_ (by rw [hrec]) (by rw [hrec]; exact hw.acked) (by simp) ?_ rfl rfl rfl
  · apply hw.follows.snoc
    intro block payload hdec
    refine ⟨fun hne => ?_, fun _ => Pushed.resend_decode henc hdec⟩
    have hacked : (st.pushed h).acked = false := hw.acked
    rw [show (Pushed.start st.client st.peer).after h = st.pushed h from rfl, hacked] at hne
    cases hne
  · rw [hrec]
    exact hw.agrees.peer

end Sending

end Tftp
