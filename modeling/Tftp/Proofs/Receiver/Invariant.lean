import Tftp.Proofs.Receiver.Rule
import Tftp.Proofs.Receiver.Steps

/-! # The receiver's invariants

    What a receiving session keeps from step to step, in three parts: what its run shows whatever
    the session's state (`Kept`: its writes are the rule's deliveries, and every datagram and
    every acknowledgement was answered by the rule), whether its writes all returned
    (`Returned`), and how its state agrees with the rule's record (`Agrees`: its counters, its
    peer, the packet it resends).

    * `Kept` is kept by the exchanges of each step: exchanges that do nothing (`Kept.quiet`), a
      datagram the rule drops (`Kept.drop`), one it acknowledges again (`Kept.again`), one it
      delivers (`Kept.deliver`, or `Kept.writeFailed` when the write fails), and the
      acknowledgement resent on silence (`Kept.resend`).  All but the first are cases of
      `Kept.arrive`: a datagram, read after a clock reading, and the exchanges answering it.
    * `Agrees` follows the record: unchanged payloads (`Agrees.of_payloads`), or one more
      delivered (`Agrees.deliver`).
    * `Receiving`, `Awaiting`, `Finished` and `Failing` are the states of a receiver between
      steps, built from these. -/

namespace Tftp

/-! ## The rule's record of a run -/

namespace Setup

/-- The rule's record after the exchanges `h` of a session set up by `st`. -/
def record (st : Setup) (h : List Exchange) : Delivered :=
  (Delivered.start st.client st.peer).after h

@[simp] theorem record_append (st : Setup) (h t : List Exchange) :
    st.record (h ++ t) = (st.record h).after t := by
  simp [record]

end Setup

namespace Delivered

/-- The receiver's counters the record gives: the last delivered block, and whether any was. -/
def counters (d : Delivered) : Receiver := ⟨.int d.lastBlock, !d.payloads.isEmpty⟩

/-- The packet a receiver resends on silence: a client's request until a block was delivered,
    else the acknowledgement of the last delivered block. -/
def resend (d : Delivered) (st : Setup) : Draft :=
  if st.client && d.payloads.isEmpty then .rrq st.filename st.mode else .ack (.int d.lastBlock)

theorem after_of_no_arrival (d : Delivered) {δ : List Exchange}
    (hδ : ∀ e ∈ δ, e.arrival? = none) : d.after δ = d := by
  induction δ generalizing d with
  | nil => rfl
  | cons e δ ih =>
    rw [after_cons, step_of_arrival?_none (hδ e (by simp)), ih d (fun e he => hδ e (by simp [he]))]

end Delivered

/-- Whether a record is complete depends only on its payloads. -/
theorem Delivered.complete_of_payloads {d d' : Delivered} (hpay : d'.payloads = d.payloads) :
    d'.complete = d.complete := by
  simp [Delivered.complete, hpay]

/-- After the datagram it delivers, the record's last block is the block delivered. -/
theorem Delivered.take_lastBlock_of_deliver {d : Delivered} {bytes : List UInt8}
    {source : Address} {block : Int} {payload : List UInt8}
    (hv : d.verdict bytes source = .deliver block payload) :
    (d.take bytes source).lastBlock = block := by
  have hpay : (d.take bytes source).payloads = d.payloads ++ [payload] := by
    rw [Delivered.take_payloads, hv]
    rfl
  rw [(Delivered.verdict_deliver hv).2, Delivered.lastBlock, hpay]
  simp [Delivered.nextBlock]

variable {st : Setup} {s s' : Session} {h δ : List Exchange}

theorem Setup.record_of_no_arrival {H : List Exchange} (hH : ∀ e ∈ H, e.arrival? = none) :
    st.record H = Delivered.start st.client st.peer :=
  Delivered.after_of_no_arrival _ hH

/-- The record after a datagram read after a clock reading, and exchanges with no datagram. -/
theorem Setup.record_arrival {x : Response} {t : Number} {phase : Option Phase}
    {bytes : List UInt8} {source : Address} (hδ : ∀ e ∈ δ, e.arrival? = none) :
    st.record (h ++ (.now, x) :: (.receive t phase, .datagram bytes source) :: δ) =
      (st.record h).take bytes source := by
  rw [Setup.record_append, Delivered.after_cons, Delivered.after_cons,
    Delivered.after_of_no_arrival _ hδ, Delivered.step_now, Delivered.step_arrival]

/-- The record stays as it was over exchanges with no datagram. -/
theorem Setup.record_append_of_no_arrival (hδ : ∀ e ∈ δ, e.arrival? = none) :
    st.record (h ++ δ) = st.record h := by
  rw [Setup.record_append, Delivered.after_of_no_arrival _ hδ]

theorem writes_of_no_deed (hδ : ∀ e ∈ δ, e.deed? = none) : writes δ = [] := by
  simp only [writes, List.filterMap_eq_nil_iff]
  intro e he
  simp [hδ e he]

theorem deeds_of_no_deed (hδ : ∀ e ∈ δ, e.deed? = none) : δ.filterMap Exchange.deed? = [] := by
  simp only [List.filterMap_eq_nil_iff]
  intro e he
  simp [hδ e he]

theorem reaction_of_no_deed (hδ : ∀ e ∈ δ, e.deed? = none) : reaction δ = [] := by
  simp only [reaction, List.filterMap_eq_nil_iff]
  intro e he
  exact hδ e ((List.takeWhile_sublist _).subset he)

theorem AnswersByRule.of_quiet {d₀ : Delivered} {H : List Exchange}
    (hH : ∀ e ∈ H, e.arrival? = none) : AnswersByRule d₀ H := by
  rintro A e B rfl bytes source harr
  rw [hH e (by simp)] at harr
  cases harr

/-- An acknowledgement of the last block is a deed. -/
theorem AcksLastAt.deed {client : Bool} {d₀ : Delivered} {A : List Exchange} {e : Exchange}
    (he : AcksLastAt client d₀ A e) : e.deed? = some (.acked (d₀.after A).lastBlock) := by
  obtain ⟨bytes, target, x, rfl, _, hdec, _⟩ := he
  exact Exchange.deed?_send_ack hdec target x

/-! ## What a run keeps -/

/-- What the run so far shows, whatever the session's state: its writes are the rule's
    deliveries, and every datagram and every acknowledgement so far was answered by the rule. -/
structure Kept (st : Setup) (h : List Exchange) : Prop where
  writes : writes h = handshake st.client ++ (st.record h).payloads
  answered : AnswersByRule (Delivered.start st.client st.peer) h
  acks : AcksFollowWrites st.client (Delivered.start st.client st.peer) h

/-- Every write of the run returned. -/
def Returned (h : List Exchange) : Prop :=
  ∀ payload returned, Deed.wrote payload returned ∈ h.filterMap Exchange.deed? → returned = true

theorem returned_append : Returned (h ++ δ) ↔ Returned h ∧ Returned δ := by
  simp only [Returned, List.filterMap_append, List.mem_append, or_imp, forall_and]

theorem returned_of_no_deed (hδ : ∀ e ∈ δ, e.deed? = none) : Returned δ := by
  intro payload returned hmem
  rw [deeds_of_no_deed hδ] at hmem
  cases hmem

/-- Every write of the exchanges returned, if none of them is a write that failed. -/
theorem returned_of_no_failed_write
    (hδ : ∀ e ∈ δ, ∀ payload, e.deed? ≠ some (.wrote payload false)) : Returned δ := by
  intro payload returned hmem
  obtain ⟨e, he, hdeed⟩ := List.mem_filterMap.mp hmem
  cases returned with
  | true => rfl
  | false => exact absurd hdeed (hδ e he payload)

/-- Exchanges that neither bring a datagram nor do a deed keep what the run shows. -/
theorem Kept.quiet (hk : Kept st h) (hδ : ∀ e ∈ δ, e.arrival? = none ∧ e.deed? = none) :
    Kept st (h ++ δ) := by
  have hrec : st.record (h ++ δ) = st.record h := by
    rw [Setup.record_append, Delivered.after_of_no_arrival _ (fun e he => (hδ e he).1)]
  refine ⟨?_, ?_, ?_⟩
  · rw [writes_append, writes_of_no_deed (fun e he => (hδ e he).2), hrec, List.append_nil]
    exact hk.writes
  · apply hk.answered.append (reaction_of_no_deed fun e he => (hδ e he).2)
    rintro A e B rfl bytes source harr
    rw [(hδ e (by simp)).1] at harr
    cases harr
  · apply hk.acks.append
    rintro A e B rfl block hack
    rw [(hδ e (by simp)).2] at hack
    cases hack

section Arrival

variable {x : Response} {t : Number} {phase : Option Phase} {bytes : List UInt8}
  {source : Address}

/-- A datagram, read after a clock reading, and the exchanges `δ` that answer it before the next
    one keep what the run shows, if `δ` answers it by the rule's verdict, writes what the verdict
    delivers, and acknowledges only the new last block, once what it wrote has returned. -/
theorem Kept.arrive (hk : Kept st h) (hr : Returned h) (hδ : ∀ e ∈ δ, e.arrival? = none)
    (hanswer : ((st.record h).verdict bytes source).Answered (reaction δ))
    (hwrites : Tftp.writes δ = ((st.record h).verdict bytes source).payloads)
    (hacks : ∀ A e B, δ = A ++ e :: B → ∀ block, e.deed? = some (.acked block) →
      Tftp.writes A = ((st.record h).verdict bytes source).payloads ∧ Returned A ∧
      block = ((st.record h).take bytes source).lastBlock) :
    Kept st (h ++ (.now, x) :: (.receive t phase, .datagram bytes source) :: δ) := by
  -- the record after any part of the answer is the record after the datagram
  have hrecA : ∀ A B, δ = A ++ B →
      st.record (h ++ (.now, x) :: (.receive t phase, .datagram bytes source) :: A) =
        (st.record h).take bytes source := by
    rintro A B rfl
    exact Setup.record_arrival fun e he => hδ e (by simp [he])
  refine ⟨?_, ?_, ?_⟩
  · rw [hrecA δ [] (by simp), Delivered.take_payloads, writes_append, hk.writes, writes_cons,
      writes_cons, hwrites]
    simp
  · apply hk.answered.append (by simp [reaction_cons])
    rw [forall_split_cons]
    refine ⟨by simp, ?_⟩
    rw [forall_split_cons]
    refine ⟨?_, ?_⟩
    · intro bytes' source' harr
      simp only [Exchange.arrival?_datagram, Option.some.injEq, Prod.mk.injEq] at harr
      obtain ⟨rfl, rfl⟩ := harr
      rw [show (Delivered.start st.client st.peer).after (h ++ [(.now, x)]) = st.record h by
        simp [Setup.record]]
      exact hanswer
    · rintro A e B rfl bytes' source' harr
      rw [hδ e (by simp)] at harr
      cases harr
  · apply hk.acks.append
    rw [forall_split_cons]
    refine ⟨by simp, ?_⟩
    rw [forall_split_cons]
    refine ⟨by simp, ?_⟩
    rintro A e B hsplit block hack
    obtain ⟨hwA, hrA, hblock⟩ := hacks A e B hsplit block hack
    have hrec := hrecA A (e :: B) hsplit
    rw [show (Delivered.start st.client st.peer).after
        (h ++ (.now, x) :: (.receive t phase, .datagram bytes source) :: A) =
        st.record (h ++ (.now, x) :: (.receive t phase, .datagram bytes source) :: A) from rfl,
      hrec]
    refine ⟨?_, ?_, hblock⟩
    · rw [Delivered.take_payloads, writes_append, hk.writes, writes_cons, writes_cons, hwA]
      simp
    · refine returned_append.mpr ⟨hr, ?_⟩
      intro payload returned hmem
      simp only [List.filterMap_cons, Exchange.deed?_now, Exchange.deed?_receive] at hmem
      exact hrA payload returned hmem

/-- A datagram the rule drops, answered by nothing. -/
theorem Kept.drop (hk : Kept st h) (hr : Returned h)
    (hv : (st.record h).verdict bytes source = .drop) :
    Kept st (h ++ [(.now, x), (.receive t phase, .datagram bytes source)]) :=
  Kept.arrive hk hr (by simp) (by rw [hv]; rfl) (by rw [hv]; rfl) (by simp)

/-- A repeat of the last delivered block, acknowledged again. -/
theorem Kept.again (hk : Kept st h) (hr : Returned h) {block : Int} {ack : List UInt8}
    {target : Address} {z : Response} (hv : (st.record h).verdict bytes source = .again block)
    (hdec : Packet.decode ack = .ok (.ack block)) :
    Kept st (h ++ [(.now, x), (.receive t phase, .datagram bytes source), (.send ack target, z)]) := by
  have hdeed := Exchange.deed?_send_ack hdec target z
  apply Kept.arrive hk hr (by simp)
  · rw [hv]
    simp [Verdict.Answered, reaction_cons, hdeed]
  · rw [hv]
    simp [Verdict.payloads]
  · simp only [forall_split_cons]
    refine ⟨?_, by simp⟩
    intro b hb
    rw [hdeed] at hb
    cases hb
    refine ⟨by rw [hv]; rfl, returned_of_no_deed (by simp), ?_⟩
    rw [Delivered.lastBlock, Delivered.take_payloads, hv]
    simp only [Verdict.payloads, List.append_nil]
    exact (Delivered.verdict_again hv).2

/-- The next block, whose write to the handler fails. -/
theorem Kept.writeFailed (hk : Kept st h) (hr : Returned h) {block : Int}
    {payload : List UInt8} {y : Response}
    (hv : (st.record h).verdict bytes source = .deliver block payload)
    (hy : y.streamFailed = true) :
    Kept st (h ++ [(.now, x), (.receive t phase, .datagram bytes source),
      (.stream (.write payload), y)]) := by
  apply Kept.arrive hk hr (by simp)
  · rw [hv]
    simp [Verdict.Answered, reaction_cons, Exchange.deed?_write, hy]
  · rw [hv]
    simp [Verdict.payloads]
  · simp only [forall_split_cons]
    refine ⟨?_, by simp⟩
    intro b hb
    rw [Exchange.deed?_write] at hb
    cases hb

/-- The next block, written with its write returned, then acknowledged. -/
theorem Kept.deliver (hk : Kept st h) (hr : Returned h) {block : Int} {payload : List UInt8}
    {y : Response} {ack : List UInt8} {target : Address} {z : Response}
    (hv : (st.record h).verdict bytes source = .deliver block payload)
    (hy : y.streamFailed = false) (hdec : Packet.decode ack = .ok (.ack block)) :
    Kept st (h ++ [(.now, x), (.receive t phase, .datagram bytes source),
      (.stream (.write payload), y), (.send ack target, z)]) := by
  have hdeed := Exchange.deed?_send_ack hdec target z
  have hwrote : Exchange.deed? (.stream (.write payload), y) = some (.wrote payload true) := by
    rw [Exchange.deed?_write, hy]
    rfl
  apply Kept.arrive hk hr (by simp)
  · rw [hv]
    simp [Verdict.Answered, reaction_cons, hwrote, hdeed]
  · rw [hv]
    simp [Verdict.payloads]
  · simp only [forall_split_cons]
    refine ⟨by simp [hwrote], ?_, by simp⟩
    intro b hb
    rw [hdeed] at hb
    cases hb
    refine ⟨by rw [hv]; simp [Verdict.payloads], ?_, ?_⟩
    · intro p r hmem
      simp only [List.filterMap_cons, hwrote, List.filterMap_nil, List.mem_singleton,
        Deed.wrote.injEq] at hmem
      exact hmem.2
    · rw [Delivered.take_lastBlock_of_deliver hv]

end Arrival

/-- The acknowledgement of the last delivered block, resent after a clock reading. -/
theorem Kept.resend (hk : Kept st h) (hr : Returned h) {x : Response} {ack : List UInt8}
    {target : Address} {z : Response}
    (hdec : Packet.decode ack = .ok (.ack (st.record h).lastBlock)) :
    Kept st (h ++ [(.now, x), (.send ack target, z)]) := by
  have hdeed := Exchange.deed?_send_ack hdec target z
  have hrec : st.record (h ++ [(.now, x), (.send ack target, z)]) = st.record h :=
    by simp
  refine ⟨?_, ?_, ?_⟩
  · rw [hrec, writes_append, hk.writes]
    simp
  · apply hk.answered.append (by simp [reaction_cons])
    simp only [forall_split_cons]
    simp
  · apply hk.acks.append
    simp only [forall_split_cons]
    refine ⟨by simp, ?_, by simp⟩
    intro block hb
    rw [hdeed] at hb
    cases hb
    have hrecA : (Delivered.start st.client st.peer).after (h ++ [(.now, x)]) = st.record h := by
      simp [Setup.record]
    rw [hrecA]
    refine ⟨?_, returned_append.mpr ⟨hr, returned_of_no_deed (by simp)⟩, rfl⟩
    rw [writes_append, hk.writes]
    simp

/-! ## The session agrees with the record -/

/-- The session's state agrees with the rule's record `d`: its counters, its peer and the
    packet it resends are the record's, and it keeps the setup's role and policy. -/
structure Agrees (st : Setup) (s : Session) (d : Delivered) : Prop where
  role : s.role = .receiver d.counters
  peer : d.peer = if s.pinned then some s.peer else none
  client : s.client = st.client
  policy : s.policy = st.policy
  lastPacket : s.lastPacket = some (d.resend st)

/-- The agreement speaks only of the counters, the peer, the setup and the packet to resend. -/
theorem Agrees.congr {d : Delivered} (ha : Agrees st s d) (hrole : s'.role = s.role)
    (hpinned : s'.pinned = s.pinned) (hpeer : s'.peer = s.peer) (hclient : s'.client = s.client)
    (hpolicy : s'.policy = s.policy) (hlast : s'.lastPacket = s.lastPacket) : Agrees st s' d where
  role := hrole ▸ ha.role
  peer := hpinned ▸ hpeer ▸ ha.peer
  client := hclient ▸ ha.client
  policy := hpolicy ▸ ha.policy
  lastPacket := hlast ▸ ha.lastPacket

/-- A record with the same payloads gives the same counters and the same packet to resend. -/
theorem Agrees.of_payloads {d d' : Delivered} (ha : Agrees st s d)
    (hpay : d'.payloads = d.payloads)
    (hpeer : d'.peer = if s'.pinned then some s'.peer else none) (hrole : s'.role = s.role)
    (hclient : s'.client = s.client) (hpolicy : s'.policy = s.policy)
    (hlast : s'.lastPacket = s.lastPacket) : Agrees st s' d' where
  role := by
    rw [hrole, ha.role]
    simp [Delivered.counters, Delivered.lastBlock, hpay]
  peer := hpeer
  client := hclient ▸ ha.client
  policy := hpolicy ▸ ha.policy
  lastPacket := by
    rw [hlast, ha.lastPacket]
    simp [Delivered.resend, Delivered.lastBlock, hpay]

/-- A delivered block becomes the counter and the packet to resend. -/
theorem Agrees.deliver {d : Delivered} (ha : Agrees st s d) {bytes : List UInt8}
    {source : Address} {block : Int} {payload : List UInt8}
    (hv : d.verdict bytes source = .deliver block payload)
    (hpeer : (d.take bytes source).peer = if s'.pinned then some s'.peer else none)
    (hrole : s'.role = .receiver ⟨.int block, true⟩) (hclient : s'.client = s.client)
    (hpolicy : s'.policy = s.policy) (hlast : s'.lastPacket = some (.ack (.int block))) :
    Agrees st s' (d.take bytes source) where
  role := by
    rw [hrole, Delivered.counters, Delivered.take_lastBlock_of_deliver hv,
      Delivered.take_payloads, hv]
    simp [Verdict.payloads]
  peer := hpeer
  client := hclient ▸ ha.client
  policy := hpolicy ▸ ha.policy
  lastPacket := by
    rw [hlast, Delivered.resend, Delivered.take_lastBlock_of_deliver hv,
      Delivered.take_payloads, hv]
    simp [Verdict.payloads]

/-! ## The peer -/

/-- The rule takes from a source the session accepts. -/
theorem takesFrom_of_accepted {d : Delivered} {source : Address}
    (hpeer : d.peer = if s.pinned then some s.peer else none)
    (hsrc : s.pinned = true → source = s.peer) : d.takesFrom source = true := by
  unfold Delivered.takesFrom
  cases hpin : s.pinned with
  | false => rw [hpeer, hpin]; rfl
  | true => rw [hpeer, hpin]; simp [hsrc hpin]

/-- The rule drops what comes from a source other than the pinned peer. -/
theorem takesFrom_of_foreign {d : Delivered} {source : Address}
    (hpeer : d.peer = if s.pinned then some s.peer else none) (hpin : s.pinned = true)
    (hsrc : source ≠ s.peer) : d.takesFrom source = false := by
  unfold Delivered.takesFrom
  rw [hpeer, hpin]
  simpa using fun h => hsrc h.symm

/-- A datagram that decodes pins the rule's peer as it pins the session's. -/
theorem peer_take_pinTo {d : Delivered} {bytes : List UInt8} {source : Address} {p : Packet}
    (hpeer : d.peer = if s.pinned then some s.peer else none) (hdec : Packet.decode bytes = .ok p) :
    (d.take bytes source).peer =
      if (s.pinTo source).pinned then some (s.pinTo source).peer else none := by
  rw [Delivered.take_peer, hdec]
  unfold Session.pinTo
  cases hpin : s.pinned with
  | false => simp [hpeer, hpin]
  | true => simp [hpeer, hpin]

/-- A datagram from a foreign source leaves the pinned peer. -/
theorem peer_take_of_pinned {d : Delivered} {bytes : List UInt8} {source : Address}
    (hpeer : d.peer = if s.pinned then some s.peer else none) (hpin : s.pinned = true) :
    (d.take bytes source).peer = if s.pinned then some s.peer else none := by
  rw [Delivered.take_peer]
  split <;> simp [hpeer, hpin]

/-! ## The states of a receiver between steps -/

/-- A receiving session in step with its run: its state agrees with the rule's record, its run
    kept to the rule, and all its writes returned. -/
structure Receiving (st : Setup) (s : Session) (h : List Exchange) : Prop where
  agrees : Agrees st s (st.record h)
  kept : Kept st h
  returned : Returned h

/-- A receiving session whose transfer failed: its run kept to the rule until then, and any
    acknowledgement of the last payload was followed by a clock reading that could not restart
    the timer. -/
structure Failing (st : Setup) (h : List Exchange) : Prop extends Kept st h where
  timer : TimerFailsAfterLastAck st.client (Delivered.start st.client st.peer)
    st.policy.seconds h

/-- A receiver waiting for data: in step with its run, the transfer not complete, and its end of
    the pipe still open. -/
structure Awaiting (st : Setup) (s : Session) (h : List Exchange) : Prop
    extends Receiving st s h where
  phase : s.phase = some .awaitData
  incomplete : (st.record h).complete = false
  unclosed : ∀ e ∈ h, e.streamClose? = none

/-- A receiver that acknowledged the last block: in step with its run, done, and its end of the
    pipe still open. -/
structure Finished (st : Setup) (s : Session) (h : List Exchange) : Prop
    extends Receiving st s h where
  phase : s.phase = some .done
  lastAck : AcksLast st.client (Delivered.start st.client st.peer) h
  unclosed : ∀ e ∈ h, e.streamClose? = none

/-! ## Keeping in step -/

section Step

variable {x : Response} {t : Number} {phase : Option Phase} {bytes : List UInt8}
  {source : Address}

/-- Exchanges that neither bring a datagram nor do a deed keep a receiver in step with its run,
    in a state that agrees with the record as before. -/
theorem Receiving.quiet (hr : Receiving st s h)
    (hδ : ∀ e ∈ δ, e.arrival? = none ∧ e.deed? = none) (hagrees : Agrees st s' (st.record h)) :
    Receiving st s' (h ++ δ) := by
  refine ⟨?_, hr.kept.quiet hδ, ?_⟩
  · rw [Setup.record_append_of_no_arrival fun e he => (hδ e he).1]
    exact hagrees
  · exact returned_append.mpr ⟨hr.returned, returned_of_no_deed fun e he => (hδ e he).2⟩

/-- A datagram the rule drops, answered by nothing, keeps a receiver in step with its run, in a
    state that agrees with the record after it. -/
theorem Receiving.drop (hr : Receiving st s h) (hv : (st.record h).verdict bytes source = .drop)
    (hδ : ∀ e ∈ δ, e.arrival? = none ∧ e.deed? = none)
    (hagrees : Agrees st s' ((st.record h).take bytes source)) :
    Receiving st s' (h ++ (.now, x) :: (.receive t phase, .datagram bytes source) :: δ) := by
  have hk : Kept st (h ++ (.now, x) :: (.receive t phase, .datagram bytes source) :: δ) := by
    simpa using (hr.kept.drop hr.returned hv).quiet hδ
  refine ⟨?_, hk, ?_⟩
  · rw [Setup.record_arrival fun e he => (hδ e he).1]
    exact hagrees
  · refine returned_append.mpr ⟨hr.returned, returned_of_no_deed ?_⟩
    simpa using fun e he => (hδ e he).2

/-- A repeat of the last delivered block, acknowledged again, keeps a receiver in step with its
    run, in a state that agrees with the record after it. -/
theorem Receiving.again (hr : Receiving st s h) {block : Int} {ack : List UInt8}
    {target : Address} {z : Response} (hv : (st.record h).verdict bytes source = .again block)
    (hdec : Packet.decode ack = .ok (.ack block))
    (hagrees : Agrees st s' ((st.record h).take bytes source)) :
    Receiving st s'
      (h ++ [(.now, x), (.receive t phase, .datagram bytes source), (.send ack target, z)]) := by
  refine ⟨?_, hr.kept.again hr.returned hv hdec, ?_⟩
  · rw [Setup.record_arrival (by simp)]
    exact hagrees
  · exact returned_append.mpr ⟨hr.returned, returned_of_no_failed_write
      (by simp [Exchange.deed?_send_ack hdec])⟩

/-- Nothing usable came, no datagram or one that does not decode: the record is as it was. -/
theorem Setup.record_silent {y : Response}
    (hdecode : ∀ bytes source, y = .datagram bytes source → ∃ e, Packet.decode bytes = .error e) :
    st.record (h ++ [(.now, x), (.receive t phase, y)]) = st.record h := by
  by_cases hdg : ∃ bytes source, y = .datagram bytes source
  · obtain ⟨bytes, source, rfl⟩ := hdg
    obtain ⟨e, hdec⟩ := hdecode bytes source rfl
    rw [Setup.record_arrival (by simp)]
    unfold Delivered.take
    rw [hdec]
  · apply Setup.record_append_of_no_arrival
    simp only [List.mem_cons, List.mem_nil_iff, or_false]
    rintro e (rfl | rfl)
    · rfl
    · cases y with
      | datagram bytes source => exact absurd ⟨bytes, source, rfl⟩ hdg
      | _ => rfl

/-- Nothing usable came: a receiver stays in step with its run, in the same state. -/
theorem Receiving.silent (hr : Receiving st s h) {y : Response}
    (hdecode : ∀ bytes source, y = .datagram bytes source → ∃ e, Packet.decode bytes = .error e) :
    Receiving st s (h ++ [(.now, x), (.receive t phase, y)]) := by
  have hquiet : ∀ e ∈ ([(.now, x), (.receive t phase, y)] : List Exchange), e.deed? = none := by
    simp
  by_cases hdg : ∃ bytes source, y = .datagram bytes source
  · -- a datagram that does not decode is dropped, and changes nothing in the record
    obtain ⟨bytes, source, rfl⟩ := hdg
    obtain ⟨e, hdec⟩ := hdecode bytes source rfl
    have hk : Kept st (h ++ [(.now, x), (.receive t phase, .datagram bytes source)]) :=
      hr.kept.drop hr.returned (Delivered.verdict_of_decode_error hdec)
    refine ⟨?_, hk, returned_append.mpr ⟨hr.returned, returned_of_no_deed hquiet⟩⟩
    rw [Setup.record_silent hdecode]
    exact hr.agrees
  · refine hr.quiet (fun e he => ⟨?_, hquiet e he⟩) hr.agrees
    simp only [List.mem_cons, List.mem_nil_iff, or_false] at he
    rcases he with rfl | rfl
    · rfl
    · cases y with
      | datagram bytes source => exact absurd ⟨bytes, source, rfl⟩ hdg
      | _ => rfl

end Step

/-- The agreement of a session with the record after a datagram that pins its source and
    delivers nothing. -/
theorem Agrees.pinTo {d : Delivered} (ha : Agrees st s d) {bytes : List UInt8} {source : Address}
    {p : Packet} (hdec : Packet.decode bytes = .ok p)
    (hpay : (d.take bytes source).payloads = d.payloads) :
    Agrees st (s.pinTo source) (d.take bytes source) :=
  ha.of_payloads hpay (peer_take_pinTo ha.peer hdec) (by simp) (by simp) (by simp) (by simp)

/-- A failure while the transfer is not complete acknowledged no last block. -/
theorem Failing.of_incomplete (hk : Kept st h) (hinc : (st.record h).complete = false) :
    Failing st h :=
  ⟨hk, TimerFailsAfterLastAck.of_incomplete hinc⟩

/-- A receiver waiting for data fails with its run kept: nothing acknowledged the last block. -/
theorem Awaiting.failing (ha : Awaiting st s h) : Failing st h :=
  Failing.of_incomplete ha.kept ha.incomplete

/-- Exchanges that neither bring a datagram nor do a deed keep a failed run failed. -/
theorem Failing.quiet (hf : Failing st h) (hδ : ∀ e ∈ δ, e.arrival? = none ∧ e.deed? = none) :
    Failing st (h ++ δ) := by
  refine ⟨hf.toKept.quiet hδ, hf.timer.append ?_⟩
  rintro A e B rfl hlast
  have hdeed := hlast.deed
  rw [(hδ e (by simp)).2] at hdeed
  cases hdeed

/-- Only an acknowledgement can acknowledge the last block. -/
theorem not_acksLastAt_of_deed {client : Bool} {d₀ : Delivered} {A : List Exchange}
    {e : Exchange} (he : ∀ block, e.deed? ≠ some (.acked block)) : ¬ AcksLastAt client d₀ A e :=
  fun hlast => he _ hlast.deed

/-- An acknowledgement that could not be sent acknowledges nothing. -/
theorem not_acksLastAt_of_sendFailed {client : Bool} {d₀ : Delivered} {A : List Exchange}
    {bytes : List UInt8} {target : Address} {reason : String} :
    ¬ AcksLastAt client d₀ A (.send bytes target, .sendFailed reason) := by
  rintro ⟨_, _, _, heq, hsent, _⟩
  cases heq
  cases hsent

/-- A failure in the middle of a step of a transfer that was not complete before it: what the
    run shows is kept, and any acknowledgement of the last block the step made was followed by a
    clock reading that could not restart the timer. -/
theorem Failing.of_awaiting (hinc : (st.record h).complete = false) (hk : Kept st (h ++ δ))
    (hδ : ∀ A e B, δ = A ++ e :: B →
      AcksLastAt st.client (Delivered.start st.client st.peer) (h ++ A) e →
      ∃ t B', B = (.now, t) :: B' ∧ (Setup.clockOf t).add? st.policy.seconds = none) :
    Failing st (h ++ δ) :=
  ⟨hk, (TimerFailsAfterLastAck.of_incomplete hinc).append hδ⟩

/-- Exchanges that neither bring a datagram, nor do a deed, nor close the pipe keep a receiver
    waiting, in a state that agrees with the record as before. -/
theorem Awaiting.quiet (ha : Awaiting st s h)
    (hδ : ∀ e ∈ δ, e.arrival? = none ∧ e.deed? = none ∧ e.streamClose? = none)
    (hagrees : Agrees st s' (st.record h)) (hphase : s'.phase = some .awaitData) :
    Awaiting st s' (h ++ δ) := by
  refine ⟨ha.toReceiving.quiet (fun e he => ⟨(hδ e he).1, (hδ e he).2.1⟩) hagrees, hphase, ?_, ?_⟩
  · rw [Setup.record_append_of_no_arrival fun e he => (hδ e he).1]
    exact ha.incomplete
  · exact List.forall_mem_append.mpr ⟨ha.unclosed, fun e he => (hδ e he).2.2⟩

/-- A failure in the middle of a step of a transfer that was not complete before it, where no
    exchange of the step acknowledged the last block. -/
theorem Failing.of_awaiting_of_no_last (hinc : (st.record h).complete = false)
    (hk : Kept st (h ++ δ))
    (hδ : ∀ e ∈ δ, ∀ A, ¬ AcksLastAt st.client (Delivered.start st.client st.peer) A e) :
    Failing st (h ++ δ) :=
  Failing.of_awaiting hinc hk fun A e B hsplit hlast =>
    absurd hlast (hδ e (by rw [hsplit]; simp) (h ++ A))

end Tftp
