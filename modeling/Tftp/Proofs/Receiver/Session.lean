import Tftp.Proofs.Receiver.Invariant

/-! # A receiving session keeps to the rule

    The receiver's invariants hold from the session's creation to its end.

    * `startReceiving_spec`: opening the transfer leaves a receiver waiting for data
      (`Awaiting`), or failed before any datagram.
    * `receiveOnce_spec`: each step of the transfer keeps it waiting, or finishes it after the
      acknowledgement of the last block (`Finished`), or fails it (`Failing`). -/

namespace Tftp

variable {st : Setup} {s s' : Session} {h δ : List Exchange}

/-! ## Opening the transfer -/

/-- A receiver as its setup creates it: counters at zero, the setup's peer, pinned for a
    server; and a run with no datagram and no deed yet. -/
structure Fresh (st : Setup) (s : Session) (h : List Exchange) : Prop where
  role : s.role = .receiver ⟨.int 0, false⟩
  peer : s.peer = st.peer
  pinned : s.pinned = !st.client
  client : s.client = st.client
  policy : s.policy = st.policy
  filename : s.filename = st.filename
  mode : s.mode = st.mode
  quiet : ∀ e ∈ h, e.arrival? = none ∧ e.deed? = none
  unclosed : ∀ e ∈ h, e.streamClose? = none

/-- The run of a receiver before any datagram: nothing arrived, nothing was written but the
    handshake, and each acknowledgement, of block 0, came after the handshake's write returned. -/
structure Opening (client : Bool) (H : List Exchange) : Prop where
  quiet : ∀ e ∈ H, e.arrival? = none
  writes : writes H = handshake client
  acks : ∀ A e B, H = A ++ e :: B → ∀ block, e.deed? = some (.acked block) →
    Tftp.writes A = handshake client ∧
    (∀ payload returned, Deed.wrote payload returned ∈ A.filterMap Exchange.deed? →
      returned = true) ∧ block = 0

/-- A failure before any datagram keeps to the rule: nothing was delivered, and no
    acknowledgement was of a last block. -/
theorem Failing.of_opening {H : List Exchange} (ho : Opening st.client H) : Failing st H := by
  have hrec : ∀ A, A <+: H → st.record A = Delivered.start st.client st.peer := by
    rintro A ⟨B, rfl⟩
    exact Setup.record_of_no_arrival fun e he => ho.quiet e (by simp [he])
  refine ⟨⟨?_, AnswersByRule.of_quiet ho.quiet, ?_⟩, ?_⟩
  · rw [hrec H (List.prefix_refl H), ho.writes]
    simp [Delivered.start]
  · rintro A e B hsplit block hack
    obtain ⟨hw, hr, hb⟩ := ho.acks A e B hsplit block hack
    have hA := hrec A ⟨e :: B, hsplit.symm⟩
    refine ⟨?_, hr, ?_⟩
    · rw [show (Delivered.start st.client st.peer).after A = st.record A from rfl, hA, hw]
      simp [Delivered.start]
    · rw [show (Delivered.start st.client st.peer).after A = st.record A from rfl, hA, hb]
      rfl
  · apply TimerFailsAfterLastAck.of_incomplete
    rw [show (Delivered.start st.client st.peer).after H = st.record H from rfl,
      hrec H (List.prefix_refl H)]
    rfl

/-- A receiver waiting for its first datagram, its writes returned and its end of the pipe
    open, is in step with its run if its counters are at zero and it resends the packet that
    opened the transfer. -/
theorem Awaiting.of_opening {H : List Exchange} (ho : Opening st.client H)
    (hreturned : Returned H) (hunclosed : ∀ e ∈ H, e.streamClose? = none)
    (hrole : s.role = .receiver ⟨.int 0, false⟩) (hpeer : s.peer = st.peer)
    (hpinned : s.pinned = !st.client) (hclient : s.client = st.client)
    (hpolicy : s.policy = st.policy)
    (hlast : s.lastPacket = some ((Delivered.start st.client st.peer).resend st))
    (hphase : s.phase = some .awaitData) : Awaiting st s H := by
  have hrec : st.record H = Delivered.start st.client st.peer :=
    Setup.record_of_no_arrival ho.quiet
  have hagrees : Agrees st s (st.record H) := by
    refine ⟨?_, ?_, hclient, hpolicy, ?_⟩
    · rw [hrole, hrec]; rfl
    · rw [hrec, hpinned, hpeer]; cases st.client <;> rfl
    · rw [hrec]; exact hlast
  refine ⟨⟨hagrees, (Failing.of_opening ho).toKept, hreturned⟩, hphase, ?_, hunclosed⟩
  rw [hrec]
  rfl

/-! ## A datagram while waiting -/

/-- Where a step of the transfer leaves a receiver: waiting, finished, or failed. -/
def Stepped (st : Setup) : Except Failure Unit → Session → List Exchange → Prop
  | .ok _, s, h => Awaiting st s h ∨ Finished st s h
  | .error _, _, h => Failing st h

section Datagram

variable {x : Response} {t : Number} {phase : Option Phase}

theorem arrival?_receive_of_not_datagram {y : Response}
    (hy : ∀ bytes source, y ≠ .datagram bytes source) :
    Exchange.arrival? (.receive t phase, y) = none := by
  cases y with
  | datagram bytes source => exact absurd rfl (hy bytes source)
  | _ => rfl

/-- Nothing usable came: no datagram, or one that does not decode, which the rule drops. -/
theorem Awaiting.silent (ha : Awaiting st s h) {y : Response}
    (hdecode : ∀ bytes source, y = .datagram bytes source → ∃ e, Packet.decode bytes = .error e) :
    Awaiting st s (h ++ [(.now, x), (.receive t phase, y)]) := by
  refine ⟨ha.toReceiving.silent hdecode, ha.phase, ?_, ?_⟩
  · rw [Setup.record_silent hdecode]
    exact ha.incomplete
  · exact List.forall_mem_append.mpr ⟨ha.unclosed, by simp [Exchange.streamClose?]⟩

/-- A datagram the rule drops, with nothing done in answer but the exchanges `δ`, which neither
    bring a datagram nor do a deed, leaves the receiver waiting. -/
theorem Awaiting.drop (ha : Awaiting st s h) {bytes : List UInt8} {source : Address}
    {δ : List Exchange} (hv : (st.record h).verdict bytes source = .drop)
    (hδ : ∀ e ∈ δ, e.arrival? = none ∧ e.deed? = none ∧ e.streamClose? = none)
    (hpeer : ((st.record h).take bytes source).peer = if s'.pinned then some s'.peer else none)
    (hrole : s'.role = s.role) (hclient : s'.client = s.client) (hpolicy : s'.policy = s.policy)
    (hlast : s'.lastPacket = s.lastPacket) (hphase : s'.phase = some .awaitData) :
    Awaiting st s' (h ++ (.now, x) :: (.receive t phase, .datagram bytes source) :: δ) := by
  have hpay : ((st.record h).take bytes source).payloads = (st.record h).payloads :=
    Delivered.take_payloads_of_nil (by rw [hv]; rfl)
  refine ⟨ha.toReceiving.drop hv (fun e he => ⟨(hδ e he).1, (hδ e he).2.1⟩)
    (ha.agrees.of_payloads hpay hpeer hrole hclient hpolicy hlast), hphase, ?_, ?_⟩
  · rw [Setup.record_arrival fun e he => (hδ e he).1, Delivered.complete_of_payloads hpay]
    exact ha.incomplete
  · refine List.forall_mem_append.mpr ⟨ha.unclosed, ?_⟩
    simpa [Exchange.streamClose?] using fun e he => (hδ e he).2.2

/-- The handling of a DATA packet from the peer: the receiver keeps waiting, finishes once a
    short block was written and acknowledged, or fails, with its run kept to the rule. -/
theorem Awaiting.handles (ha : Awaiting st s h) {bytes : List UInt8} {source : Address}
    {block : Int} {payload : List UInt8} {r : Except Failure Unit} {δ : List Exchange}
    (hdec : Packet.decode bytes = .ok (.data block payload))
    (hsrc : s.pinned = true → source = s.peer)
    (hh : Session.Handles (s.pinTo source) (st.record h).payloads.length
      (!(st.record h).payloads.isEmpty) block payload r s' δ) :
    Stepped st r s' (h ++ [(.now, x), (.receive t phase, .datagram bytes source)] ++ δ) := by
  have hverdict := Delivered.verdict_data hdec (takesFrom_of_accepted ha.agrees.peer hsrc)
  have hpeer : ((st.record h).take bytes source).peer =
      if (s.pinTo source).pinned then some (s.pinTo source).peer else none :=
    peer_take_pinTo ha.agrees.peer hdec
  -- the session's tests for the expected block and for a repeat are the rule's
  have hdeliver : block = (st.record h).nextBlock →
      (st.record h).verdict bytes source = .deliver block payload := fun hblock => by
    rw [hverdict, if_pos ⟨ha.incomplete, hblock⟩]
  have hagain : block ≠ (st.record h).nextBlock → (!(st.record h).payloads.isEmpty) = true →
      block = (st.record h).lastBlock → (st.record h).verdict bytes source = .again block :=
    fun hnext hany hblock => by
      rw [hverdict, if_neg (fun hc => hnext hc.2), if_pos ⟨by simpa using hany, hblock⟩]
  simp only [List.append_assoc, List.cons_append, List.nil_append]
  cases hh with
  | writeFailed e hblock =>
    refine Failing.of_awaiting_of_no_last ha.incomplete
      (ha.kept.writeFailed ha.returned (hdeliver hblock) rfl) ?_
    simp only [List.mem_cons, List.mem_nil_iff, or_false]
    rintro e (rfl | rfl | rfl) A <;>
      exact not_acksLastAt_of_deed (by simp [Exchange.deed?_write, Response.streamFailed])
  | ackFailed y ack reason hblock hy henc =>
    have hdecAck := (ack_round_trip block).2.2 ack henc
    refine Failing.of_awaiting_of_no_last ha.incomplete
      (ha.kept.deliver ha.returned (hdeliver hblock) hy hdecAck) ?_
    simp only [List.mem_cons, List.mem_nil_iff, or_false]
    rintro e (rfl | rfl | rfl | rfl) A
    · exact not_acksLastAt_of_deed (by simp)
    · exact not_acksLastAt_of_deed (by simp)
    · exact not_acksLastAt_of_deed (by simp [Exchange.deed?_write])
    · exact not_acksLastAt_of_sendFailed
  | timerFailed y ack z c hblock hy henc hz hadd =>
    have hdecAck := (ack_round_trip block).2.2 ack henc
    have hclock : ∀ e ∈ ([(.now, c)] : List Exchange), e.arrival? = none ∧ e.deed? = none := by
      simp
    have hk0 : Kept st (h ++ [(.now, x), (.receive t phase, .datagram bytes source),
        (.stream (.write payload), y), (.send ack (s.pinTo source).peer, z)]) :=
      ha.kept.deliver ha.returned (hdeliver hblock) hy hdecAck
    have hk := hk0.quiet hclock
    simp only [List.append_assoc, List.cons_append, List.nil_append] at hk
    refine Failing.of_awaiting ha.incomplete hk ?_
    -- the acknowledgement is followed by the clock reading that could not restart the timer
    simp only [forall_split_cons]
    refine ⟨fun hlast => absurd hlast (not_acksLastAt_of_deed (by simp)),
      fun hlast => absurd hlast (not_acksLastAt_of_deed (by simp)),
      fun hlast => absurd hlast (not_acksLastAt_of_deed (by simp [Exchange.deed?_write])),
      fun _ => ⟨c, [], rfl, by simpa [ha.agrees.policy] using hadd⟩,
      fun hlast => absurd hlast (not_acksLastAt_of_deed (by simp)), by simp⟩
  | delivered y ack z c expiry hblock hy henc hz hadd =>
    have hv := hdeliver hblock
    have hdecAck := (ack_round_trip block).2.2 ack henc
    have hclock : ∀ e ∈ ([(.now, c)] : List Exchange), e.arrival? = none ∧ e.deed? = none := by
      simp
    have hk0 : Kept st (h ++ [(.now, x), (.receive t phase, .datagram bytes source),
        (.stream (.write payload), y), (.send ack (s.pinTo source).peer, z)]) :=
      ha.kept.deliver ha.returned hv hy hdecAck
    have hk := hk0.quiet hclock
    simp only [List.append_assoc, List.cons_append, List.nil_append] at hk
    have hrec : ∀ δ' : List Exchange, (∀ e ∈ δ', e.arrival? = none) →
        st.record (h ++ (.now, x) :: (.receive t phase, .datagram bytes source) :: δ') =
          (st.record h).take bytes source := fun δ' hδ' => Setup.record_arrival hδ'
    have hpay : ((st.record h).take bytes source).payloads = (st.record h).payloads ++ [payload] := by
      rw [Delivered.take_payloads, hv]
      rfl
    have hagrees : Agrees st ((s.pinTo source).deliveredTo block payload |>.ackedTo block payload
        expiry) ((st.record h).take bytes source) :=
      ha.agrees.deliver hv (by simpa using hpeer) (by simp) (by simp) (by simp) (by simp)
    have hreturned : Returned (h ++ [(.now, x), (.receive t phase, .datagram bytes source),
        (.stream (.write payload), y), (.send ack (s.pinTo source).peer, z), (.now, c)]) :=
      returned_append.mpr ⟨ha.returned, returned_of_no_failed_write
        (by simp [Exchange.deed?_write, hy, Exchange.deed?_send_ack hdecAck])⟩
    have hunclosed := List.forall_mem_append.mpr ⟨ha.unclosed,
      (by simp [Exchange.streamClose?] : ∀ e ∈ ([(.now, x),
        (.receive t phase, .datagram bytes source), (.stream (.write payload), y),
        (.send ack (s.pinTo source).peer, z), (.now, c)] : List Exchange), e.streamClose? = none)⟩
    have hcomplete : ((st.record h).take bytes source).complete =
        decide (payload.length < blockSize) := by
      simp [Delivered.complete, hpay]
    by_cases hshort : payload.length < blockSize
    · -- a short block ends the transfer, and its acknowledgement is the last
      right
      refine ⟨⟨by rw [hrec _ (by simp)]; exact hagrees, hk, hreturned⟩, by simp [hshort], ?_,
        hunclosed⟩
      have hA : (Delivered.start st.client st.peer).after (h ++ [(.now, x),
          (.receive t phase, .datagram bytes source), (.stream (.write payload), y)]) =
          (st.record h).take bytes source := hrec _ (by simp)
      refine ⟨h ++ [(.now, x), (.receive t phase, .datagram bytes source),
        (.stream (.write payload), y)], (.send ack (s.pinTo source).peer, z), [(.now, c)],
        by simp, ack, _, z, rfl, hz, ?_, ?_, ?_⟩
      · rw [hA, Delivered.take_lastBlock_of_deliver hv]
        exact hdecAck
      · rw [hA, hcomplete]
        simp [hshort]
      · rw [hA, hpay, writes_append, ha.kept.writes]
        simp
    · left
      refine ⟨⟨by rw [hrec _ (by simp)]; exact hagrees, hk, hreturned⟩,
        by simp [hshort, ha.phase], ?_, hunclosed⟩
      rw [hrec _ (by simp), hcomplete]
      simp [hshort]
  | againFailed ack reason hnext hany hblock henc =>
    have hv := hagain hnext hany hblock
    have hpay := Delivered.take_payloads_of_nil (show ((st.record h).verdict bytes source).payloads
      = [] by rw [hv]; rfl)
    have hk : Kept st (h ++ [(.now, x), (.receive t phase, .datagram bytes source),
        (.send ack (s.pinTo source).peer, .sendFailed reason)]) :=
      ha.kept.again ha.returned hv ((ack_round_trip block).2.2 ack henc)
    refine Failing.of_incomplete hk ?_
    rw [Setup.record_arrival (by simp), Delivered.complete_of_payloads hpay]
    exact ha.incomplete
  | again ack z hnext hany hblock henc hz =>
    have hv := hagain hnext hany hblock
    have hpay := Delivered.take_payloads_of_nil (show ((st.record h).verdict bytes source).payloads
      = [] by rw [hv]; rfl)
    left
    refine ⟨ha.toReceiving.again hv ((ack_round_trip block).2.2 ack henc)
      ((ha.agrees.pinTo hdec hpay).congr (by simp) rfl rfl rfl rfl rfl), by simp [ha.phase], ?_, ?_⟩
    · rw [Setup.record_arrival (by simp), Delivered.complete_of_payloads hpay]
      exact ha.incomplete
    · exact List.forall_mem_append.mpr ⟨ha.unclosed, by simp [Exchange.streamClose?]⟩
  | dropped hnext hnot =>
    have hv : (st.record h).verdict bytes source = .drop := by
      rw [hverdict, if_neg (fun hc => hnext hc.2),
        if_neg (fun hc => hnot ⟨by simpa using hc.1, hc.2⟩)]
    left
    exact ha.drop hv (by simp) (by simpa using hpeer) (by simp) (by simp) (by simp) (by simp)
      (by simp [ha.phase])

end Datagram

namespace Session

variable {ok : List Exchange → Prop}

/-- Opening the transfer: a client sends its request, a server writes nothing to its handler
    and acknowledges block 0; the session then waits for data, or has failed. -/
theorem startReceiving_spec (hf : Fresh st s h) :
    Wp ok startReceiving (fun r s' h' => match r with
      | .ok _ => Awaiting st s' h'
      | .error _ => Failing st h') s h := by
  have hnodeed : ∀ e ∈ h, e.deed? = none := fun e he => (hf.quiet e he).2
  unfold startReceiving
  rw [wp_bind, wp_get]
  dsimp only
  cases hc : s.client with
  | true =>
    -- a client transmits its read request, which acknowledges nothing
    have hclient : st.client = true := hf.client ▸ hc
    have hopen : ∀ δ : List Exchange, (∀ e ∈ δ, e.arrival? = none ∧ e.deed? = none) →
        Opening st.client (h ++ δ) := by
      intro δ hδ
      have hq : ∀ e ∈ h ++ δ, e.arrival? = none ∧ e.deed? = none :=
        List.forall_mem_append.mpr ⟨hf.quiet, hδ⟩
      refine ⟨fun e he => (hq e he).1, ?_, ?_⟩
      · rw [writes_of_no_deed fun e he => (hq e he).2, hclient]; rfl
      · rintro A e B hsplit block hack
        rw [(hq e (by rw [hsplit]; simp)).2] at hack
        cases hack
    rw [if_pos rfl, wp_bind]
    cases henc : (Draft.rrq s.filename s.mode).encode with
    | error e =>
      rw [wp_transmit, wp_send, henc]
      simpa using Failing.of_opening (hopen [] (by simp))
    | ok bytes =>
      have hrrq : ∀ target x, Exchange.deed? (.send bytes target, x) = none :=
        Exchange.deed?_send_of_not_ack (rrq_encode_not_ack henc)
      apply wp_transmit_of_encode henc
      · intro reason
        exact Failing.of_opening (hopen _ (by simp [hrrq]))
      · intro x t _ _
        exact Failing.of_opening (hopen _ (by simp [hrrq]))
      · intro x t expiry _ _
        show Wp ok (modify _) _ _ _
        rw [wp_modify]
        have hδ : ∀ e ∈ ([(.send bytes s.peer, x), (.now, t)] : List Exchange),
            e.arrival? = none ∧ e.deed? = none := by simp [hrrq]
        have hreturned : Returned (h ++ [(.send bytes s.peer, x), (.now, t)]) :=
          returned_of_no_deed fun e he => (List.forall_mem_append.mpr ⟨hf.quiet, hδ⟩ e he).2
        refine Awaiting.of_opening (hopen _ hδ) hreturned ?_ hf.role hf.peer hf.pinned
          hf.client hf.policy ?_ rfl
        · exact List.forall_mem_append.mpr ⟨hf.unclosed, by simp [Exchange.streamClose?]⟩
        · simp [Delivered.resend, Delivered.start, hclient, hf.filename, hf.mode]
  | false =>
    -- a server waits until its handler reads, then acknowledges block 0
    have hclient : st.client = false := hf.client ▸ hc
    rw [if_neg Bool.false_ne_true, wp_bind, wp_deliver]
    intro x _
    split
    · refine Failing.of_opening ⟨?_, ?_, ?_⟩
      · exact List.forall_mem_append.mpr ⟨fun e he => (hf.quiet e he).1, by simp⟩
      · rw [writes_append, writes_of_no_deed hnodeed, hclient]; rfl
      · rw [forall_split_append]
        refine ⟨?_, ?_⟩
        · rintro A e B rfl block hack
          rw [hnodeed e (by simp)] at hack
          cases hack
        · simp only [forall_split_cons]
          simp [Exchange.deed?_write]
    · next hx =>
      dsimp only
      rw [wp_bind]
      obtain ⟨bytes, henc, hdec⟩ := ack_encode (show FitsWord 0 by decide)
      have hwrote : Exchange.deed? (.stream (.write []), x) = some (.wrote [] true) := by
        rw [Exchange.deed?_write]
        rcases x with _ | _ | _ | _ | _ | _ | _ | _ | (e | _)
        all_goals first | rfl | exact absurd rfl (hx e)
      have hack : ∀ y, Exchange.deed? (.send bytes s.peer, y) = some (.acked 0) :=
        Exchange.deed?_send_ack hdec s.peer
      -- the acknowledgement of block 0 follows the handshake's write, which returned
      have hopen : ∀ (y : Response) (δ : List Exchange),
          (∀ e ∈ δ, e.arrival? = none ∧ e.deed? = none) →
          Opening st.client (h ++ [(.stream (.write []), x)] ++ ((.send bytes s.peer, y) :: δ)) := by
        intro y δ hδ
        refine ⟨?_, ?_, ?_⟩
        · refine List.forall_mem_append.mpr ⟨List.forall_mem_append.mpr
            ⟨fun e he => (hf.quiet e he).1, by simp⟩, ?_⟩
          simpa using fun e he => (hδ e he).1
        · simp [writes_of_no_deed hnodeed, writes_of_no_deed fun e he => (hδ e he).2, hclient,
            handshake]
        · rw [forall_split_append]
          refine ⟨?_, ?_⟩
          · -- before the acknowledgement: the run so far and the handshake's write
            rw [forall_split_append]
            refine ⟨?_, ?_⟩
            · rintro A e B rfl block hacked
              rw [hnodeed e (by simp)] at hacked
              cases hacked
            · simp only [forall_split_cons]
              simp [hwrote]
          · rw [forall_split_cons]
            refine ⟨?_, ?_⟩
            · intro block hacked
              rw [hack y] at hacked
              cases hacked
              refine ⟨?_, ?_, rfl⟩
              · simp [writes_of_no_deed hnodeed, hclient, handshake]
              · intro payload returned hmem
                rw [List.append_nil, List.filterMap_append, deeds_of_no_deed hnodeed] at hmem
                simp [hwrote] at hmem
                exact hmem.2
            · rintro A e B rfl block hacked
              rw [(hδ e (by simp)).2] at hacked
              cases hacked
      apply wp_transmit_of_encode henc
      · intro reason
        exact Failing.of_opening (hopen _ [] (by simp))
      · intro y t _ _
        exact Failing.of_opening (hopen y [(.now, t)] (by simp))
      · intro y t expiry _ _
        show Wp ok (modify _) _ _ _
        rw [wp_modify]
        refine Awaiting.of_opening (hopen y [(.now, t)] (by simp)) ?_ ?_ hf.role hf.peer
          hf.pinned hf.client hf.policy ?_ rfl
        · intro payload returned hmem
          rw [List.filterMap_append, List.filterMap_append, deeds_of_no_deed hnodeed] at hmem
          simp [hwrote, hack] at hmem
          exact hmem.2
        · refine List.forall_mem_append.mpr ⟨List.forall_mem_append.mpr ⟨hf.unclosed, ?_⟩, ?_⟩
            <;> simp [Exchange.streamClose?]
        · simp [Delivered.resend, Delivered.start, hclient, Delivered.lastBlock]

/-! ## One step of the transfer -/

/-- Resending on silence: the packet to resend goes out again and the timer restarts; the
    receiver keeps waiting, or fails. -/
theorem retransmit_spec (ha : Awaiting st s h) (x : Response) :
    Wp ok retransmit (Stepped st) s (h ++ [(.now, x)]) := by
  -- nothing in a retransmission brings a datagram, so the record stays incomplete
  have hfailing : ∀ δ, Kept st (h ++ δ) → (∀ e ∈ δ, e.arrival? = none) → Failing st (h ++ δ) := by
    intro δ hk hδ
    refine Failing.of_incomplete hk ?_
    rw [Setup.record_append, Delivered.after_of_no_arrival _ hδ]
    exact ha.incomplete
  have hagrees : ∀ s', s'.role = s.role → s'.pinned = s.pinned → s'.peer = s.peer →
      s'.client = s.client → s'.policy = s.policy → s'.lastPacket = s.lastPacket →
      Agrees st s' (st.record h) := fun s' h1 h2 h3 h4 h5 h6 =>
    ha.agrees.congr h1 h2 h3 h4 h5 h6
  rw [wp_retransmit, ha.agrees.lastPacket]
  dsimp only
  unfold Delivered.resend
  by_cases hrrq : (st.client && (st.record h).payloads.isEmpty) = true
  · -- a client that has delivered nothing resends its request, which acknowledges nothing
    rw [if_pos hrrq, wp_send]
    cases henc : (Draft.rrq st.filename st.mode).encode with
    | error e => exact hfailing _ (ha.kept.quiet (by simp)) (by simp)
    | ok bytes =>
      have hrrq : ∀ target z, Exchange.deed? (.send bytes target, z) = none :=
        Exchange.deed?_send_of_not_ack (rrq_encode_not_ack henc)
      intro z _
      cases z with
      | sendFailed reason =>
        rw [List.append_assoc]
        exact hfailing _ (ha.kept.quiet (by simp [hrrq])) (by simp)
      | _ =>
        all_goals
          show Wp ok resetTimeout _ _ _
          rw [wp_resetTimeout]
          intro t _
          simp only [List.append_assoc, List.cons_append, List.nil_append]
          cases hadd : (Setup.clockOf t).add? s.countSent.countRetransmit.policy.seconds with
          | none => exact hfailing _ (ha.kept.quiet (by simp [hrrq])) (by simp)
          | some expiry =>
            left
            exact ha.quiet (by simp [hrrq, Exchange.streamClose?])
              (hagrees _ rfl rfl rfl rfl rfl rfl) ha.phase
  · -- otherwise the acknowledgement of the last delivered block goes out again
    rw [if_neg hrrq]
    obtain ⟨bytes, henc, hdec⟩ := ack_encode (fitsWord_mod (st.record h).payloads.length)
    have hresend : ∀ z, Kept st (h ++ [(.now, x), (.send bytes s.peer, z)]) := fun z =>
      ha.kept.resend ha.returned hdec
    apply wp_send_of_encode henc
    · intro reason _
      rw [List.append_assoc]
      exact hfailing _ (hresend _) (by simp)
    · intro z _ _
      show Wp ok resetTimeout _ _ _
      rw [wp_resetTimeout]
      intro t _
      simp only [List.append_assoc, List.cons_append, List.nil_append]
      have hk : Kept st (h ++ [(.now, x), (.send bytes s.peer, z), (.now, t)]) := by
        have hclock : ∀ e ∈ ([(.now, t)] : List Exchange), e.arrival? = none ∧ e.deed? = none := by
          simp
        simpa using (hresend z).quiet hclock
      cases hadd : (Setup.clockOf t).add? s.countSent.countRetransmit.policy.seconds with
      | none => exact hfailing _ hk (by simp)
      | some expiry =>
        left
        have hrec : st.record (h ++ [(.now, x), (.send bytes s.peer, z), (.now, t)]) =
            st.record h := by simp
        refine ⟨⟨?_, hk, ?_⟩, ha.phase, ?_, ?_⟩
        · rw [hrec]; exact hagrees _ rfl rfl rfl rfl rfl rfl
        · refine returned_append.mpr ⟨ha.returned, returned_of_no_failed_write ?_⟩
          simp [Exchange.deed?_send_ack hdec]
        · rw [hrec]; exact ha.incomplete
        · exact List.forall_mem_append.mpr ⟨ha.unclosed, by simp [Exchange.streamClose?]⟩

/-- The end of a step: a receiver still waiting reads the clock and, past the timer, resends
    its last packet or gives up; a finished one does nothing. -/
theorem wp_awaitTimer (hs : Awaiting st s h ∨ Finished st s h) :
    Wp ok (do
      let s ← get
      if (s.phase == some Phase.awaitData) = true then do
        let t ← timeLeft
        if t.isNonpos = true then handleTimeout else pure ()
      else pure ()) (Stepped st) s h := by
  rw [wp_bind, wp_get]
  dsimp only
  rcases hs with ha | hfin
  · -- still waiting: read the clock
    rw [if_pos (by simp [ha.phase]), wp_bind, wp_timeLeft]
    intro x _
    have hquiet : Awaiting st s (h ++ [(.now, x)]) :=
      ha.quiet (by simp [Exchange.streamClose?]) ha.agrees ha.phase
    cases hsub : s.expiry.sub? (Setup.clockOf x) with
    | none => exact hquiet.failing
    | some d =>
      dsimp only
      cases hd : d.isNonpos with
      | false =>
        rw [if_neg Bool.false_ne_true, wp_pure]
        exact Or.inl hquiet
      | true =>
        rw [if_pos rfl, wp_handleTimeout]
        exact ⟨fun _ => retransmit_spec ha x, fun _ => hquiet.failing⟩
  · rw [if_neg (by simp [hfin.phase]), wp_pure]
    exact Or.inr hfin

/-- One step of the transfer keeps a waiting receiver waiting, finishes it, or fails it, with its
    run kept to the rule. -/
theorem receiveOnce_spec (ha : Awaiting st s h) : Wp ok receiveOnce (Stepped st) s h := by
  unfold receiveOnce
  rw [wp_bind]
  apply wp_receive
  intro r s₁ δ hr
  -- one case per way the receive ended; all but a DATA packet end the step at once
  cases hr with
  | unreadable x hx =>
    exact (ha.quiet (by simp [Exchange.streamClose?]) ha.agrees ha.phase).failing
  | expired x t hx ht =>
    exact wp_awaitTimer (.inl (ha.quiet (by simp [Exchange.streamClose?]) ha.agrees ha.phase))
  | failed x t f hx ht =>
    exact (ha.quiet (by simp [Exchange.arrival?, Exchange.streamClose?]) ha.agrees
      ha.phase).failing
  | silent x t y hx ht hy hdecode =>
    exact wp_awaitTimer (.inl (ha.silent hdecode))
  | foreign x t bytes source p refusal z hx ht hdec hpin hsrc henc =>
    have hv : (st.record h).verdict bytes source = .drop :=
      Delivered.verdict_of_not_takesFrom (takesFrom_of_foreign ha.agrees.peer hpin hsrc)
    have hnot : Exchange.deed? (.send refusal source, z) = none :=
      Exchange.deed?_send_of_not_ack (error_encode_not_ack henc) source z
    exact wp_awaitTimer (.inl (ha.drop hv (by simp [hnot, Exchange.streamClose?])
      (peer_take_of_pinned ha.agrees.peer hpin) rfl rfl rfl rfl ha.phase))
  | aborted x t bytes source code message hx ht hdec hsrc =>
    have hv : (st.record h).verdict bytes source = .drop :=
      Delivered.verdict_of_not_data hdec (fun _ _ h => Packet.noConfusion h)
    have hwait : Awaiting st (s.pinTo source)
        (h ++ [(.now, x), (.receive t s.phase, .datagram bytes source)]) :=
      ha.drop hv (by simp) (by simpa using peer_take_pinTo ha.agrees.peer hdec) (by simp)
        (by simp) (by simp) (by simp) (by simp [ha.phase])
    exact hwait.failing
  | packet x t bytes source p hx ht hdec hsrc hnot =>
    by_cases hdata : ∃ block payload, p = .data block payload
    · -- a DATA packet is handled
      obtain ⟨block, payload, rfl⟩ := hdata
      dsimp only
      rw [wp_bind]
      apply wp_handleData (st.record h).payloads.length (!(st.record h).payloads.isEmpty) block
        payload (by rw [pinTo_role, ha.agrees.role]; rfl)
      intro r s' δ hh
      have hstep : Stepped st r s'
          (h ++ [(.now, x), (.receive t s.phase, .datagram bytes source)] ++ δ) :=
        ha.handles hdec hsrc hh
      cases r with
      | error e => exact hstep
      | ok u => exact wp_awaitTimer hstep
    · -- any other packet from the peer pins it and is dropped
      have hv : (st.record h).verdict bytes source = .drop :=
        Delivered.verdict_of_not_data hdec (fun b q heq => hdata ⟨b, q, heq⟩)
      have hwait : Awaiting st (s.pinTo source)
          (h ++ [(.now, x), (.receive t s.phase, .datagram bytes source)]) :=
        ha.drop hv (by simp) (by simpa using peer_take_pinTo ha.agrees.peer hdec) (by simp)
          (by simp) (by simp) (by simp) (by simp [ha.phase])
      cases p with
      | data block payload => exact absurd ⟨block, payload, rfl⟩ hdata
      | _ => exact wp_awaitTimer (.inl hwait)

end Session

end Tftp
