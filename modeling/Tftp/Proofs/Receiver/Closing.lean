import Tftp.Proofs.Receiver.Session

/-! # Closing a receiving session

    How a receiving session ends, with its run kept to the rule to the last exchange.

    * A finished receiver closes its end of the pipe without a fault and dallies (`Dallying`):
      a repeat of the last block is acknowledged again, anything else is dropped, and nothing more
      is written to the handler (`dallyFor_spec`, `dally_spec`).
    * `fail_spec`: a failure is recorded, and reported to the peer when the handler failed, with
      the run kept.
    * `close_spec`: a receiver that is waiting, finished or failed is closed with a run that keeps
      the receiver's contract (`Concluded`). -/

namespace Tftp

variable {st : Setup} {s s' : Session} {h δ : List Exchange}

/-! ## Dallying -/

/-- A receiver dallying after the last block: in step with its run, done, the last block
    acknowledged, and its end of the pipe closed cleanly, with nothing written since. -/
structure Dallying (st : Setup) (s : Session) (h : List Exchange) : Prop
    extends Receiving st s h where
  phase : s.phase = some .done
  lastAck : AcksLast st.client (Delivered.start st.client st.peer) h
  closed : ClosesClean h

/-- A dallying receiver's record is complete. -/
theorem Dallying.complete (hd : Dallying st s h) : (st.record h).complete = true :=
  hd.lastAck.complete

/-- What a dallying receiver has done stays done over more exchanges that write nothing. -/
theorem Dallying.extend (hd : Dallying st s h) (hr : Receiving st s' (h ++ δ))
    (hphase : s'.phase = some .done) (hδ : writes δ = []) : Dallying st s' (h ++ δ) := by
  obtain ⟨A', y, B', hsplit, hunclosed, hB'⟩ := hd.closed
  obtain ⟨A, e, B, rfl, hlast⟩ := hd.lastAck
  refine ⟨hr, hphase, ⟨A, e, B ++ δ, by simp, hlast⟩, ⟨A', y, B' ++ δ, ?_, hunclosed, ?_⟩⟩
  · rw [hsplit]
    simp
  · rw [writes_append, hB', hδ]
    rfl

/-- A finished receiver that closes its end of the pipe without a fault starts dallying. -/
theorem Finished.dallying (hf : Finished st s h) (x : Response) :
    Dallying st s (h ++ [(.closeStream none, x)]) := by
  obtain ⟨A, e, B, hsplit, hlast⟩ := hf.lastAck
  refine ⟨hf.toReceiving.quiet (by simp) hf.agrees, hf.phase, ?_, ⟨h, x, [], rfl, hf.unclosed, rfl⟩⟩
  exact ⟨A, e, B ++ [(.closeStream none, x)], by rw [hsplit]; simp, hlast⟩

/-- Exchanges that neither bring a datagram nor do a deed keep a receiver dallying. -/
theorem Dallying.quiet (hd : Dallying st s h)
    (hδ : ∀ e ∈ δ, e.arrival? = none ∧ e.deed? = none) (hagrees : Agrees st s' (st.record h))
    (hphase : s'.phase = some .done) : Dallying st s' (h ++ δ) :=
  hd.extend (hd.toReceiving.quiet hδ hagrees) hphase (writes_of_no_deed fun e he => (hδ e he).2)

section Datagram

variable {x : Response} {t : Number} {phase : Option Phase} {bytes : List UInt8}
  {source : Address}

/-- Nothing usable came while dallying. -/
theorem Dallying.silent (hd : Dallying st s h) {y : Response}
    (hdecode : ∀ bytes source, y = .datagram bytes source → ∃ e, Packet.decode bytes = .error e) :
    Dallying st s (h ++ [(.now, x), (.receive t phase, y)]) :=
  hd.extend (hd.toReceiving.silent hdecode) hd.phase (by simp)

/-- A datagram the rule drops while dallying, answered by nothing. -/
theorem Dallying.drop (hd : Dallying st s h) (hv : (st.record h).verdict bytes source = .drop)
    (hδ : ∀ e ∈ δ, e.arrival? = none ∧ e.deed? = none)
    (hagrees : Agrees st s' ((st.record h).take bytes source)) (hphase : s'.phase = some .done) :
    Dallying st s' (h ++ (.now, x) :: (.receive t phase, .datagram bytes source) :: δ) :=
  hd.extend (hd.toReceiving.drop hv hδ hagrees) hphase
    (by simp [writes_of_no_deed fun e he => (hδ e he).2])

/-- A repeat of the last block while dallying, acknowledged again. -/
theorem Dallying.again (hd : Dallying st s h) {block : Int} {ack : List UInt8}
    {target : Address} {z : Response} (hv : (st.record h).verdict bytes source = .again block)
    (hdec : Packet.decode ack = .ok (.ack block))
    (hagrees : Agrees st s' ((st.record h).take bytes source)) (hphase : s'.phase = some .done) :
    Dallying st s'
      (h ++ [(.now, x), (.receive t phase, .datagram bytes source)] ++ [(.send ack target, z)]) := by
  rw [List.append_assoc]
  exact hd.extend (hd.toReceiving.again hv hdec hagrees) hphase (by simp)

/-- While dallying, the rule acknowledges a DATA packet from the peer again if it repeats the
    last block, and drops any other. -/
theorem Dallying.verdict_data (hd : Dallying st s h) {block : Int} {payload : List UInt8}
    (hdec : Packet.decode bytes = .ok (.data block payload))
    (hsrc : s.pinned = true → source = s.peer) :
    (st.record h).verdict bytes source =
      if block = (st.record h).lastBlock then .again block else .drop := by
  rw [Delivered.verdict_data hdec (takesFrom_of_accepted hd.agrees.peer hsrc),
    if_neg (by simp [hd.complete])]
  by_cases hb : block = (st.record h).lastBlock
  · rw [if_pos ⟨Delivered.payloads_ne_nil_of_complete hd.complete, hb⟩, if_pos hb]
  · rw [if_neg (fun hc => hb hc.2), if_neg hb]

end Datagram

/-! ## The contract at the end -/

/-- The receiver's contract for the run `h` of a session set up by `st` that ended in the state
    `s`. -/
def Concluded (st : Setup) (s : Session) (h : List Exchange) : Prop :=
  ReceiverContract st.client st.peer st.policy.seconds (s.phase = some .done) h

/-- A run kept until a failure, or until the steps ran out, keeps the contract of a session
    that did not end done. -/
theorem Failing.concluded (hf : Failing st h) (hphase : s.phase ≠ some .done) :
    Concluded st s h :=
  ⟨hf.writes, hf.answered, hf.acks, fun hdone => absurd hdone hphase, fun _ => hf.timer⟩

/-- A dallying receiver's run keeps the contract of a session that ended done. -/
theorem Dallying.concluded (hd : Dallying st s h) : Concluded st s h :=
  ⟨hd.kept.writes, hd.kept.answered, hd.kept.acks, fun _ => ⟨hd.lastAck, hd.closed⟩,
    fun hnot => absurd hd.phase hnot⟩

namespace Session

variable {ok : List Exchange → Prop}

/-! ## Dallying after the last block -/

/-- Dallying keeps the receiver dallying, whatever arrives and however the dally ends. -/
theorem dallyFor_spec (fuel : Nat) :
    ∀ s h, Dallying st s h → Wp ok (dallyFor fuel) (fun _ s' h' => Dallying st s' h') s h := by
  induction fuel with
  | zero => intro s h hd; exact hd
  | succ n ih =>
    intro s h hd
    unfold dallyFor
    rw [wp_bind, wp_timeLeft]
    intro x _
    have hd₁ : Dallying st s (h ++ [(.now, x)]) := hd.quiet (by simp) hd.agrees hd.phase
    cases hsub : s.expiry.sub? (Setup.clockOf x) with
    | none => exact hd₁
    | some d =>
      dsimp only
      cases hnp : d.isNonpos with
      | true => rw [if_pos rfl]; exact hd₁
      | false =>
        rw [if_neg Bool.false_ne_true, wp_bind, wp_tryCatch, wp_map]
        apply wp_receive
        intro r s₂ δ hrecv
        -- one case per way the receive ended: a fault ends the dally, anything else is dropped
        -- but a repeat of the last block, which is acknowledged again
        cases hrecv with
        | unreadable y hy =>
          dsimp only [Except.map]
          split <;> exact hd₁.quiet (by simp) hd₁.agrees hd₁.phase
        | expired y t hy ht => exact ih _ _ (hd₁.quiet (by simp) hd₁.agrees hd₁.phase)
        | failed y t f hy ht =>
          dsimp only [Except.map]
          split <;> exact hd₁.quiet (by simp [Exchange.arrival?]) hd₁.agrees hd₁.phase
        | silent y t z hy ht hz hdecode => exact ih _ _ (hd₁.silent hdecode)
        | foreign y t bytes source p refusal z hy ht hdec hpin hsrc henc =>
          have hv : (st.record (h ++ [(.now, x)])).verdict bytes source = .drop :=
            Delivered.verdict_of_not_takesFrom (takesFrom_of_foreign hd₁.agrees.peer hpin hsrc)
          have hnot : Exchange.deed? (.send refusal source, z) = none :=
            Exchange.deed?_send_of_not_ack (error_encode_not_ack henc) source z
          exact ih _ _ (hd₁.drop hv (by simp [hnot])
            (hd₁.agrees.of_payloads (Delivered.take_payloads_of_nil (by rw [hv]; rfl))
              (peer_take_of_pinned hd₁.agrees.peer hpin) rfl rfl rfl rfl) hd₁.phase)
        | aborted y t bytes source code message hy ht hdec hsrc =>
          have hv : (st.record (h ++ [(.now, x)])).verdict bytes source = .drop :=
            Delivered.verdict_of_not_data hdec (fun _ _ h => Packet.noConfusion h)
          dsimp only [Except.map]
          split <;> exact hd₁.drop hv (by simp)
            (hd₁.agrees.pinTo hdec (Delivered.take_payloads_of_nil (by rw [hv]; rfl)))
            (by simp [hd₁.phase])
        | packet y t bytes source p hy ht hdec hsrc hnot =>
          -- the packet pins its source, and delivers nothing more
          have hpinned : ∀ v, (st.record (h ++ [(.now, x)])).verdict bytes source = v →
              v.payloads = [] →
              Agrees st (s.pinTo source) ((st.record (h ++ [(.now, x)])).take bytes source) :=
            fun v hv hnil =>
              hd₁.agrees.pinTo hdec (Delivered.take_payloads_of_nil (by rw [hv]; exact hnil))
          have hphase : (s.pinTo source).phase = some .done := by simp [hd₁.phase]
          dsimp only [Except.map]
          cases p with
          | data block payload =>
            have hv := hd₁.verdict_data hdec hsrc
            rw [wp_bind, wp_receiver, pinTo_role, hd₁.agrees.role]
            dsimp only [Delivered.counters]
            by_cases hb : block = (st.record (h ++ [(.now, x)])).lastBlock
            · -- a repeat of the last block is acknowledged again; a fault of the send ends the
              -- dally
              rw [if_pos hb] at hv
              rw [if_pos ((Value.eqInt_int_iff _ _).mpr hb), wp_bind, wp_tryCatch, wp_seqRight,
                wp_bind]
              obtain ⟨ack, henc, hdecAck⟩ :=
                ack_encode (show FitsWord block by rw [hb]; exact fitsWord_mod _)
              apply wp_send_of_encode henc
              · intro reason _
                dsimp only
                split <;> exact hd₁.again hv hdecAck (hpinned _ hv rfl) hphase
              · intro z _ _
                exact ih _ _ (hd₁.again hv hdecAck
                  ((hpinned _ hv rfl).congr rfl rfl rfl rfl rfl rfl) hphase)
            · rw [if_neg hb] at hv
              rw [if_neg (fun hc => hb ((Value.eqInt_int_iff _ _).mp hc))]
              exact ih _ _ (hd₁.drop hv (by simp) (hpinned _ hv rfl) hphase)
          | _ =>
            have hv : (st.record (h ++ [(.now, x)])).verdict bytes source = .drop :=
              Delivered.verdict_of_not_data hdec (fun _ _ h => Packet.noConfusion h)
            exact ih _ _ (hd₁.drop hv (by simp) (hpinned _ hv rfl) hphase)

/-- Once the last block is acknowledged, the handler's end of the pipe is closed without a fault,
    the timer restarts, and the receiver dallies. -/
theorem dally_spec (hf : Finished st s h) (fuel : Nat) :
    Wp ok (dally fuel) (fun _ s' h' => Dallying st s' h') s h := by
  unfold dally
  rw [wp_bind, wp_discard, wp_ask]
  intro x _
  have hd := hf.dallying x
  dsimp only [Except.map]
  rw [wp_bind, wp_resetTimeout]
  intro y _
  have hclock : ∀ e ∈ ([(.now, y)] : List Exchange), e.arrival? = none ∧ e.deed? = none := by
    simp
  cases hadd : (Setup.clockOf y).add? s.policy.seconds with
  | none => exact hd.quiet hclock hd.agrees hd.phase
  | some expiry =>
    exact dallyFor_spec fuel _ _
      (hd.quiet hclock (hd.agrees.congr rfl rfl rfl rfl rfl rfl) hd.phase)

/-! ## Failing and closing -/

/-- Failing records the fault and, for a failure of the handler, reports it to the peer; the run
    stays kept, and the session has failed. -/
theorem fail_spec (hf : Failing st h) (f : Fault) :
    Wp ok (fail f) (fun _ s' h' => Failing st h' ∧ s'.phase = some .failed) s h := by
  rw [wp_fail]
  refine ⟨fun _ => ?_, fun _ => ⟨hf, rfl⟩⟩
  rw [wp_transmitError]
  cases henc : (Draft.error f.code f.message).encode with
  | error e =>
    rw [wp_send, henc]
    dsimp only
    split <;> exact ⟨hf, rfl⟩
  | ok bytes =>
    -- the report of the fault acknowledges nothing
    have hreport : ∀ x, Failing st (h ++ [(.send bytes (s.failWith f).peer, x)]) := fun x =>
      hf.quiet (by simp [Exchange.deed?_send_of_not_ack (error_encode_not_ack henc)])
    apply wp_send_of_encode henc
    · intro reason _
      dsimp only
      split <;> exact ⟨hreport _, rfl⟩
    · intro x _ _
      exact ⟨hreport x, rfl⟩

/-- Closing a receiver: one that is done dallies first; whether it was waiting, done or failed,
    its run then keeps the receiver's contract. -/
theorem close_spec (fuel : Nat)
    (hs : (Awaiting st s h ∨ Finished st s h) ∨ (Failing st h ∧ s.phase = some .failed)) :
    Wp ok (close fuel) (fun _ s' h' => Concluded st s' h') s h := by
  -- the last exchanges of every session do nothing the rule sees
  have hfinish : ∀ (s : Session) x₁ x₂ x₃ x₄, ∀ e ∈ ([(.closeStream (s.error.map .fault), x₁),
      (.closeSocket, x₂), (.now, x₃), (.report (s.closedAt (Setup.clockOf x₃)).stats, x₄)] :
      List Exchange), e.arrival? = none ∧ e.deed? = none := by
    simp
  unfold close
  rw [wp_bind, wp_get]
  dsimp only
  split
  · next r hdone =>
    -- a receiver that is done dallies, then finishes
    have hf : Finished st s h := by
      rcases hs with (ha | hf) | ⟨_, hphase⟩
      · rw [ha.phase] at hdone
        cases hdone
      · exact hf
      · rw [hphase] at hdone
        cases hdone
    rw [wp_bind]
    apply Wp.mono _ (dally_spec hf fuel)
    rintro (e | _) s' h' hd
    · exact hd.concluded
    · apply wp_finish
      intro x₁ x₂ x₃ x₄
      exact (hd.quiet (hfinish s' x₁ x₂ x₃ x₄) (hd.agrees.congr rfl rfl rfl rfl rfl rfl)
        hd.phase).concluded
  · next hnot =>
    -- any other session finishes at once, not done
    apply wp_finish
    intro x₁ x₂ x₃ x₄
    rcases hs with (ha | hf) | ⟨hfail, hphase⟩
    · exact (ha.failing.quiet (hfinish s x₁ x₂ x₃ x₄)).concluded (by simp [closedAt, ha.phase])
    · exact absurd hf.phase (hnot _ hf.agrees.role)
    · exact (hfail.quiet (hfinish s x₁ x₂ x₃ x₄)).concluded (by simp [closedAt, hphase])

end Session

end Tftp
