import Tftp.Proofs.Sender.Invariant

/-! # A sending session keeps to the rule

    The sender's invariants hold from the session's creation to its end.

    * `startSending_spec`: opening the transfer leaves a client waiting for the acknowledgement
      of its request and a server ready to read its first block, or fails the run.
    * `sendOnce_spec`: a step takes a ready sender to waiting, with the next block read and
      sent; it takes a waiting sender to ready or done when the peer acknowledges the last block,
      and keeps it waiting on anything else, resending on silence; or it fails the run
      (`Stepped`).
    * `fail_spec` and `close_spec`: a failure keeps the run failing, and however the session
      ends, closing it leaves a run that keeps the sender's contract (`Concluded`). -/

namespace Tftp

namespace Sending

open Session

variable {ok : List Exchange → Prop} {st : Setup} {s s' : Session} {h δ : List Exchange}

/-- A sender as its setup creates it: counters at zero and nothing sent, the setup's peer,
    pinned for a server; and a run that neither read, sent nor received. -/
structure Fresh (st : Setup) (s : Session) (h : List Exchange) : Prop where
  role : s.role = .sender ⟨.int 0, none, false⟩
  peer : s.peer = st.peer
  pinned : s.pinned = !st.client
  client : s.client = st.client
  filename : s.filename = st.filename
  mode : s.mode = st.mode
  quiet : ∀ e ∈ h, e.isQuiet = true

/-- What a step of a sender leaves: a sender ready, waiting or done; after a failure, a failing
    run. -/
def Stepped (st : Setup) : Except Failure Unit → Session → List Exchange → Prop
  | .ok _, s, h => Ready st s h ∨ Waiting st s h ∨ Done st s h
  | .error _, _, h => Failing st h

/-- What a sender's run shows at its end: the sender's contract. -/
def Concluded (st : Setup) (s : Session) (h : List Exchange) : Prop :=
  SenderContract st.client st.peer (s.phase = some .done) h

theorem Failing.concluded (hf : Failing st h) (hphase : s.phase ≠ some .done) :
    Concluded st s h :=
  ⟨hf.follows, iff_of_false hphase hf.unfinished, fun hdone => absurd hdone hphase⟩

theorem Done.concluded (hd : Done st s h) : Concluded st s h :=
  ⟨hd.follows, iff_of_true hd.phase ⟨hd.acked, hd.lastShort⟩, fun _ => ⟨hd.eof, hd.read⟩⟩

/-- Exchanges that neither read, send nor receive keep the contract, the phase unchanged. -/
theorem Concluded.quiet (hc : Concluded st s h) (hδ : ∀ e ∈ δ, e.isQuiet = true)
    (hphase : s'.phase = s.phase) : Concluded st s' (h ++ δ) := by
  refine ⟨hc.follows.quiet hδ, ?_, fun hdone => ?_⟩
  · rw [Pushed.after_append, Pushed.after_of_isQuiet hδ, hphase]
    exact hc.finished
  · obtain ⟨heof, hread⟩ := hc.complete (hphase ▸ hdone)
    refine ⟨heof.append_right, ?_⟩
    rw [Pushed.after_append, Pushed.after_of_isQuiet hδ, readBytes_append,
      readBytes_of_isQuiet hδ, List.append_nil]
    exact hread

/-! ## Opening the transfer -/

/-- Opening the transfer: a client sends its write request and waits for its acknowledgement,
    a server is ready to read its first block; or the run fails before any block. -/
theorem startSending_spec (hf : Fresh st s h) : Wp ok startSending (Stepped st) s h := by
  have hrec : st.pushed h = Pushed.start st.client st.peer := Pushed.after_of_isQuiet hf.quiet
  have hfollows : FollowsRule st.client (Pushed.start st.client st.peer) h :=
    FollowsRule.of_isQuiet hf.quiet
  have hread : readBytes h = [] := readBytes_of_isQuiet hf.quiet
  unfold startSending
  rw [wp_bind, wp_get]
  dsimp only
  cases hc : s.client with
  | true =>
    -- a client sends its request, which is no DATA, and waits for ACK 0
    have hclient : st.client = true := hf.client ▸ hc
    have hunacked : Failing st h := Failing.of_unacked hfollows (by rw [hrec, hclient]; rfl)
    rw [if_pos rfl, wp_bind]
    cases henc : (Draft.wrq s.filename s.mode).encode with
    | error e =>
      rw [wp_transmit, wp_send, henc]
      exact hunacked
    | ok bytes =>
      have hnot := wrq_encode_not_data henc
      apply wp_transmit_of_encode henc
      · intro reason
        exact hunacked.send hnot
      · intro x t _ _
        have hsent : Failing st (h ++ [(.send bytes s.peer, x)]) := hunacked.send hnot
        have hfailing : Failing st (h ++ [(.send bytes s.peer, x)] ++ [(.now, t)]) :=
          hsent.quiet (by simp)
        rwa [List.append_assoc] at hfailing
      · intro x t expiry _ _
        rw [wp_modify]
        have hrecW : st.pushed (h ++ [(.send bytes s.peer, x), (.now, t)]) =
            Pushed.start st.client st.peer := by
          rw [Setup.pushed_append, Pushed.after_cons, Pushed.step_send,
            Pushed.push_of_not_data hnot, Pushed.after_of_isQuiet (by simp), hrec]
        have hreadW : readBytes (h ++ [(.send bytes s.peer, x), (.now, t)]) = [] := by
          simp [hread]
        have hfollowsW : FollowsRule st.client (Pushed.start st.client st.peer)
            (h ++ [(.send bytes s.peer, x), (.now, t)]) := by
          have hsent : FollowsRule st.client (Pushed.start st.client st.peer)
              (h ++ [(.send bytes s.peer, x)] ++ [(.now, t)]) :=
            (hfollows.snoc (Pushed.permits_send_of_not_data hnot)).quiet (by simp)
          rwa [List.append_assoc] at hsent
        refine .inr (.inl ⟨⟨?_, ?_⟩, rfl, ?_, ?_, ?_, ?_, .inl hclient, hfollowsW⟩)
        · rw [hrecW, Pushed.counters_start]
          exact hf.role
        · rw [hrecW]
          simp [Pushed.start, hclient, hf.pinned]
        · rw [hrecW, hclient]
          rfl
        · rw [hrecW, hreadW]
          exact Pushed.chunks_start _ _
        · rw [hrecW]
          show some (Draft.wrq s.filename s.mode) = some (.wrq st.filename st.mode)
          rw [hf.filename, hf.mode]
        · rw [hrecW]
          intro hshort
          cases hshort
  | false =>
    -- a server is ready to read its first block
    have hclient : st.client = false := hf.client ▸ hc
    rw [if_neg Bool.false_ne_true, wp_modify]
    refine .inl ⟨⟨?_, ?_⟩, rfl, ?_, ?_, ?_, hfollows⟩
    · rw [hrec, Pushed.counters_start]
      exact hf.role
    · rw [hrec]
      simp [Pushed.start, hclient, hf.pinned, hf.peer]
    · rw [hrec, hclient]
      rfl
    · rw [hrec, hread]
      exact Pushed.chunks_start _ _
    · rw [hrec]
      rfl

/-! ## One step of the transfer -/

/-- Reading and sending the next block takes a ready sender to waiting for its acknowledgement,
    or fails the run. -/
theorem pushNext_spec (hok : ∀ H, ok H → ∀ e ∈ H, e.FitsPipe) (hr : Ready st s h) :
    Wp ok (nextBlock >>= fun _ => transmitData) (Stepped st) s h := by
  have hrole : s.role = .sender ⟨.int (((st.pushed h).payloads.length % 65536 : Nat) : Int),
      (st.pushed h).payloads.getLast?, false⟩ := by
    rw [hr.agrees.role, Pushed.counters, hr.more]
    rfl
  apply wp_pushNext hok _ _ hrole
  intro r s' δ hpush
  cases hpush with
  | readFailed δ f hg => exact hr.readFailing hg.reads
  | sendFailed δ block bytes reason hg henc =>
    rw [← List.append_assoc]
    exact hr.sendFailing hg ((data_round_trip _ _).2.2 bytes henc)
  | timerFailed δ block bytes x t hg henc _ _ =>
    have hfailing : Failing st (h ++ δ ++ [(.send bytes s.peer, x)] ++ [(.now, t)]) :=
      (hr.sendFailing hg ((data_round_trip _ _).2.2 bytes henc)).quiet (by simp)
    rw [List.append_assoc, List.append_assoc] at hfailing
    exact hfailing
  | sent δ block bytes x t expiry hg henc _ _ =>
    rw [← List.append_assoc]
    exact .inr (.inl (hr.sent hg ((data_round_trip _ _).2.2 bytes henc) t expiry))

/-- Resending keeps a waiting sender waiting, with its timer restarted, or fails the run. -/
theorem retransmit_spec (hw : Waiting st s h) : Wp ok retransmit (Stepped st) s h := by
  rw [wp_retransmit, hw.resend]
  dsimp only
  rw [wp_send]
  cases henc : ((st.pushed h).resend st).encode with
  | error e => exact hw.failing
  | ok bytes =>
    dsimp only
    intro x _
    have hwx : Waiting st s (h ++ [(.send bytes s.peer, x)]) := hw.resent henc
    cases x with
    | sendFailed reason => exact hwx.failing
    | _ =>
      dsimp only
      rw [wp_resetTimeout]
      intro t _
      have hwt : ∀ s', s'.role = s.role → s'.pinned = s.pinned → s'.peer = s.peer →
          s'.lastPacket = s.lastPacket → s'.phase = s.phase →
          Waiting st s' (h ++ [(.send bytes s.peer, _)] ++ [(.now, t)]) :=
        fun s' hrole hpinned hpeer hlast hphase =>
          hwx.quiet (by simp) hrole hpinned hpeer hlast hphase
      split
      · exact .inr (.inl (hwt _ rfl rfl rfl rfl rfl))
      · exact (hwt _ rfl rfl rfl rfl rfl).failing

/-- The end of a step: a sender still waiting reads the clock and, once the timer expired,
    resends or gives up; any other is done with the step. -/
theorem expire_spec (hs : Ready st s h ∨ Waiting st s h ∨ Done st s h) :
    Wp ok (do
      let s ← get
      if (s.phase == some .awaitAck) = true then do
        let left ← timeLeft
        if left.isNonpos = true then handleTimeout else pure ()
      else pure ()) (Stepped st) s h := by
  rw [wp_bind, wp_get]
  dsimp only
  rcases hs with hr | hw | hd
  · rw [hr.phase, if_neg (by decide)]
    exact .inl hr
  · rw [hw.phase, if_pos (by decide), wp_bind, wp_timeLeft]
    intro x _
    have hwx : Waiting st s (h ++ [(.now, x)]) := hw.quiet (by simp) rfl rfl rfl rfl rfl
    cases hleft : s.expiry.sub? (Setup.clockOf x) with
    | none => exact hwx.failing
    | some left =>
      dsimp only
      cases hpos : left.isNonpos with
      | false =>
        rw [if_neg Bool.false_ne_true]
        exact .inr (.inl hwx)
      | true =>
        rw [if_pos rfl, wp_handleTimeout]
        exact ⟨fun _ => retransmit_spec hwx, fun _ => hwx.failing⟩
  · rw [hd.phase, if_neg (by decide)]
    exact .inr (.inr hd)

/-- A step of a sender: a ready one reads and sends the next block; a waiting one takes a
    datagram, if any comes before its timer expires, and then minds the timer. -/
theorem sendOnce_spec (hok : ∀ H, ok H → ∀ e ∈ H, e.FitsPipe)
    (hs : Ready st s h ∨ Waiting st s h) : Wp ok sendOnce (Stepped st) s h := by
  unfold sendOnce
  rw [wp_bind, wp_get]
  dsimp only
  rcases hs with hr | hw
  · rw [hr.phase, if_pos (by decide)]
    exact pushNext_spec hok hr
  · rw [hw.phase, if_neg (by decide), wp_bind]
    apply wp_receive
    intro r s' δ hrecv
    cases hrecv with
    | unreadable x _ => exact (hw.quiet (by simp) rfl rfl rfl rfl rfl).failing
    | expired x t _ _ => exact expire_spec (.inr (.inl (hw.quiet (by simp) rfl rfl rfl rfl rfl)))
    | failed x t f _ _ =>
      exact (hw.silent fun _ _ hy => Response.noConfusion hy).failing
    | silent x t y _ _ _ hy => exact expire_spec (.inr (.inl (hw.silent hy)))
    | foreign x t bytes source p refusal z _ _ hdec hpin hsrc hrefusal =>
      exact expire_spec (.inr (.inl (hw.foreign hdec hpin hsrc hrefusal)))
    | aborted x t bytes source code message _ _ hdec hsrc =>
      exact (hw.pass hdec hsrc rfl).failing
    | packet x t bytes source p _ _ hdec hsrc _ =>
      cases p with
      | ack block =>
        -- an acknowledgement: of the last block it ends the wait, of any other it is ignored
        dsimp only
        rw [wp_bind]
        apply wp_handleAck (by rw [pinTo_role]; exact hw.agrees.role) rfl block
        · rintro rfl
          cases hlast : (st.pushed h).lastShort with
          | false => exact expire_spec (.inl (hw.accept hdec hsrc hlast))
          | true => exact expire_spec (.inr (.inr (hw.acceptLast hdec hsrc hlast)))
        · intro hne
          exact expire_spec (.inr (.inl (hw.pass hdec hsrc (by simp [Pushed.acksLast, hne]))))
      | _ => exact expire_spec (.inr (.inl (hw.pass hdec hsrc rfl)))

/-! ## Failing and closing -/

/-- Failing records the fault and, for a failure of the handler, reports it to the peer with an
    ERROR, which is no DATA: the run stays failing, and the session has failed. -/
theorem fail_spec (hf : Failing st h) (f : Fault) :
    Wp ok (fail f) (fun _ s' h' => Failing st h' ∧ s'.phase = some .failed) s h :=
  wp_fail_keeps f hf fun _ _ henc => hf.send (error_encode_not_data henc)

/-- Closing a sender: however it ended, ready, waiting, done or failed, its run then keeps the
    sender's contract. -/
theorem close_spec (fuel : Nat)
    (hs : (Ready st s h ∨ Waiting st s h ∨ Done st s h) ∨ (Failing st h ∧ s.phase = some .failed)) :
    Wp ok (close fuel) (fun _ s' h' => Concluded st s' h') s h := by
  have hc : Concluded st s h := by
    rcases hs with (hr | hw | hd) | ⟨hf, hphase⟩
    · exact hr.failing.concluded (by rw [hr.phase]; decide)
    · exact hw.failing.concluded (by rw [hw.phase]; decide)
    · exact hd.concluded
    · exact hf.concluded (by rw [hphase]; decide)
  have hsender : (∃ x, s.role = .sender x) ∨ s.phase = some .failed := by
    rcases hs with (hr | hw | hd) | ⟨_, hphase⟩
    · exact .inl ⟨_, hr.agrees.role⟩
    · exact .inl ⟨_, hw.agrees.role⟩
    · exact .inl ⟨_, hd.agrees.role⟩
    · exact .inr hphase
  unfold close
  rw [wp_bind, wp_get]
  dsimp only
  split
  · next hrole hdone =>
    -- only a receiver that is done dallies
    exfalso
    rcases hsender with ⟨x, hx⟩ | hphase
    · rw [hx] at hrole
      cases hrole
    · rw [hphase] at hdone
      cases hdone
  · apply wp_finish
    intro x₁ x₂ x₃ x₄
    exact hc.quiet (by simp) rfl

end Sending

end Tftp
