import Tftp.Proofs.Runs
import Tftp.Proofs.Codec

/-! # What each shared step of a session does

    One lemma per step of `Tftp.Session.Basic`, in the calculus of `Session.Wp`: what the step
    asks, and what it ends with for each answer.  Later proofs go through these lemmas and never
    unfold a step.

    * The clock and the timer: `wp_now`, `wp_resetTimeout`, `wp_timeLeft`.
    * Sending: `wp_send`, `wp_transmit`, `wp_retransmit`, `wp_handleTimeout`.
    * Receiving: the ways a receive can end are the constructors of `Receives`, and
      `wp_receive` says that they are all.
    * Ending: `wp_transmitError`, `wp_fail`, `wp_finish`. -/

namespace Tftp

/-- The answer tells that a datagram could not be sent. -/
def Response.failedSend : Response → Bool
  | .sendFailed _ => true
  | _ => false

/-- The answer tells that a call on the pipe failed. -/
def Response.streamFailed : Response → Bool
  | .streamed (.error _) => true
  | _ => false

/-- A session compares a block number with a counter that is an integer by equality. -/
theorem Value.eqInt_int_iff (block last : Int) :
    Value.eqInt block (.int last) = true ↔ block = last := by
  simp only [Value.eqInt, Value.toNumber?, Number.eqInt, beq_iff_eq]
  exact eq_comm

namespace Session

/-- The failure of a send to `peer`, for a reason. -/
def sendFailure (peer : Address) (reason : String) : Failure :=
  .ofKind .transportFailure ("sending to " ++ peer.literal ++ " failed: " ++ reason)

/-- The session after one more packet was sent. -/
def countSent (s : Session) : Session :=
  { s with stats := { s.stats with packetsSent := s.stats.packetsSent + 1 } }

@[simp] theorem countSent_role (s : Session) : s.countSent.role = s.role := rfl
@[simp] theorem countSent_pinned (s : Session) : s.countSent.pinned = s.pinned := rfl
@[simp] theorem countSent_peer (s : Session) : s.countSent.peer = s.peer := rfl
@[simp] theorem countSent_client (s : Session) : s.countSent.client = s.client := rfl
@[simp] theorem countSent_policy (s : Session) : s.countSent.policy = s.policy := rfl
@[simp] theorem countSent_lastPacket (s : Session) : s.countSent.lastPacket = s.lastPacket := rfl
@[simp] theorem countSent_phase (s : Session) : s.countSent.phase = s.phase := rfl

variable {ok : List Exchange → Prop} {s : Session} {h : List Exchange}

/-! ## The clock and the timer -/

theorem wp_now {Q : Except Failure Number → Session → List Exchange → Prop} :
    Wp ok now Q s h ↔
      ∀ x, ok (h ++ [(.now, x)]) → Q (.ok (Setup.clockOf x)) s (h ++ [(.now, x)]) := by
  unfold now
  rw [wp_bind, wp_ask]
  apply forall_congr'; intro x
  apply imp_congr_right; intro _
  cases x <;> rfl

/-- Restarting the timer reads the clock; a reading too large to add the timeout to fails. -/
theorem wp_resetTimeout {Q : Except Failure Unit → Session → List Exchange → Prop} :
    Wp ok resetTimeout Q s h ↔ ∀ x, ok (h ++ [(.now, x)]) →
      match (Setup.clockOf x).add? s.policy.seconds with
      | some e => Q (.ok ()) { s with expiry := e } (h ++ [(.now, x)])
      | none => Q (.error .tooLarge) s (h ++ [(.now, x)]) := by
  unfold resetTimeout
  rw [wp_bind, wp_now]
  apply forall_congr'; intro x
  apply imp_congr_right; intro _
  show Wp ok (get >>= _) Q s _ ↔ _
  rw [wp_bind, wp_get]
  dsimp only
  cases (Setup.clockOf x).add? s.policy.seconds <;> rfl

theorem wp_timeLeft {Q : Except Failure Number → Session → List Exchange → Prop} :
    Wp ok timeLeft Q s h ↔ ∀ x, ok (h ++ [(.now, x)]) →
      match s.expiry.sub? (Setup.clockOf x) with
      | some d => Q (.ok d) s (h ++ [(.now, x)])
      | none => Q (.error .tooLarge) s (h ++ [(.now, x)]) := by
  unfold timeLeft
  rw [wp_bind, wp_now]
  apply forall_congr'; intro x
  apply imp_congr_right; intro _
  show Wp ok (get >>= _) Q s _ ↔ _
  rw [wp_bind, wp_get]
  dsimp only
  cases s.expiry.sub? (Setup.clockOf x) <;> rfl

/-! ## Sending -/

/-- A send writes the packet, or fails with the codec's error before asking anything; the
    datagram goes to the peer, and a failed send is a transport failure. -/
theorem wp_send (p : Draft) {Q : Except Failure Unit → Session → List Exchange → Prop} :
    Wp ok (send p) Q s h ↔
      match p.encode with
      | .error e => Q (.error e.failure) s h
      | .ok bytes => ∀ x, ok (h ++ [(.send bytes s.peer, x)]) →
          match x with
          | .sendFailed reason =>
            Q (.error (sendFailure s.peer reason)) s (h ++ [(.send bytes s.peer, x)])
          | _ => Q (.ok ()) s.countSent (h ++ [(.send bytes s.peer, x)]) := by
  unfold send
  dsimp only
  cases p.encode with
  | error e => rw [wp_bind]; rfl
  | ok bytes =>
    rw [wp_bind, wp_pure]
    dsimp only
    rw [wp_bind, wp_get]
    dsimp only
    rw [wp_bind, wp_ask]
    apply forall_congr'; intro x
    apply imp_congr_right; intro _
    cases x <;> rfl

/-- A send of a packet that can be written, in the form later proofs use. -/
theorem wp_send_of_encode {p : Draft} {bytes : List UInt8} (hp : p.encode = .ok bytes)
    {Q : Except Failure Unit → Session → List Exchange → Prop}
    (hfail : ∀ reason, ok (h ++ [(.send bytes s.peer, .sendFailed reason)]) →
      Q (.error (sendFailure s.peer reason)) s (h ++ [(.send bytes s.peer, .sendFailed reason)]))
    (hsent : ∀ x, x.failedSend = false → ok (h ++ [(.send bytes s.peer, x)]) →
      Q (.ok ()) s.countSent (h ++ [(.send bytes s.peer, x)])) :
    Wp ok (send p) Q s h := by
  rw [wp_send, hp]
  intro x hx
  cases x with
  | sendFailed reason => exact hfail reason hx
  | _ => exact hsent _ rfl hx

/-- A fresh transmission: send, remember the packet with no retransmission yet, restart the
    timer. -/
theorem wp_transmit (p : Draft) {Q : Except Failure Unit → Session → List Exchange → Prop} :
    Wp ok (transmit p) Q s h ↔
      Wp ok (send p) (fun r s₁ h₁ => match r with
        | .ok _ => Wp ok resetTimeout Q { s₁ with lastPacket := some p, retransmits := 0 } h₁
        | .error e => Q (.error e) s₁ h₁) s h := by
  unfold transmit
  rw [wp_bind]
  apply Program.always_congr
  rintro ⟨r, s₁⟩ h₁
  cases r with
  | error e => rfl
  | ok u => exact wp_bind _ _

/-- The three ways a transmission of a packet that can be written ends: the send fails; it is
    sent but the clock reading cannot restart the timer; or it is sent and the timer restarts. -/
theorem wp_transmit_of_encode {p : Draft} {bytes : List UInt8} (hp : p.encode = .ok bytes)
    {Q : Except Failure Unit → Session → List Exchange → Prop}
    (hfail : ∀ reason,
      Q (.error (sendFailure s.peer reason)) s (h ++ [(.send bytes s.peer, .sendFailed reason)]))
    (hclock : ∀ x t, x.failedSend = false →
      (Setup.clockOf t).add? s.policy.seconds = none →
      Q (.error .tooLarge) { s.countSent with lastPacket := some p, retransmits := 0 }
        (h ++ [(.send bytes s.peer, x), (.now, t)]))
    (hsent : ∀ x t expiry, x.failedSend = false →
      (Setup.clockOf t).add? s.policy.seconds = some expiry →
      Q (.ok ()) { s.countSent with lastPacket := some p, retransmits := 0, expiry := expiry }
        (h ++ [(.send bytes s.peer, x), (.now, t)])) :
    Wp ok (transmit p) Q s h := by
  rw [wp_transmit]
  apply wp_send_of_encode hp
  · intro reason _
    exact hfail reason
  · intro x hx _
    show Wp ok resetTimeout Q _ _
    rw [wp_resetTimeout]
    intro t _
    simp only [List.append_assoc, List.singleton_append]
    cases hadd : (Setup.clockOf t).add? s.countSent.policy.seconds with
    | none => exact hclock x t hx hadd
    | some expiry => exact hsent x t expiry hx hadd

/-! ## Receiving -/

/-- The fault a source other than the peer is told of. -/
def foreignFault : Fault := Fault.make .foreignPeer "unknown transfer ID" none

/-- The session taking datagrams from `source`: a session not pinned yet pins its peer to it. -/
def pinTo (s : Session) (source : Address) : Session :=
  if s.pinned then s
  else { s with peer := source, pinned := true, stats := { s.stats with peer := source } }

section PinTo

variable (s : Session) (source : Address)

@[simp] theorem pinTo_pinned : (s.pinTo source).pinned = true := by
  unfold pinTo
  split <;> simp_all

@[simp] theorem pinTo_peer : (s.pinTo source).peer = if s.pinned then s.peer else source := by
  unfold pinTo
  split <;> simp_all

@[simp] theorem pinTo_role : (s.pinTo source).role = s.role := by
  unfold pinTo; split <;> rfl
@[simp] theorem pinTo_client : (s.pinTo source).client = s.client := by
  unfold pinTo; split <;> rfl
@[simp] theorem pinTo_policy : (s.pinTo source).policy = s.policy := by
  unfold pinTo; split <;> rfl
@[simp] theorem pinTo_lastPacket : (s.pinTo source).lastPacket = s.lastPacket := by
  unfold pinTo; split <;> rfl
@[simp] theorem pinTo_phase : (s.pinTo source).phase = s.phase := by
  unfold pinTo; split <;> rfl
@[simp] theorem pinTo_expiry : (s.pinTo source).expiry = s.expiry := by
  unfold pinTo; split <;> rfl
@[simp] theorem pinTo_retransmits : (s.pinTo source).retransmits = s.retransmits := by
  unfold pinTo; split <;> rfl

end PinTo

/-- What a failed receive raises: an error of the operating system is a transport failure. -/
def receiveFailure (s : Session) (f : Failure) : Failure :=
  if f.isOSError then
    .ofKind .transportFailure (Text.ofString ("receiving from " ++ s.peer.literal ++ " failed: ") ++ f.text)
  else f

/-- What an ERROR from the peer raises. -/
def peerAbort (code : Int) (message : String) : Failure :=
  .fault (Fault.make .peerAbort ("error reported by peer: " ++ message) (some code))

/-- The ways a receive from the session `s` can end: its result, the session after it, and the
    exchanges it made. -/
inductive Receives (s : Session) : Except Failure (Option Packet) → Session → List Exchange → Prop
  /-- the clock reading cannot be taken from the timer -/
  | unreadable (x : Response) : s.expiry.sub? (Setup.clockOf x) = none →
      Receives s (.error .tooLarge) s [(.now, x)]
  /-- the timer has expired: nothing is asked -/
  | expired (x : Response) (t : Number) : s.expiry.sub? (Setup.clockOf x) = some t →
      t.isNonpos = true → Receives s (.ok none) s [(.now, x)]
  /-- the socket fails -/
  | failed (x : Response) (t : Number) (f : Failure) : s.expiry.sub? (Setup.clockOf x) = some t →
      t.isNonpos = false →
      Receives s (.error (s.receiveFailure f)) s [(.now, x), (.receive t s.phase, .receiveFailed f)]
  /-- nothing usable comes: no datagram, or one that does not decode -/
  | silent (x : Response) (t : Number) (y : Response) : s.expiry.sub? (Setup.clockOf x) = some t →
      t.isNonpos = false → (∀ f, y ≠ .receiveFailed f) →
      (∀ bytes source, y = .datagram bytes source → ∃ e, Packet.decode bytes = .error e) →
      Receives s (.ok none) s [(.now, x), (.receive t s.phase, y)]
  /-- a datagram from a foreign source is refused with an ERROR sent back to it -/
  | foreign (x : Response) (t : Number) (bytes : List UInt8) (source : Address) (p : Packet)
      (refusal : List UInt8) (z : Response) : s.expiry.sub? (Setup.clockOf x) = some t →
      t.isNonpos = false → Packet.decode bytes = .ok p → s.pinned = true → source ≠ s.peer →
      (Draft.error foreignFault.code foreignFault.message).encode = .ok refusal →
      Receives s (.ok none) s
        [(.now, x), (.receive t s.phase, .datagram bytes source), (.send refusal source, z)]
  /-- an ERROR from the peer ends the session -/
  | aborted (x : Response) (t : Number) (bytes : List UInt8) (source : Address) (code : Int)
      (message : String) : s.expiry.sub? (Setup.clockOf x) = some t → t.isNonpos = false →
      Packet.decode bytes = .ok (.error code message) → (s.pinned = true → source = s.peer) →
      Receives s (.error (peerAbort code message)) (s.pinTo source)
        [(.now, x), (.receive t s.phase, .datagram bytes source)]
  /-- any other packet from the peer is taken -/
  | packet (x : Response) (t : Number) (bytes : List UInt8) (source : Address) (p : Packet) :
      s.expiry.sub? (Setup.clockOf x) = some t → t.isNonpos = false →
      Packet.decode bytes = .ok p → (s.pinned = true → source = s.peer) →
      (∀ code message, p ≠ .error code message) →
      Receives s (.ok (some p)) (s.pinTo source)
        [(.now, x), (.receive t s.phase, .datagram bytes source)]

/-- The refusal sent to a foreign source can always be written, and it reads back as an ERROR. -/
theorem foreignRefusal_encode :
    ∃ refusal, (Draft.error foreignFault.code foreignFault.message).encode = .ok refusal :=
  (error_round_trip ErrorCode.unknownTransferId _).1.mpr (by decide)

theorem wp_rejectForeign (source : Address)
    {Q : Except Failure Unit → Session → List Exchange → Prop}
    (hQ : ∀ refusal z, (Draft.error foreignFault.code foreignFault.message).encode = .ok refusal →
      Q (.ok ()) s (h ++ [(.send refusal source, z)])) :
    Wp ok (rejectForeign source) Q s h := by
  obtain ⟨refusal, henc⟩ := foreignRefusal_encode
  unfold rejectForeign
  dsimp only
  rw [show (Draft.error (Fault.make .foreignPeer "unknown transfer ID" none).code
      (Fault.make .foreignPeer "unknown transfer ID" none).message).encode = .ok refusal from henc]
  dsimp only
  rw [wp_discard, wp_ask]
  intro z _
  exact hQ refusal z henc

/-- A packet from the settled peer is passed on, unless it is an ERROR, which aborts the
    transfer. -/
theorem wp_takePacket (p : Packet)
    {Q : Except Failure (Option Packet) → Session → List Exchange → Prop}
    (habort : ∀ code message, p = .error code message → Q (.error (peerAbort code message)) s h)
    (htake : (∀ code message, p ≠ .error code message) → Q (.ok (some p)) s h) :
    Wp ok (match p with
      | .error code message => throw (.fault (Fault.make .peerAbort
          ("error reported by peer: " ++ message) (some code)))
      | _ => pure (some p)) Q s h := by
  cases p with
  | error code message => exact habort code message rfl
  | _ => exact htake (fun _ _ h => Packet.noConfusion h)

theorem wp_accept (source : Address) (p : Packet)
    {Q : Except Failure (Option Packet) → Session → List Exchange → Prop}
    (hforeign : s.pinned = true → source ≠ s.peer → ∀ refusal z,
      (Draft.error foreignFault.code foreignFault.message).encode = .ok refusal →
      Q (.ok none) s (h ++ [(.send refusal source, z)]))
    (habort : (s.pinned = true → source = s.peer) → ∀ code message, p = .error code message →
      Q (.error (peerAbort code message)) (s.pinTo source) h)
    (htake : (s.pinned = true → source = s.peer) → (∀ code message, p ≠ .error code message) →
      Q (.ok (some p)) (s.pinTo source) h) :
    Wp ok (accept source p) Q s h := by
  -- the packet is taken once the peer is settled, unless it is an ERROR
  have hpacket : ∀ s', (s.pinned = true → source = s.peer) → s' = s.pinTo source →
      (∀ code message, p = .error code message → Q (.error (peerAbort code message)) s' h) ∧
        ((∀ code message, p ≠ .error code message) → Q (.ok (some p)) s' h) := by
    rintro s' hsrc rfl
    exact ⟨habort hsrc, htake hsrc⟩
  unfold accept
  rw [wp_bind, wp_get]
  dsimp only
  cases hpin : s.pinned with
  | false =>
    rw [if_pos (show (!false) = true from rfl), wp_bind, wp_set]
    refine (hpacket _ (fun h => by simp [hpin] at h) ?_).elim (wp_takePacket p)
    simp [pinTo, hpin]
  | true =>
    rw [if_neg (show ¬(!true) = true from Bool.noConfusion)]
    by_cases hsrc : source = s.peer
    · rw [if_neg (by simpa using hsrc)]
      refine (hpacket s (fun _ => hsrc) ?_).elim (wp_takePacket p)
      simp [pinTo, hpin]
    · rw [if_pos (by simpa using hsrc), wp_bind]
      apply wp_rejectForeign
      intro refusal z henc
      exact hforeign hpin hsrc refusal z henc

/-- Every way a receive ends is one of `Receives`. -/
theorem wp_receive {Q : Except Failure (Option Packet) → Session → List Exchange → Prop}
    (hQ : ∀ r s' δ, Receives s r s' δ → Q r s' (h ++ δ)) : Wp ok receive Q s h := by
  unfold receive
  rw [wp_bind, wp_timeLeft]
  intro x _
  cases hx : s.expiry.sub? (Setup.clockOf x) with
  | none => exact hQ _ _ _ (.unreadable x hx)
  | some t =>
    dsimp only
    cases ht : t.isNonpos with
    | true =>
      rw [if_pos rfl]
      exact hQ _ _ _ (.expired x t hx ht)
    | false =>
      rw [if_neg Bool.false_ne_true, wp_bind, wp_get]
      dsimp only
      rw [wp_bind, wp_ask]
      intro y _
      simp only [List.append_assoc, List.singleton_append]
      cases y with
      | receiveFailed f =>
        have hfail := hQ _ _ _ (.failed x t f hx ht)
        unfold receiveFailure at hfail
        dsimp only
        split
        · next hos => rw [if_pos hos] at hfail; exact hfail
        · next hos => rw [if_neg hos] at hfail; exact hfail
      | datagram bytes source =>
        dsimp only
        cases hp : Packet.decode bytes with
        | error e =>
          exact hQ _ _ _ (.silent x t _ hx ht (fun _ h => Response.noConfusion h)
            (fun b src hy => by cases hy; exact ⟨e, hp⟩))
        | ok p =>
          dsimp only
          apply wp_accept
          · intro hpin hsrc refusal z henc
            simpa using hQ _ _ _ (.foreign x t bytes source p refusal z hx ht hp hpin hsrc henc)
          · rintro hsrc code message rfl
            exact hQ _ _ _ (.aborted x t bytes source code message hx ht hp hsrc)
          · intro hsrc hnot
            exact hQ _ _ _ (.packet x t bytes source p hx ht hp hsrc hnot)
      | _ =>
        exact hQ _ _ _ (.silent x t _ hx ht (fun _ h => Response.noConfusion h)
          (fun _ _ h => Response.noConfusion h))

/-! ## Resending -/

/-- The session after one more retransmission. -/
def countRetransmit (s : Session) : Session :=
  { s with retransmits := s.retransmits + 1, totalRetransmits := s.totalRetransmits + 1 }

@[simp] theorem countRetransmit_role (s : Session) : s.countRetransmit.role = s.role := rfl
@[simp] theorem countRetransmit_pinned (s : Session) : s.countRetransmit.pinned = s.pinned := rfl
@[simp] theorem countRetransmit_peer (s : Session) : s.countRetransmit.peer = s.peer := rfl
@[simp] theorem countRetransmit_client (s : Session) : s.countRetransmit.client = s.client := rfl
@[simp] theorem countRetransmit_policy (s : Session) : s.countRetransmit.policy = s.policy := rfl
@[simp] theorem countRetransmit_lastPacket (s : Session) :
    s.countRetransmit.lastPacket = s.lastPacket := rfl
@[simp] theorem countRetransmit_phase (s : Session) : s.countRetransmit.phase = s.phase := rfl

/-- A retransmission resends the last packet, if there is one, and restarts the timer. -/
theorem wp_retransmit {Q : Except Failure Unit → Session → List Exchange → Prop} :
    Wp ok retransmit Q s h ↔
      match s.lastPacket with
      | some p => Wp ok (send p) (fun r s₁ h₁ => match r with
          | .ok _ => Wp ok resetTimeout Q s₁.countRetransmit h₁
          | .error e => Q (.error e) s₁ h₁) s h
      | none => Wp ok resetTimeout Q s.countRetransmit h := by
  unfold retransmit
  rw [wp_bind, wp_get]
  dsimp only
  cases s.lastPacket with
  | none => rw [wp_bind, wp_modify]; rfl
  | some p =>
    dsimp only
    rw [wp_bind]
    apply Program.always_congr
    rintro ⟨r, s₁⟩ h₁
    cases r with
    | error e => rfl
    | ok u => exact wp_bind _ _

/-- The failure of a session whose peer stayed silent through `n` retransmissions. -/
def timeoutFailure (n : Nat) : Failure :=
  .ofKind .protocolTimeout ("timeout after " ++ toString n ++ " retransmits.")

/-- On silence: retransmit while the budget lasts, else fail. -/
theorem wp_handleTimeout {Q : Except Failure Unit → Session → List Exchange → Prop} :
    Wp ok handleTimeout Q s h ↔
      (s.retransmits < s.policy.retries → Wp ok retransmit Q s h) ∧
      (¬ s.retransmits < s.policy.retries → Q (.error (timeoutFailure s.retransmits)) s h) := by
  unfold handleTimeout
  rw [wp_bind, wp_get]
  exact wp_ite _ _ _

/-- The check that ends a waiting step, for a session that still waits in the phase it checks:
    it reads the time left, and resends or gives up once the timer ran out. -/
theorem wp_check_waiting {ph : Phase} (hph : s.phase = some ph)
    {Q : Except Failure Unit → Session → List Exchange → Prop} :
    Wp ok (do
      if (← get).phase == some ph then
        if (← timeLeft).isNonpos then handleTimeout) Q s h ↔
      Wp ok (timeLeft >>= fun t => if t.isNonpos then handleTimeout else pure ()) Q s h := by
  rw [wp_bind, wp_get]
  dsimp only
  rw [if_pos (by simp [hph])]

/-! ## Ending -/

/-- A fault is reported to the peer; a transport failure or a report that cannot be written is
    let go. -/
theorem wp_transmitError (f : Fault) {Q : Except Failure Unit → Session → List Exchange → Prop} :
    Wp ok (transmitError f) Q s h ↔
      Wp ok (send (.error f.code f.message)) (fun r s₁ h₁ => match r with
        | .ok _ => Q (.ok ()) s₁ h₁
        | .error e => if e.isTransport || e.isValueError then Q (.ok ()) s₁ h₁
            else Q (.error e) s₁ h₁) s h := by
  unfold transmitError
  rw [wp_tryCatch]
  apply Program.always_congr
  rintro ⟨r, s₁⟩ h₁
  cases r with
  | ok u => rfl
  | error e =>
    show Wp ok (if _ then _ else _) Q s₁ h₁ ↔
      if (e.isTransport || e.isValueError) = true then Q (.ok ()) s₁ h₁ else Q (.error e) s₁ h₁
    by_cases hc : (e.isTransport || e.isValueError) = true
    · rw [if_pos hc, if_pos hc]; rfl
    · rw [if_neg hc, if_neg hc]; rfl

/-- The session ended by the fault `f`. -/
def failWith (s : Session) (f : Fault) : Session :=
  { s with phase := some .failed, error := some f, stats := { s.stats with error := some f } }

/-- Failing records the fault; a handler's failure is also reported to the peer. -/
theorem wp_fail (f : Fault) {Q : Except Failure Unit → Session → List Exchange → Prop} :
    Wp ok (fail f) Q s h ↔
      (f.kind = .handlerFailure → Wp ok (transmitError f) Q (s.failWith f) h) ∧
      (f.kind ≠ .handlerFailure → Q (.ok ()) (s.failWith f) h) := by
  unfold fail
  rw [wp_bind, wp_modify]
  show Wp ok (if _ then _ else _) Q (s.failWith f) h ↔ _
  by_cases hk : f.kind = .handlerFailure
  · rw [if_pos (by simp [hk])]
    exact ⟨fun hw => ⟨fun _ => hw, fun hne => absurd hk hne⟩, fun hw => hw.1 hk⟩
  · rw [if_neg (by simpa using hk)]
    exact ⟨fun hq => ⟨fun hk' => absurd hk' hk, fun _ => hq⟩, fun hq => hq.2 hk⟩

/-- Failing keeps every property of the run that the report of the fault to the peer keeps, and
    the session has failed. -/
theorem wp_fail_keeps {P : List Exchange → Prop} (f : Fault) (hP : P h)
    (hreport : ∀ bytes x, (Draft.error f.code f.message).encode = .ok bytes →
      P (h ++ [(.send bytes s.peer, x)])) :
    Wp ok (fail f) (fun _ s' h' => P h' ∧ s'.phase = some .failed) s h := by
  rw [wp_fail]
  refine ⟨fun _ => ?_, fun _ => ⟨hP, rfl⟩⟩
  rw [wp_transmitError]
  cases henc : (Draft.error f.code f.message).encode with
  | error e =>
    rw [wp_send, henc]
    dsimp only
    split <;> exact ⟨hP, rfl⟩
  | ok bytes =>
    apply wp_send_of_encode henc
    · intro reason _
      dsimp only
      split <;> exact ⟨hreport bytes _ henc, rfl⟩
    · intro x _ _
      exact ⟨hreport bytes x henc, rfl⟩

/-- The session's statistics once it closed at the time `t`. -/
def closedAt (s : Session) (t : Number) : Session :=
  { s with stats := { s.stats with retransmits := s.totalRetransmits, endTime := some t } }

/-- The last steps: close the pipe (with the session's fault), close the socket, read the clock,
    report. -/
theorem wp_finish {Q : Except Failure Unit → Session → List Exchange → Prop}
    (hQ : ∀ x₁ x₂ x₃ x₄, Q (.ok ()) (s.closedAt (Setup.clockOf x₃))
      (h ++ [(.closeStream (s.error.map .fault), x₁), (.closeSocket, x₂), (.now, x₃),
        (.report (s.closedAt (Setup.clockOf x₃)).stats, x₄)])) :
    Wp ok finish Q s h := by
  unfold finish
  rw [wp_bind, wp_get]
  dsimp only
  rw [wp_bind, wp_discard, wp_ask]
  intro x₁ _
  rw [wp_bind, wp_discard, wp_ask]
  intro x₂ _
  rw [wp_bind, wp_now]
  intro x₃ _
  dsimp only
  rw [wp_bind, wp_modify]
  dsimp only
  rw [wp_bind, wp_get]
  dsimp only
  rw [wp_discard, wp_ask]
  intro x₄ _
  simp only [List.append_assoc, List.singleton_append]
  exact hQ x₁ x₂ x₃ x₄

/-! ## A whole session -/

/-- Stepping until the session ends: what each step keeps while the session has not ended holds
    when the loop stops, after any number of steps; a failure of a step stops the loop. -/
theorem wp_loop {Inv : Session → List Exchange → Prop}
    {Fail : Failure → Session → List Exchange → Prop}
    (hstep : ∀ s h, Inv s h → s.ended = false →
      Wp ok stepOnce (fun r s' h' => match r with
        | .ok _ => Inv s' h'
        | .error e => Fail e s' h') s h) :
    ∀ fuel s h, Inv s h →
      Wp ok (loop fuel) (fun r s' h' => match r with
        | .ok _ => Inv s' h'
        | .error e => Fail e s' h') s h := by
  intro fuel
  induction fuel with
  | zero => intro s h hinv; exact hinv
  | succ n ih =>
    intro s h hinv
    unfold loop
    rw [wp_bind, wp_get]
    dsimp only
    cases hend : s.ended with
    | true => rw [if_pos rfl]; exact hinv
    | false =>
      rw [if_neg Bool.false_ne_true, wp_bind]
      apply Wp.mono _ (hstep s h hinv hend)
      rintro (e | _) s' h' hq
      · exact hq
      · exact ih s' h' hq

theorem wp_run (fuel : Nat) {Inv : Session → List Exchange → Prop}
    {Fail : Failure → Session → List Exchange → Prop} {Failed Final : Session → List Exchange → Prop}
    (hstart : Wp ok start (fun r s' h' => match r with
      | .ok _ => Inv s' h'
      | .error e => Fail e s' h') s h)
    (hloop : ∀ s h, Inv s h → Wp ok (loop fuel) (fun r s' h' => match r with
      | .ok _ => Inv s' h'
      | .error e => Fail e s' h') s h)
    (hfail : ∀ e s h, Fail e s h → Wp ok (fail e.toFault) (fun _ s' h' => Failed s' h') s h)
    (hclose : ∀ s h, Inv s h ∨ Failed s h → Wp ok (close fuel) (fun _ s' h' => Final s' h') s h) :
    Wp ok (run fuel) (fun _ s' h' => Final s' h') s h := by
  -- every path closes the session, from a state that kept the invariant or that failed
  have hclosed : ∀ s h (o : Except Failure Bool), Inv s h ∨ Failed s h →
      Wp ok (do close fuel; match o with
        | .ok ended => pure ended
        | .error e => throw e) (fun _ s' h' => Final s' h') s h := by
    intro s h o hs
    rw [wp_bind]
    apply Wp.mono _ (hclose s h hs)
    rintro (e | _) s' h' hq
    · exact hq
    · cases o <;> exact hq
  -- a failure of the transfer ends it with its fault
  have hfailed : ∀ e s h, Fail e s h →
      Wp ok (do fail e.toFault; pure true) (fun _ s' h' => Failed s' h') s h := by
    intro e s h hq
    rw [wp_bind]
    apply Wp.mono _ (hfail e s h hq)
    rintro (e' | _) s' h' hq'
    · exact hq'
    · exact hq'
  unfold run
  rw [wp_bind, wp_tryCatch, wp_bind, wp_tryCatch, wp_bind]
  apply Wp.mono _ hstart
  rintro (e | _) s₁ h₁ hq₁
  · apply Wp.mono _ (hfailed e s₁ h₁ hq₁)
    rintro (e' | b) s' h' hq'
    · exact hclosed s' h' (.error e') (Or.inr hq')
    · exact hclosed s' h' (.ok b) (Or.inr hq')
  · apply Wp.mono _ (hloop s₁ h₁ hq₁)
    rintro (e | b) s₂ h₂ hq₂
    · apply Wp.mono _ (hfailed e s₂ h₂ hq₂)
      rintro (e' | b) s' h' hq'
      · exact hclosed s' h' (.error e') (Or.inr hq')
      · exact hclosed s' h' (.ok b) (Or.inr hq')
    · exact hclosed s₂ h₂ (.ok b) (Or.inl hq₂)
end Session

namespace Setup

/-- The session a setup creates, from the timer's expiry and the answers to the socket's address
    and to the clock. -/
def initial (st : Setup) (expiry : Number) (address t₁ : Response) : Session :=
  let local? := match address with
    | .address a => a
    | _ => none
  let role : Role := match st.kind, st.initialBlock with
    | .sender, b => .sender ⟨b.getD (.int 0), none, false⟩
    | .receiver, none => .receiver ⟨.int 0, false⟩
    | .receiver, some b => .receiver ⟨b, true⟩
  ⟨role, st.client, st.peer, !st.client, st.filename, st.mode, st.policy, none, 0, 0, none, expiry,
    none, ⟨st.peer, local?, st.filename, st.mode, none, 0, 0, 0, 0, 0, clockOf t₁, none⟩⟩

/-- How the run's result and final session make the program's value. -/
def conclude : Except Failure Bool → Session → Except Failure (Ending × Session)
  | .ok true, s => .ok (.closed, s)
  | .ok false, s => .ok (.unfinished, s)
  | .error e, s => .ok (.escaped e, s)

variable {ok : List Exchange → Prop}

/-- Every run of a whole session: its creation fails at once, or the session is created with its
    timer started and runs; the first clock reading kept `ok`. -/
theorem always_program_seen (st : Setup) (fuel : Nat)
    {post : Except Failure (Ending × Session) → List Exchange → Prop}
    (hcreate : ∀ x, ok [(.now, x)] → (clockOf x).add? st.policy.seconds = none →
      post (.error .tooLarge) [(.now, x)])
    (hrun : ∀ x₀ expiry x₁ x₂, ok [(.now, x₀)] → (clockOf x₀).add? st.policy.seconds = some expiry →
      Session.Wp ok (Session.run fuel) (fun r s' h' => post (conclude r s') h')
        (st.initial expiry x₁ x₂) [(.now, x₀), (.localAddress, x₁), (.now, x₂)]) :
    (st.program fuel).Always ok post [] := by
  unfold program
  show (Program.bind st.create _).Always ok post []
  rw [Program.always_bind]
  unfold create
  intro x₀ hx₀
  rw [List.nil_append] at hx₀
  dsimp only [Program.bind, List.nil_append]
  cases hadd : (clockOf x₀).add? st.policy.seconds with
  | none => exact hcreate x₀ hx₀ hadd
  | some expiry =>
    intro x₁ _ x₂ _
    show (Program.bind ((Session.run fuel).run.run (st.initial expiry x₁ x₂)) _).Always ok post _
    rw [Program.always_bind]
    apply Program.Always.mono _ (hrun x₀ expiry x₁ x₂ hx₀ hadd)
    rintro ⟨r, s'⟩ h' hpost
    rcases r with e | _ | _ <;> exact hpost

/-- Every run of a whole session: its creation fails at once, or the session is created with its
    timer started and runs. -/
theorem always_program (st : Setup) (fuel : Nat)
    {post : Except Failure (Ending × Session) → List Exchange → Prop}
    (hcreate : ∀ x, (clockOf x).add? st.policy.seconds = none → post (.error .tooLarge) [(.now, x)])
    (hrun : ∀ x₀ expiry x₁ x₂, (clockOf x₀).add? st.policy.seconds = some expiry →
      Session.Wp ok (Session.run fuel) (fun r s' h' => post (conclude r s') h')
        (st.initial expiry x₁ x₂) [(.now, x₀), (.localAddress, x₁), (.now, x₂)]) :
    (st.program fuel).Always ok post [] :=
  always_program_seen st fuel (fun x _ => hcreate x) (fun x₀ expiry x₁ x₂ _ => hrun x₀ expiry x₁ x₂)

end Setup

end Tftp
