import Tftp.Proofs.Steps

/-! # The receiver's steps

    One lemma per step of a receiving session, so that the proofs about whole runs never unfold
    them.

    * `wp_deliver`: a write to the handler, which fails with the handler.
    * `expectedAfter_eqInt`: the block a receiver expects after `n` delivered payloads is
      `n + 1`, wrapped after 65535.
    * `Handles` lists the ways the handling of a DATA packet can end, and `wp_handleData` reduces
      the handling to one case per way. -/

namespace Tftp

namespace Session

variable {ok : List Exchange → Prop} {s : Session} {h : List Exchange}

/-! ## The receiver's own steps -/

theorem wp_receiver {Q : Except Failure Receiver → Session → List Exchange → Prop} :
    Wp ok receiver Q s h ↔
      Q (.ok (match s.role with
        | .receiver r => r
        | .sender _ => default)) s h := by
  unfold receiver
  rw [wp_bind, wp_get]
  dsimp only
  cases s.role <;> rfl

theorem wp_updateReceiver (f : Receiver → Receiver)
    {Q : Except Failure PUnit → Session → List Exchange → Prop} :
    Wp ok (updateReceiver f) Q s h ↔
      Q (.ok ()) (match s.role with
        | .receiver x => { s with role := .receiver (f x) }
        | .sender _ => s) h := Iff.rfl

/-- A write to the handler: its failure is the handler's failure. -/
theorem wp_deliver (payload : List UInt8)
    {Q : Except Failure Unit → Session → List Exchange → Prop} :
    Wp ok (deliver payload) Q s h ↔ ∀ x, ok (h ++ [(.stream (.write payload), x)]) →
      match x with
      | .streamed (.error e) => Q (.error (handlerFailure e)) s (h ++ [(.stream (.write payload), x)])
      | _ => Q (.ok ()) s (h ++ [(.stream (.write payload), x)]) := by
  unfold deliver
  rw [wp_bind, wp_ask]
  apply forall_congr'; intro x
  apply imp_congr_right; intro _
  rcases x with _ | _ | _ | _ | _ | _ | _ | _ | (e | r) <;> rfl

end Session

/-! ## Counting blocks -/

/-- The block a receiver expects after the block `last`, as its step computes it, wrapping
    after 65535. -/
def expectedAfter (last : Int) : Number :=
  if (Number.int (last + 1)).gtInt maxBlockNumber then .int 0 else .int (last + 1)

/-- After `n` delivered payloads the session expects block `n + 1`, wrapped. -/
theorem expectedAfter_eqInt (n : Nat) (block : Int) :
    (expectedAfter ((n % 65536 : Nat) : Int)).eqInt block = true ↔
      block = (((n + 1) % 65536 : Nat) : Int) := by
  unfold expectedAfter
  by_cases hwrap : n % 65536 = 65535
  · have hnext : (n + 1) % 65536 = 0 := by omega
    rw [if_pos (by simp [Number.gtInt, maxBlockNumber, hwrap]), hnext]
    simp only [Number.eqInt, beq_iff_eq]
    constructor <;> intro heq <;> omega
  · have hnext : (n + 1) % 65536 = n % 65536 + 1 := by omega
    rw [if_neg (by simp [Number.gtInt, maxBlockNumber]; omega), hnext]
    simp only [Number.eqInt, beq_iff_eq]
    constructor <;> intro heq <;> omega

/-! ## Handling a DATA packet -/

namespace Session

/-- The session once it delivered the payload of `block`: its counter is the block, and the
    payload's bytes are counted as received. -/
def deliveredTo (s : Session) (block : Int) (payload : List UInt8) : Session :=
  { s with role := .receiver ⟨.int block, true⟩,
           stats := { s.stats with bytesReceived := s.stats.bytesReceived + payload.length } }

section Delivered

variable (s : Session) (block : Int) (payload : List UInt8)

@[simp] theorem deliveredTo_role :
    (s.deliveredTo block payload).role = .receiver ⟨.int block, true⟩ := rfl
@[simp] theorem deliveredTo_pinned : (s.deliveredTo block payload).pinned = s.pinned := rfl
@[simp] theorem deliveredTo_peer : (s.deliveredTo block payload).peer = s.peer := rfl
@[simp] theorem deliveredTo_client : (s.deliveredTo block payload).client = s.client := rfl
@[simp] theorem deliveredTo_policy : (s.deliveredTo block payload).policy = s.policy := rfl
@[simp] theorem deliveredTo_phase : (s.deliveredTo block payload).phase = s.phase := rfl

end Delivered

/-- The session once the acknowledgement of `block` went out and the timer restarted, done if
    the payload was short. -/
def ackedTo (s : Session) (block : Int) (payload : List UInt8) (expiry : Number) : Session :=
  let s' := { s.countSent with
    lastPacket := some (.ack (.int block)), retransmits := 0, expiry := expiry }
  if payload.length < blockSize then { s' with phase := some .done } else s'

section Acked

variable (s : Session) (block : Int) (payload : List UInt8) (expiry : Number)

@[simp] theorem ackedTo_role : (s.ackedTo block payload expiry).role = s.role := by
  unfold ackedTo; split <;> rfl
@[simp] theorem ackedTo_pinned : (s.ackedTo block payload expiry).pinned = s.pinned := by
  unfold ackedTo; split <;> rfl
@[simp] theorem ackedTo_peer : (s.ackedTo block payload expiry).peer = s.peer := by
  unfold ackedTo; split <;> rfl
@[simp] theorem ackedTo_client : (s.ackedTo block payload expiry).client = s.client := by
  unfold ackedTo; split <;> rfl
@[simp] theorem ackedTo_policy : (s.ackedTo block payload expiry).policy = s.policy := by
  unfold ackedTo; split <;> rfl
@[simp] theorem ackedTo_lastPacket :
    (s.ackedTo block payload expiry).lastPacket = some (.ack (.int block)) := by
  unfold ackedTo; split <;> rfl
/-- The acknowledgement of a short block ends the transfer. -/
@[simp] theorem ackedTo_phase : (s.ackedTo block payload expiry).phase =
    if payload.length < blockSize then some .done else s.phase := by
  unfold ackedTo; split <;> rfl

end Acked

/-- The ways the handling of a DATA packet of block `block` can end, for a receiver whose last
    delivered block is `n`, wrapped, and that delivered a block before if `any`: its result, the
    session after it and the exchanges it made. -/
inductive Handles (s : Session) (n : Nat) (any : Bool) (block : Int) (payload : List UInt8) :
    Except Failure Unit → Session → List Exchange → Prop
  /-- the expected block, whose write to the handler fails -/
  | writeFailed (e : Failure) : block = (((n + 1) % 65536 : Nat) : Int) →
      Handles s n any block payload (.error (handlerFailure e)) s
        [(.stream (.write payload), .streamed (.error e))]
  /-- the expected block, written, whose acknowledgement cannot be sent -/
  | ackFailed (y : Response) (bytes : List UInt8) (reason : String) :
      block = (((n + 1) % 65536 : Nat) : Int) → y.streamFailed = false →
      (Draft.ack (.int block)).encode = .ok bytes →
      Handles s n any block payload (.error (sendFailure s.peer reason)) (s.deliveredTo block payload)
        [(.stream (.write payload), y), (.send bytes s.peer, .sendFailed reason)]
  /-- the expected block, written and acknowledged, after which the timer cannot restart -/
  | timerFailed (y : Response) (bytes : List UInt8) (z t : Response) :
      block = (((n + 1) % 65536 : Nat) : Int) → y.streamFailed = false →
      (Draft.ack (.int block)).encode = .ok bytes → z.failedSend = false →
      (Setup.clockOf t).add? s.policy.seconds = none →
      Handles s n any block payload (.error .tooLarge)
        { (s.deliveredTo block payload).countSent with
          lastPacket := some (.ack (.int block)), retransmits := 0 }
        [(.stream (.write payload), y), (.send bytes s.peer, z), (.now, t)]
  /-- the expected block, written and acknowledged -/
  | delivered (y : Response) (bytes : List UInt8) (z t : Response) (expiry : Number) :
      block = (((n + 1) % 65536 : Nat) : Int) → y.streamFailed = false →
      (Draft.ack (.int block)).encode = .ok bytes → z.failedSend = false →
      (Setup.clockOf t).add? s.policy.seconds = some expiry →
      Handles s n any block payload (.ok ()) ((s.deliveredTo block payload).ackedTo block payload expiry)
        [(.stream (.write payload), y), (.send bytes s.peer, z), (.now, t)]
  /-- a repeat of the last delivered block, whose acknowledgement cannot be sent again -/
  | againFailed (bytes : List UInt8) (reason : String) :
      block ≠ (((n + 1) % 65536 : Nat) : Int) → any = true → block = ((n % 65536 : Nat) : Int) →
      (Draft.ack (.int block)).encode = .ok bytes →
      Handles s n any block payload (.error (sendFailure s.peer reason)) s
        [(.send bytes s.peer, .sendFailed reason)]
  /-- a repeat of the last delivered block, acknowledged again -/
  | again (bytes : List UInt8) (z : Response) :
      block ≠ (((n + 1) % 65536 : Nat) : Int) → any = true → block = ((n % 65536 : Nat) : Int) →
      (Draft.ack (.int block)).encode = .ok bytes → z.failedSend = false →
      Handles s n any block payload (.ok ()) s.countSent [(.send bytes s.peer, z)]
  /-- any other block, dropped -/
  | dropped : block ≠ (((n + 1) % 65536 : Nat) : Int) →
      ¬(any = true ∧ block = ((n % 65536 : Nat) : Int)) →
      Handles s n any block payload (.ok ()) s []

variable {ok : List Exchange → Prop} {s : Session} {h : List Exchange}

/-- Every way the handling of a DATA packet ends is one of `Handles`. -/
theorem wp_handleData (n : Nat) (any : Bool) (block : Int) (payload : List UInt8)
    {Q : Except Failure Unit → Session → List Exchange → Prop}
    (hrole : s.role = .receiver ⟨.int ((n % 65536 : Nat) : Int), any⟩)
    (hQ : ∀ r s' δ, Handles s n any block payload r s' δ → Q r s' (h ++ δ)) :
    Wp ok (handleData block payload) Q s h := by
  unfold handleData
  rw [wp_bind, wp_receiver]
  simp only [hrole]
  rw [wp_bind, wp_ofExcept]
  dsimp only [Value.succ]
  change Wp ok (if (expectedAfter ((n % 65536 : Nat) : Int)).eqInt block = true then _ else _) Q s h
  by_cases hexp : (expectedAfter ((n % 65536 : Nat) : Int)).eqInt block = true
  · -- the expected block: write it, count it, acknowledge it
    have hblock := (expectedAfter_eqInt n block).mp hexp
    obtain ⟨bytes, henc, _⟩ := ack_encode (show FitsWord block by rw [hblock]; exact fitsWord_mod _)
    rw [if_pos hexp, wp_bind, wp_deliver]
    intro y hok
    split
    · next e => exact hQ _ _ _ (.writeFailed e hblock)
    · next hy =>
      have hwrote : y.streamFailed = false := by
        cases y with
        | streamed r => cases r with
          | error e => exact absurd rfl (hy e)
          | ok _ => rfl
        | _ => rfl
      dsimp only
      rw [wp_bind, wp_updateReceiver]
      simp only [hrole]
      rw [wp_bind]
      unfold updateStats
      rw [wp_modify, wp_bind]
      apply wp_transmit_of_encode henc
      · intro reason
        rw [List.append_assoc]
        exact hQ _ _ _ (.ackFailed y bytes reason hblock hwrote henc)
      · intro z t hz hadd
        rw [List.append_assoc]
        exact hQ _ _ _ (.timerFailed y bytes z t hblock hwrote henc hz hadd)
      · intro z t expiry hz hadd
        have hdone := hQ _ _ _ (.delivered y bytes z t expiry hblock hwrote henc hz hadd)
        unfold ackedTo at hdone
        rw [List.append_assoc]
        dsimp only
        by_cases hshort : payload.length < blockSize
        · rw [if_pos hshort, wp_modify]
          rw [if_pos hshort] at hdone
          exact hdone
        · rw [if_neg hshort, wp_pure]
          rw [if_neg hshort] at hdone
          exact hdone
  · rw [if_neg hexp]
    have hnext : block ≠ (((n + 1) % 65536 : Nat) : Int) :=
      fun hblock => hexp ((expectedAfter_eqInt n block).mpr hblock)
    by_cases hagain : (any && Value.eqInt block (.int ((n % 65536 : Nat) : Int))) = true
    · -- a repeat of the last delivered block: acknowledge it again
      have hany : any = true := by simp_all
      have hblock : block = ((n % 65536 : Nat) : Int) :=
        (Value.eqInt_int_iff _ _).mp (Bool.and_eq_true _ _ ▸ hagain).2
      obtain ⟨bytes, henc, _⟩ := ack_encode (show FitsWord block by rw [hblock]; exact fitsWord_mod _)
      rw [if_pos hagain]
      apply wp_send_of_encode henc
      · intro reason _
        exact hQ _ _ _ (.againFailed bytes reason hnext hany hblock henc)
      · intro z hz _
        exact hQ _ _ _ (.again bytes z hnext hany hblock henc hz)
    · -- any other block is dropped; the expected block is a number, so it can be written
      rw [if_neg hagain]
      have hdrop : ¬(any = true ∧ block = ((n % 65536 : Nat) : Int)) := by
        rintro ⟨hany, hblock⟩
        exact hagain (by rw [hany, Bool.true_and, Value.eqInt_int_iff]; exact hblock)
      have hno := hQ _ _ _ (.dropped hnext hdrop)
      rw [List.append_nil] at hno
      rw [wp_discard, wp_ofExcept]
      split <;> exact hno

end Session

end Tftp
