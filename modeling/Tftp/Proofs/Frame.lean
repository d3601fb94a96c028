import Tftp.Proofs.Steps
import Tftp.Proofs.Receiver.Rule

/-! # What the steps of a session leave alone

    A session ends in two places only: `fail` records a fault and the failed phase, and `finish`
    closes the session down (its end of the pipe, its socket, the report of its statistics).
    Every other step of a transfer leaves the fault alone, never enters the failed phase, and
    asks nothing that closes the session down.  `Confined ok Q m` says so of a step `m`: every
    run of it from a session whose outcome (phase, fault, recorded fault) satisfies `Q` keeps
    `Q`, and asks nothing that closes the session down (`Unclosed`).

    The closure lemmas follow the monad (`Confined.bind`, `Confined.tryCatch`,
    `confined_modify`, ...), so each step of a session is confined by a short proof of its own,
    and the loop of a transfer by induction on its steps (`confined_loop`).  A step confined for
    every `Q` leaves the outcome as it was. -/

namespace Tftp

/-- A request that closes the session down: closing its end of the pipe or its socket, or
    reporting its statistics. -/
def Request.closesDown : Request → Bool
  | .closeStream _ | .closeSocket | .report _ => true
  | _ => false

namespace Session

variable {α β : Type}

/-- The fields that decide how a session ends: its phase, its fault and the fault its statistics
    record. -/
def outcome (s : Session) : Option Phase × Option Fault × Option Fault :=
  (s.phase, s.error, s.stats.error)

@[simp] theorem outcome_countSent (s : Session) : s.countSent.outcome = s.outcome := rfl
@[simp] theorem outcome_countRetransmit (s : Session) : s.countRetransmit.outcome = s.outcome :=
  rfl

@[simp] theorem outcome_pinTo (s : Session) (source : Address) :
    (s.pinTo source).outcome = s.outcome := by
  unfold pinTo
  split <;> rfl

/-- The exchanges `h'` continue `h` with exchanges that close nothing. -/
def Unclosed (h h' : List Exchange) : Prop :=
  ∃ δ, h' = h ++ δ ∧ ∀ e ∈ δ, e.1.closesDown = false

theorem Unclosed.refl (h : List Exchange) : Unclosed h h := ⟨[], by simp, by simp⟩

theorem Unclosed.trans {h h₁ h₂ : List Exchange} (h₀₁ : Unclosed h h₁) (h₁₂ : Unclosed h₁ h₂) :
    Unclosed h h₂ := by
  obtain ⟨δ₁, rfl, hδ₁⟩ := h₀₁
  obtain ⟨δ₂, rfl, hδ₂⟩ := h₁₂
  exact ⟨δ₁ ++ δ₂, by simp, List.forall_mem_append.mpr ⟨hδ₁, hδ₂⟩⟩

theorem Unclosed.append {h δ : List Exchange} (hδ : ∀ e ∈ δ, e.1.closesDown = false) :
    Unclosed h (h ++ δ) :=
  ⟨δ, rfl, hδ⟩

/-- Every run of the step `m` from a session whose outcome satisfies `Q` keeps `Q` and closes
    nothing. -/
def Confined (ok : List Exchange → Prop) (Q : Option Phase × Option Fault × Option Fault → Prop)
    (m : SessionM α) : Prop :=
  ∀ s h, Q s.outcome → Wp ok m (fun _ s' h' => Q s'.outcome ∧ Unclosed h h') s h

section Closure

variable {ok : List Exchange → Prop} {Q : Option Phase × Option Fault × Option Fault → Prop}

theorem confined_pure (a : α) : Confined ok Q (pure a) :=
  fun _ h hq => ⟨hq, .refl h⟩

theorem confined_throw (e : Failure) : Confined ok Q (throw e : SessionM α) :=
  fun _ h hq => ⟨hq, .refl h⟩

theorem confined_get : Confined ok Q get :=
  fun _ h hq => ⟨hq, .refl h⟩

theorem confined_ofExcept (e : Except Failure α) : Confined ok Q (MonadExcept.ofExcept e) := by
  cases e <;> exact fun _ h hq => ⟨hq, .refl h⟩

theorem confined_modify {f : Session → Session} (hf : ∀ s, Q s.outcome → Q (f s).outcome) :
    Confined ok Q (modify f) :=
  fun s h hq => ⟨hf s hq, .refl h⟩

/-- A change of fields other than the outcome's. -/
theorem confined_modify_of_outcome {f : Session → Session} (hf : ∀ s, (f s).outcome = s.outcome) :
    Confined ok Q (modify f) :=
  confined_modify fun s hq => (hf s).symm ▸ hq

theorem confined_ask {r : Request} (hr : r.closesDown = false) : Confined ok Q (ask r) := by
  intro s h hq
  rw [wp_ask]
  intro x _
  exact ⟨hq, .append (by simpa using hr)⟩

theorem Confined.bind {m : SessionM α} {f : α → SessionM β} (hm : Confined ok Q m)
    (hf : ∀ a, Confined ok Q (f a)) : Confined ok Q (m >>= f) := by
  intro s h hq
  rw [wp_bind]
  apply Wp.mono _ (hm s h hq)
  rintro (e | a) s' h' ⟨hq', hu⟩
  · exact ⟨hq', hu⟩
  · exact Wp.mono (fun _ _ _ ⟨hq'', hu'⟩ => ⟨hq'', hu.trans hu'⟩) (hf a s' h' hq')

theorem Confined.seq {m : SessionM α} {m' : SessionM β} (hm : Confined ok Q m)
    (hm' : Confined ok Q m') : Confined ok Q (m >>= fun _ => m') :=
  hm.bind fun _ => hm'

theorem Confined.tryCatch {m : SessionM α} {handler : Failure → SessionM α}
    (hm : Confined ok Q m) (hh : ∀ e, Confined ok Q (handler e)) :
    Confined ok Q (tryCatch m handler) := by
  intro s h hq
  rw [wp_tryCatch]
  apply Wp.mono _ (hm s h hq)
  rintro (e | a) s' h' ⟨hq', hu⟩
  · exact Wp.mono (fun _ _ _ ⟨hq'', hu'⟩ => ⟨hq'', hu.trans hu'⟩) (hh e s' h' hq')
  · exact ⟨hq', hu⟩

theorem Confined.ite {c : Prop} [Decidable c] {a b : SessionM α} (ha : Confined ok Q a)
    (hb : Confined ok Q b) : Confined ok Q (if c then a else b) := by
  split
  · exact ha
  · exact hb

theorem Confined.discard {m : SessionM α} (hm : Confined ok Q m) : Confined ok Q (discard m) :=
  hm.seq (confined_pure _)

theorem Confined.map {m : SessionM α} (f : α → β) (hm : Confined ok Q m) :
    Confined ok Q (f <$> m) :=
  hm.bind fun a => confined_pure (f a)

end Closure

/-! ## The shared steps -/

section Shared

variable {ok : List Exchange → Prop} {Q : Option Phase × Option Fault × Option Fault → Prop}

theorem confined_now : Confined ok Q now :=
  (confined_ask rfl).bind fun x => by cases x <;> exact confined_pure _

theorem confined_updateStats {f : Stats → Stats} (hf : ∀ st, (f st).error = st.error) :
    Confined ok Q (updateStats f) :=
  confined_modify_of_outcome fun s => by simp [outcome, hf]

theorem confined_resetTimeout : Confined ok Q resetTimeout := by
  intro s h hq
  rw [wp_resetTimeout]
  intro x _
  split
  · exact ⟨hq, .append (by simp [Request.closesDown])⟩
  · exact ⟨hq, .append (by simp [Request.closesDown])⟩

theorem confined_timeLeft : Confined ok Q timeLeft := by
  intro s h hq
  rw [wp_timeLeft]
  intro x _
  split
  · exact ⟨hq, .append (by simp [Request.closesDown])⟩
  · exact ⟨hq, .append (by simp [Request.closesDown])⟩

theorem confined_send (p : Draft) : Confined ok Q (send p) := by
  intro s h hq
  rw [wp_send]
  split
  · exact ⟨hq, .refl h⟩
  · intro x _
    split
    · exact ⟨hq, .append (by simp [Request.closesDown])⟩
    · exact ⟨hq, .append (by simp [Request.closesDown])⟩

theorem confined_transmit (p : Draft) : Confined ok Q (transmit p) := by
  refine (confined_send p).seq ((confined_modify_of_outcome ?_).seq confined_resetTimeout)
  intro s
  rfl

theorem confined_retransmit : Confined ok Q retransmit := by
  intro s h hq
  rw [wp_retransmit]
  split
  · apply Wp.mono _ (confined_send _ s h hq)
    rintro (e | _) s₁ h₁ ⟨hq₁, hu₁⟩
    · exact ⟨hq₁, hu₁⟩
    · exact Wp.mono (fun _ _ _ ⟨hq', hu'⟩ => ⟨hq', hu₁.trans hu'⟩)
        (confined_resetTimeout _ h₁ (by simpa using hq₁))
  · exact confined_resetTimeout _ h (by simpa using hq)

theorem confined_handleTimeout : Confined ok Q handleTimeout :=
  confined_get.bind fun _ => Confined.ite confined_retransmit (confined_throw _)

theorem confined_receive : Confined ok Q receive := by
  intro s h hq
  apply wp_receive
  intro r s' δ hr
  -- a receive reads the clock, waits, and at most refuses a foreign source; it may pin the peer
  cases hr <;> exact ⟨by simpa using hq, .append (by simp [Request.closesDown])⟩

end Shared

/-! ## The counters of either role, and reading a block -/

section Sending

variable {ok : List Exchange → Prop} {Q : Option Phase × Option Fault × Option Fault → Prop}

theorem confined_sender : Confined ok Q sender :=
  confined_get.bind fun s => by
    cases s.role <;> exact confined_pure _

theorem confined_updateSender (f : Sender → Sender) : Confined ok Q (updateSender f) :=
  confined_modify_of_outcome fun s => by
    cases s.role <;> rfl

theorem confined_gather (g : List UInt8) (fuel : Nat) : Confined ok Q (gather g fuel) := by
  induction fuel generalizing g with
  | zero => exact confined_pure _
  | succ n ih =>
    unfold gather
    refine Confined.ite (confined_pure _) ((confined_ask rfl).bind fun x => ?_)
    split
    · exact confined_pure _
    · exact ih _
    · exact confined_throw _
    · exact confined_pure _

theorem confined_nextBlock : Confined ok Q nextBlock :=
  confined_sender.bind fun _ => (confined_ofExcept _).bind fun _ =>
    (confined_updateSender _).seq ((confined_gather _ _).bind fun _ => confined_updateSender _)

theorem confined_receiver : Confined ok Q receiver :=
  confined_get.bind fun s => by
    cases s.role <;> exact confined_pure _

theorem confined_updateReceiver (f : Receiver → Receiver) : Confined ok Q (updateReceiver f) :=
  confined_modify_of_outcome fun s => by
    cases s.role <;> rfl

end Sending

/-! ## A transfer that has not failed -/

/-- The outcome of a session that has not failed: no fault, none recorded, and not in the failed
    phase. -/
def Calm (o : Option Phase × Option Fault × Option Fault) : Prop :=
  o.1 ≠ some .failed ∧ o.2.1 = none ∧ o.2.2 = none

section Transfer

variable {ok : List Exchange → Prop}

/-- Entering a phase of the transfer keeps it calm. -/
theorem confined_enter {ph : Phase} (hph : ph ≠ .failed) :
    Confined ok Calm (modify fun s => { s with phase := some ph }) :=
  confined_modify fun _ hq => ⟨by simp [outcome, hph], hq.2⟩

/-- A change of the statistics' counters keeps every outcome. -/
theorem confined_count {f : Stats → Stats} (hf : ∀ st, (f st).error = st.error) :
    Confined ok Calm (updateStats f) :=
  confined_updateStats hf

theorem confined_startSending : Confined ok Calm startSending := by
  unfold startSending
  refine confined_get.bind fun _ => ?_
  refine Confined.ite ((confined_transmit _).seq ?_) ?_
  · exact confined_enter (by decide)
  · exact confined_enter (by decide)

theorem confined_transmitData : Confined ok Calm transmitData := by
  unfold transmitData
  refine confined_sender.bind fun _ => (confined_transmit _).seq ?_
  refine (confined_count ?_).seq ?_
  · intro st
    rfl
  simp only []
  apply Confined.ite
  · exact (confined_updateSender _).seq (confined_enter (by decide))
  · exact confined_enter (by decide)

theorem confined_handleAck (block : Int) : Confined ok Calm (handleAck block) := by
  unfold handleAck
  refine confined_sender.bind fun x => ?_
  apply Confined.ite ((confined_ofExcept _).discard.seq (confined_pure _))
  -- the phase a sender enters once the block in flight is acknowledged
  have hnext : Confined ok Calm (if x.awaitingLastAck = true then
      modify fun s => { s with phase := some Phase.done }
    else modify fun s => { s with phase := some Phase.awaitData }) :=
    Confined.ite (confined_enter (by decide)) (confined_enter (by decide))
  simp only []
  apply Confined.ite _ hnext
  refine (confined_count ?_).seq hnext
  intro st
  rfl

/-- The rest of a step that waited: resend if the timer expired while still waiting. -/
theorem confined_expire {Q : Option Phase × Option Fault × Option Fault → Prop} (ph : Phase) :
    Confined ok Q (do
      if (← get).phase == some ph then
        if (← timeLeft).isNonpos then handleTimeout) := by
  refine confined_get.bind fun _ => ?_
  refine Confined.ite (confined_timeLeft.bind fun _ => ?_) (confined_pure _)
  exact Confined.ite confined_handleTimeout (confined_pure _)

theorem confined_sendOnce : Confined ok Calm sendOnce := by
  unfold sendOnce
  refine confined_get.bind fun _ => ?_
  refine Confined.ite (confined_nextBlock.seq confined_transmitData) ?_
  refine confined_receive.bind fun r => ?_
  simp only []
  split
  · exact (confined_handleAck _).seq (confined_expire .awaitAck)
  · exact confined_expire .awaitAck

theorem confined_deliver (payload : List UInt8) : Confined ok Calm (deliver payload) := by
  unfold deliver
  refine (confined_ask rfl).bind fun _ => ?_
  split
  · exact confined_throw _
  · exact confined_pure _

theorem confined_startReceiving : Confined ok Calm startReceiving := by
  unfold startReceiving
  refine confined_get.bind fun _ => ?_
  have henter : Confined ok Calm (modify fun s => { s with phase := some Phase.awaitData }) :=
    confined_enter (by decide)
  simp only []
  exact Confined.ite ((confined_transmit _).seq henter)
    ((confined_deliver _).seq ((confined_transmit _).seq henter))

theorem confined_handleData (block : Int) (payload : List UInt8) :
    Confined ok Calm (handleData block payload) := by
  unfold handleData
  refine confined_receiver.bind fun _ => (confined_ofExcept _).bind fun _ => ?_
  apply Confined.ite _ (Confined.ite (confined_send _) (confined_ofExcept _).discard)
  refine (confined_deliver _).seq ((confined_updateReceiver _).seq ?_)
  refine (confined_count ?_).seq ((confined_transmit _).seq ?_)
  · intro st
    rfl
  apply Confined.ite _ (confined_pure _)
  exact confined_enter (by decide)

theorem confined_receiveOnce : Confined ok Calm receiveOnce := by
  unfold receiveOnce
  refine confined_receive.bind fun r => ?_
  simp only []
  split
  · exact (confined_handleData _ _).seq (confined_expire .awaitData)
  · exact confined_expire .awaitData

theorem confined_start : Confined ok Calm start :=
  confined_get.bind fun s => by
    cases s.role
    · exact confined_startSending
    · exact confined_startReceiving

theorem confined_stepOnce : Confined ok Calm stepOnce :=
  confined_get.bind fun s => by
    cases s.role
    · exact confined_sendOnce
    · exact confined_receiveOnce

/-- The loop of a transfer keeps it calm and closes nothing, and it reports an end only once the
    session has ended. -/
theorem confined_loop (fuel : Nat) : ∀ s h, Calm s.outcome →
    Wp ok (loop fuel) (fun r s' h' => (Calm s'.outcome ∧ Unclosed h h') ∧
      (r = .ok true → s'.ended = true)) s h := by
  induction fuel with
  | zero => exact fun s h hq => ⟨⟨hq, .refl h⟩, by simp⟩
  | succ n ih =>
    intro s h hq
    unfold loop
    rw [wp_bind, wp_get]
    dsimp only
    cases hend : s.ended with
    | true =>
      rw [if_pos rfl]
      exact ⟨⟨hq, .refl h⟩, fun _ => hend⟩
    | false =>
      rw [if_neg Bool.false_ne_true, wp_bind]
      apply Wp.mono _ (confined_stepOnce s h hq)
      rintro (e | _) s₁ h₁ ⟨hq₁, hu₁⟩
      · exact ⟨⟨hq₁, hu₁⟩, by simp⟩
      · apply Wp.mono _ (ih s₁ h₁ hq₁)
        rintro _ _ _ ⟨⟨hq', hu'⟩, hend'⟩
        exact ⟨⟨hq', hu₁.trans hu'⟩, hend'⟩

end Transfer

end Session

end Tftp
