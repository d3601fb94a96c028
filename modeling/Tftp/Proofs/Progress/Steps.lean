import Tftp.Proofs.Progress.Exact

/-! # Every step of a transfer brings its end closer

    In exact surroundings a step of a transfer takes a datagram, or spends one retry, or (for a
    sender that has its next block to send) makes a fresh transmission that restarts the budget.
    `slack` counts the steps a session may still take before it must take a datagram: the retries
    left while it waits, one more than the budget in the phase before a fresh transmission, none
    once it has ended.  A datagram taken is worth more than any slack, so
    `stepBound events s h = (events - arrivals h) * (retries + 2) + slack s` falls with every step
    that does not fail (`wp_stepOnce_progress`): the loop of a transfer ends within that many
    steps.

    What a step keeps is `Calibrated` (`Keeps`, one short proof per step) and a phase the loop can
    step from (`Steppable`, through `Confined`); what it changes is read off the step that waits
    (`wp_wait_progress`), shared by both roles. -/

namespace Tftp

namespace Session

/-- The phases a transfer of the role `K` steps from, or has ended in. -/
def Steppable (K : RoleKind) (o : Option Phase × Option Fault × Option Fault) : Prop :=
  o.1 = some K.waitPhase ∨ o.1 = some .awaitData ∨ o.1 = some .done ∨ o.1 = some .failed

/-- A session that can step and has not ended waits, or (a sender) has its next block to send. -/
theorem Steppable.waiting {K : RoleKind} {s : Session} (hs : Steppable K s.outcome)
    (hend : s.ended = false) : s.phase = some K.waitPhase ∨ s.phase = some .awaitData := by
  unfold ended at hend
  rcases hs with hph | hph | hph | hph
  · exact .inl hph
  · exact .inr hph
  · have hdone : s.phase = some .done := hph
    simp [hdone] at hend
  · have hfailed : s.phase = some .failed := hph
    simp [hfailed] at hend

/-- The steps a session may still take before it must take a datagram. -/
def slack (s : Session) : Nat :=
  if s.ended then 0
  else if s.phase = some s.kind.waitPhase then s.policy.retries - s.retransmits
  else s.policy.retries + 1

/-- A bound on the steps left to a transfer that may still take `events` datagrams less those
    that arrived. -/
def stepBound (events : Nat) (s : Session) (h : List Exchange) : Nat :=
  (events - arrivals h) * (s.policy.retries + 2) + slack s

theorem slack_le (s : Session) : slack s ≤ s.policy.retries + 1 := by
  unfold slack
  split
  · omega
  · split <;> omega

theorem slack_wait {s : Session} (hph : s.phase = some s.kind.waitPhase) :
    slack s = s.policy.retries - s.retransmits := by
  have hend : s.ended = false := by
    unfold ended
    rw [hph]
    cases s.kind <;> rfl
  simp [slack, hend, hph]

theorem slack_awaitData {s : Session} (hph : s.phase = some .awaitData)
    (hkind : s.kind = .sender) : slack s = s.policy.retries + 1 := by
  have hend : s.ended = false := by
    unfold ended
    rw [hph]
    rfl
  simp [slack, hend, hph, hkind, RoleKind.waitPhase]

/-- A datagram taken is worth more than any slack. -/
theorem stepBound_lt_of_arrival {E a : Nat} {s s' : Session} {h h' : List Exchange}
    (ha : arrivals h = a) (ha' : arrivals h' = a + 1) (hE : a + 1 ≤ E)
    (hpol : s'.policy = s.policy) : stepBound E s' h' < stepBound E s h := by
  have hs' := slack_le s'
  rw [hpol] at hs'
  unfold stepBound
  rw [ha, ha', hpol, show E - a = (E - (a + 1)) + 1 by omega, Nat.add_mul, Nat.one_mul]
  generalize (E - (a + 1)) * (s.policy.retries + 2) = X
  omega

/-- A retry spent while waiting, with no datagram taken. -/
theorem stepBound_lt_of_retry {E : Nat} {s s' : Session} {h h' : List Exchange}
    (harr : arrivals h' = arrivals h) (hpol : s'.policy = s.policy) (hkind : s'.kind = s.kind)
    (hph : s'.phase = s.phase) (hwait : s.phase = some s.kind.waitPhase)
    (hrt : s'.retransmits = s.retransmits + 1) (hbudget : s'.retransmits ≤ s'.policy.retries) :
    stepBound E s' h' < stepBound E s h := by
  have hwait' : s'.phase = some s'.kind.waitPhase := by rw [hph, hkind]; exact hwait
  unfold stepBound
  rw [slack_wait hwait, slack_wait hwait', harr, hpol]
  rw [hpol] at hbudget
  omega

/-- A fresh transmission of the next block, with no datagram taken. -/
theorem stepBound_lt_of_fresh {E : Nat} {s s' : Session} {h h' : List Exchange}
    (harr : arrivals h' = arrivals h) (hpol : s'.policy = s.policy) (hkind : s.kind = .sender)
    (hkind' : s'.kind = .sender) (hph : s.phase = some .awaitData)
    (hph' : s'.phase = some .awaitAck) (hrt : s'.retransmits = 0) :
    stepBound E s' h' < stepBound E s h := by
  have hwait' : s'.phase = some s'.kind.waitPhase := by rw [hph', hkind']; rfl
  unfold stepBound
  rw [slack_awaitData hph hkind, slack_wait hwait', harr, hpol, hrt]
  omega

variable {E : Nat} {P : RetryPolicy} {K : RoleKind} {a : Nat} {s : Session} {h : List Exchange}

/-! ## What the steps keep -/

/-- A change of fields that the invariant does not read keeps it. -/
theorem keeps_modify_calibrated {f : Session → Session}
    (hf : ∀ s, (f s).policy = s.policy ∧ (f s).kind = s.kind ∧ (f s).expiry = s.expiry ∧
      (f s).retransmits = s.retransmits) : Keeps (Exact E) (Calibrated P K a) (modify f) :=
  keeps_modify fun s _ hc =>
    hc.congr (hf s).1 (hf s).2.1 (hf s).2.2.1 (hf s).2.2.2

theorem keeps_enter (ph : Phase) :
    Keeps (Exact E) (Calibrated P K a) (modify fun s => { s with phase := some ph }) :=
  keeps_modify_calibrated fun _ => ⟨rfl, rfl, rfl, rfl⟩

theorem keeps_sender : Keeps (Exact E) (Calibrated P K a) sender :=
  keeps_get.bind fun s => by
    cases s.role <;> exact keeps_pure _

theorem keeps_updateSender (f : Sender → Sender) :
    Keeps (Exact E) (Calibrated P K a) (updateSender f) :=
  keeps_modify_calibrated fun s => by
    cases hr : s.role <;> simp [hr, kind]

theorem keeps_receiver : Keeps (Exact E) (Calibrated P K a) receiver :=
  keeps_get.bind fun s => by
    cases s.role <;> exact keeps_pure _

theorem keeps_updateReceiver (f : Receiver → Receiver) :
    Keeps (Exact E) (Calibrated P K a) (updateReceiver f) :=
  keeps_modify_calibrated fun s => by
    cases hr : s.role <;> simp [hr, kind]

theorem keeps_gather (g : List UInt8) (fuel : Nat) :
    Keeps (Exact E) (Calibrated P K a) (gather g fuel) := by
  induction fuel generalizing g with
  | zero => exact keeps_pure _
  | succ n ih =>
    unfold gather
    refine Keeps.ite (keeps_pure _) ((keeps_untimed rfl).bind fun x => ?_)
    split
    · exact keeps_pure _
    · exact ih _
    · exact keeps_throw _
    · exact keeps_pure _

theorem keeps_nextBlock : Keeps (Exact E) (Calibrated P K a) nextBlock :=
  keeps_sender.bind fun _ => (keeps_ofExcept _).bind fun _ =>
    (keeps_updateSender _).seq ((keeps_gather _ _).bind fun _ => keeps_updateSender _)

theorem keeps_transmitData : Keeps (Exact E) (Calibrated P K a) transmitData := by
  unfold transmitData
  refine keeps_sender.bind fun _ => (keeps_transmit _).seq ?_
  refine (keeps_updateStats _).seq ?_
  exact Keeps.ite ((keeps_updateSender _).seq (keeps_enter _)) (keeps_enter _)

theorem keeps_handleAck (block : Int) : Keeps (Exact E) (Calibrated P K a) (handleAck block) := by
  unfold handleAck
  refine keeps_sender.bind fun x => ?_
  apply Keeps.ite ((keeps_ofExcept _).discard.seq (keeps_pure _))
  have hnext : Keeps (Exact E) (Calibrated P K a) (if x.awaitingLastAck = true then
      modify fun s => { s with phase := some Phase.done }
    else modify fun s => { s with phase := some Phase.awaitData }) :=
    Keeps.ite (keeps_enter _) (keeps_enter _)
  exact Keeps.ite ((keeps_updateStats _).seq hnext) hnext

theorem keeps_deliver (payload : List UInt8) :
    Keeps (Exact E) (Calibrated P K a) (deliver payload) := by
  unfold deliver
  refine (keeps_untimed rfl).bind fun _ => ?_
  split
  · exact keeps_throw _
  · exact keeps_pure _

theorem keeps_handleData (block : Int) (payload : List UInt8) :
    Keeps (Exact E) (Calibrated P K a) (handleData block payload) := by
  unfold handleData
  refine keeps_receiver.bind fun _ => (keeps_ofExcept _).bind fun _ => ?_
  apply Keeps.ite _ (Keeps.ite (keeps_send _) (keeps_ofExcept _).discard)
  refine (keeps_deliver _).seq ((keeps_updateReceiver _).seq ?_)
  refine (keeps_updateStats _).seq ((keeps_transmit _).seq ?_)
  exact Keeps.ite (keeps_enter _) (keeps_pure _)

theorem keeps_start : Keeps (Exact E) (Calibrated P K a) start :=
  keeps_get.bind fun s => by
    cases s.role
    · unfold startSending
      refine keeps_get.bind fun _ => ?_
      exact Keeps.ite ((keeps_transmit _).seq (keeps_enter _)) (keeps_enter _)
    · unfold startReceiving
      refine keeps_get.bind fun _ => ?_
      dsimp only
      exact Keeps.ite ((keeps_transmit _).seq (keeps_enter _))
        ((keeps_deliver _).seq ((keeps_transmit _).seq (keeps_enter _)))

/-! ## The phase a step leaves -/

section Phase

variable {ok : List Exchange → Prop}

theorem confined_enter_steppable {ph : Phase} (hph : Steppable K (some ph, none, none)) :
    Confined ok (Steppable K) (modify fun s => { s with phase := some ph }) :=
  confined_modify fun _ _ => hph

theorem confined_handleAck_steppable (block : Int) :
    Confined ok (Steppable .sender) (handleAck block) := by
  unfold handleAck
  refine confined_sender.bind fun x => ?_
  apply Confined.ite ((confined_ofExcept _).discard.seq (confined_pure _))
  have hnext : Confined ok (Steppable .sender) (if x.awaitingLastAck = true then
      modify fun s => { s with phase := some Phase.done }
    else modify fun s => { s with phase := some Phase.awaitData }) :=
    Confined.ite (confined_enter_steppable (.inr (.inr (.inl rfl))))
      (confined_enter_steppable (.inr (.inl rfl)))
  exact Confined.ite ((confined_updateStats (by intro _; rfl)).seq hnext) hnext

theorem confined_handleData_steppable (block : Int) (payload : List UInt8) :
    Confined ok (Steppable .receiver) (handleData block payload) := by
  unfold handleData
  refine confined_receiver.bind fun _ => (confined_ofExcept _).bind fun _ => ?_
  apply Confined.ite _ (Confined.ite (confined_send _) (confined_ofExcept _).discard)
  refine ((confined_ask rfl).bind fun _ => ?_).seq ((confined_updateReceiver _).seq ?_)
  · split
    · exact confined_throw _
    · exact confined_pure _
  refine (confined_updateStats (by intro _; rfl)).seq ((confined_transmit _).seq ?_)
  exact Confined.ite (confined_enter_steppable (.inr (.inr (.inl rfl)))) (confined_pure _)

/-- Sending the block read last leaves the sender waiting for its acknowledgement, with no retry
    spent. -/
theorem wp_transmitData_waits :
    Wp ok transmitData
      (fun r s' _ => r = .ok () → s'.phase = some .awaitAck ∧ s'.retransmits = 0) s h := by
  unfold transmitData
  rw [wp_bind, wp_sender_any]
  dsimp only
  rw [wp_bind]
  apply Wp.mono _ (wp_transmit_fresh _)
  rintro (e | u) s₁ h₁ hs₁
  · intro he
    cases he
  · have hrt := (hs₁ rfl).2
    dsimp only
    rw [wp_bind]
    unfold updateStats
    rw [wp_modify]
    dsimp only
    rw [wp_ite]
    refine ⟨fun _ => ?_, fun _ => fun _ => ⟨rfl, hrt⟩⟩
    rw [wp_bind, wp_updateSender_any, wp_modify]
    intro _
    refine ⟨rfl, ?_⟩
    cases s₁.role <;> exact hrt

/-- A step followed by entering the phase `ph` ends in it. -/
theorem wp_then_enter {α : Type} (m : SessionM α) (ph : Phase) :
    Wp ok (m >>= fun _ => modify fun s => { s with phase := some ph })
      (fun r s' _ => r = .ok () → s'.phase = some ph) s h := by
  rw [wp_bind]
  refine Wp.of_forall fun r s₁ h₁ => ?_
  cases r with
  | error e => intro he; cases he
  | ok u => exact fun _ => rfl

/-- Opening a transfer leaves it in a phase the loop steps from. -/
theorem wp_start_steppable :
    Wp ok start (fun r s' _ => r = .ok () → Steppable s.kind s'.outcome) s h := by
  unfold start
  rw [wp_bind, wp_get]
  dsimp only
  cases hrole : s.role with
  | sender x =>
    have hkind : s.kind = .sender := by simp [kind, hrole]
    unfold startSending
    rw [wp_bind, wp_get]
    dsimp only
    rw [wp_ite]
    refine ⟨fun _ => Wp.mono (fun r s' h' hph hr => .inl ?_) (wp_then_enter _ _),
      fun _ _ => .inr (.inl rfl)⟩
    rw [hkind]
    exact hph hr
  | receiver x =>
    have hkind : s.kind = .receiver := by simp [kind, hrole]
    have hwait : ∀ {α : Type} (m : SessionM α) (s₁ : Session) (h₁ : List Exchange),
        Wp ok (m >>= fun _ => modify fun s => { s with phase := some .awaitData })
          (fun r s' _ => r = .ok () → Steppable s.kind s'.outcome) s₁ h₁ :=
      fun m s₁ h₁ => Wp.mono (fun r s' h' hph hr => .inr (.inl (hph hr))) (wp_then_enter m _)
    unfold startReceiving
    rw [wp_bind, wp_get]
    dsimp only
    rw [wp_ite]
    refine ⟨fun _ => hwait _ _ _, fun _ => ?_⟩
    rw [wp_bind]
    refine Wp.of_forall fun r s₁ h₁ => ?_
    cases r with
    | error e => intro he; cases he
    | ok u => exact hwait _ _ _

end Phase

/-! ## Progress -/

/-- After the exchanges `h'`, the session `s'` is calibrated again, has taken at most `E`
    datagrams, stands in a phase the loop steps from, and has fewer steps left than `s` after
    `h`. -/
structure Advances (E : Nat) (P : RetryPolicy) (K : RoleKind) (s : Session) (h : List Exchange)
    (s' : Session) (h' : List Exchange) : Prop where
  calibrated : Calibrated P K (arrivals h') s' h'
  arrivals : arrivals h' ≤ E
  steppable : Steppable K s'.outcome
  lt : stepBound E s' h' < stepBound E s h

/-- The step of a session that waits in the phase `ph`: receive, then `step` on what came, which
    handles it and resends if the timer ran out.  It fails, or it advances: by the datagram it
    took, or by the retry it spent once the timer ran out. -/
theorem wp_wait_progress (step : Option Packet → SessionM Unit) (ph : Phase)
    (hc : Calibrated P K a s h) (hE : a ≤ E) (hph : s.phase = some ph) (hwait : ph = K.waitPhase)
    (hkeeps : ∀ got, Keeps (Exact E) (Calibrated P K (a + 1)) (step got))
    (hconf : ∀ got, Confined (Exact E) (Steppable K) (step got))
    (hnone : step none = (do
      if (← get).phase == some ph then
        if (← timeLeft).isNonpos then handleTimeout)) :
    Wp (Exact E) (receive >>= step)
      (fun r s' h' => r = .ok () → Advances E P K s h s' h') s h := by
  obtain ⟨e, hexp⟩ := hc.expiry
  have hsteppable : Steppable K s.outcome := .inl (by rw [← hwait]; exact hph)
  rw [wp_bind]
  apply wp_receive_exact hc hexp
  · intro f s' h' he
    cases he
  · -- a datagram came: the rest of the step keeps the invariant and the phase
    intro r s₁ h₁ hE₁ hc₁ hout₁
    cases r with
    | error f => exact fun he => nomatch he
    | ok got =>
      have hs₁ : Steppable K s₁.outcome := hout₁ ▸ hsteppable
      apply Wp.mono _ (Wp.and (hkeeps got s₁ h₁ hc₁) (hconf got s₁ h₁ hs₁))
      rintro r s' h' ⟨hc', hs', _⟩ _
      refine ⟨by rw [hc'.arrivals]; exact hc', by rw [hc'.arrivals]; exact hE₁, hs', ?_⟩
      exact stepBound_lt_of_arrival hc.arrivals hc'.arrivals hE₁ (hc'.policy.trans hc.policy.symm)
  · -- nothing came and the timer ran out: the step spends a retry
    intro h₁ hpast hc₁
    dsimp only
    rw [hnone]
    apply Wp.mono _ (wp_expire_exact ph hc₁ hph hexp hpast)
    rintro r s' h' ⟨hc', hstep⟩ hr
    obtain ⟨hph', hrt'⟩ := hstep hr
    have hkind : s'.kind = s.kind := hc'.kind.trans hc.kind.symm
    refine ⟨by rw [hc'.arrivals]; exact hc', by rw [hc'.arrivals]; exact hE, ?_, ?_⟩
    · exact .inl (by rw [← hwait]; exact hph'.trans hph)
    · refine stepBound_lt_of_retry (hc'.arrivals.trans hc.arrivals.symm)
        (hc'.policy.trans hc.policy.symm) hkind hph' ?_ hrt' (hc'.policy ▸ hc'.budget)
      rw [hc.kind, ← hwait]
      exact hph

/-- A step of a sender fails, or advances. -/
theorem wp_sendOnce_progress (hc : Calibrated P .sender a s h) (hE : a ≤ E)
    (hs : Steppable .sender s.outcome) (hend : s.ended = false) :
    Wp (Exact E) sendOnce (fun r s' h' => r = .ok () → Advances E P .sender s h s' h') s h := by
  unfold sendOnce
  rw [wp_bind, wp_get]
  dsimp only
  split
  · -- the next block is read and sent fresh
    next hdata =>
    have hph : s.phase = some .awaitData := by simpa using hdata
    rw [wp_bind]
    apply Wp.mono _ (keeps_nextBlock s h hc)
    rintro (e | u) s₁ h₁ hc₁
    · exact fun he => nomatch he
    · apply Wp.mono _ (Wp.and (keeps_transmitData s₁ h₁ hc₁) wp_transmitData_waits)
      rintro r s' h' ⟨hc', hwaits⟩ hr
      obtain ⟨hph', hrt'⟩ := hwaits hr
      refine ⟨by rw [hc'.arrivals]; exact hc', by rw [hc'.arrivals]; exact hE,
        .inl hph', ?_⟩
      exact stepBound_lt_of_fresh (hc'.arrivals.trans hc.arrivals.symm)
        (hc'.policy.trans hc.policy.symm) hc.kind hc'.kind hph hph' hrt'
  · -- waiting for the acknowledgement
    next hdata =>
    have hph : s.phase = some .awaitAck := by
      rcases hs.waiting hend with hph | hph
      · exact hph
      · simp [hph] at hdata
    refine wp_wait_progress _ .awaitAck hc hE hph rfl (fun got => ?_) (fun got => ?_) rfl
    · split
      · exact (keeps_handleAck _).seq (keeps_expire _)
      · exact keeps_expire _
    · split
      · exact (confined_handleAck_steppable _).seq (confined_expire _)
      · exact confined_expire _

/-- A step of a receiver fails, or advances. -/
theorem wp_receiveOnce_progress (hc : Calibrated P .receiver a s h) (hE : a ≤ E)
    (hs : Steppable .receiver s.outcome) (hend : s.ended = false) :
    Wp (Exact E) receiveOnce (fun r s' h' => r = .ok () → Advances E P .receiver s h s' h') s h := by
  have hph : s.phase = some .awaitData := by
    rcases hs.waiting hend with hph | hph <;> exact hph
  unfold receiveOnce
  refine wp_wait_progress _ .awaitData hc hE hph rfl (fun got => ?_) (fun got => ?_) rfl
  · split
    · exact (keeps_handleData _ _).seq (keeps_expire _)
    · exact keeps_expire _
  · split
    · exact (confined_handleData_steppable _ _).seq (confined_expire _)
    · exact confined_expire _

/-- A step of a transfer that has not ended fails, or advances. -/
theorem wp_stepOnce_progress (hc : Calibrated P K a s h) (hE : a ≤ E)
    (hs : Steppable K s.outcome) (hend : s.ended = false) :
    Wp (Exact E) stepOnce (fun r s' h' => r = .ok () → Advances E P K s h s' h') s h := by
  unfold stepOnce
  rw [wp_bind, wp_get]
  dsimp only
  cases hrole : s.role with
  | sender x =>
    obtain rfl : K = .sender := hc.kind.symm.trans (by simp [kind, hrole])
    exact wp_sendOnce_progress hc hE hs hend
  | receiver x =>
    obtain rfl : K = .receiver := hc.kind.symm.trans (by simp [kind, hrole])
    exact wp_receiveOnce_progress hc hE hs hend

end Session

end Tftp
