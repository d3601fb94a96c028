import Tftp.Proofs.Timer.Steps
import Tftp.Proofs.Sender.Steps
import Tftp.Proofs.Receiver.Steps

/-! # Every step of a transfer keeps the retry discipline

    Between two steps a session is `Poised`: its timer keeps to the timeline of its exchanges,
    no transmission waits for its clock reading, and a session that waits for its peer has a
    datagram to resend.  Each step keeps that, and a step that fails explains its failure
    (`Explains`), so that the whole run obeys the discipline (`Tftp.Proofs.Timer.Run`).

    The steps are taken one role at a time.  A sender reads a block, transmits it fresh and
    waits; while it waits it ignores every packet but the acknowledgement of its block, and on
    silence resends (`wp_sendOnce_timed`).  A receiver acknowledges each new block fresh,
    answers a repeat of the last block with a plain send, and on silence resends
    (`wp_receiveOnce_timed`).  Reading a block and writing one to the pipe come just before a
    fresh transmission, and a receive just before an answer. -/

namespace Tftp

/-- The phase in which a session of a role waits for its peer. -/
def RoleKind.waitPhase : RoleKind → Phase
  | .sender => .awaitAck
  | .receiver => .awaitData

/-- A value that has no successor says so with a failure of the host. -/
theorem Value.succ_isFault {inPlace : Bool} {v : Value} {e : Failure}
    (h : v.succ inPlace = .error e) : e.isFault = false := by
  unfold Value.succ at h
  split at h <;> (try split at h) <;> cases h <;> rfl

/-- A value that cannot be written in decimal says so with a failure of the host. -/
theorem Value.decimal_isFault {v : Value} {e : Failure} (h : v.decimal = .error e) :
    e.isFault = false := by
  unfold Value.decimal at h
  split at h
  · cases h
  · split at h
    · cases h; rfl
    · split at h
      · cases h; rfl
      · cases h
  · cases h; rfl

theorem Response.streamFailed_eq_false {y : Response} (hy : ∀ e, y ≠ .streamed (.error e)) :
    y.streamFailed = false := by
  cases y with
  | streamed r =>
    cases r with
    | error e => exact absurd rfl (hy e)
    | ok _ => rfl
  | _ => rfl

namespace Session

/-- The role of the session, without its counters. -/
def kind (s : Session) : RoleKind :=
  match s.role with
  | .sender _ => .sender
  | .receiver _ => .receiver

/-- Between two steps of a transfer: the timer keeps to the timeline and is at rest, and a
    session that waits for its peer has a datagram to resend. -/
structure Poised (s : Session) (h : List Exchange) : Prop where
  timed : Timed s h
  rest : (s.timeline h).armed = false
  resendable : s.phase = some s.kind.waitPhase → ∃ bytes, s.timer.fresh = some bytes

/-- How a step of a transfer leaves the session: poised for the next step, or failed with a
    failure it explains, with the timer at rest. -/
def Settles {α : Type} (r : Except Failure α) (s : Session) (h : List Exchange) : Prop :=
  match r with
  | .ok _ => Poised s h
  | .error e => Timed s h ∧ (s.timeline h).armed = false ∧ Explains s h e

variable {ok : List Exchange → Prop} {s s' : Session} {h : List Exchange}

theorem Explains.of_handler {e : Failure} (hk : e.toFault.kind = .handlerFailure)
    (hc : (s.timeline h).cause = .reply) : Explains s h e :=
  ⟨fun _ => hc, fun ht => absurd (hk.symm.trans ht) (by decide)⟩

theorem Explains.congr {e : Failure} (he : Explains s h e) (hpol : s'.policy = s.policy) :
    Explains s' h e := by
  obtain ⟨hh, ht⟩ := he
  refine ⟨fun hk => ?_, fun hk => ?_⟩
  · rw [timeline_congr hpol]
    exact hh hk
  · rw [timeline_congr hpol, hpol]
    exact ht hk

/-! ## The pipe -/

/-- Reading a block from the pipe leaves the timer alone.  Once a read was made, a datagram
    sent next is fresh, unless the read failed, which fails the step with the handler's failure
    just after it. -/
theorem wp_gather_timed : ∀ (fuel : Nat) (g : List UInt8) (h : List Exchange), Timed s h →
    ((s.timeline h).armed = false ∧ (s.timeline h).cause = .fresh) ∨
      (g.length < blockSize ∧ 0 < fuel) →
    Wp ok (gather g fuel) (fun r s' h' => s' = s ∧ Timed s h' ∧ (s.timeline h').armed = false ∧
      (∀ b, r = .ok b → (s.timeline h').cause = .fresh) ∧
      (∀ e, r = .error e → Explains s h' e)) s h := by
  intro fuel
  induction fuel with
  | zero =>
    intro g h ht hpre
    rcases hpre with ⟨harmed, hcause⟩ | ⟨_, hfuel⟩
    · exact ⟨rfl, ht, harmed, fun _ _ => hcause, (fun _ he => by cases he)⟩
    · exact absurd hfuel (Nat.lt_irrefl 0)
  | succ n ih =>
    intro g h ht hpre
    unfold gather
    by_cases hfull : g.length ≥ blockSize
    · rw [if_pos hfull, wp_pure]
      rcases hpre with ⟨harmed, hcause⟩ | ⟨hlen, _⟩
      · exact ⟨rfl, ht, harmed, fun _ _ => hcause, (fun _ he => by cases he)⟩
      · omega
    · rw [if_neg hfull, wp_bind, wp_ask]
      intro x _
      have hts := ht.stream (.read (.upTo (blockSize - g.length)) false) x
      dsimp only
      split
      · exact ⟨rfl, hts, by simp, fun _ _ => by simp [Response.streamFailed],
          (fun _ he => by cases he)⟩
      · exact ih _ _ hts (.inl ⟨by simp, by simp [Response.streamFailed]⟩)
      · refine ⟨rfl, hts, by simp, (fun _ hb => by cases hb), ?_⟩
        rintro _ ⟨⟩
        exact .of_handler rfl (by simp [Response.streamFailed])
      · next hne₁ hne₂ hne₃ =>
        have hfresh : x.streamFailed = false :=
          Response.streamFailed_eq_false fun e hx => hne₃ e hx
        exact ⟨rfl, hts, by simp, fun _ _ => by simp [hfresh], (fun _ he => by cases he)⟩

/-- Writing a payload to the pipe leaves the timer alone; a datagram sent just after a write
    that returned is fresh, and a failed write fails the step with the handler's failure. -/
theorem wp_deliver_timed (ht : Timed s h) (payload : List UInt8)
    {Q : Except Failure Unit → Session → List Exchange → Prop}
    (hQ : ∀ r h', Timed s h' → (s.timeline h').armed = false →
      (r = .ok () → (s.timeline h').cause = .fresh) → (∀ e, r = .error e → Explains s h' e) →
      Q r s h') :
    Wp ok (deliver payload) Q s h := by
  unfold deliver
  rw [wp_bind, wp_ask]
  intro y _
  have hts := ht.stream (.write payload) y
  dsimp only
  split
  · refine hQ _ _ hts (by simp) (fun hr => by cases hr) ?_
    rintro _ ⟨⟩
    exact .of_handler rfl (by simp [Response.streamFailed])
  · next hne =>
    have hfresh : y.streamFailed = false := Response.streamFailed_eq_false hne
    exact hQ _ _ hts (by simp) (fun _ => by simp [hfresh]) (fun _ he => by cases he)

/-! ## Answers -/

/-- A plain send just after a receive is an answer: it leaves the timer alone, whether it went
    out, failed to, or could not be written. -/
theorem wp_answer_timed (ht : Timed s h) (harmed : (s.timeline h).armed = false)
    (hc : (s.timeline h).cause = .reply) (p : Draft)
    {Q : Except Failure Unit → Session → List Exchange → Prop}
    (hQ : ∀ r s' h', Timed s' h' → (s'.timeline h').armed = false → s'.role = s.role →
      s'.phase = s.phase → s'.policy = s.policy → s'.timer = s.timer →
      (∀ e, r = .error e → Explains s' h' e) → Q r s' h') :
    Wp ok (send p) Q s h := by
  rw [wp_send]
  cases henc : p.encode with
  | error e =>
    refine hQ _ _ _ ht harmed rfl rfl rfl rfl ?_
    rintro _ ⟨⟩
    exact .of_host (EncodeError.failure_isFault e)
  | ok bytes =>
    intro x _
    have hts : ∀ {s'}, s'.policy = s.policy → s'.timer = s.timer →
        Timed s' (h ++ [(.send bytes s.peer, x)]) :=
      fun hpol htimer => ht.answer hc hpol htimer bytes s.peer x
    have harmed' : (s.timeline (h ++ [(.send bytes s.peer, x)])).armed = false := by
      simp [hc]
    split
    · refine hQ _ _ _ (hts rfl rfl) harmed' rfl rfl rfl rfl ?_
      rintro _ ⟨⟩
      exact explains_sendFailure _ _
    · exact hQ _ _ _ (hts rfl rfl) harmed' rfl rfl rfl rfl (fun _ he => nomatch he)

/-! ## The sender -/

theorem wp_sender_any {Q : Except Failure Sender → Session → List Exchange → Prop} :
    Wp ok sender Q s h ↔
      Q (.ok (match s.role with
        | .sender x => x
        | .receiver _ => default)) s h := by
  unfold sender
  rw [wp_bind, wp_get]
  dsimp only
  cases s.role <;> rfl

theorem wp_updateSender_any (f : Sender → Sender)
    {Q : Except Failure PUnit → Session → List Exchange → Prop} :
    Wp ok (updateSender f) Q s h ↔
      Q (.ok ()) (match s.role with
        | .sender x => s.withSender (f x)
        | .receiver _ => s) h := Iff.rfl

@[simp] theorem timer_withSender (x : Sender) : (s.withSender x).timer = s.timer := rfl
@[simp] theorem kind_withSender (x : Sender) : (s.withSender x).kind = .sender := rfl

/-- Taking an acknowledgement makes no exchange and leaves the timer alone: the session stays in
    its phase or stops waiting, and the note about an ACK of another block can only fail on the
    host's side. -/
theorem wp_handleAck_timed (block : Int) {Q : Except Failure Unit → Session → List Exchange → Prop}
    (hQ : ∀ r s', s'.role = s.role → s'.policy = s.policy → s'.timer = s.timer →
      (s'.phase = s.phase ∨ s'.phase ≠ some .awaitAck) → (∀ e, r = .error e → e.isFault = false) →
      Q r s' h) :
    Wp ok (handleAck block) Q s h := by
  unfold handleAck
  rw [wp_bind, wp_sender_any]
  generalize (match s.role with
    | .sender x => x
    | .receiver _ => default) = x
  dsimp only
  split
  · rw [wp_bind, wp_discard, wp_ofExcept]
    cases hd : Value.decimal _ with
    | error e => exact hQ _ _ rfl rfl rfl (.inl rfl) fun _ he => by cases he; exact Value.decimal_isFault hd
    | ok _ => exact hQ _ _ rfl rfl rfl (.inl rfl) (fun _ he => nomatch he)
  · -- the ACK of the block in flight: count it, then stop waiting
    have hnext : ∀ s₁ : Session, s₁.role = s.role → s₁.policy = s.policy → s₁.timer = s.timer →
        Wp ok (if x.awaitingLastAck = true then modify fun s => { s with phase := some .done }
          else modify fun s => { s with phase := some .awaitData }) Q s₁ h := by
      intro s₁ hr hp ht
      rw [wp_endWait]
      exact hQ _ _ hr hp ht (.inr (by split <;> simp)) (fun _ he => nomatch he)
    split
    · rw [wp_bind]
      unfold updateStats
      rw [wp_modify]
      exact hnext _ rfl rfl rfl
    · exact hnext s rfl rfl rfl

/-- Reading the next block makes pipe calls only and leaves the timer alone; once it was read,
    the datagram sent next is fresh. -/
theorem wp_nextBlock_timed {x : Sender} (hrole : s.role = .sender x) (ht : Timed s h)
    (harmed : (s.timeline h).armed = false) {Q : Except Failure Unit → Session → List Exchange → Prop}
    (hQ : ∀ r s' h', Timed s' h' → (s'.timeline h').armed = false → s'.kind = .sender →
      s'.phase = s.phase → s'.policy = s.policy → s'.timer = s.timer →
      (r = .ok () → (s'.timeline h').cause = .fresh) → (∀ e, r = .error e → Explains s' h' e) →
      Q r s' h') :
    Wp ok nextBlock Q s h := by
  have hkind : s.kind = .sender := by simp [kind, hrole]
  unfold nextBlock
  rw [wp_bind, wp_sender hrole]
  dsimp only
  rw [wp_bind, wp_ofExcept]
  cases hn : x.lastSent.succ true with
  | error e =>
    refine hQ _ _ _ ht harmed hkind rfl rfl rfl (fun hr => nomatch hr) ?_
    rintro _ ⟨⟩
    exact .of_host (Value.succ_isFault hn)
  | ok n =>
    dsimp only
    rw [wp_bind, wp_updateSender _ hrole, wp_bind]
    apply Wp.mono _ (wp_gather_timed (s := s.withSender _) (blockSize + 1) [] h (ht.congr rfl rfl)
      (.inr ⟨by decide, by decide⟩))
    rintro (e | block) s' h' ⟨rfl, hts, harmed', hcause, hexp⟩
    · exact hQ _ _ _ hts harmed' rfl rfl rfl rfl (fun hr => nomatch hr) fun _ he => by
        cases he
        exact hexp _ rfl
    · dsimp only
      rw [wp_updateSender _ (withSender_role _ _)]
      exact hQ _ _ _ (hts.congr rfl rfl) harmed' rfl rfl rfl rfl (fun _ => hcause _ rfl)
        (fun _ he => nomatch he)

/-- Sending the block read last is a fresh transmission, after which the sender waits with the
    block to resend. -/
theorem wp_transmitData_timed {x : Sender} (hrole : s.role = .sender x) (ht : Timed s h)
    (harmed : (s.timeline h).armed = false) (hc : (s.timeline h).cause = .fresh) :
    Wp ok transmitData (fun r s' h' => s'.policy = s.policy ∧ Settles r s' h') s h := by
  unfold transmitData
  rw [wp_bind, wp_sender hrole]
  dsimp only
  rw [wp_bind]
  apply wp_transmit_timed _ ht harmed (by rw [hc]; decide)
    (fun hclock => absurd (hc.symm.trans hclock) (by decide))
  intro r s₁ h₁ hts harmed₁ hrole₁ _ hpol₁ hexp hfresh
  cases r with
  | error e => exact ⟨hpol₁, hts, harmed₁, hexp e rfl⟩
  | ok u =>
    obtain ⟨bytes, hb⟩ := hfresh rfl
    -- what is left changes counters and the phase only
    have hwait : ∀ s₂ : Session, s₂.policy = s₁.policy → s₂.timer = s₁.timer →
        Wp ok (modify fun s => { s with phase := some .awaitAck })
          (fun r s' h' => s'.policy = s.policy ∧ Settles r s' h') s₂ h₁ := by
      intro s₂ hp htimer
      rw [wp_modify]
      refine ⟨hp.trans hpol₁, (hts.congr htimer hp), ?_, fun _ => ⟨bytes, ?_⟩⟩
      · show (s₂.timeline h₁).armed = false
        rw [timeline_congr hp]
        exact harmed₁
      · show s₂.timer.fresh = some bytes
        rw [htimer]
        exact hb
    dsimp only
    rw [wp_bind]
    unfold updateStats
    rw [wp_modify]
    dsimp only
    split
    · rw [wp_bind, wp_updateSender_any]
      dsimp only
      rw [hrole₁, hrole]
      exact hwait _ rfl rfl
    · exact hwait _ rfl rfl

theorem kind_eq_of_role (hrole : s'.role = s.role) : s'.kind = s.kind := by
  simp [kind, hrole]

/-- The end of a step that waited leaves the session poised, or failed with its failure
    explained. -/
theorem wp_expire_settles (ph : Phase) (ht : Timed s h) (harmed : (s.timeline h).armed = false)
    (hph : s.kind.waitPhase = ph)
    (hwait : s.phase = some s.kind.waitPhase → ∃ bytes, s.timer.fresh = some bytes) :
    Wp ok (do
      if (← get).phase == some ph then
        if (← timeLeft).isNonpos then handleTimeout)
      (fun r s' h' => s'.policy = s.policy ∧ Settles r s' h') s h := by
  apply wp_expire_timed ph ht harmed (fun hw => hwait (by rw [hph]; exact hw))
  intro r s' h' hts harmed' hrole' hphase' hpol' hfresh hexp
  refine ⟨hpol', ?_⟩
  cases r with
  | error e => exact ⟨hts, harmed', hexp e rfl⟩
  | ok u =>
    refine ⟨hts, harmed', fun hw => ?_⟩
    rw [kind_eq_of_role hrole', hphase'] at hw
    rw [hfresh]
    exact hwait hw

/-- A session that kept the role and the timer of a poised session, and either its phase or
    stopped waiting, still has a datagram to resend while it waits. -/
theorem Poised.resendable_of (hp : Poised s h) (hrole : s'.role = s.role)
    (htimer : s'.timer = s.timer ∨ ∃ bytes, s'.timer.fresh = some bytes)
    (hphase : s'.phase = s.phase ∨ s'.phase ≠ some s.kind.waitPhase) :
    s'.phase = some s'.kind.waitPhase → ∃ bytes, s'.timer.fresh = some bytes := by
  intro hw
  rw [kind_eq_of_role hrole] at hw
  rcases htimer with htimer | hfresh
  · rcases hphase with hphase | hphase
    · rw [htimer]
      exact hp.resendable (hphase ▸ hw)
    · exact absurd hw hphase
  · exact hfresh

/-- One step of a sender keeps the discipline: reading and sending a block is a fresh
    transmission; while it waits, a packet other than the acknowledgement of the block in flight
    changes nothing, and silence resends the block. -/
theorem wp_sendOnce_timed {x : Sender} (hrole : s.role = .sender x) (hp : Poised s h) :
    Wp ok sendOnce (fun r s' h' => s'.policy = s.policy ∧ Settles r s' h') s h := by
  have hkind : s.kind = .sender := by simp [kind, hrole]
  unfold sendOnce
  rw [wp_bind, wp_get]
  dsimp only
  split
  · -- reading the next block and sending it
    rw [wp_bind]
    apply wp_nextBlock_timed hrole hp.timed hp.rest
    intro r s₁ h₁ hts harmed hkind₁ _ hpol htimer hfresh hexp
    cases r with
    | error e => exact ⟨hpol, hts, harmed, hexp e rfl⟩
    | ok u =>
      obtain ⟨x₁, hrole₁⟩ : ∃ x₁, s₁.role = .sender x₁ := by
        unfold kind at hkind₁
        split at hkind₁
        · next x₁ hx => exact ⟨x₁, hx⟩
        · cases hkind₁
      exact Wp.mono (fun r s' h' ⟨hpol', hs⟩ => ⟨hpol'.trans hpol, hs⟩)
        (wp_transmitData_timed hrole₁ hts harmed (hfresh rfl))
  · -- waiting for the acknowledgement
    rw [wp_bind]
    apply wp_receive
    intro r s₁ δ hr
    obtain ⟨hts, harmed, hrole₁, hphase₁, hpol₁, htimer₁, hexp, -⟩ := hr.timed hp.timed hp.rest
    cases r with
    | error e => exact ⟨hpol₁, hts, harmed, hexp e rfl⟩
    | ok got =>
      dsimp only
      split
      · rw [wp_bind]
        apply wp_handleAck_timed
        intro r s₂ hrole₂ hpol₂ htimer₂ hphase₂ hfault
        have hts₂ : Timed s₂ (h ++ δ) := hts.congr htimer₂ hpol₂
        have harmed₂ : (s₂.timeline (h ++ δ)).armed = false := by
          rw [timeline_congr hpol₂]
          exact harmed
        cases r with
        | error e =>
          exact ⟨hpol₂.trans hpol₁, hts₂, harmed₂, .of_host (hfault e rfl)⟩
        | ok u =>
          have hwait := hp.resendable_of (hrole₂.trans hrole₁) (.inl (htimer₂.trans htimer₁))
            (by rw [hkind]; exact hphase₂.imp_left (·.trans hphase₁))
          refine Wp.mono (fun r s' h' ⟨hpol', hs⟩ => ⟨hpol'.trans (hpol₂.trans hpol₁), hs⟩)
            (wp_expire_settles .awaitAck hts₂ harmed₂ ?_ hwait)
          rw [kind_eq_of_role (hrole₂.trans hrole₁), hkind]
          rfl
      · have hwait := hp.resendable_of hrole₁ (.inl htimer₁) (.inl hphase₁)
        refine Wp.mono (fun r s' h' ⟨hpol', hs⟩ => ⟨hpol'.trans hpol₁, hs⟩)
          (wp_expire_settles .awaitAck hts harmed ?_ hwait)
        rw [kind_eq_of_role hrole₁, hkind]
        rfl

/-! ## The receiver -/

/-- Taking a DATA packet just after it was received: the expected block is delivered and
    acknowledged fresh, a repeat of the last block is answered with a plain send that leaves the
    timer alone, and any other block is dropped. -/
theorem wp_handleData_timed {x : Receiver} (hrole : s.role = .receiver x) (ht : Timed s h)
    (harmed : (s.timeline h).armed = false) (hc : (s.timeline h).cause = .reply)
    (block : Int) (payload : List UInt8) {Q : Except Failure Unit → Session → List Exchange → Prop}
    (hQ : ∀ r s' h', Timed s' h' → (s'.timeline h').armed = false → s'.kind = .receiver →
      s'.policy = s.policy → (∀ e, r = .error e → Explains s' h' e) →
      (r = .ok () → (s'.phase = s.phase ∨ s'.phase = some .done) ∧
        (s'.timer = s.timer ∨ ∃ bytes, s'.timer.fresh = some bytes)) → Q r s' h') :
    Wp ok (handleData block payload) Q s h := by
  have hkind : s.kind = .receiver := by simp [kind, hrole]
  unfold handleData
  rw [wp_bind, wp_receiver, hrole]
  dsimp only
  rw [wp_bind, wp_ofExcept]
  cases hn : x.lastDelivered.succ false with
  | error e =>
    refine hQ _ _ _ ht harmed hkind rfl ?_ (fun hr => nomatch hr)
    rintro _ ⟨⟩
    exact .of_host (Value.succ_isFault hn)
  | ok next =>
    dsimp only
    generalize (if next.gtInt maxBlockNumber then Number.int 0 else next) = expected
    split
    · -- the expected block: deliver it, then acknowledge it fresh
      rw [wp_bind]
      apply wp_deliver_timed ht payload
      intro r h₁ hts harmed₁ hfresh hexp
      cases r with
      | error e => exact hQ _ _ _ hts harmed₁ hkind rfl hexp (fun hr => nomatch hr)
      | ok u =>
        have hcause := hfresh rfl
        dsimp only
        rw [wp_bind, wp_updateReceiver, hrole]
        dsimp only
        rw [wp_bind]
        unfold updateStats
        rw [wp_modify]
        dsimp only
        rw [wp_bind]
        refine wp_transmit_timed _ ?_ ?_ ?_ ?_ ?_
        · exact hts.congr rfl rfl
        · exact harmed₁
        · show (s.timeline h₁).cause ≠ .reply
          rw [hcause]
          decide
        · exact fun hclock => absurd (hcause.symm.trans hclock) (by decide)
        intro r s₂ h₂ hts₂ harmed₂ hrole₂ hphase₂ hpol₂ hexp₂ hsent
        have hkind₂ : s₂.kind = .receiver := by rw [kind_eq_of_role hrole₂]; rfl
        cases r with
        | error e => exact hQ _ _ _ hts₂ harmed₂ hkind₂ hpol₂ hexp₂ (fun hr => nomatch hr)
        | ok u =>
          have hbytes := hsent rfl
          dsimp only
          split
          · rw [wp_modify]
            exact hQ _ _ _ (hts₂.congr rfl rfl) harmed₂ hkind₂ hpol₂ (fun _ he => nomatch he)
              fun _ => ⟨.inr rfl, .inr hbytes⟩
          · rw [wp_pure]
            exact hQ _ _ _ hts₂ harmed₂ hkind₂ hpol₂ (fun _ he => nomatch he)
              fun _ => ⟨.inl hphase₂, .inr hbytes⟩
    · split
      · -- a repeat of the last block: answer it again
        apply wp_answer_timed ht harmed hc
        intro r s' h' hts' harmed' hrole' hphase' hpol' htimer' hexp'
        exact hQ _ _ _ hts' harmed' (by rw [kind_eq_of_role hrole', hkind]) hpol' hexp'
          fun _ => ⟨.inl hphase', .inl htimer'⟩
      · -- any other block is dropped; only the note about it can fail
        rw [wp_discard, wp_ofExcept]
        cases hd : Value.decimal _ with
        | error e =>
          refine hQ _ _ _ ht harmed hkind rfl ?_ (fun hr => nomatch hr)
          rintro _ ⟨⟩
          exact .of_host (Value.decimal_isFault hd)
        | ok _ =>
          exact hQ _ _ _ ht harmed hkind rfl (fun _ he => nomatch he)
            fun _ => ⟨.inl rfl, .inl rfl⟩

/-- One step of a receiver keeps the discipline: a new block is acknowledged fresh, a repeat of
    the last one answered with a plain send, anything else dropped, and silence resends. -/
theorem wp_receiveOnce_timed {x : Receiver} (hrole : s.role = .receiver x) (hp : Poised s h) :
    Wp ok receiveOnce (fun r s' h' => s'.policy = s.policy ∧ Settles r s' h') s h := by
  have hkind : s.kind = .receiver := by simp [kind, hrole]
  unfold receiveOnce
  rw [wp_bind]
  apply wp_receive
  intro r s₁ δ hr
  obtain ⟨hts, harmed, hrole₁, hphase₁, hpol₁, htimer₁, hexp, hreply⟩ := hr.timed hp.timed hp.rest
  cases r with
  | error e => exact ⟨hpol₁, hts, harmed, hexp e rfl⟩
  | ok got =>
    dsimp only
    split
    · next block payload =>
      rw [wp_bind]
      apply wp_handleData_timed (hrole₁.trans hrole) hts harmed (hreply _ rfl) block payload
      intro r s₂ h₂ hts₂ harmed₂ hkind₂ hpol₂ hexp₂ hkept
      cases r with
      | error e => exact ⟨hpol₂.trans hpol₁, hts₂, harmed₂, hexp₂ e rfl⟩
      | ok u =>
        obtain ⟨hphase₂, htimer₂⟩ := hkept rfl
        have hwait : s₂.phase = some s₂.kind.waitPhase → ∃ bytes, s₂.timer.fresh = some bytes := by
          intro hw
          rw [hkind₂] at hw
          rcases htimer₂ with htimer₂ | hfresh
          · rcases hphase₂ with hphase₂ | hphase₂
            · rw [htimer₂, htimer₁]
              exact hp.resendable (by rw [hkind, ← hphase₁, ← hphase₂, hw])
            · rw [hphase₂] at hw
              cases hw
          · exact hfresh
        refine Wp.mono (fun r s' h' ⟨hpol', hs⟩ => ⟨hpol'.trans (hpol₂.trans hpol₁), hs⟩)
          (wp_expire_settles .awaitData hts₂ harmed₂ ?_ hwait)
        rw [hkind₂]
        rfl
    · have hwait := hp.resendable_of hrole₁ (.inl htimer₁) (.inl hphase₁)
      refine Wp.mono (fun r s' h' ⟨hpol', hs⟩ => ⟨hpol'.trans hpol₁, hs⟩)
        (wp_expire_settles .awaitData hts harmed ?_ hwait)
      rw [kind_eq_of_role hrole₁, hkind]
      rfl

/-! ## Opening the transfer and stepping -/

/-- A fresh transmission, after which the session enters a phase: it is poised after it, with
    the datagram to resend. -/
theorem wp_transmit_enter (p : Draft) (ph : Phase) (ht : Timed s h)
    (harmed : (s.timeline h).armed = false) (hc : (s.timeline h).cause ≠ .reply)
    (hnone : (s.timeline h).cause = .clock → (s.timeline h).timer.fresh = none) :
    Wp ok (do
      transmit p
      modify fun s => { s with phase := some ph })
      (fun r s' h' => s'.policy = s.policy ∧ Settles r s' h') s h := by
  rw [wp_bind]
  apply wp_transmit_timed p ht harmed hc hnone
  intro r s₁ h₁ hts harmed₁ _ _ hpol₁ hexp hsent
  cases r with
  | error e => exact ⟨hpol₁, hts, harmed₁, hexp e rfl⟩
  | ok u =>
    rw [wp_modify]
    exact ⟨hpol₁, hts.congr rfl rfl, harmed₁, fun _ => hsent rfl⟩

/-- Opening the transfer, from a session that made no transmission yet and last read the
    clock: a request, or the acknowledgement of block 0 after the handler's first read, is a
    fresh transmission; a server sender only gets ready to read its first block. -/
theorem wp_start_timed (ht : Timed s h) (harmed : (s.timeline h).armed = false)
    (hc : (s.timeline h).cause = .clock) (hnone : (s.timeline h).timer.fresh = none) :
    Wp ok start (fun r s' h' => s'.policy = s.policy ∧ Settles r s' h') s h := by
  unfold start
  rw [wp_bind, wp_get]
  dsimp only
  cases hrole : s.role with
  | sender x =>
    unfold startSending
    rw [wp_bind, wp_get]
    dsimp only
    split
    · exact wp_transmit_enter _ _ ht harmed (by rw [hc]; decide) (fun _ => hnone)
    · -- a server sender reads its first block in its first step
      rw [wp_modify]
      refine ⟨rfl, ht.congr rfl rfl, harmed, fun hw => ?_⟩
      simp [kind, hrole, RoleKind.waitPhase] at hw
  | receiver x =>
    unfold startReceiving
    rw [wp_bind, wp_get]
    dsimp only
    split
    · exact wp_transmit_enter _ _ ht harmed (by rw [hc]; decide) (fun _ => hnone)
    · -- a server receiver acknowledges block 0 once the handler reads
      rw [wp_bind]
      apply wp_deliver_timed ht []
      intro r h₁ hts harmed₁ hfresh hexp
      cases r with
      | error e => exact ⟨rfl, hts, harmed₁, hexp e rfl⟩
      | ok u =>
        have hcause := hfresh rfl
        exact wp_transmit_enter _ _ hts harmed₁ (by rw [hcause]; decide)
          (fun hclock => absurd (hcause.symm.trans hclock) (by decide))

/-- Every step of a transfer keeps the discipline. -/
theorem wp_stepOnce_timed (hp : Poised s h) :
    Wp ok stepOnce (fun r s' h' => s'.policy = s.policy ∧ Settles r s' h') s h := by
  unfold stepOnce
  rw [wp_bind, wp_get]
  dsimp only
  cases hrole : s.role with
  | sender x => exact wp_sendOnce_timed hrole hp
  | receiver x => exact wp_receiveOnce_timed hrole hp

end Session

end Tftp
