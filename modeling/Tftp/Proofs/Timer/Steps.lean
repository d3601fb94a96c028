import Tftp.Proofs.Timer.Timeline

/-! # Each step keeps the session's timer in step with its timeline

    One lemma per kind of exchange says how it moves the timeline and the session's timer
    together (`Timed.check`, `Timed.restart`, `Timed.answer`, `Timed.fresh`, `Timed.resend`),
    and one lemma per step of a session that touches the timer builds on them: `transmit`
    sends fresh and restarts the timer, `retransmit` resends the last fresh transmission, and
    `handleTimeout` resends while the budget lasts and fails with the timeout after.  A
    receive waits for the time the timer has left (`Receives.timed`).

    `Explains` is what the run keeps of a failure that ends a transfer: a failure of the
    handler comes right after the failed pipe call or a receive, so its report to the peer is an
    answer; a timeout comes after exactly `retries` retransmissions, unless the socket itself
    raised it. -/

namespace Tftp

/-- A receive failed with a failure that is no error of the operating system, which the session
    lets through as it is. -/
def PassedThrough (h : List Exchange) : Prop :=
  ∃ t ph f, (Request.receive t ph, Response.receiveFailed f) ∈ h ∧ f.isOSError = false

namespace Session

variable {ok : List Exchange → Prop} {s s' : Session} {h : List Exchange}

/-- What a run keeps of a failure that ends the transfer: a failure of the handler comes just
    after a receive or a failed pipe call, and a timeout after `retries` retransmissions, unless
    a receive let it through. -/
structure Explains (s : Session) (h : List Exchange) (e : Failure) : Prop where
  handler : e.toFault.kind = .handlerFailure → (s.timeline h).cause = .reply
  timeout : e.toFault.kind = .protocolTimeout →
    (e = timeoutFailure s.policy.retries ∧ (s.timeline h).timer.since = s.policy.retries) ∨
      PassedThrough h

/-- A failure that is neither the handler's nor a timeout needs no explanation. -/
theorem Explains.of_kind {e : Failure} (hh : e.toFault.kind ≠ .handlerFailure)
    (ht : e.toFault.kind ≠ .protocolTimeout) : Explains s h e :=
  ⟨fun h' => absurd h' hh, fun h' => absurd h' ht⟩

/-- A failure of the host, which is no fault of the engine, needs no explanation. -/
theorem Explains.of_host {e : Failure} (he : e.isFault = false) : Explains s h e := by
  cases e with
  | fault f => cases he
  | host k a => exact .of_kind (by simp [Failure.toFault, Fault.build]) (by simp [Failure.toFault, Fault.build])

theorem explains_tooLarge : Explains s h .tooLarge :=
  .of_host rfl

theorem EncodeError.failure_isFault (e : EncodeError) : e.failure.isFault = false := by
  cases e <;> rfl

theorem explains_sendFailure (peer : Address) (reason : String) :
    Explains s h (sendFailure peer reason) :=
  .of_kind (by simp [sendFailure, Failure.ofKind, Failure.toFault, Fault.make, Fault.build])
    (by simp [sendFailure, Failure.ofKind, Failure.toFault, Fault.make, Fault.build])

/-! ## One exchange at a time -/

theorem Timed.concat {e : Exchange} (ht : Timed s h)
    (hfine : Timeline.Fine s.policy.retries (s.timeline h) e) (hpol : s'.policy = s.policy)
    (htimer : ((s.timeline h).record s.policy.seconds e).timer = s'.timer) :
    Timed s' (h ++ [e]) := by
  constructor
  · rw [timeline_congr hpol, timeline_concat, htimer]
  · rw [hpol, Timeline.obeys_append]
    exact ⟨ht.obeys, hfine, trivial⟩

theorem Timed.congr (ht : Timed s h) (htimer : s'.timer = s.timer) (hpol : s'.policy = s.policy) :
    Timed s' h :=
  ⟨by rw [timeline_congr hpol, ht.tracks, htimer], hpol ▸ ht.obeys⟩

/-- A clock reading that does not restart the timer. -/
theorem Timed.check (ht : Timed s h) (harmed : (s.timeline h).armed = false) (x : Response) :
    Timed s (h ++ [(.now, x)]) :=
  ht.concat trivial rfl (by simp [harmed, ht.tracks])

theorem timeline_check (harmed : (s.timeline h).armed = false) (x : Response) :
    s.timeline (h ++ [(.now, x)]) =
      { s.timeline h with reading := Setup.clockOf x, armed := false, cause := .clock } := by
  simp [harmed]

/-- The clock reading just after a transmission restarts the timer, on the session's side as on
    the timeline's; a reading the timeout cannot be added to leaves both as they were. -/
theorem Timed.restart (ht : Timed s h) (harmed : (s.timeline h).armed = true) (x : Response) :
    match (Setup.clockOf x).add? s.policy.seconds with
    | some e => Timed { s with expiry := e } (h ++ [(.now, x)])
    | none => Timed s (h ++ [(.now, x)]) := by
  split
  · next e hadd =>
    exact ht.concat trivial rfl (by simp [harmed, hadd, ht.tracks, timer])
  · next hadd =>
    exact ht.concat trivial rfl (by simp [harmed, hadd, ht.tracks])

/-- A pipe call leaves the timer alone. -/
theorem Timed.stream (ht : Timed s h) (c : Call) (y : Response) :
    Timed s (h ++ [(.stream c, y)]) :=
  ht.concat trivial rfl (by simp [ht.tracks])

/-- An answer leaves the timer alone. -/
theorem Timed.answer (ht : Timed s h) (hc : (s.timeline h).cause = .reply) (hpol : s'.policy = s.policy)
    (htimer : s'.timer = s.timer) (bytes : List UInt8) (target : Address) (x : Response) :
    Timed s' (h ++ [(.send bytes target, x)]) := by
  refine ht.concat (fun hclock => absurd (hc.symm.trans hclock) (by decide)) hpol ?_
  cases hx : x.failedSend
  · rw [Timeline.record_sent _ _ _ _ hx, Timeline.sent_of_reply _ hc]
    exact ht.tracks.trans htimer.symm
  · cases x <;> simp_all [Response.failedSend, ht.tracks]

/-- A fresh transmission: the timeline and the session remember the datagram, with no
    retransmission yet, and the next clock reading restarts the timer. -/
theorem Timed.fresh {p : Draft} {bytes : List UInt8} (ht : Timed s h) (henc : p.encode = .ok bytes)
    (hc : (s.timeline h).cause ≠ .reply)
    (hnone : (s.timeline h).cause = .clock → (s.timeline h).timer.fresh = none)
    (target : Address) {x : Response} (hx : x.failedSend = false) :
    Timed { s.countSent with lastPacket := some p, retransmits := 0 }
      (h ++ [(.send bytes target, x)]) ∧
    (s.timeline (h ++ [(.send bytes target, x)])).armed = true := by
  have hsent : s.timeline (h ++ [(.send bytes target, x)]) =
      { s.timeline h with timer := { (s.timeline h).timer with fresh := some bytes, since := 0 },
                          armed := true, cause := .fresh } := by
    rw [timeline_concat, Timeline.record_sent _ _ _ _ hx, Timeline.sent_of_fresh _ hc hnone]
  refine ⟨ht.concat (fun hclock f hf => ?_) rfl ?_, by rw [hsent]⟩
  · rw [hnone hclock] at hf
    cases hf
  · rw [← timeline_concat, hsent]
    simp [timer, henc, ht.tracks, Except.toOption, countSent]

/-- A retransmission: the datagram is the last fresh one, both count it, and the next clock
    reading restarts the timer. -/
theorem Timed.resend {bytes : List UInt8} (ht : Timed s h) (hc : (s.timeline h).cause = .clock)
    (hf : s.timer.fresh = some bytes) (hlt : s.retransmits < s.policy.retries)
    (target : Address) {x : Response} (hx : x.failedSend = false) :
    Timed s.countSent.countRetransmit (h ++ [(.send bytes target, x)]) ∧
    (s.timeline (h ++ [(.send bytes target, x)])).armed = true := by
  have hfresh : (s.timeline h).timer.fresh = some bytes := by rw [ht.tracks]; exact hf
  have hsent : s.timeline (h ++ [(.send bytes target, x)]) =
      { s.timeline h with
        timer := { (s.timeline h).timer with since := (s.timeline h).timer.since + 1,
                                             total := (s.timeline h).timer.total + 1 },
        armed := true, cause := .fresh } := by
    rw [timeline_concat, Timeline.record_sent _ _ _ _ hx, Timeline.sent_of_clock _ hc hfresh]
  refine ⟨ht.concat ?_ rfl ?_, by rw [hsent]⟩
  · intro _ f hf'
    rw [hfresh] at hf'
    cases hf'
    exact ⟨rfl, by rw [ht.tracks]; exact hlt⟩
  · rw [← timeline_concat, hsent]
    simp [ht.tracks]

/-- A send that fails leaves the timer alone; it must still be one the discipline allows. -/
theorem Timed.sendFailed {bytes : List UInt8} (ht : Timed s h)
    (hfine : (s.timeline h).cause = .clock → ∀ f, (s.timeline h).timer.fresh = some f →
      bytes = f ∧ (s.timeline h).timer.since < s.policy.retries)
    (target : Address) (reason : String) :
    Timed s (h ++ [(.send bytes target, .sendFailed reason)]) :=
  ht.concat hfine rfl (by simp [ht.tracks])

/-! ## The steps that touch the timer -/

theorem timer_fresh_eq_some {bytes : List UInt8} :
    s.timer.fresh = some bytes ↔ ∃ p, s.lastPacket = some p ∧ p.encode = .ok bytes := by
  simp only [timer, Option.bind_eq_some_iff]
  constructor
  · rintro ⟨p, hp, henc⟩
    refine ⟨p, hp, ?_⟩
    cases hcode : p.encode <;> simp_all [Except.toOption]
  · rintro ⟨p, hp, henc⟩
    exact ⟨p, hp, by simp [henc, Except.toOption]⟩

/-- Reading the time left, with the timer at rest: a clock reading that restarts nothing. -/
theorem wp_timeLeft_timed (ht : Timed s h) (harmed : (s.timeline h).armed = false)
    {Q : Except Failure Number → Session → List Exchange → Prop}
    (hQ : ∀ x, Timed s (h ++ [(.now, x)]) →
      s.timeline (h ++ [(.now, x)]) =
        { s.timeline h with reading := Setup.clockOf x, armed := false, cause := .clock } →
      match s.expiry.sub? (Setup.clockOf x) with
      | some d => Q (.ok d) s (h ++ [(.now, x)])
      | none => Q (.error .tooLarge) s (h ++ [(.now, x)])) :
    Wp ok timeLeft Q s h := by
  rw [wp_timeLeft]
  intro x _
  exact hQ x (ht.check harmed x) (timeline_check harmed x)

/-- Restarting the timer just after a transmission. -/
theorem wp_resetTimeout_timed (ht : Timed s h) (harmed : (s.timeline h).armed = true)
    {Q : Except Failure Unit → Session → List Exchange → Prop}
    (hok : ∀ x e, (Setup.clockOf x).add? s.policy.seconds = some e →
      Timed { s with expiry := e } (h ++ [(.now, x)]) →
      Q (.ok ()) { s with expiry := e } (h ++ [(.now, x)]))
    (hfail : ∀ x, (Setup.clockOf x).add? s.policy.seconds = none →
      Timed s (h ++ [(.now, x)]) → Q (.error .tooLarge) s (h ++ [(.now, x)])) :
    Wp ok resetTimeout Q s h := by
  rw [wp_resetTimeout]
  intro x _
  have hr := ht.restart harmed x
  split
  · next e hadd =>
    rw [hadd] at hr
    exact hok x e hadd hr
  · next hadd =>
    rw [hadd] at hr
    exact hfail x hadd hr

/-- A fresh transmission, made at a moment that is neither an answer nor a retransmission: the
    timer is at rest after it, whether it went out, could not be written, failed to go out, or
    could not restart the timer; once it went out the session remembers its datagram. -/
theorem wp_transmit_timed (p : Draft) (ht : Timed s h) (harmed : (s.timeline h).armed = false)
    (hc : (s.timeline h).cause ≠ .reply)
    (hnone : (s.timeline h).cause = .clock → (s.timeline h).timer.fresh = none)
    {Q : Except Failure Unit → Session → List Exchange → Prop}
    (hQ : ∀ r s' h', Timed s' h' → (s'.timeline h').armed = false → s'.role = s.role →
      s'.phase = s.phase → s'.policy = s.policy → (∀ e, r = .error e → Explains s' h' e) →
      (r = .ok () → ∃ bytes, s'.timer.fresh = some bytes) → Q r s' h') :
    Wp ok (transmit p) Q s h := by
  cases henc : p.encode with
  | error e =>
    rw [wp_transmit, wp_send, henc]
    refine hQ _ _ _ ht harmed rfl rfl rfl ?_ (fun hr => nomatch hr)
    rintro e' ⟨⟩
    exact .of_host (EncodeError.failure_isFault e)
  | ok bytes =>
  apply wp_transmit_of_encode henc
  · intro reason
    have hts : Timed s (h ++ [(.send bytes s.peer, .sendFailed reason)]) :=
      ht.sendFailed (fun hclock f hf => by rw [hnone hclock] at hf; cases hf) s.peer reason
    refine hQ _ _ _ hts (by simp) rfl rfl rfl ?_ (fun hr => by cases hr)
    rintro e ⟨⟩
    exact explains_sendFailure _ _
  · intro x t hx hadd
    obtain ⟨hts, harmed⟩ := ht.fresh henc hc hnone s.peer hx
    have hr := hts.restart harmed t
    simp only [countSent_policy, hadd] at hr
    rw [List.append_assoc] at hr
    refine hQ _ _ _ hr (by simp) rfl rfl rfl ?_ (fun hr => by cases hr)
    rintro e ⟨⟩
    exact explains_tooLarge
  · intro x t e hx hadd
    obtain ⟨hts, harmed⟩ := ht.fresh henc hc hnone s.peer hx
    have hr := hts.restart harmed t
    simp only [countSent_policy, hadd] at hr
    rw [List.append_assoc] at hr
    refine hQ _ _ _ hr (by simp) rfl rfl rfl (fun e he => by cases he) ?_
    intro _
    exact ⟨bytes, timer_fresh_eq_some.mpr ⟨p, rfl, henc⟩⟩

/-- A retransmission of the last fresh transmission, right after the clock reading that found
    the timer expired, with the budget not spent. -/
theorem wp_retransmit_timed {bytes : List UInt8} (ht : Timed s h)
    (hc : (s.timeline h).cause = .clock) (hf : s.timer.fresh = some bytes)
    (hlt : s.retransmits < s.policy.retries) {Q : Except Failure Unit → Session → List Exchange → Prop}
    (hfail : ∀ reason, Timed s (h ++ [(.send bytes s.peer, .sendFailed reason)]) →
      Q (.error (sendFailure s.peer reason)) s (h ++ [(.send bytes s.peer, .sendFailed reason)]))
    (hclock : ∀ x t, x.failedSend = false → (Setup.clockOf t).add? s.policy.seconds = none →
      Timed s.countSent.countRetransmit (h ++ [(.send bytes s.peer, x), (.now, t)]) →
      Q (.error .tooLarge) s.countSent.countRetransmit (h ++ [(.send bytes s.peer, x), (.now, t)]))
    (hsent : ∀ x t e, x.failedSend = false → (Setup.clockOf t).add? s.policy.seconds = some e →
      Timed { s.countSent.countRetransmit with expiry := e }
        (h ++ [(.send bytes s.peer, x), (.now, t)]) →
      Q (.ok ()) { s.countSent.countRetransmit with expiry := e }
        (h ++ [(.send bytes s.peer, x), (.now, t)])) :
    Wp ok retransmit Q s h := by
  obtain ⟨p, hp, henc⟩ := timer_fresh_eq_some.mp hf
  have hfresh : (s.timeline h).timer.fresh = some bytes := by rw [ht.tracks]; exact hf
  rw [wp_retransmit, hp]
  apply wp_send_of_encode henc
  · intro reason _
    refine hfail reason (ht.sendFailed (fun _ f hf' => ?_) s.peer reason)
    rw [hfresh] at hf'
    cases hf'
    exact ⟨rfl, by rw [ht.tracks]; exact hlt⟩
  · intro x hx _
    obtain ⟨hts, harmed⟩ := ht.resend hc hf hlt s.peer hx
    apply wp_resetTimeout_timed hts harmed
    · intro t e hadd hr
      simp only [countRetransmit_policy, countSent_policy] at hadd
      rw [List.append_assoc] at hr
      simpa using hsent x t e hx hadd hr
    · intro t hadd hr
      simp only [countRetransmit_policy, countSent_policy] at hadd
      rw [List.append_assoc] at hr
      simpa using hclock x t hx hadd hr

/-- The failure of a session that found its timer expired with the budget spent: a timeout, after
    `retries` retransmissions of the last fresh transmission. -/
theorem explains_timeout (ht : Timed s h) (hge : ¬s.retransmits < s.policy.retries) :
    Explains s h (timeoutFailure s.retransmits) := by
  have heq : s.retransmits = s.policy.retries := by
    have hle := ht.retransmits_le
    omega
  refine ⟨fun hk => ?_, fun _ => .inl ⟨by rw [heq], ?_⟩⟩
  · simp [timeoutFailure, Failure.ofKind, Failure.toFault, Fault.make, Fault.build] at hk
  · rw [ht.tracks]
    exact heq

/-- The end of a step that waited: still waiting, with the timer run out, the session resends the
    last fresh transmission while the budget lasts, and fails with the timeout after.  The timer
    is at rest after it, and the datagram to resend is kept. -/
theorem wp_expire_timed (ph : Phase) (ht : Timed s h) (harmed : (s.timeline h).armed = false)
    (hwait : s.phase = some ph → ∃ bytes, s.timer.fresh = some bytes)
    {Q : Except Failure Unit → Session → List Exchange → Prop}
    (hQ : ∀ r s' h', Timed s' h' → (s'.timeline h').armed = false → s'.role = s.role →
      s'.phase = s.phase → s'.policy = s.policy → s'.timer.fresh = s.timer.fresh →
      (∀ e, r = .error e → Explains s' h' e) → Q r s' h') :
    Wp ok (do
      if (← get).phase == some ph then
        if (← timeLeft).isNonpos then handleTimeout) Q s h := by
  rw [wp_bind, wp_get]
  dsimp only
  by_cases hph : (s.phase == some ph) = true
  · rw [if_pos hph, wp_bind]
    apply wp_timeLeft_timed ht harmed
    intro x htx hline
    split
    · next d hd =>
      dsimp only
      by_cases hexp : d.isNonpos = true
      · rw [if_pos hexp, wp_handleTimeout]
        obtain ⟨bytes, hb⟩ := hwait (by simpa using hph)
        have hc : (s.timeline (h ++ [(.now, x)])).cause = .clock := by rw [hline]
        refine ⟨fun hlt => ?_, fun hge => ?_⟩
        · apply wp_retransmit_timed htx hc hb hlt
          · intro reason hts
            refine hQ _ _ _ hts (by simp) rfl rfl rfl rfl ?_
            rintro e ⟨⟩
            exact explains_sendFailure _ _
          · intro y t _ _ hts
            refine hQ _ _ _ hts (by simp) rfl rfl rfl rfl ?_
            rintro e ⟨⟩
            exact explains_tooLarge
          · intro y t e _ _ hts
            exact hQ _ _ _ hts (by simp) rfl rfl rfl rfl (fun e he => by cases he)
        · refine hQ _ _ _ htx (by simp) rfl rfl rfl rfl ?_
          rintro e ⟨⟩
          exact explains_timeout htx hge
      · rw [if_neg hexp]
        exact hQ _ _ _ htx (by simp) rfl rfl rfl rfl (fun e he => by cases he)
    · next hd =>
      refine hQ _ _ _ htx (by simp) rfl rfl rfl rfl ?_
      rintro e ⟨⟩
      exact explains_tooLarge
  · rw [if_neg hph]
    exact hQ _ _ _ ht harmed rfl rfl rfl rfl (fun e he => by cases he)

/-! ## Receiving -/

/-- A receive that waited: it came right after the clock reading, for exactly the time the timer
    had left, which was more than nothing. -/
theorem Timed.waited (ht : Timed s h) (harmed : (s.timeline h).armed = false) {x : Response}
    {t : Number} (hleft : s.expiry.sub? (Setup.clockOf x) = some t) (hpos : t.isNonpos = false)
    (ph : Option Phase) (y : Response) :
    Timed s (h ++ [(.now, x), (.receive t ph, y)]) := by
  have hnow := ht.check harmed x
  have hexpiry : (s.timeline h).timer.expiry = s.expiry := congrArg Timer.expiry ht.tracks
  have hwait := hnow.concat (e := (.receive t ph, y))
    ⟨by simp [harmed], by simp [harmed, hexpiry, hleft], hpos⟩ rfl (by simp [harmed, ht.tracks])
  simpa using hwait

/-- Every way a receive ends keeps the timer at rest and in step with the timeline.  A packet
    taken comes right after its receive, so what the session sends at once is an answer; a
    failure of the receive is explained. -/
theorem Receives.timed {r : Except Failure (Option Packet)} {δ : List Exchange}
    (hr : Receives s r s' δ) (ht : Timed s h) (harmed : (s.timeline h).armed = false) :
    Timed s' (h ++ δ) ∧ (s'.timeline (h ++ δ)).armed = false ∧ s'.role = s.role ∧
      s'.phase = s.phase ∧ s'.policy = s.policy ∧ s'.timer = s.timer ∧
      (∀ e, r = .error e → Explains s' (h ++ δ) e) ∧
      (∀ p, r = .ok (some p) → (s'.timeline (h ++ δ)).cause = .reply) := by
  cases hr with
  | unreadable x hx =>
    refine ⟨ht.check harmed x, by simp, rfl, rfl, rfl, rfl, ?_, (fun _ hp => nomatch hp)⟩
    rintro e ⟨⟩
    exact explains_tooLarge
  | expired x t hx ht' =>
    exact ⟨ht.check harmed x, by simp, rfl, rfl, rfl, rfl, (fun _ he => nomatch he),
      (fun _ hp => nomatch hp)⟩
  | failed x t f hx hpos =>
    refine ⟨ht.waited harmed hx hpos _ _, by simp, rfl, rfl, rfl, rfl, ?_, (fun _ hp => nomatch hp)⟩
    rintro e ⟨⟩
    unfold receiveFailure
    split
    · exact .of_kind (by simp [Failure.ofKind, Failure.toFault, Fault.make, Fault.build])
        (by simp [Failure.ofKind, Failure.toFault, Fault.make, Fault.build])
    · next hos =>
      refine ⟨fun _ => by simp, fun _ => .inr ⟨t, s.phase, f, by simp, by simpa using hos⟩⟩
  | silent x t y hx hpos _ _ =>
    exact ⟨ht.waited harmed hx hpos _ _, by simp, rfl, rfl, rfl, rfl, (fun _ he => nomatch he),
      (fun _ hp => nomatch hp)⟩
  | foreign x t bytes source p refusal z hx hpos _ _ _ _ =>
    have hwait := ht.waited harmed hx hpos s.phase (.datagram bytes source)
    have hanswer := hwait.answer (by simp) rfl rfl refusal source z
    refine ⟨by simpa using hanswer, by simp, rfl, rfl, rfl, rfl, (fun _ he => nomatch he),
      (fun _ hp => nomatch hp)⟩
  | aborted x t bytes source code message hx hpos _ _ =>
    refine ⟨(ht.waited harmed hx hpos _ _).congr (by simp) (by simp), by simp, by simp, by simp,
      by simp, by simp, ?_, (fun _ hp => nomatch hp)⟩
    rintro e ⟨⟩
    exact .of_kind (by simp [peerAbort, Failure.toFault, Fault.make, Fault.build])
      (by simp [peerAbort, Failure.toFault, Fault.make, Fault.build])
  | packet x t bytes source p hx hpos _ _ _ =>
    refine ⟨(ht.waited harmed hx hpos _ _).congr (by simp) (by simp), by simp, by simp, by simp,
      by simp, by simp, (fun _ he => nomatch he), fun p' _ => by simp⟩

end Session

end Tftp
