import Tftp.Proofs.Timer.Session
import Tftp.Proofs.Outcome

/-! # Every run of a session keeps its retry budget

    The steps of a transfer keep a session poised (`Tftp.Proofs.Timer.Session`); here the rest of
    a run follows.  Failing with a fault reports a handler's failure with a plain send, just
    after what failed; closing dallies with the timer restarted and answers repeats of the last
    block; the last steps report the count of retransmissions the timer kept.  So the exchanges
    of every run obey the discipline of `Timeline.Obeys`, from the session's creation on, and a
    session that ends with a timeout has resent its last fresh transmission exactly `retries`
    times (`program_keeps_retry_budget`). -/

namespace Tftp

namespace Program

variable {α : Type} {ok : List Exchange → Prop}

/-- A run only adds exchanges, and the last one it added kept `ok`. -/
theorem Always.extends {post : α → List Exchange → Prop} :
    ∀ {p : Program α} {h : List Exchange}, p.Always ok post h →
      p.Always ok (fun a h' => post a h' ∧ ∃ δ, h' = h ++ δ ∧ (δ = [] ∨ ok h')) h
  | .done _, h, hp => ⟨hp, [], by simp, .inl rfl⟩
  | .ask r _, h, hp => fun x hx => (Always.extends (hp x hx)).mono
      fun _ h' ⟨hpost, δ, hδ, hok⟩ => ⟨hpost, (r, x) :: δ, by simp [hδ], .inr (by
        rcases hok with rfl | hok
        · simpa [hδ] using hx
        · exact hok)⟩

end Program

namespace Session

variable {ok : List Exchange → Prop} {s : Session} {h : List Exchange}

/-- A step only adds exchanges, and the last one it added kept `ok`. -/
theorem Wp.extends {α : Type} {m : SessionM α}
    {Q : Except Failure α → Session → List Exchange → Prop} (hm : Wp ok m Q s h) :
    Wp ok m (fun r s' h' => Q r s' h' ∧ ∃ δ, h' = h ++ δ ∧ (δ = [] ∨ ok h')) s h :=
  Program.Always.extends hm

/-- What the steps after the transfer keep: the timer in step with the timeline and at rest, the
    policy and the count of retransmissions. -/
structure Rests (s s' : Session) (h' : List Exchange) : Prop where
  timed : Timed s' h'
  rest : (s'.timeline h').armed = false
  policy : s'.policy = s.policy
  retransmits : s'.retransmits = s.retransmits

theorem Rests.refl (ht : Timed s h) (harmed : (s.timeline h).armed = false) : Rests s s h :=
  ⟨ht, harmed, rfl, rfl⟩

theorem Rests.trans {s₁ s₂ : Session} {h₁ h₂ : List Exchange} (h₀₁ : Rests s s₁ h₁)
    (h₁₂ : Rests s₁ s₂ h₂) : Rests s s₂ h₂ :=
  ⟨h₁₂.timed, h₁₂.rest, h₁₂.policy.trans h₀₁.policy, h₁₂.retransmits.trans h₀₁.retransmits⟩

/-! ## Failing -/

/-- Failing with the fault of an explained failure: a handler's failure is reported to the peer
    with a plain send, which is an answer to the receive or pipe call that failed. -/
theorem wp_fail_timed {e : Failure} (ht : Timed s h) (harmed : (s.timeline h).armed = false)
    (hexp : Explains s h e) :
    Wp ok (fail e.toFault) (fun _ s' h' => Rests s s' h' ∧ s'.error = some e.toFault) s h := by
  have hfailed : Rests s (s.failWith e.toFault) h := ⟨ht.congr rfl rfl, harmed, rfl, rfl⟩
  rw [wp_fail]
  refine ⟨fun hk => ?_, fun _ => ⟨hfailed, rfl⟩⟩
  rw [wp_transmitError]
  have hanswer : Wp ok (send (.error e.toFault.code e.toFault.message))
      (fun _ s' h' => Timed s' h' ∧ (s'.timeline h').armed = false ∧ s'.policy = s.policy ∧
        s'.retransmits = s.retransmits) (s.failWith e.toFault) h :=
    wp_answer_timed hfailed.timed harmed (hexp.handler hk) _
      (fun _ _ _ hts harmed' _ _ hpol htimer _ => ⟨hts, harmed', hpol, congrArg Timer.since htimer⟩)
  have hframe : Wp ok (send (.error e.toFault.code e.toFault.message))
      (fun _ s' h' => s'.outcome = (s.failWith e.toFault).outcome ∧ Unclosed h h')
      (s.failWith e.toFault) h :=
    confined_send (Q := (· = (s.failWith e.toFault).outcome)) _ _ h rfl
  apply Wp.mono _ (hanswer.and hframe)
  rintro r s' h' ⟨⟨hts, harmed', hpol, hretx⟩, hout, δ, rfl, -⟩
  have hpost : Rests s s' (h ++ δ) ∧ s'.error = some e.toFault :=
    ⟨⟨hts, harmed', hpol, hretx⟩, congrArg (fun o => o.2.1) hout⟩
  cases r with
  | ok _ => exact hpost
  | error e' =>
    dsimp only
    rw [ite_self]
    exact hpost

/-! ## Closing -/

theorem wp_receiver_of_forall {Q : Except Failure Receiver → Session → List Exchange → Prop}
    (hQ : ∀ x, Q (.ok x) s h) : Wp ok receiver Q s h :=
  wp_receiver.mpr (hQ _)

/-- The last steps close the pipe and the socket, read the clock and report the statistics,
    whose count of retransmissions is the timer's. -/
theorem wp_finish_timed (ht : Timed s h) :
    Wp ok finish (fun _ s' h' => Rests s s' h' ∧ s'.error = s.error) s h := by
  apply wp_finish
  intro x₁ x₂ x₃ x₄
  have ht₁ := ht.concat (e := (.closeStream (s.error.map .fault), x₁)) trivial rfl
    (by simp [ht.tracks])
  have ht₂ := ht₁.concat (e := (.closeSocket, x₂)) trivial rfl (by simp [ht.tracks])
  have ht₃ := ht₂.check (by simp) x₃
  have ht₄ : Timed (s.closedAt (Setup.clockOf x₃))
      (h ++ [(.closeStream (s.error.map .fault), x₁)] ++ [(.closeSocket, x₂)] ++ [(.now, x₃)] ++
        [(.report (s.closedAt (Setup.clockOf x₃)).stats, x₄)]) :=
    ht₃.concat (by simp [Timeline.Fine, closedAt, ht.tracks, timer]) rfl (by simp [ht.tracks]; rfl)
  simp only [List.append_assoc, List.cons_append, List.nil_append] at ht₄
  exact ⟨⟨ht₄, by simp, rfl, rfl⟩, rfl⟩

/-- Dallying keeps the timer at rest between its steps: each reads the clock, then receives, and
    a repeat of the last block is answered. -/
theorem wp_dallyFor_timed : ∀ (fuel : Nat) (s : Session) (h : List Exchange), Timed s h →
    (s.timeline h).armed = false →
    Wp ok (dallyFor fuel) (fun _ s' h' => Rests s s' h') s h := by
  intro fuel
  induction fuel with
  | zero => exact fun s h ht harmed => Rests.refl ht harmed
  | succ n ih =>
    intro s h ht harmed
    unfold dallyFor
    rw [wp_bind]
    apply wp_timeLeft_timed ht harmed
    intro x htx hline
    have harmedx : (s.timeline (h ++ [(.now, x)])).armed = false := by rw [hline]
    have hread : Rests s s (h ++ [(.now, x)]) := ⟨htx, harmedx, rfl, rfl⟩
    split
    · dsimp only
      split
      · exact hread
      · rw [wp_bind, wp_tryCatch, wp_map]
        apply wp_receive
        intro r s₁ δ hr
        obtain ⟨hts, harmed₁, -, -, hpol₁, htimer₁, -, hreply⟩ := hr.timed htx harmedx
        have hgot : Rests s s₁ (h ++ [(.now, x)] ++ δ) :=
          hread.trans ⟨hts, harmed₁, hpol₁, congrArg Timer.since htimer₁⟩
        -- every way on from the receive rests, or dallies on from a session that rests
        have hon : ∀ s₂ h₂, Rests s s₂ h₂ →
            Wp ok (dallyFor n) (fun _ s' h' => Rests s s' h') s₂ h₂ :=
          fun s₂ h₂ hr₂ => Wp.mono (fun _ _ _ hr' => hr₂.trans hr') (ih s₂ h₂ hr₂.timed hr₂.rest)
        cases r with
        | error e =>
          -- a fault ends the dally quietly, any other failure escapes
          dsimp only [Except.map]
          by_cases hf : e.isFault = true
          · rw [if_pos hf, wp_pure]
            exact hgot
          · rw [if_neg hf, wp_throw]
            exact hgot
        | ok got =>
          dsimp only [Except.map]
          cases got with
          | none => exact hon s₁ _ hgot
          | some p =>
            cases p with
            | data block payload =>
              dsimp only
              rw [wp_bind]
              refine wp_receiver_of_forall fun r₁ => ?_
              dsimp only
              split
              · -- a repeat of the last block is answered
                rw [wp_bind, wp_tryCatch, wp_seqRight, wp_bind]
                apply wp_answer_timed hts harmed₁ (hreply _ rfl)
                intro r s₂ h₂ hts₂ harmed₂ _ _ hpol₂ htimer₂ _
                have hsent : Rests s s₂ h₂ :=
                  hgot.trans ⟨hts₂, harmed₂, hpol₂, congrArg Timer.since htimer₂⟩
                cases r with
                | error e =>
                  dsimp only
                  by_cases hf : e.isFault = true
                  · rw [if_pos hf, wp_pure]
                    exact hsent
                  · rw [if_neg hf, wp_throw]
                    exact hsent
                | ok u => exact hon s₂ h₂ hsent
              · exact hon s₁ _ hgot
            | _ => exact hon s₁ _ hgot
    · exact hread

/-- The dally restarts the timer just after it closed the pipe cleanly, then dallies. -/
theorem wp_dally_timed (fuel : Nat) (ht : Timed s h) :
    Wp ok (dally fuel) (fun _ s' h' => Rests s s' h') s h := by
  unfold dally
  rw [wp_bind, wp_discard, wp_ask]
  intro x _
  have ht₁ : Timed s (h ++ [(.closeStream none, x)]) := ht.concat trivial rfl (by simp [ht.tracks])
  have harmed₁ : (s.timeline (h ++ [(.closeStream none, x)])).armed = true := by simp
  rw [wp_bind]
  apply wp_resetTimeout_timed ht₁ harmed₁
  · intro t e _ hts
    have harmed₂ : ({ s with expiry := e }.timeline
        (h ++ [(Request.closeStream none, x)] ++ [(Request.now, t)])).armed = false := by simp
    exact Wp.mono (fun _ _ _ hr => Rests.trans ⟨hts, harmed₂, rfl, rfl⟩ hr)
      (wp_dallyFor_timed fuel _ _ hts harmed₂)
  · intro t _ hts
    exact ⟨hts, by simp, rfl, rfl⟩

/-- Closing keeps the timer at rest and in step, and the session's fault. -/
theorem wp_close_timed (fuel : Nat) (ht : Timed s h) :
    Wp ok (close fuel) (fun _ s' h' => Rests s s' h' ∧ s'.error = s.error) s h := by
  unfold close
  rw [wp_bind, wp_get]
  simp only []
  split
  · -- a receiver that is done dallies first, which leaves its fault alone
    rw [wp_bind]
    apply Wp.mono _ ((wp_dally_timed fuel ht).and (wp_dally fuel))
    rintro r s₁ h₁ ⟨hr₁, hout, -, -⟩
    have herr : s₁.error = s.error := congrArg (fun o => o.2.1) hout
    cases r with
    | error e => exact ⟨hr₁, herr⟩
    | ok u =>
      exact Wp.mono (fun _ _ _ ⟨hr', herr'⟩ => ⟨hr₁.trans hr', herr'.trans herr⟩)
        (wp_finish_timed hr₁.timed)
  · exact wp_finish_timed ht

/-! ## A whole run -/

/-- What a session keeps of the fault that ended it: a timeout came after `retries`
    retransmissions, unless a receive let it through. -/
def ExplainsTimeout (s : Session) (h : List Exchange) : Prop :=
  ∀ f, s.error = some f → f.kind = .protocolTimeout →
    (f = (timeoutFailure s.policy.retries).toFault ∧ s.retransmits = s.policy.retries) ∨
      PassedThrough h

theorem ExplainsTimeout.of_none (herr : s.error = none) : ExplainsTimeout s h :=
  fun _ hf => absurd (herr.symm.trans hf) (by simp)

/-- What is kept of a timeout stays so while the session rests and keeps its fault. -/
theorem ExplainsTimeout.after {s' : Session} {δ : List Exchange} (hs : ExplainsTimeout s h)
    (hr : Rests s s' (h ++ δ)) (herr : s'.error = s.error) : ExplainsTimeout s' (h ++ δ) := by
  intro f hf hk
  rcases hs f (herr ▸ hf) hk with ⟨hfault, hcount⟩ | ⟨t, ph, g, hmem, hos⟩
  · exact .inl ⟨by rw [hr.policy]; exact hfault, by rw [hr.retransmits, hr.policy]; exact hcount⟩
  · exact .inr ⟨t, ph, g, List.mem_append_left δ hmem, hos⟩

/-- The fault of a failure that a run explains keeps what it explains. -/
theorem ExplainsTimeout.of_fail {e : Failure} {s' : Session} {δ : List Exchange} (ht : Timed s h)
    (hexp : Explains s h e) (hr : Rests s s' (h ++ δ)) (herr : s'.error = some e.toFault) :
    ExplainsTimeout s' (h ++ δ) := by
  intro f hf hk
  rw [herr, Option.some.injEq] at hf
  subst hf
  rcases hexp.timeout hk with ⟨rfl, hsince⟩ | ⟨t, ph, g, hmem, hos⟩
  · refine .inl ⟨by rw [hr.policy], ?_⟩
    rw [hr.retransmits, hr.policy, ← hsince, ht.tracks]
    rfl
  · exact .inr ⟨t, ph, g, List.mem_append_left δ hmem, hos⟩

/-- A run from a session that made no transmission yet and last read the clock keeps the timer
    in step with the timeline and at rest, and ends with what a timeout needs explained, and with
    what its close, from a session with the same policy, leaves. -/
theorem wp_run_timed (fuel : Nat) (ht : Timed s h) (harmed : (s.timeline h).armed = false)
    (hc : (s.timeline h).cause = .clock) (hnone : (s.timeline h).timer.fresh = none)
    (hcalm : Calm s.outcome) {Final : Session → List Exchange → Prop}
    (hfinal : ∀ s₁ h₁, s₁.policy = s.policy →
      Wp ok (close fuel) (fun _ s' h' => Final s' h') s₁ h₁) :
    Wp ok (run fuel) (fun _ s' h' => Timed s' h' ∧ s'.policy = s.policy ∧
      ExplainsTimeout s' h' ∧ Final s' h') s h := by
  -- between steps: poised, with the session's policy, and calm
  refine @wp_run ok s h fuel
    (fun s₁ h₁ => Poised s₁ h₁ ∧ s₁.policy = s.policy ∧ Calm s₁.outcome)
    (fun e s₁ h₁ => (Timed s₁ h₁ ∧ (s₁.timeline h₁).armed = false ∧ Explains s₁ h₁ e) ∧
      s₁.policy = s.policy)
    (fun s₁ h₁ => Timed s₁ h₁ ∧ s₁.policy = s.policy ∧ ExplainsTimeout s₁ h₁)
    (fun s₁ h₁ => Timed s₁ h₁ ∧ s₁.policy = s.policy ∧ ExplainsTimeout s₁ h₁ ∧ Final s₁ h₁)
    ?start ?loop ?fail ?close
  case start =>
    apply Wp.mono _ ((wp_start_timed ht harmed hc hnone).and (confined_start s h hcalm))
    rintro (e | u) s' h' ⟨⟨hpol', hset⟩, hcalm', -⟩
    · exact ⟨hset, hpol'⟩
    · exact ⟨hset, hpol', hcalm'⟩
  case loop =>
    refine wp_loop ?_ fuel
    rintro s₁ h₁ ⟨hp, hpol, hcalm₁⟩ -
    apply Wp.mono _ ((wp_stepOnce_timed hp).and (confined_stepOnce s₁ h₁ hcalm₁))
    rintro (e | u) s' h' ⟨⟨hpol', hset⟩, hcalm', -⟩
    · exact ⟨hset, hpol'.trans hpol⟩
    · exact ⟨hset, hpol'.trans hpol, hcalm'⟩
  -- a failure ends the session with its fault, kept as explained
  case fail =>
    rintro e s₁ h₁ ⟨⟨ht₁, harmed₁, hexp⟩, hpol⟩
    apply Wp.mono _ (wp_fail_timed ht₁ harmed₁ hexp).extends
    rintro _ s' h' ⟨⟨hr, herr⟩, δ, rfl, -⟩
    exact ⟨hr.timed, hr.policy.trans hpol, .of_fail ht₁ hexp hr herr⟩
  case close =>
    intro s₁ h₁ hs₁
    have ht₁ : Timed s₁ h₁ := hs₁.elim (·.1.timed) (·.1)
    have hpol : s₁.policy = s.policy := hs₁.elim (·.2.1) (·.2.1)
    have hexp₁ : ExplainsTimeout s₁ h₁ := hs₁.elim (fun h => .of_none h.2.2.2.1) (·.2.2)
    apply Wp.mono _ ((wp_close_timed fuel ht₁).extends.and (hfinal s₁ h₁ hpol))
    rintro _ s' h' ⟨⟨⟨hr, herr⟩, δ, rfl, -⟩, hfin⟩
    exact ⟨hr.timed, hr.policy.trans hpol, hexp₁.after hr herr, hfin⟩

end Session

namespace Setup

variable {ok : List Exchange → Prop}

/-- A session as it is created: the timer started at the first clock reading and no
    transmission made. -/
theorem initial_timed (st : Setup) {x₀ : Response} {expiry : Number}
    (hadd : (clockOf x₀).add? st.policy.seconds = some expiry) (x₁ x₂ : Response) :
    (st.initial expiry x₁ x₂).Timed [(.now, x₀), (.localAddress, x₁), (.now, x₂)] ∧
    ((st.initial expiry x₁ x₂).timeline [(.now, x₀), (.localAddress, x₁), (.now, x₂)]).armed =
      false ∧
    ((st.initial expiry x₁ x₂).timeline [(.now, x₀), (.localAddress, x₁), (.now, x₂)]).cause =
      .clock ∧
    ((st.initial expiry x₁ x₂).timeline
      [(.now, x₀), (.localAddress, x₁), (.now, x₂)]).timer.fresh = none := by
  have hline : (st.initial expiry x₁ x₂).timeline [(.now, x₀), (.localAddress, x₁), (.now, x₂)] =
      ⟨⟨none, 0, 0, expiry⟩, clockOf x₂, false, .clock⟩ := by
    simp [Session.timeline, Timeline.of, Timeline.start, initial, hadd]
  refine ⟨⟨by rw [hline]; rfl, ?_⟩, by rw [hline], by rw [hline], by rw [hline]⟩
  simp [initial, Timeline.Fine]

/-- Every run of a session keeps its retry discipline, from its creation on: a resend repeats the
    last fresh transmission, at most `retries` times before the next fresh one; each receive
    waits for exactly the time left on the timer, which is more than nothing; a duplicate or
    stray packet restarts nothing; the report counts every retransmission; and a session that
    ended with a timeout resent its last fresh transmission exactly `retries` times and failed
    with the fault that says so, unless the socket raised it. -/
theorem program_keeps_retry_budget (st : Setup) (fuel : Nat) :
    (st.program fuel).Always ok (fun res H =>
      Timeline.Obeys st.policy.seconds st.policy.retries .start H ∧
      ∀ ending s f, res = .ok (ending, s) → s.error = some f → f.kind = .protocolTimeout →
        (f = (Session.timeoutFailure st.policy.retries).toFault ∧
          (Timeline.of st.policy.seconds H).timer.since = st.policy.retries) ∨
        PassedThrough H) [] := by
  apply always_program
  · intro x _
    exact ⟨by simp [Timeline.Fine], fun _ _ _ hres => nomatch hres⟩
  · intro x₀ expiry x₁ x₂ hadd
    obtain ⟨ht, harmed, hc, hnone⟩ := st.initial_timed hadd x₁ x₂
    apply Session.Wp.mono _ (Session.wp_run_timed fuel ht harmed hc hnone
      ⟨by simp [initial, Session.outcome], rfl, rfl⟩ fun _ _ _ => Session.Wp.of_forall
        fun _ _ _ => trivial)
    rintro r s' H ⟨hts, hpol, hexp, -⟩
    have hpol' : s'.policy = st.policy := hpol
    refine ⟨hpol' ▸ hts.obeys, ?_⟩
    intro ending s f hres herr hk
    -- the session a run ends with is the final session, whatever the result
    have hs : s = s' := by
      rcases r with e | _ | _ <;> (cases hres; rfl)
    subst hs
    rcases hexp f herr hk with ⟨hfault, hcount⟩ | hpass
    · refine .inl ⟨hpol' ▸ hfault, ?_⟩
      have hsince : (s.timeline H).timer.since = s.retransmits := congrArg Timer.since hts.tracks
      rw [← hpol', ← hcount]
      exact hsince
    · exact .inr hpass

end Setup

end Tftp
