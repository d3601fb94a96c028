import Tftp.Proofs.Frame
import Tftp.Simulation.Transfer

/-! # How every session ends

    Whatever the network, the socket, the clock, the handler and the receiver of the statistics
    answer, a session that runs to its end has ended done without a fault or failed with one, and
    it has closed down (`ClosedDown`): its end of the pipe closed, each time with its fault if it
    has one; its socket closed once; its statistics reported once, as they finally stand, with
    the fault, the retransmissions and the end time recorded.

    A failure escapes the run in two ways only, and the caller then gets that failure instead of
    the session's fault:

    * the session failed because its handler did, and reporting that fault to the peer raised
      something other than a transport failure or a value error: the codec cannot write an error
      code that is no integer (`ReportFailed`).  The session has closed down all the same.
    * a receiver that was done failed while it dallied with something other than a fault, such
      as a clock reading too large to restart its timer (`DallyFailed`).  Its end of the pipe was
      closed cleanly, but its socket was not closed and nothing was reported.  A clock that reads
      doubles and a socket that fails only with errors of the system rule this way out
      (`Tftp.Proofs.Dally`).

    The route: the transfer's own steps leave the outcome alone and close nothing
    (`Tftp.Proofs.Frame`); `fail` sets the outcome (`wp_fail_outcome`); the dally keeps the
    outcome and raises nothing but host failures (`wp_dallyFor`); `finish` closes down
    (`wp_finish_closedDown`); `wp_run_ends` puts these together over every path of `run`. -/

namespace Tftp

namespace Exchange

/-- The exchange closed the session's socket. -/
def closesSocket : Exchange → Bool
  | (.closeSocket, _) => true
  | _ => false

/-- The statistics the exchange reported. -/
def report? : Exchange → Option Stats
  | (.report stats, _) => some stats
  | _ => none

/-- An exchange that closes nothing neither closes the pipe or the socket nor reports. -/
theorem quiet_of_closesDown {e : Exchange} (he : e.1.closesDown = false) :
    e.streamClose? = none ∧ e.closesSocket = false ∧ e.report? = none := by
  obtain ⟨r, x⟩ := e
  cases r <;> simp_all [Request.closesDown, streamClose?, closesSocket, report?]

end Exchange

namespace Program

variable {α : Type} {ok : List Exchange → Prop}

/-- What holds of every end holds of every run: each run of a program comes to an end. -/
theorem always_of_forall {post : α → List Exchange → Prop} (hpost : ∀ a h, post a h) :
    ∀ (p : Program α) h, p.Always ok post h
  | .done a, h => hpost a h
  | .ask _ k, _ => fun x _ => always_of_forall hpost (k x) _

/-- Two postconditions of every run hold together. -/
theorem Always.and {post post' : α → List Exchange → Prop} :
    ∀ {p : Program α} {h : List Exchange}, p.Always ok post h → p.Always ok post' h →
      p.Always ok (fun a h' => post a h' ∧ post' a h') h
  | .done _, _, hp, hp' => ⟨hp, hp'⟩
  | .ask _ _, _, hp, hp' => fun x hx => Always.and (hp x hx) (hp' x hx)

end Program

namespace Session

/-- No exchange so far closed anything. -/
def NoneClosed (h : List Exchange) : Prop := ∀ e ∈ h, e.1.closesDown = false

theorem NoneClosed.of_unclosed {h h' : List Exchange} (hn : NoneClosed h) (hu : Unclosed h h') :
    NoneClosed h' := by
  obtain ⟨δ, rfl, hδ⟩ := hu
  exact List.forall_mem_append.mpr ⟨hn, hδ⟩

/-- The views of exchanges that close nothing are empty. -/
theorem NoneClosed.views {h : List Exchange} (hn : NoneClosed h) :
    h.filterMap Exchange.streamClose? = [] ∧ h.countP Exchange.closesSocket = 0 ∧
      h.filterMap Exchange.report? = [] := by
  refine ⟨List.filterMap_eq_nil_iff.mpr fun e he => (Exchange.quiet_of_closesDown (hn e he)).1,
    List.countP_eq_zero.mpr fun e he => by simp [(Exchange.quiet_of_closesDown (hn e he)).2.1],
    List.filterMap_eq_nil_iff.mpr fun e he => (Exchange.quiet_of_closesDown (hn e he)).2.2⟩

/-- The session ended: done or failed, with a fault exactly when it failed. -/
def Terminal (s : Session) : Prop :=
  (s.phase = some .done ∨ s.phase = some .failed) ∧ (s.error = none ↔ s.phase = some .done)

/-- The session has closed down: its end of the pipe was closed, each time with the session's
    fault if it has one and cleanly otherwise; its socket was closed once; its statistics were
    reported once, as they finally stand; and they record its fault, its retransmissions and the
    time it ended. -/
structure ClosedDown (s : Session) (H : List Exchange) : Prop where
  streamClosed : H.filterMap Exchange.streamClose? ≠ []
  closedWithFault : ∀ e ∈ H.filterMap Exchange.streamClose?, e = s.error.map .fault
  socketClosedOnce : H.countP Exchange.closesSocket = 1
  reportedOnce : H.filterMap Exchange.report? = [s.stats]
  recordsFault : s.stats.error = s.error
  countsRetransmits : s.stats.retransmits = s.totalRetransmits
  endTimeSet : s.stats.endTime ≠ none

/-- Reporting the handler's fault `f` to the peer raised `e`: the codec could not write the ERROR
    packet, and its error is neither a transport failure nor a value error. -/
def ReportFails (f : Fault) (e : Failure) : Prop :=
  f.kind = .handlerFailure ∧ ∃ ee, (Draft.error f.code f.message).encode = .error ee ∧
    e = ee.failure ∧ e.isTransport = false ∧ e.isValueError = false

/-- The session failed with its handler's fault, and reporting it to the peer raised `e`. -/
def ReportFailed (s : Session) (e : Failure) : Prop :=
  s.phase = some .failed ∧ ∃ f, s.error = some f ∧ ReportFails f e

/-- The session was done and the failure `e`, which is no fault, escaped while it dallied: its
    end of the pipe was closed once and cleanly, its socket was not closed and nothing was
    reported. -/
def DallyFailed (s : Session) (e : Failure) (H : List Exchange) : Prop :=
  s.phase = some .done ∧ s.error = none ∧ e.isFault = false ∧
    H.filterMap Exchange.streamClose? = [none] ∧ H.countP Exchange.closesSocket = 0 ∧
    H.filterMap Exchange.report? = []

/-- How a run ended, with the session and the exchanges after it: an end within its steps leaves
    the session ended and closed down; a run cut short leaves it without a fault and closed down;
    a failure escapes only from the report of a handler's fault or from the dally. -/
def Ends (r : Except Failure Bool) (s : Session) (H : List Exchange) : Prop :=
  match r with
  | .ok true => Terminal s ∧ ClosedDown s H
  | .ok false => s.error = none ∧ ClosedDown s H
  | .error e => (ReportFailed s e ∧ ClosedDown s H) ∨ DallyFailed s e H

variable {ok : List Exchange → Prop} {s : Session} {h : List Exchange}

/-! ## Failing -/

/-- The session failed with the fault `f`. -/
theorem outcome_failWith (f : Fault) : (s.failWith f).outcome = (some .failed, some f, some f) :=
  rfl

/-- Failing sets the outcome and closes nothing; it raises only when the report of a handler's
    fault cannot be written. -/
theorem wp_fail_outcome (f : Fault) :
    Wp ok (fail f) (fun r s' h' => s'.outcome = (some .failed, some f, some f) ∧ Unclosed h h' ∧
      ∀ e, r = .error e → ReportFails f e) s h := by
  rw [wp_fail]
  refine ⟨fun hk => ?_, fun _ => ⟨rfl, .refl h, by simp⟩⟩
  rw [wp_transmitError, wp_send]
  cases henc : (Draft.error f.code f.message).encode with
  | error ee =>
    dsimp only
    split
    · exact ⟨rfl, .refl h, by simp⟩
    · next hcaught =>
      refine ⟨rfl, .refl h, fun e he => ?_⟩
      cases he
      simp only [Bool.or_eq_true, not_or, Bool.not_eq_true] at hcaught
      exact ⟨hk, ee, henc, rfl, hcaught⟩
  | ok bytes =>
    intro x _
    -- a send that fails is a transport failure, which the report lets go
    split
    · exact ⟨rfl, .append (by simp [Request.closesDown]), by simp⟩
    · exact ⟨rfl, .append (by simp [Request.closesDown]), by simp⟩

/-! ## The dally -/

section Raises

variable {α β : Type} {E : Failure → Prop}

theorem Wp.of_forall {m : SessionM α} {Q : Except Failure α → Session → List Exchange → Prop}
    (hQ : ∀ r s' h', Q r s' h') : Wp ok m Q s h := by
  unfold Wp
  exact Program.always_of_forall (fun (a : Except Failure α × Session) h' => hQ a.1 a.2 h') _ h

theorem Wp.and {m : SessionM α} {Q Q' : Except Failure α → Session → List Exchange → Prop}
    (hQ : Wp ok m Q s h) (hQ' : Wp ok m Q' s h) :
    Wp ok m (fun r s' h' => Q r s' h' ∧ Q' r s' h') s h :=
  Program.Always.and hQ hQ'

/-- Every failure the step `m` raises satisfies `E`. -/
def RaisesOnly (ok : List Exchange → Prop) (E : Failure → Prop) (m : SessionM α) : Prop :=
  ∀ s h, Wp ok m (fun r _ _ => ∀ e, r = .error e → E e) s h

theorem raisesOnly_pure (a : α) : RaisesOnly ok E (pure a) :=
  fun _ _ _ he => by simp at he

theorem raisesOnly_throw {e : Failure} (he : E e) : RaisesOnly ok E (throw e : SessionM α) :=
  fun _ _ e' he' => by cases he'; exact he

theorem RaisesOnly.bind {m : SessionM α} {f : α → SessionM β} (hm : RaisesOnly ok E m)
    (hf : ∀ a, RaisesOnly ok E (f a)) : RaisesOnly ok E (m >>= f) := by
  intro s h
  rw [wp_bind]
  apply Wp.mono _ (hm s h)
  rintro (e | a) s' h' hr
  · intro e' he'
    cases he'
    exact hr e rfl
  · exact hf a s' h'

/-- A step whose failures are all caught by a handler raises only what the handler raises. -/
theorem RaisesOnly.tryCatch {m : SessionM α} {handler : Failure → SessionM α}
    (hh : ∀ e, RaisesOnly ok E (handler e)) : RaisesOnly ok E (tryCatch m handler) := by
  intro s h
  rw [wp_tryCatch]
  apply Wp.of_forall
  rintro (e | a) s' h'
  · exact hh e s' h'
  · intro e he
    cases he

theorem RaisesOnly.ite {c : Prop} [Decidable c] {a b : SessionM α} (ha : RaisesOnly ok E a)
    (hb : RaisesOnly ok E b) : RaisesOnly ok E (if c then a else b) := by
  split
  · exact ha
  · exact hb

theorem raisesOnly_get : RaisesOnly ok E get :=
  fun _ _ _ he => by simp at he

theorem raisesOnly_receiver : RaisesOnly ok E receiver :=
  raisesOnly_get.bind fun s => by
    cases s.role <;> exact raisesOnly_pure _

/-- Reading the timer fails only when the clock reading is too large. -/
theorem raisesOnly_timeLeft : RaisesOnly ok (· = Failure.tooLarge) timeLeft := by
  intro s h
  rw [wp_timeLeft]
  intro x _
  split
  · intro e he
    cases he
  · intro e he
    cases he
    rfl

theorem raisesOnly_resetTimeout : RaisesOnly ok (· = Failure.tooLarge) resetTimeout := by
  intro s h
  rw [wp_resetTimeout]
  intro x _
  split
  · intro e he
    cases he
  · intro e he
    cases he
    rfl

theorem RaisesOnly.mono {E' : Failure → Prop} {m : SessionM α} (hm : RaisesOnly ok E m)
    (hE : ∀ e, E e → E' e) : RaisesOnly ok E' m :=
  fun s h => Wp.mono (fun _ _ _ hr e he => hE e (hr e he)) (hm s h)

end Raises

/-- A handler that swallows faults and raises everything else. -/
theorem raisesOnly_host {α : Type} (a : α) (e : Failure) :
    RaisesOnly ok (fun e => e.isFault = false)
      (if e.isFault = true then pure a else throw e : SessionM α) := by
  split
  · exact raisesOnly_pure a
  · next hfault => exact raisesOnly_throw (by simpa using hfault)

/-- Dallying raises nothing but failures of the host: a fault ends it quietly. -/
theorem raisesOnly_dallyFor (fuel : Nat) :
    RaisesOnly ok (fun e => e.isFault = false) (dallyFor fuel) := by
  induction fuel with
  | zero => exact raisesOnly_pure _
  | succ n ih =>
    unfold dallyFor
    simp only []
    have htooLarge : ∀ e, e = Failure.tooLarge → e.isFault = false := by
      rintro e rfl
      rfl
    refine (raisesOnly_timeLeft.mono htooLarge).bind fun _ => RaisesOnly.ite (raisesOnly_pure _) ?_
    refine (RaisesOnly.tryCatch fun e => raisesOnly_host _ e).bind fun got => ?_
    split
    · exact raisesOnly_pure _
    · refine raisesOnly_receiver.bind fun _ => ?_
      refine RaisesOnly.ite ?_ ih
      exact (RaisesOnly.tryCatch fun e => raisesOnly_host _ e).bind fun _ =>
        RaisesOnly.ite (raisesOnly_pure _) ih
    · exact ih

/-- Dallying closes nothing and leaves every outcome. -/
theorem confined_dallyFor {Q : Option Phase × Option Fault × Option Fault → Prop} (fuel : Nat) :
    Confined ok Q (dallyFor fuel) := by
  induction fuel with
  | zero => exact confined_pure _
  | succ n ih =>
    unfold dallyFor
    simp only []
    refine confined_timeLeft.bind fun _ => Confined.ite (confined_pure _) ?_
    have hcatch : ∀ {α : Type} (a : α) (e : Failure),
        Confined ok Q (if e.isFault = true then pure a else throw e : SessionM α) :=
      fun a _ => Confined.ite (confined_pure a) (confined_throw _)
    refine (Confined.tryCatch (confined_receive.map _) fun e => hcatch _ e).bind fun got => ?_
    split
    · exact confined_pure _
    · refine confined_receiver.bind fun _ => ?_
      refine Confined.ite ?_ ih
      exact (Confined.tryCatch ((confined_send _).seq (confined_pure _)) fun e => hcatch _ e).bind
        fun _ => Confined.ite (confined_pure _) ih
    · exact ih

/-- The dally closes the session's end of the pipe cleanly, then keeps the socket open for a
    while: it leaves the outcome, closes nothing more, and raises only failures of the host. -/
theorem wp_dally (fuel : Nat) :
    Wp ok (dally fuel) (fun r s' h' => s'.outcome = s.outcome ∧
      (∃ x, Unclosed (h ++ [(.closeStream none, x)]) h') ∧
      ∀ e, r = .error e → e.isFault = false) s h := by
  unfold dally
  rw [wp_bind, wp_discard, wp_ask]
  intro x _
  rw [wp_bind]
  have hreset := Wp.and (@confined_resetTimeout ok (· = s.outcome) s _ rfl)
    (@raisesOnly_resetTimeout ok s (h ++ [(.closeStream none, x)]))
  apply Wp.mono _ hreset
  rintro (e | _) s₁ h₁ ⟨⟨hout₁, hu₁⟩, hraise₁⟩
  · exact ⟨hout₁, ⟨x, hu₁⟩, fun e' he' => by rw [hraise₁ e' he']; rfl⟩
  · have hdally := Wp.and (@confined_dallyFor ok (· = s.outcome) fuel s₁ h₁ hout₁)
      (@raisesOnly_dallyFor ok fuel s₁ h₁)
    exact Wp.mono (fun _ _ _ ⟨⟨hout, hu⟩, hraise⟩ => ⟨hout, ⟨x, hu₁.trans hu⟩, hraise⟩) hdally

/-! ## Closing down -/

/-- The last steps close the pipe with the session's fault, close the socket and report the
    statistics as they finally stand; they keep the phase and the fault. -/
theorem wp_finish_closedDown (hrec : s.stats.error = s.error)
    (hpipe : ∀ e ∈ h.filterMap Exchange.streamClose?, e = s.error.map .fault)
    (hsock : h.countP Exchange.closesSocket = 0) (hrep : h.filterMap Exchange.report? = []) :
    Wp ok finish (fun r s' h' => r = .ok () ∧ s'.phase = s.phase ∧ s'.error = s.error ∧
      ClosedDown s' h') s h := by
  apply wp_finish
  intro x₁ x₂ x₃ x₄
  refine ⟨rfl, rfl, rfl, ⟨?_, ?_, ?_, ?_, hrec, rfl, by simp [closedAt]⟩⟩
  · rw [List.filterMap_append]
    exact List.append_ne_nil_of_right_ne_nil _ (List.cons_ne_nil _ _)
  · intro e he
    rw [List.filterMap_append, List.mem_append] at he
    rcases he with he | he
    · exact hpipe e he
    · exact List.eq_of_mem_singleton he
  · rw [List.countP_append, hsock]
    rfl
  · rw [List.filterMap_append, hrep]
    rfl

/-- What a history shows after a dally began on it: the pipe closed cleanly once, and neither
    the socket closed nor a report. -/
theorem NoneClosed.views_dallied (hn : NoneClosed h) (hδ : NoneClosed δ) (x : Response) :
    (h ++ [(Request.closeStream none, x)] ++ δ).filterMap Exchange.streamClose? = [none] ∧
      (h ++ [(Request.closeStream none, x)] ++ δ).countP Exchange.closesSocket = 0 ∧
      (h ++ [(Request.closeStream none, x)] ++ δ).filterMap Exchange.report? = [] := by
  obtain ⟨hpipe₀, hsock₀, hrep₀⟩ := hn.views
  obtain ⟨hpipeδ, hsockδ, hrepδ⟩ := hδ.views
  refine ⟨?_, ?_, ?_⟩
  · rw [List.filterMap_append, List.filterMap_append, hpipe₀, hpipeδ]
    rfl
  · rw [List.countP_append, List.countP_append, hsock₀, hsockδ]
    rfl
  · rw [List.filterMap_append, List.filterMap_append, hrep₀, hrepδ]
    rfl

/-- Finishing a session with no fault, after its end of the pipe was closed once and cleanly
    and nothing else was closed or reported, closes it down with no fault recorded. -/
theorem wp_finish_clean (herr : s.error = none) (hrec : s.stats.error = none)
    (hpipe : h.filterMap Exchange.streamClose? = [none])
    (hsock : h.countP Exchange.closesSocket = 0) (hrep : h.filterMap Exchange.report? = []) :
    Wp ok finish (fun r s' h' => r = .ok () ∧ s'.phase = s.phase ∧ s'.error = none ∧
      s'.stats.error = none ∧ ClosedDown s' h') s h := by
  -- the one close of the pipe carried the session's fault, which is none
  have hpipe' : ∀ e ∈ h.filterMap Exchange.streamClose?, e = s.error.map .fault := by
    intro e he
    rw [hpipe, List.mem_singleton] at he
    rw [he, herr]
    rfl
  apply Wp.mono _ (wp_finish_closedDown (hrec.trans herr.symm) hpipe' hsock hrep)
  rintro r s' h' ⟨hr, hph, herr', hcd⟩
  exact ⟨hr, hph, herr'.trans herr, hcd.recordsFault.trans (herr'.trans herr), hcd⟩

/-- Closing a session: a receiver that is done dallies first, and a failure of the dally escapes
    before the socket is closed; otherwise the session closes down with its phase and fault. -/
theorem wp_close (fuel : Nat) (hrec : s.stats.error = s.error) (hn : NoneClosed h)
    (hdone : s.phase = some .done → s.error = none) :
    Wp ok (close fuel) (fun r s' h' => match r with
      | .ok _ => s'.phase = s.phase ∧ s'.error = s.error ∧ ClosedDown s' h'
      | .error e => DallyFailed s' e h') s h := by
  unfold close
  rw [wp_bind, wp_get]
  simp only []
  split
  · next hphase =>
    rw [wp_bind]
    apply Wp.mono _ (wp_dally fuel)
    rintro (e | _) s₁ h₁ ⟨hout, ⟨x, δ, rfl, hδ⟩, hraise⟩ <;>
      simp only [outcome, Prod.mk.injEq] at hout <;>
      obtain ⟨hpipe, hsock, hrep⟩ := hn.views_dallied hδ x
    · -- the dally failed: the pipe was closed cleanly, and nothing else
      exact ⟨hout.1.trans hphase, hout.2.1.trans (hdone hphase), hraise e rfl, hpipe, hsock, hrep⟩
    · have hclean : s₁.error = none := hout.2.1.trans (hdone hphase)
      have hrec₁ : s₁.stats.error = none := hout.2.2.trans (hrec.trans (hdone hphase))
      apply Wp.mono _ (wp_finish_clean hclean hrec₁ hpipe hsock hrep)
      rintro r s' h' ⟨rfl, hph, herr, -, hcd⟩
      exact ⟨hph.trans hout.1, herr.trans (hdone hphase).symm, hcd⟩
  · obtain ⟨hpipe₀, hsock₀, hrep₀⟩ := hn.views
    apply Wp.mono _ (wp_finish_closedDown hrec (by simp [hpipe₀]) hsock₀ hrep₀)
    rintro r s' h' ⟨rfl, hph, herr, hcd⟩
    exact ⟨hph, herr, hcd⟩

/-! ## A whole session -/

/-- The states a session is closed from, with what the transfer gave: calm, with the loop's
    answer (`true` only if the session ended), or failed with a fault `f`, with `true` or with the
    failure that reporting `f` raised. -/
def Closable (s : Session) (o : Except Failure Bool) : Prop :=
  (Calm s.outcome ∧ ∃ b, o = .ok b ∧ (b = true → s.ended = true)) ∨
    ∃ f, s.outcome = (some .failed, some f, some f) ∧
      (o = .ok true ∨ ∃ e, o = .error e ∧ ReportFails f e)

/-- Closing a session from such a state, then giving back what the transfer gave, ends the run
    as `Ends` says. -/
theorem wp_closeWith (fuel : Nat) {o : Except Failure Bool} (hn : NoneClosed h)
    (hs : Closable s o) :
    Wp ok (do close fuel; match o with
      | .ok ended => pure ended
      | .error e => throw e) (fun r s' h' => Ends r s' h') s h := by
  -- both kinds of state record their fault, and only a calm one can be done
  have hclose : s.stats.error = s.error ∧ (s.phase = some .done → s.error = none) := by
    rcases hs with ⟨⟨_, herr, hserr⟩, _⟩ | ⟨f, hout, _⟩
    · exact ⟨hserr.trans herr.symm, fun _ => herr⟩
    · simp only [outcome, Prod.mk.injEq] at hout
      exact ⟨hout.2.2.trans hout.2.1.symm, fun hd => by simp [hout.1] at hd⟩
  rw [wp_bind]
  apply Wp.mono _ (wp_close fuel hclose.1 hn hclose.2)
  rintro (e | _) s' h' hq
  · exact Or.inr hq
  obtain ⟨hph, herr, hcd⟩ := hq
  rcases hs with ⟨⟨hnf, hclean, _⟩, b, rfl, hend⟩ | ⟨f, hout, rfl | ⟨e, rfl, hrep⟩⟩
  · cases b with
    | false => exact ⟨herr.trans hclean, hcd⟩
    | true =>
      -- the loop ended the session, and a calm session that ended is done
      have hdone : s.phase = some .done := by
        have hended := hend rfl
        simp only [ended, Bool.or_eq_true, beq_iff_eq] at hended
        exact hended.resolve_right hnf
      exact ⟨⟨Or.inl (hph.trans hdone), iff_of_true (herr.trans hclean) (hph.trans hdone)⟩, hcd⟩
  · simp only [outcome, Prod.mk.injEq] at hout
    refine ⟨⟨Or.inr (hph.trans hout.1), ?_⟩, hcd⟩
    simp [herr, hph, hout.1, hout.2.1]
  · simp only [outcome, Prod.mk.injEq] at hout
    exact Or.inl ⟨⟨hph.trans hout.1, f, herr.trans hout.2.1, hrep⟩, hcd⟩

/-- Every run of a session that starts calm, before anything was closed, ends as `Ends` says:
    the transfer keeps the session calm until it fails, failing sets the outcome, and every path
    closes the session. -/
theorem wp_run_ends (fuel : Nat) (hcalm : Calm s.outcome) (hn : NoneClosed h) :
    Wp ok (run fuel) (fun r s' h' => Ends r s' h') s h := by
  -- a failure of the transfer ends it with its fault, which its report may fail to carry
  have hfailed : ∀ (e : Failure) s h, NoneClosed h →
      Wp ok (do fail e.toFault; pure true) (fun r s' h' => NoneClosed h' ∧ Closable s' r) s h := by
    intro e s h hn
    rw [wp_bind]
    apply Wp.mono _ (wp_fail_outcome e.toFault)
    rintro (e' | _) s' h' ⟨hout, hu, hraise⟩
    · exact ⟨hn.of_unclosed hu, Or.inr ⟨_, hout, Or.inr ⟨e', rfl, hraise e' rfl⟩⟩⟩
    · exact ⟨hn.of_unclosed hu, Or.inr ⟨_, hout, Or.inl rfl⟩⟩
  unfold run
  rw [wp_bind, wp_tryCatch, wp_bind, wp_tryCatch, wp_bind]
  apply Wp.mono _ (confined_start s h hcalm)
  rintro (e | _) s₁ h₁ ⟨hcalm₁, hu₁⟩
  · apply Wp.mono _ (hfailed e s₁ h₁ (hn.of_unclosed hu₁))
    rintro (e' | b) s' h' ⟨hn', hs'⟩
    · exact wp_closeWith fuel hn' hs'
    · exact wp_closeWith fuel hn' hs'
  · apply Wp.mono _ (confined_loop fuel s₁ h₁ hcalm₁)
    rintro (e | b) s₂ h₂ ⟨⟨hcalm₂, hu₂⟩, hend⟩
    · apply Wp.mono _ (hfailed e s₂ h₂ ((hn.of_unclosed hu₁).of_unclosed hu₂))
      rintro (e' | b) s' h' ⟨hn', hs'⟩
      · exact wp_closeWith fuel hn' hs'
      · exact wp_closeWith fuel hn' hs'
    · refine wp_closeWith fuel ((hn.of_unclosed hu₁).of_unclosed hu₂) (Or.inl ⟨hcalm₂, b, rfl, ?_⟩)
      intro hb
      exact hend (by rw [hb])

/-- A freshly created session is calm. -/
theorem calm_initial (st : Setup) (expiry : Number) (x₁ x₂ : Response) :
    Calm (st.initial expiry x₁ x₂).outcome :=
  ⟨by simp [Setup.initial, outcome], rfl, rfl⟩

end Session

open Session in
/-- Every run of a whole session ends in one of four ways, whatever the network, the socket, the
    handler and the clock answer.  Creating it may fail before anything was closed.  A run that
    ended within its steps leaves the session done or failed, with a fault exactly when it
    failed, and closed down: its end of the pipe closed with that fault, its socket closed once,
    and statistics recording the fault reported once; the caller then gets the statistics back
    exactly when there is no fault, and the fault otherwise.  A run cut short is closed down the
    same way without a fault.  A failure escapes the run only when the handler's fault could not
    be reported to the peer, the session closed down all the same, or when the dally of a
    receiver that was done failed, before its socket was closed. -/
theorem session_run_ends {ok : List Exchange → Prop} (st : Setup) (fuel : Nat) :
    (st.program fuel).Always ok (fun r H => match r with
      | .error _ => NoneClosed H
      | .ok (.closed, s) => Terminal s ∧ ClosedDown s H ∧
          ∀ w, (Transfer.mk .closed s w).result =
            match s.error with
            | none => .ok s.stats
            | some f => .error (.fault f)
      | .ok (.unfinished, s) => s.error = none ∧ ClosedDown s H
      | .ok (.escaped e, s) => (ReportFailed s e ∧ ClosedDown s H) ∨ DallyFailed s e H) [] := by
  apply Setup.always_program
  · intro x _ e he
    rw [List.mem_singleton] at he
    rw [he]
    rfl
  · intro x₀ expiry x₁ x₂ _
    refine Wp.mono ?_ (wp_run_ends fuel (calm_initial st expiry x₁ x₂) ?_)
    · rintro (e | _ | _) s' h' hq
      · exact hq
      · exact hq
      · refine ⟨hq.1, hq.2, fun w => ?_⟩
        simp only [Transfer.result]
        cases s'.error <;> rfl
    · intro e he
      simp only [List.mem_cons, List.not_mem_nil, or_false] at he
      rcases he with rfl | rfl | rfl <;> rfl

end Tftp
