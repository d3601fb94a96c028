import Tftp.Proofs.Outcome
import Tftp.Proofs.Threads.Calls
import Tftp.Simulation.Threads

/-! # When the session uses its end of the pipe

    A session calls its end of the pipe only in its transfer, which closes nothing, and it closes
    that end when it closes down, after which it reads the clock and uses the socket alone.  So
    whatever the answers, the exchanges of a whole session are a stretch that leaves its end open
    and then a stretch that makes no call on the pipe (`CallsWhileOpen`,
    `Setup.program_calls_while_open`): no call comes after the end was closed
    (`Program.not_shut_of_call`).  In exact surroundings the session is created and has closed its
    end by the time its program is done (`Setup.program_shuts`).

    The close is followed call by call: `Session.CallsNothingSince h₀` is what each of its steps
    keeps, that no exchange since `h₀` called the pipe. -/

namespace Tftp

/-- The session's end of the pipe was closed in the exchanges. -/
def Shut (h : List Exchange) : Prop := h.filterMap Exchange.streamClose? ≠ []

theorem not_shut_iff {h : List Exchange} : ¬ Shut h ↔ ∀ e ∈ h, e.streamClose? = none := by
  simp [Shut, List.filterMap_eq_nil_iff]

/-- The exchanges leave the session's end of the pipe open up to some point, and make no call on
    the pipe after it. -/
def CallsWhileOpen (h : List Exchange) : Prop :=
  ∃ a b, h = a ++ b ∧ (∀ e ∈ a, e.streamClose? = none) ∧ ∀ e ∈ b, e.1.callsPipe = false

namespace Session

variable {α : Type} {ok : List Exchange → Prop} {h₀ : List Exchange}

/-- No exchange since `h₀` called the pipe. -/
def CallsNothingSince (h₀ : List Exchange) (_ : Session) (h : List Exchange) : Prop :=
  ∃ δ, h = h₀ ++ δ ∧ ∀ e ∈ δ, e.1.callsPipe = false

theorem CallsNothingSince.append {s s' : Session} {h δ : List Exchange}
    (hc : CallsNothingSince h₀ s h) (hδ : ∀ e ∈ δ, e.1.callsPipe = false) :
    CallsNothingSince h₀ s' (h ++ δ) := by
  obtain ⟨δ₀, rfl, hδ₀⟩ := hc
  exact ⟨δ₀ ++ δ, by simp, List.forall_mem_append.mpr ⟨hδ₀, hδ⟩⟩

theorem callsNothing_ask {r : Request} (hr : r.callsPipe = false) :
    Keeps ok (CallsNothingSince h₀) (ask r) :=
  keeps_ask fun _ _ x _ hc => hc.append (by simpa using hr)

theorem callsNothing_modify (f : Session → Session) : Keeps ok (CallsNothingSince h₀) (modify f) :=
  keeps_modify fun _ _ hc => hc

theorem callsNothing_now : Keeps ok (CallsNothingSince h₀) now :=
  (callsNothing_ask (r := .now) rfl).bind fun x => by cases x <;> exact keeps_pure _

theorem callsNothing_resetTimeout : Keeps ok (CallsNothingSince h₀) resetTimeout :=
  callsNothing_now.bind fun _ => keeps_get.bind fun _ => by
    split
    · exact callsNothing_modify _
    · exact keeps_throw _

theorem callsNothing_timeLeft : Keeps ok (CallsNothingSince h₀) timeLeft :=
  callsNothing_now.bind fun _ => keeps_get.bind fun _ => by
    split
    · exact keeps_pure _
    · exact keeps_throw _

theorem callsNothing_send (p : Draft) : Keeps ok (CallsNothingSince h₀) (send p) := by
  intro s h hc
  rw [wp_send]
  split
  · exact hc
  · intro x _
    split
    · exact hc.append (by simp [Request.callsPipe])
    · exact hc.append (by simp [Request.callsPipe])

theorem callsNothing_receive : Keeps ok (CallsNothingSince h₀) receive := by
  intro s h hc
  apply wp_receive
  intro r s' δ hr
  -- a receive reads the clock, waits, and at most refuses a foreign source
  cases hr <;> exact hc.append (by simp [Request.callsPipe])

theorem callsNothing_receiver : Keeps ok (CallsNothingSince h₀) receiver :=
  keeps_get.bind fun s => by
    cases s.role <;> exact keeps_pure _

theorem callsNothing_dallyFor (fuel : Nat) : Keeps ok (CallsNothingSince h₀) (dallyFor fuel) := by
  induction fuel with
  | zero => exact keeps_pure _
  | succ n ih =>
    unfold dallyFor
    refine callsNothing_timeLeft.bind fun _ => Keeps.ite (keeps_pure _) ?_
    have hcatch : ∀ {β : Type} (b : β) (e : Failure),
        Keeps ok (CallsNothingSince h₀) (if e.isFault = true then pure b else throw e : SessionM β) :=
      fun b _ => Keeps.ite (keeps_pure b) (keeps_throw _)
    refine (Keeps.tryCatch (callsNothing_receive.map _) fun e => hcatch _ e).bind fun got => ?_
    split
    · exact keeps_pure _
    · refine callsNothing_receiver.bind fun _ => Keeps.ite ?_ ih
      exact (Keeps.tryCatch ((callsNothing_send _).seq (keeps_pure _)) fun e => hcatch _ e).bind
        fun _ => Keeps.ite (keeps_pure _) ih
    · exact ih

theorem callsNothing_dally (fuel : Nat) : Keeps ok (CallsNothingSince h₀) (dally fuel) :=
  (callsNothing_ask (r := .closeStream none) rfl).discard.seq
    (callsNothing_resetTimeout.seq (callsNothing_dallyFor fuel))

theorem callsNothing_finish : Keeps ok (CallsNothingSince h₀) finish :=
  keeps_get.bind fun s => (callsNothing_ask (r := .closeStream (s.error.map .fault)) rfl).discard.seq
    ((callsNothing_ask (r := .closeSocket) rfl).discard.seq (callsNothing_now.bind fun _ =>
      (callsNothing_modify _).seq (keeps_get.bind fun s' =>
        (callsNothing_ask (r := .report s'.stats) rfl).discard)))

theorem callsNothing_close (fuel : Nat) : Keeps ok (CallsNothingSince h₀) (close fuel) := by
  unfold close
  refine keeps_get.bind fun s => ?_
  simp only []
  split
  · exact (callsNothing_dally fuel).seq callsNothing_finish
  · exact callsNothing_finish

variable {s : Session} {h : List Exchange}

/-- Every run of a session that starts calm, before anything was closed, leaves the session's
    end open while it transfers and calls nothing on the pipe once it closes down. -/
theorem wp_run_calls_while_open (fuel : Nat) (hcalm : Calm s.outcome) (hn : NoneClosed h) :
    Wp ok (run fuel) (fun _ _ h' => ∃ a b, h' = a ++ b ∧ NoneClosed a ∧
      ∀ e ∈ b, e.1.callsPipe = false) s h := by
  -- closing down, then giving back what the transfer gave, calls nothing
  have hclose : ∀ (m : SessionM Bool) s' h', Keeps ok (CallsNothingSince h') m → NoneClosed h' →
      Wp ok (do close fuel; m) (fun _ _ h'' => ∃ a b, h'' = a ++ b ∧ NoneClosed a ∧
        ∀ e ∈ b, e.1.callsPipe = false) s' h' := by
    intro m s' h' hm hn'
    apply Wp.mono _ (((callsNothing_close fuel).seq hm) s' h' ⟨[], by simp, by simp⟩)
    rintro _ _ h'' ⟨δ, rfl, hδ⟩
    exact ⟨h', δ, rfl, hn', hδ⟩
  -- a failure of the transfer ends it with its fault, which closes nothing
  have hfailed : ∀ (e : Failure) s h, NoneClosed h →
      Wp ok (do fail e.toFault; pure true) (fun _ _ h' => NoneClosed h') s h := by
    intro e s h hn
    rw [wp_bind]
    apply Wp.mono _ (wp_fail_outcome e.toFault)
    rintro (e' | _) s' h' ⟨-, hu, -⟩
    · exact hn.of_unclosed hu
    · exact hn.of_unclosed hu
  unfold run
  rw [wp_bind, wp_tryCatch, wp_bind, wp_tryCatch, wp_bind]
  apply Wp.mono _ (confined_start s h hcalm)
  rintro (e | _) s₁ h₁ ⟨hcalm₁, hu₁⟩
  · apply Wp.mono _ (hfailed e s₁ h₁ (hn.of_unclosed hu₁))
    rintro (e' | b) s' h' hn'
    · exact hclose _ s' h' (keeps_throw e') hn'
    · exact hclose _ s' h' (keeps_pure b) hn'
  · apply Wp.mono _ (confined_loop fuel s₁ h₁ hcalm₁)
    rintro (e | b) s₂ h₂ ⟨⟨-, hu₂⟩, -⟩
    · apply Wp.mono _ (hfailed e s₂ h₂ ((hn.of_unclosed hu₁).of_unclosed hu₂))
      rintro (e' | b) s' h' hn'
      · exact hclose _ s' h' (keeps_throw e') hn'
      · exact hclose _ s' h' (keeps_pure b) hn'
    · exact hclose _ s₂ h₂ (keeps_pure b) ((hn.of_unclosed hu₁).of_unclosed hu₂)

end Session

namespace Setup

open Session

/-- The exchanges that create a session close nothing. -/
theorem noneClosed_creation (x₀ x₁ x₂ : Response) :
    NoneClosed [(.now, x₀), (.localAddress, x₁), (.now, x₂)] := by
  intro e he
  simp only [List.mem_cons, List.not_mem_nil, or_false] at he
  rcases he with rfl | rfl | rfl <;> rfl

/-- Whatever the answers, a whole session calls its end of the pipe only while it is open. -/
theorem program_calls_while_open {ok : List Exchange → Prop} (st : Setup) (fuel : Nat) :
    (st.program fuel).Always ok (fun _ H => CallsWhileOpen H) [] := by
  apply always_program
  · intro x _
    exact ⟨[(.now, x)], [], by simp, by simp [Exchange.streamClose?], by simp⟩
  · intro x₀ expiry x₁ x₂ _
    refine Wp.mono ?_ (wp_run_calls_while_open fuel (calm_initial st expiry x₁ x₂)
      (noneClosed_creation x₀ x₁ x₂))
    rintro _ _ h' ⟨a, b, rfl, ha, hb⟩
    exact ⟨a, b, rfl, fun e he => (Exchange.quiet_of_closesDown (ha e he)).1, hb⟩

variable {E : Nat}

/-- In exact surroundings a session whose timer counts whole seconds is created, and its end of
    the pipe is closed by the time its program is done. -/
theorem program_shuts (st : Setup) (hsec : ∃ d, st.policy.seconds = .int d) (fuel : Nat) :
    (st.program fuel).Always (Exact E) (fun r H => Shut H ∧ ∃ ending s, r = .ok (ending, s)) [] := by
  obtain ⟨d, hd⟩ := hsec
  apply always_program_seen
  · -- the clock reads whole seconds, so the timer starts
    intro x hx hadd
    obtain ⟨t, rfl, -⟩ := Exact.reading (h := []) (by simpa using hx) (by simp)
    simp [clockOf, hd, Number.add?] at hadd
  · intro x₀ expiry x₁ x₂ _ _
    refine Wp.mono ?_ (wp_run_ends fuel (calm_initial st expiry x₁ x₂)
      (noneClosed_creation x₀ x₁ x₂))
    rintro (e | b) s' h' hends
    · -- a failure escaped: the end was closed down with the rest, or before the dally
      refine ⟨?_, _, _, rfl⟩
      rcases hends with ⟨-, hcd⟩ | hdf
      · exact hcd.streamClosed
      · simp [Shut, hdf.2.2.2.1]
    · cases b
      · exact ⟨hends.2.streamClosed, _, _, rfl⟩
      · exact ⟨hends.2.streamClosed, _, _, rfl⟩

end Setup

namespace Program

variable {α : Type}

/-- Where a run of a program that calls the pipe only while the session's end is open has come to
    a call on the pipe, the end is still open. -/
theorem not_shut_of_call {p : Program α} {H : List Exchange} {c : Call}
    {k : Response → Program α}
    (hp : p.Always (fun _ => True) (fun _ H => CallsWhileOpen H) [])
    (hr : p.Reaches H (.ask (.stream c) k)) : ¬ Shut H := by
  have hq := hp.after hr (fun _ _ _ => trivial)
  -- some run goes on from the call to an end, and its exchanges keep the calls while open
  obtain ⟨a, rest, -, hend⟩ := Always.exists_quiet_end (fun _ _ _ => trivial)
    (hq (Request.stream c).quiet trivial) trivial
  obtain ⟨a', b', heq, ha, hb⟩ := hend
  rw [List.nil_append, List.append_assoc, List.singleton_append] at heq
  rcases List.append_eq_append_iff.mp heq.symm with ⟨m, -, rfl⟩ | ⟨m, rfl, -⟩
  · -- the call would come after the point where calls stop
    have := hb _ (List.mem_append_right m (List.mem_cons_self ..))
    simp [Request.callsPipe] at this
  · exact not_shut_iff.mpr fun e he => ha e (List.mem_append_left m he)

end Program

end Tftp
