import Tftp.Proofs.Progress.Steps

/-! # Enough fuel

    `loop`, `dallyFor` and `run` take a fuel argument that bounds their steps.  Two programs
    `Agree` after the exchanges `h` when they make the same requests and end with the same value
    on every run whose answers keep `ok`; `Session.Same` is that of two steps from one session.

    In exact surroundings fuel beyond the bound of the steps left changes nothing: the loop with
    more fuel than `stepBound` agrees with the loop with any more fuel (`same_loop`), and it ends
    by itself rather than for want of fuel (`wp_loop_ends`).  The dally, which waits for a repeat
    of the last block until its timer runs out, takes at most two receives per datagram still to
    come and one more (`same_dallyFor`).  The agreement of whole runs follows (`same_run`). -/

namespace Tftp

namespace Program

variable {α β : Type} {ok : List Exchange → Prop}

/-- The two programs make the same requests and end with the same value on every run after the
    exchanges `h` whose answers keep `ok`. -/
def Agree (ok : List Exchange → Prop) : Program α → Program α → List Exchange → Prop
  | .done a, .done b, _ => a = b
  | .ask r k, .ask r' k', h =>
    r = r' ∧ ∀ x, ok (h ++ [(r, x)]) → Agree ok (k x) (k' x) (h ++ [(r, x)])
  | _, _, _ => False

theorem Agree.refl : ∀ (p : Program α) (h : List Exchange), Agree ok p p h
  | .done _, _ => rfl
  | .ask _ k, _ => ⟨rfl, fun x _ => Agree.refl (k x) _⟩

/-- Programs that agree, each followed by a continuation, agree when the continuations agree
    wherever the first program may end. -/
theorem Agree.bind {p q : Program α} {f g : α → Program β} {h : List Exchange}
    (hpq : Agree ok p q h) (hfg : p.Always ok (fun a h' => Agree ok (f a) (g a) h') h) :
    Agree ok (p.bind f) (q.bind g) h := by
  induction p generalizing q h with
  | done a =>
    cases q with
    | done b =>
      obtain rfl : a = b := hpq
      exact hfg
    | ask _ _ => exact hpq.elim
  | ask r k ih =>
    cases q with
    | done _ => exact hpq.elim
    | ask r' k' =>
      obtain ⟨rfl, hk⟩ := hpq
      exact ⟨rfl, fun x hx => ih x (hk x hx) (hfg x hx)⟩

end Program

namespace Session

variable {α β : Type} {ok : List Exchange → Prop} {s : Session} {h : List Exchange}

/-- The two steps agree from the session `s` after the exchanges `h`. -/
def Same (ok : List Exchange → Prop) (m₁ m₂ : SessionM α) (s : Session) (h : List Exchange) :
    Prop :=
  Program.Agree ok (m₁.run.run s) (m₂.run.run s) h

theorem Same.refl (m : SessionM α) (s : Session) (h : List Exchange) : Same ok m m s h :=
  Program.Agree.refl _ _

/-- Steps that agree, each followed by a continuation, agree when the continuations agree after
    every success of the first step. -/
theorem Same.bind {m₁ m₂ : SessionM α} {f g : α → SessionM β} (hm : Same ok m₁ m₂ s h)
    (hfg : Wp ok m₁ (fun r s' h' => ∀ a, r = .ok a → Same ok (f a) (g a) s' h') s h) :
    Same ok (m₁ >>= f) (m₂ >>= g) s h := by
  unfold Same
  show Program.Agree ok (Program.bind (m₁.run.run s) _) (Program.bind (m₂.run.run s) _) h
  refine Program.Agree.bind hm (Program.Always.mono ?_ hfg)
  rintro ⟨r, s'⟩ h' hr
  cases r with
  | ok a => exact hr a rfl
  | error e => exact Program.Agree.refl _ _

theorem Same.bind_left {m₁ m₂ : SessionM α} (hm : Same ok m₁ m₂ s h) (f : α → SessionM β) :
    Same ok (m₁ >>= f) (m₂ >>= f) s h :=
  hm.bind (Wp.of_forall fun _ _ _ a _ => Same.refl (f a) _ _)

theorem same_bind_right (m : SessionM α) {f g : α → SessionM β}
    (hfg : Wp ok m (fun r s' h' => ∀ a, r = .ok a → Same ok (f a) (g a) s' h') s h) :
    Same ok (m >>= f) (m >>= g) s h :=
  (Same.refl m s h).bind hfg

theorem Same.tryCatch {m₁ m₂ : SessionM α} (hm : Same ok m₁ m₂ s h)
    (handler : Failure → SessionM α) :
    Same ok (tryCatch m₁ handler) (tryCatch m₂ handler) s h := by
  unfold Same
  show Program.Agree ok (Program.bind (m₁.run.run s) _) (Program.bind (m₂.run.run s) _) h
  exact Program.Agree.bind hm
    (Program.always_of_forall (fun _ _ => Program.Agree.refl _ _) _ _)

/-! ## The loop -/

variable {E : Nat} {P : RetryPolicy} {K : RoleKind}

/-- A calibrated session, after at most `events` datagrams, in a phase the loop steps from. -/
def Paced (events : Nat) (P : RetryPolicy) (K : RoleKind) (s : Session) (h : List Exchange) :
    Prop :=
  Calibrated P K (arrivals h) s h ∧ arrivals h ≤ events ∧ Steppable K s.outcome

theorem Advances.paced {s' : Session} {h' : List Exchange} (hadv : Advances E P K s h s' h') :
    Paced E P K s' h' :=
  ⟨hadv.calibrated, hadv.arrivals, hadv.steppable⟩

end Session

theorem Calibrated.paced {E : Nat} {P : RetryPolicy} {K : RoleKind} {a : Nat} {s : Session}
    {h : List Exchange} (hc : Calibrated P K a s h) (hE : a ≤ E)
    (hst : Session.Steppable K s.outcome) : Session.Paced E P K s h :=
  ⟨by rw [hc.arrivals]; exact hc, by rw [hc.arrivals]; exact hE, hst⟩

namespace Session

variable {s : Session} {h : List Exchange} {E : Nat} {P : RetryPolicy} {K : RoleKind}

/-- The bound of the steps left, through the number of datagrams at most to come. -/
theorem stepBound_le (s : Session) (h : List Exchange) :
    stepBound E s h ≤ E * (s.policy.retries + 2) + s.policy.retries + 1 := by
  have hmul : (E - arrivals h) * (s.policy.retries + 2) ≤ E * (s.policy.retries + 2) :=
    Nat.mul_le_mul_right _ (Nat.sub_le E _)
  have hslack := slack_le s
  unfold stepBound
  omega

/-- Fuel beyond the steps left changes nothing in the loop.  The induction is on the fuel; each
    step that does not fail advances, so the bound of the steps left stays below the fuel. -/
theorem same_loop {n : Nat} (hp : Paced E P K s h) (hn : stepBound E s h < n) (extra : Nat) :
    Same (Exact E) (loop (n + extra)) (loop n) s h := by
  induction n generalizing s h with
  | zero => exact absurd hn (Nat.not_lt_zero _)
  | succ n ih =>
    rw [Nat.add_right_comm, loop, loop]
    apply same_bind_right
    rw [wp_get]
    rintro _ ⟨⟩
    cases hend : s.ended with
    | true => exact Same.refl _ _ _
    | false =>
      apply same_bind_right
      apply Wp.mono _ (wp_stepOnce_progress hp.1 hp.2.1 hp.2.2 hend)
      rintro r s' h' hadv _ rfl
      have hadv := hadv rfl
      exact ih hadv.paced (by have := hadv.lt; omega)

/-- With more fuel than steps left, the loop stops because the transfer ended, and in a paced
    state; or a step fails. -/
theorem wp_loop_ends {n : Nat} (hp : Paced E P K s h) (hn : stepBound E s h < n) :
    Wp (Exact E) (loop n) (fun r s' h' => ∀ b, r = .ok b → b = true ∧ Paced E P K s' h') s h := by
  induction n generalizing s h with
  | zero => exact absurd hn (Nat.not_lt_zero _)
  | succ n ih =>
    rw [loop, wp_bind, wp_get]
    dsimp only
    cases hend : s.ended with
    | true => exact fun b hb => ⟨(Except.ok.inj hb).symm, hp⟩
    | false =>
      rw [if_neg Bool.false_ne_true, wp_bind]
      apply Wp.mono _ (wp_stepOnce_progress hp.1 hp.2.1 hp.2.2 hend)
      rintro (e | u) s' h' hadv
      · intro b hb
        cases hb
      · have hadv := hadv rfl
        exact ih hadv.paced (by have := hadv.lt; omega)

/-! ## The dally -/

section Dally

variable {a : Nat}

/-- Once the clock has reached the expiry, the dally stops at its next reading, whatever fuel it
    has left. -/
theorem same_dallyFor_past {n : Nat} {e : Int} (hc : Calibrated P K a s h)
    (hexp : s.expiry = .int e) (hpast : (Gauge.of h).past e) (hn : 0 < n) (extra : Nat) :
    Same (Exact E) (dallyFor (n + extra)) (dallyFor n) s h := by
  obtain ⟨n, rfl⟩ : ∃ k, n = k + 1 := ⟨n - 1, by omega⟩
  obtain ⟨c, hgc, hec⟩ := hpast
  rw [Nat.add_right_comm, dallyFor, dallyFor]
  apply same_bind_right
  apply wp_timeLeft_exact hc hexp
  rintro t hbelow - _ ⟨⟩
  have hct := hbelow c hgc
  rw [if_pos (by simp only [Number.isNonpos, decide_eq_true_eq]; omega),
    if_pos (by simp only [Number.isNonpos, decide_eq_true_eq]; omega)]
  exact Same.refl _ _ _

/-- The dally with more receives than the datagrams still to come and one more agrees with any
    longer one.  The induction is on the fuel: a receive takes a datagram, after which fewer are
    to come, or waits until the timer runs out, after which the next reading stops the dally. -/
theorem same_dallyFor {n : Nat} (hc : Calibrated P K a s h) (hE : a ≤ E) (hn : E - a + 1 < n)
    (extra : Nat) : Same (Exact E) (dallyFor (n + extra)) (dallyFor n) s h := by
  induction n generalizing a s h with
  | zero => omega
  | succ n ih =>
    obtain ⟨e, hexp⟩ := hc.expiry
    rw [Nat.add_right_comm, dallyFor, dallyFor]
    apply same_bind_right
    apply wp_timeLeft_exact hc hexp
    rintro t - hc₁ _ ⟨⟩
    dsimp only
    split
    · exact Same.refl _ _ _
    · apply same_bind_right
      rw [wp_tryCatch, wp_map]
      apply wp_receive_exact hc₁ hexp
      · -- a failed receive ends the dally quietly, or escapes
        intro f s' h'
        dsimp only [Except.map]
        rw [wp_ite]
        refine ⟨fun _ => ?_, fun _ => ?_⟩
        · rintro _ ⟨⟩
          exact Same.refl _ _ _
        · rintro _ ⟨⟩
      · -- a datagram arrived: one fewer is to come
        intro r s' h' hE' hc' _
        have hnext : ∀ {s h}, Calibrated P K (a + 1) s h →
            Same (Exact E) (dallyFor (n + extra)) (dallyFor n) s h :=
          fun hc => ih hc hE' (by omega)
        cases r with
        | error f =>
          dsimp only [Except.map]
          rw [wp_ite]
          refine ⟨fun _ => ?_, fun _ => ?_⟩
          · rintro _ ⟨⟩
            exact Same.refl _ _ _
          · rintro _ ⟨⟩
        | ok got =>
          rintro _ ⟨⟩
          cases got with
          | none => exact hnext hc'
          | some p =>
            cases p with
            | data block payload =>
              -- a repeat of the last block is acknowledged again
              dsimp only
              apply same_bind_right
              apply Wp.mono _ (keeps_receiver s' h' hc')
              rintro _ s₂ h₂ hc₂ x ⟨⟩
              split
              · apply same_bind_right
                apply Wp.mono _ (((keeps_send _).seq (keeps_pure _)).tryCatch
                  (fun _ => Keeps.ite (keeps_pure _) (keeps_throw _)) s₂ h₂ hc₂)
                rintro _ s₃ h₃ hc₃ sent ⟨⟩
                cases sent
                · exact Same.refl _ _ _
                · exact hnext hc₃
              · exact hnext hc₂
            | _ => exact hnext hc'
      · -- the wait ran out
        intro h' hpast hc'
        rintro _ ⟨⟩
        exact same_dallyFor_past hc' hexp hpast (by omega) extra

/-- The dally closes the pipe, restarts the timer and dallies. -/
theorem same_dally {n : Nat} (hc : Calibrated P K a s h) (hE : a ≤ E) (hn : E - a + 1 < n)
    (extra : Nat) : Same (Exact E) (dally (n + extra)) (dally n) s h := by
  unfold dally
  apply same_bind_right
  rw [wp_discard, wp_ask]
  rintro x - _ -
  apply same_bind_right
  apply Wp.mono _ (keeps_resetTimeout s _ (hc.quiet (by rfl) x))
  rintro _ s' h' hc' _ -
  exact same_dallyFor hc' hE hn extra

end Dally

/-! ## A whole run -/

theorem same_close {n : Nat}
    (hdone : s.phase = some .done → Calibrated P K (arrivals h) s h ∧ arrivals h ≤ E)
    (hn : E + 1 < n) (extra : Nat) : Same (Exact E) (close (n + extra)) (close n) s h := by
  unfold close
  apply same_bind_right
  rw [wp_get]
  rintro _ ⟨⟩
  dsimp only
  split
  · next hph =>
    obtain ⟨hc, hE⟩ := hdone hph
    exact (same_dally hc hE (by omega) extra).bind_left _
  · exact Same.refl _ _ _

/-- Enough fuel for the loop and the dally of a session of the policy `P` in surroundings that
    bring at most `E` datagrams. -/
theorem stepBound_lt_of_fuel {n a : Nat} (hc : Calibrated P K a s h)
    (hn : (E + 1) * (P.retries + 2) ≤ n) : stepBound E s h < n := by
  have hle := stepBound_le (E := E) s h
  rw [hc.policy] at hle
  have hmul : (E + 1) * (P.retries + 2) = E * (P.retries + 2) + (P.retries + 2) := by
    rw [Nat.add_mul, Nat.one_mul]
  omega

theorem dally_lt_of_fuel {n : Nat} (hn : (E + 1) * (P.retries + 2) ≤ n) : E + 1 < n := by
  have := Nat.mul_le_mul_left (E + 1) (show 2 ≤ P.retries + 2 by omega)
  omega

/-- Failing and going on as if ended leaves the session failed. -/
theorem wp_fail_then_ended {ok : List Exchange → Prop} (f : Fault) :
    Wp ok (do fail f; pure true)
      (fun r s' _ => (∀ b, r = .ok b → b = true) ∧ s'.phase = some .failed) s h := by
  rw [wp_bind]
  apply Wp.mono _ (wp_fail_keeps (P := fun _ => True) f trivial fun _ _ _ => trivial)
  rintro (e | u) s' h' ⟨-, hph⟩
  · exact ⟨fun b hb => (nomatch hb), hph⟩
  · exact ⟨fun b hb => (Except.ok.inj hb).symm, hph⟩

/-- The opening and the loop, a failure of which ends the session with its fault: with enough
    fuel they end with the transfer ended, and paced if it is done. -/
theorem wp_opening_loop {n a : Nat} (hc : Calibrated P K a s h) (hE : a ≤ E)
    (hn : (E + 1) * (P.retries + 2) ≤ n) :
    Wp (Exact E) (tryCatch (do start; loop n) fun e => do fail e.toFault; pure true)
      (fun r s' h' => (∀ b, r = .ok b → b = true) ∧
        (s'.phase = some .done → Calibrated P K (arrivals h') s' h' ∧ arrivals h' ≤ E)) s h := by
  -- a failure leaves the session failed, so never done
  have hfailed : ∀ (e : Failure) s₁ h₁, Wp (Exact E) (do fail e.toFault; pure true)
      (fun r s' h' => (∀ b, r = .ok b → b = true) ∧
        (s'.phase = some .done → Calibrated P K (arrivals h') s' h' ∧ arrivals h' ≤ E)) s₁ h₁ := by
    intro e s₁ h₁
    apply Wp.mono _ (wp_fail_then_ended e.toFault)
    rintro r s' h' ⟨hr, hph⟩
    exact ⟨hr, fun hd => absurd (hph.symm.trans hd) (by simp)⟩
  rw [wp_tryCatch, wp_bind]
  apply Wp.mono _ (Wp.and (keeps_start s h hc) wp_start_steppable)
  rintro (e | u) s₁ h₁ ⟨hc₁, hst⟩
  · exact hfailed e s₁ h₁
  · have hp := hc₁.paced hE (by rw [← hc.kind]; exact hst rfl)
    apply Wp.mono _ (wp_loop_ends hp (stepBound_lt_of_fuel hc₁ hn))
    rintro (e | b) s₂ h₂ hend
    · exact hfailed e s₂ h₂
    · obtain ⟨hb, hp₂⟩ := hend b rfl
      exact ⟨fun b' hb' => (Except.ok.inj hb').symm.trans hb, fun _ => ⟨hp₂.1, hp₂.2.1⟩⟩

/-- Fuel beyond the bound changes nothing in a whole run. -/
theorem same_run {n a : Nat} (hc : Calibrated P K a s h) (hE : a ≤ E)
    (hn : (E + 1) * (P.retries + 2) ≤ n) (extra : Nat) :
    Same (Exact E) (run (n + extra)) (run n) s h := by
  unfold run
  refine Same.bind (Same.tryCatch ((Same.tryCatch (same_bind_right start ?_) _).bind_left _) _) ?_
  · -- the opening and the loop agree
    apply Wp.mono _ (Wp.and (keeps_start s h hc) wp_start_steppable)
    rintro r s' h' ⟨hc', hst⟩ _ rfl
    exact same_loop (hc'.paced hE (by rw [← hc.kind]; exact hst rfl))
      (stepBound_lt_of_fuel hc' hn) extra
  · -- and so does the close after them
    rw [wp_tryCatch, wp_bind]
    apply Wp.mono _ (wp_opening_loop hc hE (by omega : (E + 1) * (P.retries + 2) ≤ n + extra))
    rintro (e | b) s' h' ⟨-, hdone⟩ _ ⟨⟩
    · exact (same_close hdone (dally_lt_of_fuel hn) extra).bind_left _
    · exact (same_close hdone (dally_lt_of_fuel hn) extra).bind_left _

/-- With enough fuel a run ends the transfer, or a failure escapes it: it never stops for want
    of fuel. -/
theorem wp_run_ended {n a : Nat} (hc : Calibrated P K a s h) (hE : a ≤ E)
    (hn : (E + 1) * (P.retries + 2) ≤ n) :
    Wp (Exact E) (run n) (fun r _ _ => ∀ b, r = .ok b → b = true) s h := by
  -- the close keeps what the opening and the loop gave back
  have hclose : ∀ (k : PUnit → SessionM Bool) s' h',
      (∀ s h, Wp (Exact E) (k ()) (fun r _ _ => ∀ b, r = .ok b → b = true) s h) →
      Wp (Exact E) (close n >>= k) (fun r _ _ => ∀ b, r = .ok b → b = true) s' h' := by
    intro k s' h' hk
    rw [wp_bind]
    refine Wp.of_forall fun r s'' h'' => ?_
    cases r with
    | ok u => exact hk s'' h''
    | error e => exact fun b hb => nomatch hb
  unfold run
  rw [wp_bind, wp_tryCatch, wp_bind]
  apply Wp.mono _ (wp_opening_loop hc hE hn)
  rintro (e | b) s' h' ⟨hb, -⟩
  · exact hclose _ s' h' fun _ _ b' hb' => nomatch hb'
  · exact hclose _ s' h' fun _ _ b' hb' => (Except.ok.inj hb').symm.trans (hb b rfl)

end Session

end Tftp
