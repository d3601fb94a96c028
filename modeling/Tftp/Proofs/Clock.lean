import Tftp.Proofs.Outcome

/-! # A clock that reads doubles

    The model lets the surroundings answer a reading of the clock with any number and a failed
    receive with any failure.  The host does less: its monotonic clock reads doubles, and its
    socket fails with errors of the operating system.  Each of the two is a named hypothesis on
    the surroundings (`Session.DoubleClock`, `Session.OsSocket`), and `Session.Documented` is the
    history that keeps both.

    The keystone is arithmetic: a double plus a double is a double, so once the timeout has a
    double, restarting the timer never fails, and an expiry set from a reading is a double, so
    the time left is always there to be read (`wp_resetTimeout_double`, `wp_timeLeft_double`).
    A created session's timeout has a double: its timer was started from the first reading
    (`Setup.always_seconds_fit`). -/

namespace Tftp

/-- An integer below `2 ^ 53` has its double, with no rounding. -/
theorem doubleOfNat?_of_lt {n : Nat} (h : n < Nat.pow 2 53) :
    doubleOfNat? n = some n.toUInt64.toFloat := by
  have hwidth : Nat.log2 n + 1 ≤ 53 := by
    rcases Nat.eq_zero_or_pos n with rfl | hpos
    · simp
    · exact (Nat.log2_lt (by omega)).2 h
  simp [doubleOfNat?, hwidth]

namespace Number

@[simp] theorem toFloat?_float (x : Float) : (Number.float x).toFloat? = some x := rfl

/-- A sum with a double is a double, and there is one exactly when the other summand has a
    double. -/
@[simp] theorem float_add? (a : Float) (n : Number) :
    (Number.float a).add? n = n.toFloat?.map fun b => .float (a + b) := by
  cases n with
  | int b => cases hb : doubleOfInt? b <;> simp [add?, toFloat?, hb]
  | float b => rfl

@[simp] theorem float_sub?_float (a b : Float) :
    (Number.float a).sub? (.float b) = some (.float (a - b)) := rfl

/-- A whole number of seconds below `2 ^ 53` has its double. -/
theorem toFloat?_ofNat_of_lt {n : Nat} (h : n < Nat.pow 2 53) :
    (Number.int n).toFloat? = some n.toUInt64.toFloat :=
  doubleOfNat?_of_lt h

end Number

namespace Program

variable {α : Type} {ok : List Exchange → Prop}

/-- Every exchange of a run was allowed when it was made: each start of what the run added
    keeps `ok`. -/
theorem Always.seen {post : α → List Exchange → Prop} :
    ∀ {p : Program α} {h : List Exchange}, p.Always ok post h →
      p.Always ok (fun a h' => post a h' ∧
        ∃ δ, h' = h ++ δ ∧ ∀ pre, pre <+: δ → pre ≠ [] → ok (h ++ pre)) h
  | .done _, h, hp => ⟨hp, [], by simp, fun pre hpre hne => absurd (List.prefix_nil.1 hpre) hne⟩
  | .ask r _, h, hp => fun x hx => (Always.seen (hp x hx)).mono
      fun _ h' ⟨hpost, δ, hδ, hok⟩ => ⟨hpost, (r, x) :: δ, by simp [hδ], fun pre hpre hne => by
        rcases List.prefix_cons_iff.1 hpre with rfl | ⟨pre', rfl, hpre'⟩
        · exact absurd rfl hne
        · -- the first exchange was allowed when it was made, the rest by the run after it
          by_cases hne' : pre' = []
          · subst hne'
            exact hx
          · simpa using hok pre' hpre' hne'⟩

end Program

namespace Session

/-- The clock reads doubles: the surroundings answer every reading with a double. -/
def DoubleClock (ok : List Exchange → Prop) : Prop :=
  ∀ H x, ok (H ++ [(.now, x)]) → ∃ t : Float, x = .time (.float t)

/-- The socket fails only with errors of the operating system. -/
def OsSocket (ok : List Exchange → Prop) : Prop :=
  ∀ H t ph f, ok (H ++ [(.receive t ph, .receiveFailed f)]) → f.isOSError = true

/-- Every reading of the clock in the history is a double. -/
def DoubleReadings (H : List Exchange) : Prop :=
  ∀ x, (Request.now, x) ∈ H → ∃ t : Float, x = .time (.float t)

/-- Every failed receive in the history failed with an error of the operating system. -/
def OsFailures (H : List Exchange) : Prop :=
  ∀ t ph f, (Request.receive t ph, Response.receiveFailed f) ∈ H → f.isOSError = true

/-- A history of surroundings that behave as documented: the clock reads doubles and the socket
    fails only with errors of the operating system. -/
def Documented (H : List Exchange) : Prop := DoubleReadings H ∧ OsFailures H

theorem doubleClock_documented : DoubleClock Documented := fun _ x hH => hH.1 x (by simp)

theorem osSocket_documented : OsSocket Documented := fun _ t ph f hH => hH.2 t ph f (by simp)

variable {ok : List Exchange → Prop} {s : Session} {h : List Exchange}

/-- Under a double clock, the readings a run adds are doubles. -/
theorem DoubleClock.readings (hclock : DoubleClock ok) {δ : List Exchange}
    (hseen : ∀ pre, pre <+: δ → pre ≠ [] → ok (h ++ pre)) : DoubleReadings δ := by
  intro x hx
  obtain ⟨A, B, rfl⟩ := List.append_of_mem hx
  have hA : ok ((h ++ A) ++ [(.now, x)]) := by
    simpa using hseen (A ++ [(.now, x)]) ⟨B, by simp⟩ (by simp)
  exact hclock _ x hA

/-- Every exchange of a step was allowed when it was made. -/
theorem Wp.seen {α : Type} {m : SessionM α}
    {Q : Except Failure α → Session → List Exchange → Prop} (hm : Wp ok m Q s h) :
    Wp ok m (fun r s' h' => Q r s' h' ∧
      ∃ δ, h' = h ++ δ ∧ ∀ pre, pre <+: δ → pre ≠ [] → ok (h ++ pre)) s h :=
  Program.Always.seen hm

/-- Under a double clock a timer with a double expiry always tells the time left, a double. -/
theorem wp_timeLeft_double (hclock : DoubleClock ok) {e : Float} (he : s.expiry = .float e)
    {Q : Except Failure Number → Session → List Exchange → Prop}
    (hQ : ∀ t : Float, ok (h ++ [(.now, .time (.float t))]) →
      Q (.ok (.float (e - t))) s (h ++ [(.now, .time (.float t))])) :
    Wp ok timeLeft Q s h := by
  rw [wp_timeLeft]
  intro x hx
  obtain ⟨t, rfl⟩ := hclock h x hx
  rw [he]
  exact hQ t hx

/-- Under a double clock a timer whose timeout has a double always restarts, and its expiry is
    then a double. -/
theorem wp_resetTimeout_double (hclock : DoubleClock ok) {d : Float}
    (hd : s.policy.seconds.toFloat? = some d)
    {Q : Except Failure Unit → Session → List Exchange → Prop}
    (hQ : ∀ t : Float, ok (h ++ [(.now, .time (.float t))]) →
      Q (.ok ()) { s with expiry := .float (t + d) } (h ++ [(.now, .time (.float t))])) :
    Wp ok resetTimeout Q s h := by
  rw [wp_resetTimeout]
  intro x hx
  obtain ⟨t, rfl⟩ := hclock h x hx
  have hadd : (Setup.clockOf (.time (.float t))).add? s.policy.seconds = some (.float (t + d)) := by
    simp [Setup.clockOf, hd]
  rw [hadd]
  exact hQ t hx

/-- Under a double clock and a socket that fails only with errors of the system, every failure
    of a receive from a timer with a double expiry is a fault: the time left is always read, a
    failed receive is a transport failure, and an ERROR from the peer aborts. -/
theorem wp_receive_faults (hclock : DoubleClock ok) (hsock : OsSocket ok) {e : Float}
    (he : s.expiry = .float e) {Q : Except Failure (Option Packet) → Session → List Exchange → Prop}
    (hQ : ∀ r s' δ, Receives s r s' δ → (∀ f, r = .error f → f.isFault = true) →
      Q r s' (h ++ δ)) :
    Wp ok receive Q s h := by
  apply Wp.mono _ (Wp.seen (wp_receive (Q := fun r s' h' => ∃ δ, h' = h ++ δ ∧ Receives s r s' δ)
    fun r s' δ hr => ⟨δ, rfl, hr⟩))
  rintro r s' _ ⟨⟨δ, rfl, hr⟩, δ', hδ, hseen⟩
  rw [List.append_cancel_left_eq] at hδ
  subst hδ
  refine hQ r s' δ hr ?_
  cases hr with
  | unreadable x hx =>
    -- a double reading is always compared with a double expiry
    obtain ⟨t, rfl⟩ := hclock.readings hseen x (by simp)
    simp [he, Setup.clockOf] at hx
  | failed x t f hx ht =>
    have hos : f.isOSError = true := hsock (h ++ [(.now, x)]) t s.phase f
      (by simpa using hseen _ (List.prefix_refl _) (by simp))
    rintro f' ⟨⟩
    simp [receiveFailure, hos, Failure.ofKind, Failure.isFault]
  | aborted =>
    rintro f ⟨⟩
    rfl
  | expired | silent | foreign | packet =>
    rintro f ⟨⟩

end Session

variable {ok : List Exchange → Prop}

/-- A timer started from a double has a timeout with a double: a sum with a double exists only
    when both summands have one. -/
theorem Setup.seconds_fit_of_add {t : Float} {seconds expiry : Number}
    (hadd : (Setup.clockOf (.time (.float t))).add? seconds = some expiry) :
    ∃ d, seconds.toFloat? = some d := by
  simp only [Setup.clockOf, Number.float_add?, Option.map_eq_some_iff] at hadd
  obtain ⟨d, hd, -⟩ := hadd
  exact ⟨d, hd⟩

/-- Under a double clock the timeout of every session a setup creates has a double: the timer
    was started from the first reading, a double. -/
theorem Setup.always_seconds_fit (st : Setup) (fuel : Nat) (hclock : Session.DoubleClock ok) :
    (st.program fuel).Always ok (fun r _ => ∀ ending s, r = .ok (ending, s) →
      ∃ d, st.policy.seconds.toFloat? = some d) [] := by
  apply st.always_program_seen fuel
  · intro x _ _ ending s hr
    cases hr
  · intro x₀ expiry _ _ hx₀ hadd
    obtain ⟨t, rfl⟩ := hclock [] x₀ hx₀
    exact Session.Wp.of_forall fun _ _ _ _ _ _ => Setup.seconds_fit_of_add hadd

end Tftp
