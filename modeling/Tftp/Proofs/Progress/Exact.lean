import Tftp.Proofs.Timer.Run

/-! # Surroundings with an exact clock

    A run of a session comes to an end because its surroundings give out: a script of network
    events is finite, and once it is used up every receive waits out its timeout.  The clock of
    such surroundings is exact: it reads whole seconds and moves only when a receive waits or an
    event comes late, so a receive that waits out the time the timer has left leaves the clock at
    the expiry, and the next reading finds the timer run out.

    `Gauge` is what the exchanges so far promise of the next reading (`Gauge.after`), and
    `Exact events` asks that every answer keep to it (`Gauge.allows`) and that at most `events`
    datagrams arrive.  A gauge that is `loose` promises nothing: a receive that waited a time that
    is no whole number of seconds leaves the clock inexact, which no session of a timer in whole
    seconds does.

    `Keeps ok I m` says that every run of the step `m` from a state satisfying `I` ends in one;
    its closure lemmas follow the monad.  `Calibrated` is what the steps of a session keep between
    two receives: its policy and role, a timer in whole seconds, a retry count within the budget,
    an exact gauge and a fixed number of arrivals.  A receive
    either takes a datagram or leaves the gauge at or past the expiry (`wp_receive_exact`), and
    the expiry check after it then spends one retry (`wp_expire_exact`). -/

namespace Tftp

/-! ## The gauge of the clock -/

/-- The request reads the clock or waits on the network. -/
def Request.timed : Request → Bool
  | .now | .receive _ _ => true
  | _ => false

/-- What the exchanges so far promise of the clock's next reading. -/
inductive Gauge where
  /-- a reading in whole seconds, no earlier than `c` -/
  | floor (c : Int)
  /-- a reading in whole seconds -/
  | whole
  /-- nothing: a receive waited a time that is no whole number of seconds -/
  | loose
  deriving DecidableEq

namespace Gauge

/-- The promise after one more exchange: a reading sets the floor, a receive that waited `w`
    whole seconds and timed out moves it on by `w`, and any other answer to a receive leaves the
    clock at some whole reading. -/
def after : Gauge → Exchange → Gauge
  | .loose, _ => .loose
  | _, (.now, .time (.int t)) => .floor t
  | .floor c, (.receive (.int w) _, .timedOut) => .floor (c + w)
  | _, (.receive (.int _) _, _) => .whole
  | _, (.receive _ _, _) => .loose
  | g, _ => g

/-- The answers that keep the promise: a reading in whole seconds at or past the floor, and a
    receive that times out, fails or gets a datagram. -/
def allows : Gauge → Exchange → Prop
  | .loose, _ => True
  | .floor c, (.now, x) => ∃ t, x = .time (.int t) ∧ c ≤ t
  | .whole, (.now, x) => ∃ t, x = .time (.int t)
  | _, (.receive _ _, x) =>
    x = .timedOut ∨ (∃ f, x = .receiveFailed f) ∨ ∃ bytes source, x = .datagram bytes source
  | _, _ => True

/-- The promise after the exchanges `h`, from a clock in whole seconds. -/
def of (h : List Exchange) : Gauge := h.foldl after .whole

/-- A reading in whole seconds at `t` keeps the promise. -/
def below (g : Gauge) (t : Int) : Prop := ∀ c, g = .floor c → c ≤ t

/-- The next reading finds a timer that expires at `e` run out. -/
def past (g : Gauge) (e : Int) : Prop := ∃ c, g = .floor c ∧ e ≤ c

@[simp] theorem of_nil : of [] = .whole := rfl

theorem of_append (h δ : List Exchange) : of (h ++ δ) = δ.foldl after (of h) :=
  List.foldl_append

@[simp] theorem of_concat (h : List Exchange) (e : Exchange) : of (h ++ [e]) = (of h).after e := by
  simp [of_append]

theorem after_now {g : Gauge} (hg : g ≠ .loose) (t : Int) :
    g.after (.now, .time (.int t)) = .floor t := by
  cases g <;> first | rfl | exact absurd rfl hg

/-- Exchanges other than a reading or a receive leave the promise alone. -/
theorem after_untimed (g : Gauge) {r : Request} (hr : r.timed = false) (x : Response) :
    g.after (r, x) = g := by
  cases g <;> cases r <;> first | rfl | exact Bool.noConfusion hr

/-- A receive that waited a whole number of seconds leaves the clock whole. -/
theorem after_receive_ne_loose {g : Gauge} (hg : g ≠ .loose) (w : Int) (ph : Option Phase)
    (x : Response) : g.after (.receive (.int w) ph, x) ≠ .loose := by
  cases g <;> cases x <;> simp_all [after]

end Gauge

/-- Every exchange keeps the promise of those before it, from the promise `g`. -/
def Clocked : Gauge → List Exchange → Prop
  | _, [] => True
  | g, e :: rest => g.allows e ∧ Clocked (g.after e) rest

theorem clocked_append (g : Gauge) (h δ : List Exchange) :
    Clocked g (h ++ δ) ↔ Clocked g h ∧ Clocked (h.foldl Gauge.after g) δ := by
  induction h generalizing g with
  | nil => simp [Clocked]
  | cons e rest ih =>
    simp only [List.cons_append, Clocked, List.foldl_cons, ih]
    exact and_assoc.symm

/-- The datagrams that arrived in the exchanges. -/
def arrivals (h : List Exchange) : Nat := (h.filterMap Exchange.arrival?).length

@[simp] theorem arrivals_nil : arrivals [] = 0 := rfl

@[simp] theorem arrivals_append (h δ : List Exchange) :
    arrivals (h ++ δ) = arrivals h + arrivals δ := by
  simp [arrivals]

@[simp] theorem arrivals_datagram (t : Number) (ph : Option Phase) (bytes : List UInt8)
    (source : Address) : arrivals [(.receive t ph, .datagram bytes source)] = 1 := rfl

/-- An exchange other than a reading or a receive brings no datagram. -/
theorem arrivals_untimed {r : Request} (hr : r.timed = false) (x : Response) :
    arrivals [(r, x)] = 0 := by
  cases r <;> first | rfl | exact Bool.noConfusion hr

/-- Surroundings whose clock reads whole seconds and moves only when a receive waits or a
    datagram comes late, and that bring at most `events` datagrams. -/
def Exact (events : Nat) (h : List Exchange) : Prop := arrivals h ≤ events ∧ Clocked .whole h

/-- The answer to the last exchange of exact surroundings keeps the promise before it. -/
theorem Exact.last {E : Nat} {h : List Exchange} {e : Exchange} (hx : Exact E (h ++ [e])) :
    (Gauge.of h).allows e :=
  ((clocked_append _ h [e]).mp hx.2).2.1

/-- A reading of exact surroundings is in whole seconds and keeps the promise. -/
theorem Exact.reading {E : Nat} {h : List Exchange} {x : Response}
    (hx : Exact E (h ++ [(.now, x)])) (hg : Gauge.of h ≠ .loose) : ∃ t, x = .time (.int t) ∧ (Gauge.of h).below t := by
  have hall := hx.last
  cases hgauge : Gauge.of h with
  | floor c =>
    rw [hgauge] at hall
    obtain ⟨t, rfl, hct⟩ := hall
    exact ⟨t, rfl, fun c' hc' => by cases hc'; exact hct⟩
  | whole =>
    rw [hgauge] at hall
    obtain ⟨t, rfl⟩ := hall
    exact ⟨t, rfl, fun c' hc' => nomatch hc'⟩
  | loose => exact absurd hgauge hg

/-- A receive of exact surroundings times out, fails or gets a datagram. -/
theorem Exact.received {E : Nat} {h : List Exchange} {t : Number} {ph : Option Phase}
    {y : Response} (hy : Exact E (h ++ [(.receive t ph, y)])) (hg : Gauge.of h ≠ .loose) :
    y = .timedOut ∨ (∃ f, y = .receiveFailed f) ∨ ∃ bytes source, y = .datagram bytes source := by
  have hall := hy.last
  cases hgauge : Gauge.of h with
  | loose => exact absurd hgauge hg
  | _ => rw [hgauge] at hall; exact hall

/-! ## Steps that keep an invariant -/

namespace Session

variable {α β : Type} {ok : List Exchange → Prop} {I : Session → List Exchange → Prop}

/-- Every run of the step `m` from a state satisfying `I` ends in a state satisfying `I`. -/
def Keeps (ok : List Exchange → Prop) (I : Session → List Exchange → Prop) (m : SessionM α) :
    Prop :=
  ∀ s h, I s h → Wp ok m (fun _ s' h' => I s' h') s h

theorem keeps_pure (a : α) : Keeps ok I (pure a) := fun _ _ hi => hi

theorem keeps_throw (e : Failure) : Keeps ok I (throw e : SessionM α) := fun _ _ hi => hi

theorem keeps_get : Keeps ok I get := fun _ _ hi => hi

theorem keeps_ofExcept (e : Except Failure α) : Keeps ok I (MonadExcept.ofExcept e) := by
  cases e <;> exact fun _ _ hi => hi

theorem keeps_modify {f : Session → Session} (hf : ∀ s h, I s h → I (f s) h) :
    Keeps ok I (modify f) :=
  fun s h hi => hf s h hi

theorem keeps_ask {r : Request} (hr : ∀ s h x, ok (h ++ [(r, x)]) → I s h → I s (h ++ [(r, x)])) :
    Keeps ok I (ask r) := by
  intro s h hi
  rw [wp_ask]
  exact fun x hx => hr s h x hx hi

theorem Keeps.bind {m : SessionM α} {f : α → SessionM β} (hm : Keeps ok I m)
    (hf : ∀ a, Keeps ok I (f a)) : Keeps ok I (m >>= f) := by
  intro s h hi
  rw [wp_bind]
  apply Wp.mono _ (hm s h hi)
  rintro (e | a) s' h' hi'
  · exact hi'
  · exact hf a s' h' hi'

theorem Keeps.seq {m : SessionM α} {m' : SessionM β} (hm : Keeps ok I m) (hm' : Keeps ok I m') :
    Keeps ok I (m >>= fun _ => m') :=
  hm.bind fun _ => hm'

theorem Keeps.tryCatch {m : SessionM α} {handler : Failure → SessionM α} (hm : Keeps ok I m)
    (hh : ∀ e, Keeps ok I (handler e)) : Keeps ok I (tryCatch m handler) := by
  intro s h hi
  rw [wp_tryCatch]
  apply Wp.mono _ (hm s h hi)
  rintro (e | a) s' h' hi'
  · exact hh e s' h' hi'
  · exact hi'

theorem Keeps.ite {c : Prop} [Decidable c] {a b : SessionM α} (ha : Keeps ok I a)
    (hb : Keeps ok I b) : Keeps ok I (if c then a else b) := by
  split
  · exact ha
  · exact hb

theorem Keeps.discard {m : SessionM α} (hm : Keeps ok I m) : Keeps ok I (discard m) :=
  hm.seq (keeps_pure _)

theorem Keeps.map {m : SessionM α} (f : α → β) (hm : Keeps ok I m) : Keeps ok I (f <$> m) :=
  hm.bind fun a => keeps_pure (f a)

theorem Keeps.and {J : Session → List Exchange → Prop} {m : SessionM α} (hI : Keeps ok I m)
    (hJ : Keeps ok J m) : Keeps ok (fun s h => I s h ∧ J s h) m :=
  fun s h hij => Wp.and (hI s h hij.1) (hJ s h hij.2)

/-- The phase and the retry count, which most steps leave alone. -/
def Still (ph : Option Phase) (n : Nat) (s : Session) (_ : List Exchange) : Prop :=
  s.phase = ph ∧ s.retransmits = n

end Session

/-! ## What the steps between two receives keep -/

/-- A session of the policy `P` and the role `K` whose timer is in whole seconds and whose retry
    count is within the budget, after exchanges that kept the clock exact and brought `a`
    datagrams. -/
structure Calibrated (P : RetryPolicy) (K : RoleKind) (a : Nat) (s : Session)
    (h : List Exchange) : Prop where
  policy : s.policy = P
  seconds : ∃ d, P.seconds = .int d
  kind : s.kind = K
  expiry : ∃ e, s.expiry = .int e
  budget : s.retransmits ≤ P.retries
  gauge : Gauge.of h ≠ .loose
  arrivals : arrivals h = a

namespace Calibrated

variable {P : RetryPolicy} {K : RoleKind} {a : Nat} {s : Session} {h : List Exchange}

/-- The same session, after an exchange other than a reading or a receive. -/
theorem quiet (hc : Calibrated P K a s h) {r : Request} (hr : r.timed = false) (x : Response) :
    Calibrated P K a s (h ++ [(r, x)]) :=
  { hc with
    gauge := by rw [Gauge.of_concat, Gauge.after_untimed _ hr]; exact hc.gauge
    arrivals := by rw [arrivals_append, arrivals_untimed hr, hc.arrivals, Nat.add_zero] }

/-- The same session, after a reading in whole seconds. -/
theorem read (hc : Calibrated P K a s h) (t : Int) :
    Calibrated P K a s (h ++ [(.now, .time (.int t))]) :=
  { hc with
    gauge := by rw [Gauge.of_concat, Gauge.after_now hc.gauge]; exact Gauge.noConfusion
    arrivals := by rw [arrivals_append, hc.arrivals]; rfl }

/-- The same session, after a receive that waited whole seconds and got no datagram. -/
theorem waited (hc : Calibrated P K a s h) (w : Int) (ph : Option Phase) {y : Response}
    (hy : Tftp.arrivals [(.receive (.int w) ph, y)] = 0) :
    Calibrated P K a s (h ++ [(.receive (.int w) ph, y)]) :=
  { hc with
    gauge := by rw [Gauge.of_concat]; exact Gauge.after_receive_ne_loose hc.gauge w ph y
    arrivals := by rw [arrivals_append, hy, hc.arrivals, Nat.add_zero] }

/-- The same session, after a receive that waited whole seconds and got a datagram. -/
theorem arrived (hc : Calibrated P K a s h) (w : Int) (ph : Option Phase) (bytes : List UInt8)
    (source : Address) :
    Calibrated P K (a + 1) s (h ++ [(.receive (.int w) ph, .datagram bytes source)]) :=
  { hc with
    gauge := by rw [Gauge.of_concat]; exact Gauge.after_receive_ne_loose hc.gauge w ph _
    arrivals := by rw [arrivals_append, arrivals_datagram, hc.arrivals] }

/-- A change of fields that the invariant does not read. -/
theorem congr (hc : Calibrated P K a s h) {s' : Session} (hpol : s'.policy = s.policy)
    (hkind : s'.kind = s.kind) (hexp : s'.expiry = s.expiry)
    (hrt : s'.retransmits = s.retransmits) : Calibrated P K a s' h where
  policy := hpol.trans hc.policy
  seconds := hc.seconds
  kind := hkind.trans hc.kind
  expiry := hexp ▸ hc.expiry
  budget := hrt ▸ hc.budget
  gauge := hc.gauge
  arrivals := hc.arrivals

end Calibrated

/-! ## The shared steps -/

namespace Session

variable {E : Nat} {P : RetryPolicy} {K : RoleKind} {a : Nat} {s : Session} {h : List Exchange}

theorem keeps_untimed {r : Request} (hr : r.timed = false) :
    Keeps (Exact E) (Calibrated P K a) (ask r) :=
  keeps_ask fun _ _ x _ hc => hc.quiet hr x

theorem keeps_updateStats (f : Stats → Stats) :
    Keeps (Exact E) (Calibrated P K a) (updateStats f) :=
  keeps_modify fun _ _ hc => hc.congr rfl rfl rfl rfl

/-- A reading of exact surroundings, from a calibrated session whose timer expires at `e`. -/
theorem wp_timeLeft_exact {e : Int} (hc : Calibrated P K a s h) (hexp : s.expiry = .int e)
    {Q : Except Failure Number → Session → List Exchange → Prop}
    (hQ : ∀ t, (Gauge.of h).below t → Calibrated P K a s (h ++ [(.now, .time (.int t))]) →
      Q (.ok (.int (e - t))) s (h ++ [(.now, .time (.int t))])) :
    Wp (Exact E) timeLeft Q s h := by
  rw [wp_timeLeft]
  intro x hx
  obtain ⟨t, rfl, hbelow⟩ := hx.reading hc.gauge
  rw [hexp]
  exact hQ t hbelow (hc.read t)

theorem keeps_timeLeft : Keeps (Exact E) (Calibrated P K a) timeLeft := by
  intro s h hc
  obtain ⟨e, hexp⟩ := hc.expiry
  exact wp_timeLeft_exact hc hexp fun _ _ hc' => hc'

theorem keeps_resetTimeout : Keeps (Exact E) (Calibrated P K a) resetTimeout := by
  intro s h hc
  rw [wp_resetTimeout]
  intro x hx
  obtain ⟨t, rfl, _⟩ := hx.reading hc.gauge
  obtain ⟨d, hd⟩ := hc.seconds
  have hsec : s.policy.seconds = .int d := hc.policy ▸ hd
  rw [hsec]
  exact { hc.read t with expiry := ⟨t + d, rfl⟩ }

theorem keeps_send (p : Draft) : Keeps (Exact E) (Calibrated P K a) (send p) := by
  intro s h hc
  rw [wp_send]
  split
  · exact hc
  · intro x _
    split
    · exact hc.quiet (by rfl) _
    · exact (hc.quiet (by rfl) _).congr rfl rfl rfl rfl

theorem keeps_transmit (p : Draft) : Keeps (Exact E) (Calibrated P K a) (transmit p) := by
  refine (keeps_send p).seq ((keeps_modify ?_).seq keeps_resetTimeout)
  intro s h hc
  exact { hc with budget := Nat.zero_le _ }

/-! ### The phase and the retry count -/

theorem still_timeLeft {ok : List Exchange → Prop} {ph : Option Phase} {n : Nat} :
    Keeps ok (Still ph n) timeLeft := by
  intro s h hs
  rw [wp_timeLeft]
  intro x _
  split <;> exact hs

theorem still_resetTimeout {ok : List Exchange → Prop} {ph : Option Phase} {n : Nat} :
    Keeps ok (Still ph n) resetTimeout := by
  intro s h hs
  rw [wp_resetTimeout]
  intro x _
  split <;> exact hs

theorem still_send {ok : List Exchange → Prop} {ph : Option Phase} {n : Nat} (p : Draft) :
    Keeps ok (Still ph n) (send p) := by
  intro s h hs
  rw [wp_send]
  split
  · exact hs
  · intro x _
    split <;> exact hs

/-- A fresh transmission starts the retry count anew and keeps the phase. -/
theorem wp_transmit_fresh {ok : List Exchange → Prop} (p : Draft) :
    Wp ok (transmit p) (fun r s' _ => r = .ok () → s'.phase = s.phase ∧ s'.retransmits = 0)
      s h := by
  rw [wp_transmit]
  apply Wp.mono _ (still_send (n := s.retransmits) p s h ⟨rfl, rfl⟩)
  rintro (e | u) s₁ h₁ hs₁
  · intro he
    cases he
  · exact Wp.mono (fun _ _ _ hs _ => hs) (still_resetTimeout _ h₁ ⟨hs₁.1, rfl⟩)

/-! ### Resending -/

/-- While the budget lasts, a resend keeps the invariant and counts one more retry. -/
theorem wp_retransmit_calibrated (hc : Calibrated P K a s h) (hlt : s.retransmits < P.retries) :
    Wp (Exact E) retransmit (fun r s' h' => Calibrated P K a s' h' ∧
      (r = .ok () → s'.phase = s.phase ∧ s'.retransmits = s.retransmits + 1)) s h := by
  -- the count goes up once, and the restart keeps both the count and the invariant
  have hrestart : ∀ s₁ h₁, Calibrated P K a s₁ h₁ → s₁.phase = s.phase →
      s₁.retransmits = s.retransmits → Wp (Exact E) resetTimeout (fun r s' h' =>
        Calibrated P K a s' h' ∧
          (r = .ok () → s'.phase = s.phase ∧ s'.retransmits = s.retransmits + 1))
        s₁.countRetransmit h₁ := by
    intro s₁ h₁ hc₁ hph₁ hrt₁
    have hc₂ : Calibrated P K a s₁.countRetransmit h₁ :=
      { hc₁ with budget := by simp only [countRetransmit]; omega }
    exact Wp.mono (fun _ _ _ ⟨hc', hs'⟩ => ⟨hc', fun _ => hs'⟩)
      ((keeps_resetTimeout.and still_resetTimeout) _ h₁ ⟨hc₂, hph₁, by simp [countRetransmit, hrt₁]⟩)
  rw [wp_retransmit]
  split
  · apply Wp.mono _ (((keeps_send _).and (still_send _)) s h ⟨hc, rfl, rfl⟩)
    rintro (e | u) s₁ h₁ ⟨hc₁, hph₁, hrt₁⟩
    · exact ⟨hc₁, fun he => nomatch he⟩
    · exact hrestart s₁ h₁ hc₁ hph₁ hrt₁
  · exact hrestart s h hc rfl rfl

theorem keeps_handleTimeout : Keeps (Exact E) (Calibrated P K a) handleTimeout := by
  intro s h hc
  rw [wp_handleTimeout, hc.policy]
  exact ⟨fun hlt => Wp.mono (fun _ _ _ hr => hr.1) (wp_retransmit_calibrated hc hlt),
    fun _ => hc⟩

/-! ### Receiving -/

/-- A receive of exact surroundings from a calibrated session whose timer expires at `e`: it
    fails; or a datagram arrives, and the session is calibrated with one arrival more; or nothing
    arrives, the session is as it was, and the next reading finds the timer run out. -/
theorem wp_receive_exact {e : Int} (hc : Calibrated P K a s h) (hexp : s.expiry = .int e)
    {Q : Except Failure (Option Packet) → Session → List Exchange → Prop}
    (hfail : ∀ f s' h', Q (.error f) s' h')
    (harrive : ∀ r s' h', a + 1 ≤ E → Calibrated P K (a + 1) s' h' → s'.outcome = s.outcome →
      Q r s' h')
    (hquiet : ∀ h', (Gauge.of h').past e → Calibrated P K a s h' → Q (.ok none) s h') :
    Wp (Exact E) receive Q s h := by
  unfold receive
  rw [wp_bind]
  apply wp_timeLeft_exact hc hexp
  intro t _ hc₁
  dsimp only
  by_cases hrun : e - t ≤ 0
  · -- the timer has run out: nothing is asked
    rw [if_pos (by simp only [Number.isNonpos, decide_eq_true_eq]; exact hrun)]
    refine hquiet _ ⟨t, ?_, by omega⟩ hc₁
    rw [Gauge.of_concat, Gauge.after_now hc.gauge]
  · rw [if_neg (by simp only [Number.isNonpos, decide_eq_true_eq]; exact hrun), wp_bind, wp_get]
    dsimp only
    rw [wp_bind, wp_ask]
    intro y hy
    rw [List.append_assoc, List.singleton_append] at hy ⊢
    have hy' : Exact E ((h ++ [(.now, .time (.int t))]) ++ [(.receive (.int (e - t)) s.phase, y)]) :=
      by simpa using hy
    rcases hy'.received hc₁.gauge with rfl | ⟨f, rfl⟩ | ⟨bytes, source, rfl⟩
    · -- the wait ran out at the expiry
      have hc₂ := hc₁.waited (e - t) s.phase (y := .timedOut) rfl
      rw [List.append_assoc, List.singleton_append] at hc₂
      refine hquiet _ ⟨t + (e - t), ?_, by omega⟩ hc₂
      rw [show h ++ [(.now, .time (.int t)), (.receive (.int (e - t)) s.phase, .timedOut)] =
        h ++ [(.now, .time (.int t))] ++ [(.receive (.int (e - t)) s.phase, .timedOut)] by simp,
        Gauge.of_concat, Gauge.of_concat, Gauge.after_now hc.gauge]
      rfl
    · dsimp only
      split <;> exact hfail _ _ _
    · -- a datagram arrived
      have hc₂ := hc₁.arrived (e - t) s.phase bytes source
      rw [List.append_assoc, List.singleton_append] at hc₂
      have hE : a + 1 ≤ E := by
        have := hy'.1
        rw [arrivals_append, hc₁.arrivals, arrivals_datagram] at this
        exact this
      dsimp only
      cases Packet.decode bytes with
      | error _ => exact harrive _ _ _ hE hc₂ rfl
      | ok p =>
        dsimp only
        apply wp_accept
        · intro _ _ refusal z _
          exact harrive _ _ _ hE (hc₂.quiet (by rfl) z) rfl
        · intro _ code message _
          exact hfail _ _ _
        · intro _ _
          exact harrive _ _ _ hE (hc₂.congr (by simp) (kind_eq_of_role (by simp)) (by simp)
            (by simp)) (outcome_pinTo s source)

/-- Once the clock has reached the expiry, a session still in the phase `ph` resends while its
    budget lasts, counting one more retry, or fails with the timeout. -/
theorem wp_expire_exact {e : Int} (ph : Phase) (hc : Calibrated P K a s h)
    (hph : s.phase = some ph) (hexp : s.expiry = .int e) (hpast : (Gauge.of h).past e) :
    Wp (Exact E) (do
      if (← get).phase == some ph then
        if (← timeLeft).isNonpos then handleTimeout) (fun r s' h' => Calibrated P K a s' h' ∧
      (r = .ok () → s'.phase = s.phase ∧ s'.retransmits = s.retransmits + 1)) s h := by
  rw [wp_check_waiting hph, wp_bind]
  apply wp_timeLeft_exact hc hexp
  intro t hbelow hc₁
  obtain ⟨c, hgc, hec⟩ := hpast
  have hct := hbelow c hgc
  dsimp only
  rw [if_pos (by simp only [Number.isNonpos, decide_eq_true_eq]; omega), wp_handleTimeout,
    hc.policy]
  exact ⟨fun hlt => wp_retransmit_calibrated hc₁ hlt, fun _ => ⟨hc₁, fun he => nomatch he⟩⟩

theorem keeps_expire (ph : Phase) : Keeps (Exact E) (Calibrated P K a) (do
      if (← get).phase == some ph then
        if (← timeLeft).isNonpos then handleTimeout) :=
  keeps_get.bind fun _ => Keeps.ite
    (keeps_timeLeft.bind fun _ => Keeps.ite keeps_handleTimeout (keeps_pure _)) (keeps_pure _)

end Session

end Tftp
