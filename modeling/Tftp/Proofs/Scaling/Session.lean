import Tftp.Proofs.Dropped

/-! # The unit of the clock

    Nothing a session does depends on the unit its clock counts in.  It reads the clock, adds
    its timeout to a reading, takes a reading from the expiry and asks whether anything is left,
    and it reports readings.  Counted in a unit `c` times smaller, every reading, the timeout and
    every wait is `c` times larger, and the session does just the same: it asks the same
    requests with their times scaled, and ends in the same state with its times scaled.

    `Program.Scaled c R p q` says that the program `q` runs as `p` does on such a clock: it asks
    each request of `p` with its times scaled, and after each answer `p` can get, scaled, goes on
    as `p` did; the two end with values related by `R`.  `Session.Commutes` lifts this to the
    steps of a session, run from a session with whole times and from its scaled copy, which end
    in the same two.  It is closed under the operations of the monad, and each step of a session
    commutes with the scaling, one lemma per step, up to the whole session
    (`Setup.program_scaled`).

    Only whole numbers are scaled: the exact arithmetic this rests on holds of them and not of
    doubles. -/

namespace Tftp

namespace Number

/-- The number counted in a unit `c` times smaller: a whole number `c` times larger.  A double
    stays as it is. -/
def scale (c : Int) : Number → Number
  | .int n => .int (c * n)
  | .float x => .float x

/-- The number is whole. -/
def Whole (t : Number) : Prop := ∃ n : Int, t = .int n

@[simp] theorem scale_int (c n : Int) : (Number.int n).scale c = .int (c * n) := rfl

@[simp] theorem int_add?_int (a b : Int) : (Number.int a).add? (.int b) = some (.int (a + b)) :=
  rfl

@[simp] theorem int_sub?_int (a b : Int) : (Number.int a).sub? (.int b) = some (.int (a - b)) :=
  rfl

@[simp] theorem whole_int (n : Int) : (Number.int n).Whole := ⟨n, rfl⟩

/-- A whole time is above nothing in any unit or in none. -/
theorem isNonpos_scale {c : Int} (hc : 0 < c) (n : Int) :
    ((Number.int n).scale c).isNonpos = (Number.int n).isNonpos := by
  have hiff : c * n ≤ 0 ↔ n ≤ 0 := by
    simpa using Int.mul_le_mul_left (b := n) (c := 0) hc
  simp only [scale_int, isNonpos, hiff]

end Number

namespace Stats

/-- The statistics counted in a unit `c` times smaller. -/
def scale (c : Int) (st : Stats) : Stats :=
  { st with startTime := st.startTime.scale c, endTime := st.endTime.map (Number.scale c) }

/-- The times of the statistics are whole. -/
def Whole (st : Stats) : Prop := st.startTime.Whole ∧ ∀ t, st.endTime = some t → t.Whole

end Stats

namespace RetryPolicy

/-- The policy counted in a unit `c` times smaller: its timeout is `c` times longer. -/
def scale (c : Int) (p : RetryPolicy) : RetryPolicy :=
  { p with timeout := .number (p.seconds.scale c) }

@[simp] theorem seconds_scale (c : Int) (p : RetryPolicy) :
    (p.scale c).seconds = p.seconds.scale c := rfl

@[simp] theorem retries_scale (c : Int) (p : RetryPolicy) : (p.scale c).retries = p.retries :=
  rfl

end RetryPolicy

namespace Session

/-- The session counted in a unit `c` times smaller: its timeout, its expiry and the times of
    its statistics. -/
def scale (c : Int) (s : Session) : Session :=
  { s with policy := s.policy.scale c, expiry := s.expiry.scale c, stats := s.stats.scale c }

/-- The times of the session are whole. -/
structure Whole (s : Session) : Prop where
  seconds : s.policy.seconds.Whole
  expiry : s.expiry.Whole
  stats : s.stats.Whole

section Fields

variable (c : Int) (s : Session)

@[simp] theorem scale_role : (s.scale c).role = s.role := rfl
@[simp] theorem scale_client : (s.scale c).client = s.client := rfl
@[simp] theorem scale_peer : (s.scale c).peer = s.peer := rfl
@[simp] theorem scale_pinned : (s.scale c).pinned = s.pinned := rfl
@[simp] theorem scale_filename : (s.scale c).filename = s.filename := rfl
@[simp] theorem scale_mode : (s.scale c).mode = s.mode := rfl
@[simp] theorem scale_policy : (s.scale c).policy = s.policy.scale c := rfl
@[simp] theorem scale_phase : (s.scale c).phase = s.phase := rfl
@[simp] theorem scale_retransmits : (s.scale c).retransmits = s.retransmits := rfl
@[simp] theorem scale_totalRetransmits : (s.scale c).totalRetransmits = s.totalRetransmits := rfl
@[simp] theorem scale_lastPacket : (s.scale c).lastPacket = s.lastPacket := rfl
@[simp] theorem scale_expiry : (s.scale c).expiry = s.expiry.scale c := rfl
@[simp] theorem scale_error : (s.scale c).error = s.error := rfl
@[simp] theorem scale_stats : (s.scale c).stats = s.stats.scale c := rfl

end Fields

theorem ended_scale (c : Int) (s : Session) : (s.scale c).ended = s.ended := rfl

end Session

namespace Request

/-- The request counted in a unit `c` times smaller: the time a receive waits, and the times
    of a report. -/
def scale (c : Int) : Request → Request
  | .receive t ph => .receive (t.scale c) ph
  | .report st => .report (st.scale c)
  | r => r

/-- The times the request carries are whole. -/
def Whole : Request → Prop
  | .receive t _ => t.Whole
  | .report st => st.Whole
  | _ => True

/-- An answer the request can get: a whole reading for a reading of the clock, and for any
    other request an answer that is no reading. -/
def Answer : Request → Response → Prop
  | .now, y => ∃ n : Int, y = .time (.int n)
  | _, y => ∀ t, y ≠ .time t

end Request

/-- The answer counted in a unit `c` times smaller: a reading of the clock. -/
def Response.scale (c : Int) : Response → Response
  | .time t => .time (t.scale c)
  | y => y

/-- An answer that is no reading is the same in every unit. -/
theorem Response.scale_of_ne_time {y : Response} (hy : ∀ t, y ≠ .time t) (c : Int) :
    y.scale c = y := by
  cases y with
  | time t => exact absurd rfl (hy t)
  | _ => rfl

namespace Program

variable {α β γ δ : Type}

/-- The program `q` runs as `p` on a clock counted in a unit `c` times smaller: it asks each
    request of `p`, whose times are whole, with its times scaled, and after each answer that
    `p` can get goes on, given the answer scaled, as `p` did; the two end with values related
    by `R`. -/
def Scaled (c : Int) (R : α → β → Prop) : Program α → Program β → Prop
  | .done a, q => ∃ b, q = .done b ∧ R a b
  | .ask r k, q => r.Whole ∧ ∃ k', q = .ask (r.scale c) k' ∧
      ∀ y, r.Answer y → Scaled c R (k y) (k' (y.scale c))

variable {c : Int}

theorem Scaled.mono {R R' : α → β → Prop} (hR : ∀ a b, R a b → R' a b) :
    ∀ {p : Program α} {q : Program β}, Scaled c R p q → Scaled c R' p q
  | .done _, _, ⟨b, hq, hab⟩ => ⟨b, hq, hR _ _ hab⟩
  | .ask _ _, _, ⟨hr, k', hq, hk⟩ => ⟨hr, k', hq, fun y hy => (hk y hy).mono hR⟩

/-- Running on, each as its value says, keeps two programs scaled. -/
theorem Scaled.bind {S : α → β → Prop} {R : γ → δ → Prop} {f : α → Program γ}
    {g : β → Program δ} (hfg : ∀ a b, S a b → Scaled c R (f a) (g b)) :
    ∀ {p : Program α} {q : Program β}, Scaled c S p q → Scaled c R (p.bind f) (q.bind g)
  | .done a, _, ⟨b, hq, hab⟩ => by
    subst hq
    exact hfg a b hab
  | .ask r k, _, ⟨hr, k', hq, hk⟩ => by
    subst hq
    exact ⟨hr, _, rfl, fun y hy => (hk y hy).bind hfg⟩

end Program

namespace Session

variable {α β γ δ : Type} {c : Int}

/-- Two results agree: values related by `R`, or the same failure. -/
def Agrees (R : α → β → Prop) : Except Failure α → Except Failure β → Prop
  | .ok a, .ok b => R a b
  | .error e, .error e' => e' = e
  | _, _ => False

/-- How two runs of steps end alike: with results that agree, in a session with whole times and
    in its copy scaled by `c`. -/
def EndsScaled (c : Int) (R : α → β → Prop) (x : Except Failure α × Session)
    (y : Except Failure β × Session) : Prop :=
  Agrees R x.1 y.1 ∧ x.2.Whole ∧ y.2 = x.2.scale c

/-- The step `m'` runs as `m` on a clock counted in a unit `c` times smaller: from every session
    with whole times and from its scaled copy, the two runs are scaled, and end alike up to `R`.
    A step that commutes with the scaling is `Commutes c Eq m m`. -/
def Commutes (c : Int) (R : α → β → Prop) (m : SessionM α) (m' : SessionM β) : Prop :=
  ∀ s, s.Whole → Program.Scaled c (EndsScaled c R) (m.run.run s) (m'.run.run (s.scale c))

/-! ## The operations of the monad -/

theorem Commutes.mono {R R' : α → β → Prop} {m : SessionM α} {m' : SessionM β}
    (hR : ∀ a b, R a b → R' a b) (hm : Commutes c R m m') : Commutes c R' m m' := by
  intro s hs
  refine (hm s hs).mono ?_
  rintro ⟨r, s₁⟩ ⟨r', s₁'⟩ ⟨hagree, hw, hscale⟩
  refine ⟨?_, hw, hscale⟩
  cases r <;> cases r' <;> first | exact hR _ _ hagree | exact hagree

theorem commutes_pure {R : α → β → Prop} {a : α} {b : β} (hab : R a b) :
    Commutes c R (pure a) (pure b) :=
  fun _ hs => ⟨_, rfl, hab, hs, rfl⟩

theorem commutes_throw {R : α → β → Prop} (e : Failure) :
    Commutes c R (throw e : SessionM α) (throw e : SessionM β) :=
  fun _ hs => ⟨_, rfl, rfl, hs, rfl⟩

theorem commutes_get : Commutes c (fun s s' => s.Whole ∧ s' = s.scale c) get get :=
  fun _ hs => ⟨_, rfl, ⟨hs, rfl⟩, hs, rfl⟩

theorem commutes_set {s₁ s₁' : Session} (hw : s₁.Whole) (hs₁ : s₁' = s₁.scale c) :
    Commutes c Eq (set s₁) (set s₁') :=
  fun _ _ => ⟨_, rfl, rfl, hw, hs₁⟩

/-- A change of the session commutes with the scaling when its scaled counterpart changes the
    scaled session as it changes the session, and keeps its times whole. -/
theorem commutes_modify {f f' : Session → Session}
    (hf : ∀ s, s.Whole → (f s).Whole ∧ f' (s.scale c) = (f s).scale c) :
    Commutes c Eq (modify f) (modify f') :=
  fun s hs => ⟨_, rfl, rfl, (hf s hs).1, (hf s hs).2⟩

theorem commutes_ask {r : Request} (hr : r.Whole) :
    Commutes c (fun y y' => r.Answer y ∧ y' = y.scale c) (ask r) (ask (r.scale c)) :=
  fun _ hs => ⟨hr, _, rfl, fun _ hy => ⟨_, rfl, ⟨hy, rfl⟩, hs, rfl⟩⟩

theorem Commutes.bind {S : α → β → Prop} {R : γ → δ → Prop} {m : SessionM α} {m' : SessionM β}
    {f : α → SessionM γ} {f' : β → SessionM δ} (hm : Commutes c S m m')
    (hf : ∀ a b, S a b → Commutes c R (f a) (f' b)) : Commutes c R (m >>= f) (m' >>= f') := by
  intro s hs
  show Program.Scaled c _ (Program.bind (m.run.run s) _) (Program.bind (m'.run.run (s.scale c)) _)
  refine (hm s hs).bind ?_
  rintro ⟨r, s₁⟩ ⟨r', s₁'⟩ ⟨hagree, hw, rfl⟩
  cases r with
  | ok a =>
    cases r' with
    | ok b => exact hf a b hagree s₁ hw
    | error e' => exact hagree.elim
  | error e =>
    cases r' with
    | ok b => exact hagree.elim
    | error e' =>
      subst hagree
      exact ⟨_, rfl, rfl, hw, rfl⟩

/-- Going on alike after a step that commutes with the scaling. -/
theorem Commutes.bind_eq {R : γ → δ → Prop} {m m' : SessionM α} {f : α → SessionM γ}
    {f' : α → SessionM δ} (hm : Commutes c Eq m m') (hf : ∀ a, Commutes c R (f a) (f' a)) :
    Commutes c R (m >>= f) (m' >>= f') :=
  hm.bind fun a _ hab => hab ▸ hf a

/-- Going on after reading the session, the scaled run from the scaled session. -/
theorem commutes_get_bind {R : γ → δ → Prop} {f : Session → SessionM γ}
    {f' : Session → SessionM δ} (hf : ∀ s, s.Whole → Commutes c R (f s) (f' (s.scale c))) :
    Commutes c R (get >>= f) (get >>= f') :=
  commutes_get.bind fun _ _ ⟨hs, hs'⟩ => hs' ▸ hf _ hs

/-- Going on after a request other than a reading of the clock, whose answer is then the same
    in both units. -/
theorem commutes_ask_bind {R : γ → δ → Prop} {r r' : Request} {f : Response → SessionM γ}
    {f' : Response → SessionM δ} (hr : r.Whole) (hr' : r.scale c = r') (hnow : r ≠ .now)
    (hf : ∀ y, r.Answer y → Commutes c R (f y) (f' y)) :
    Commutes c R (ask r >>= f) (ask r' >>= f') := by
  subst hr'
  refine (commutes_ask hr).bind fun y _ ⟨hy, hy'⟩ => ?_
  have hsame : y.scale c = y := by
    cases r with
    | now => exact absurd rfl hnow
    | _ => exact Response.scale_of_ne_time hy c
  rw [hy', hsame]
  exact hf y hy

/-- Going on after a step that gives a whole time, the scaled run given the time scaled. -/
theorem Commutes.bind_time {R : γ → δ → Prop} {m : SessionM Number} {f : Number → SessionM γ}
    {f' : Number → SessionM δ} (hm : Commutes c (fun t t' => t.Whole ∧ t' = t.scale c) m m)
    (hf : ∀ n : Int, Commutes c R (f (.int n)) (f' ((Number.int n).scale c))) :
    Commutes c R (m >>= f) (m >>= f') :=
  hm.bind fun t t' ht => by
    obtain ⟨⟨n, rfl⟩, rfl⟩ := ht
    exact hf n

theorem Commutes.tryCatch {R : α → β → Prop} {m : SessionM α} {m' : SessionM β}
    {h : Failure → SessionM α} {h' : Failure → SessionM β} (hm : Commutes c R m m')
    (hh : ∀ e, Commutes c R (h e) (h' e)) :
    Commutes c R (tryCatch m h) (tryCatch m' h') := by
  intro s hs
  show Program.Scaled c _ (Program.bind (m.run.run s) _) (Program.bind (m'.run.run (s.scale c)) _)
  refine (hm s hs).bind ?_
  rintro ⟨r, s₁⟩ ⟨r', s₁'⟩ ⟨hagree, hw, rfl⟩
  cases r with
  | ok a =>
    cases r' with
    | ok b => exact ⟨_, rfl, hagree, hw, rfl⟩
    | error e' => exact hagree.elim
  | error e =>
    cases r' with
    | ok b => exact hagree.elim
    | error e' =>
      subst hagree
      exact hh _ s₁ hw

theorem commutes_ofExcept (x : Except Failure α) :
    Commutes c Eq (MonadExcept.ofExcept x : SessionM α) (MonadExcept.ofExcept x) := by
  cases x with
  | ok a => exact commutes_pure rfl
  | error e => exact commutes_throw e

theorem Commutes.ite {R : α → β → Prop} {p : Prop} [Decidable p] {a b : SessionM α}
    {a' b' : SessionM β} (ha : p → Commutes c R a a') (hb : ¬p → Commutes c R b b') :
    Commutes c R (if p then a else b) (if p then a' else b') := by
  by_cases hp : p
  · rw [if_pos hp, if_pos hp]
    exact ha hp
  · rw [if_neg hp, if_neg hp]
    exact hb hp

/-! ## The steps of every session -/

/-- A reading of the clock is whole, and counted in the smaller unit it is scaled. -/
theorem commutes_now : Commutes c (fun t t' => t.Whole ∧ t' = t.scale c) now now := by
  unfold now
  refine (commutes_ask (r := .now) trivial).bind fun y y' ⟨hy, hy'⟩ => ?_
  obtain ⟨n, rfl⟩ := hy
  subst hy'
  exact commutes_pure ⟨⟨n, rfl⟩, rfl⟩

theorem commutes_updateStats {f : Stats → Stats}
    (hf : ∀ st, st.Whole → (f st).Whole ∧ f (st.scale c) = (f st).scale c) :
    Commutes c Eq (updateStats f) (updateStats f) := by
  refine commutes_modify fun s hs => ⟨⟨hs.seconds, hs.expiry, (hf _ hs.stats).1⟩, ?_⟩
  show { s.scale c with stats := f (s.stats.scale c) } = _
  rw [(hf _ hs.stats).2]
  rfl

/-- Restarting the timer: the expiry, a reading plus the timeout, is scaled with both. -/
theorem commutes_resetTimeout : Commutes c Eq resetTimeout resetTimeout := by
  unfold resetTimeout
  refine commutes_now.bind_time fun n => ?_
  refine commutes_get_bind fun s hs => ?_
  obtain ⟨d, hd⟩ := hs.seconds
  simp only [scale_policy, RetryPolicy.seconds_scale, hd, Number.scale_int, Number.int_add?_int]
  refine commutes_modify fun s₁ hs₁ => ⟨⟨hs₁.seconds, ⟨_, rfl⟩, hs₁.stats⟩, ?_⟩
  show { s₁.scale c with expiry := .int (c * n + c * d) } =
    { s₁.scale c with expiry := .int (c * (n + d)) }
  rw [Int.mul_add]

/-- The time left, the expiry less a reading, is scaled with both. -/
theorem commutes_timeLeft :
    Commutes c (fun t t' => t.Whole ∧ t' = t.scale c) timeLeft timeLeft := by
  unfold timeLeft
  refine commutes_now.bind_time fun n => ?_
  refine commutes_get_bind fun s hs => ?_
  obtain ⟨e, he⟩ := hs.expiry
  simp only [scale_expiry, he, Number.scale_int, Number.int_sub?_int]
  exact commutes_pure ⟨⟨_, rfl⟩, by rw [Number.scale_int, Int.mul_sub]⟩

theorem commutes_send (p : Draft) : Commutes c Eq (send p) (send p) := by
  unfold send
  dsimp only
  -- the packet written, or the failure to write it, and then its send, alike in both runs
  cases p.encode
  all_goals
    refine Commutes.bind_eq (by first | exact commutes_pure rfl | exact commutes_throw _)
      fun bytes => commutes_get_bind fun s _ => ?_
    simp only [scale_peer]
    refine commutes_ask_bind trivial rfl (fun h => Request.noConfusion h) fun y _ => ?_
    cases y with
    | sendFailed reason => exact commutes_throw _
    | _ => exact commutes_updateStats fun _ hst => ⟨hst, rfl⟩

/-- The fields of a session other than its times are not scaled: a change of them alone
    commutes with the scaling. -/
theorem commutes_modify_untimed {f : Session → Session}
    (hw : ∀ s, s.Whole → (f s).Whole) (hf : ∀ s, f (s.scale c) = (f s).scale c) :
    Commutes c Eq (modify f) (modify f) :=
  commutes_modify fun s hs => ⟨hw s hs, hf s⟩

theorem commutes_transmit (p : Draft) : Commutes c Eq (transmit p) (transmit p) := by
  unfold transmit
  refine (commutes_send p).bind_eq fun _ => Commutes.bind_eq ?_ fun _ => commutes_resetTimeout
  exact commutes_modify_untimed (fun _ hs => ⟨hs.seconds, hs.expiry, hs.stats⟩) fun _ => rfl

theorem commutes_retransmit : Commutes c Eq retransmit retransmit := by
  unfold retransmit
  -- the count of the resend and the restarted timer
  have hcount : ∀ {f : Session → Session}, (∀ s, s.Whole → (f s).Whole) →
      (∀ s, f (s.scale c) = (f s).scale c) →
      Commutes c Eq (modify f >>= fun _ => resetTimeout) (modify f >>= fun _ => resetTimeout) :=
    fun hw hf => (commutes_modify_untimed hw hf).bind_eq fun _ => commutes_resetTimeout
  refine commutes_get_bind fun s _ => ?_
  simp only [scale_lastPacket]
  cases s.lastPacket
  · exact hcount (fun _ hs => ⟨hs.seconds, hs.expiry, hs.stats⟩) fun _ => rfl
  · exact (commutes_send _).bind_eq fun _ =>
      hcount (fun _ hs => ⟨hs.seconds, hs.expiry, hs.stats⟩) fun _ => rfl

theorem commutes_handleTimeout : Commutes c Eq handleTimeout handleTimeout := by
  unfold handleTimeout
  refine commutes_get_bind fun s _ => ?_
  simp only [scale_retransmits, scale_policy, RetryPolicy.retries_scale]
  exact Commutes.ite (fun _ => commutes_retransmit) fun _ => commutes_throw _

theorem commutes_discard {R : α → β → Prop} {m : SessionM α} {m' : SessionM β}
    (hm : Commutes c R m m') : Commutes c Eq (discard m) (discard m') :=
  hm.bind fun _ _ _ => commutes_pure rfl

theorem commutes_rejectForeign (source : Address) :
    Commutes c Eq (rejectForeign source) (rejectForeign source) := by
  unfold rejectForeign
  dsimp only
  split
  · exact commutes_discard (commutes_ask (r := .send _ source) trivial)
  · exact commutes_pure rfl

theorem commutes_accept (source : Address) (p : Packet) :
    Commutes c Eq (accept source p) (accept source p) := by
  unfold accept
  refine commutes_get_bind fun s hs => ?_
  simp only [scale_pinned, scale_peer]
  -- the first packet pins the peer; a packet from elsewhere is refused
  refine Commutes.ite (fun _ => Commutes.bind_eq
    (by exact commutes_set ⟨hs.seconds, hs.expiry, hs.stats⟩ rfl) fun _ => ?_) fun _ =>
      Commutes.ite (fun _ => (commutes_rejectForeign source).bind_eq fun _ => commutes_pure rfl)
        fun _ => ?_
  -- what the packet brings once its source is taken: an ERROR aborts
  all_goals cases p <;> first | exact commutes_throw _ | exact commutes_pure rfl

/-- A receive waits the time left, scaled, and takes what comes as the unscaled run does: the
    answers to a receive are no readings.  A wait is there to make in both units or in none. -/
theorem commutes_receive (hc : 0 < c) : Commutes c Eq receive receive := by
  unfold receive
  refine commutes_timeLeft.bind_time fun n => ?_
  rw [Number.isNonpos_scale hc]
  refine Commutes.ite (fun _ => commutes_pure rfl) fun _ => commutes_get_bind fun s _ => ?_
  simp only [scale_phase]
  refine commutes_ask_bind (r := .receive (.int n) s.phase) ⟨n, rfl⟩ rfl
    (fun h => Request.noConfusion h)
    fun y _ => ?_
  cases y with
  | receiveFailed f => exact Commutes.ite (fun _ => commutes_throw _) fun _ => commutes_throw _
  | datagram bytes source =>
    dsimp only
    cases Packet.decode bytes with
    | error e => exact commutes_pure rfl
    | ok q => exact commutes_accept source q
  | _ => exact commutes_pure rfl

theorem commutes_transmitError (f : Fault) :
    Commutes c Eq (transmitError f) (transmitError f) :=
  (commutes_send _).tryCatch fun _ => Commutes.ite (fun _ => commutes_pure rfl) fun _ =>
    commutes_throw _

theorem commutes_fail (f : Fault) : Commutes c Eq (fail f) (fail f) := by
  unfold fail
  refine Commutes.bind_eq ?_ fun _ =>
    Commutes.ite (fun _ => commutes_transmitError f) fun _ => commutes_pure rfl
  exact commutes_modify_untimed (fun _ hs => ⟨hs.seconds, hs.expiry, hs.stats⟩) fun _ => rfl

/-- The last steps read the clock for the end time, which is scaled in the report. -/
theorem commutes_finish : Commutes c Eq finish finish := by
  unfold finish
  refine commutes_get_bind fun s _ => ?_
  simp only [scale_error]
  refine (commutes_discard (commutes_ask (r := .closeStream _) trivial)).bind_eq fun _ =>
    (commutes_discard (commutes_ask (r := .closeSocket) trivial)).bind_eq fun _ =>
      commutes_now.bind fun t t' ⟨ht, ht'⟩ => ?_
  subst ht'
  refine Commutes.bind_eq ?_ fun _ => commutes_get_bind fun s₁ hs₁ =>
    commutes_discard (commutes_ask (r := .report s₁.stats) hs₁.stats)
  refine commutes_modify fun s₁ hs₁ => ⟨⟨hs₁.seconds, hs₁.expiry, hs₁.stats.1, ?_⟩, rfl⟩
  rintro t₁ ⟨⟩
  exact ht

/-- The check that closes a waiting step: whether the timer ran out is the same in both units. -/
theorem commutes_expire (hc : 0 < c) (ph : Phase) : Commutes c Eq (expire ph) (expire ph) := by
  unfold expire
  refine commutes_get_bind fun s _ => ?_
  simp only [scale_phase]
  refine Commutes.ite (fun _ => commutes_timeLeft.bind_time fun n => ?_) fun _ =>
    commutes_pure rfl
  rw [Number.isNonpos_scale hc]
  exact Commutes.ite (fun _ => commutes_handleTimeout) fun _ => commutes_pure rfl

/-! ## The steps of a sender -/

theorem commutes_sender : Commutes c Eq sender sender := by
  unfold sender
  refine commutes_get_bind fun s _ => ?_
  simp only [scale_role]
  cases s.role <;> exact commutes_pure rfl

theorem commutes_updateSender (f : Sender → Sender) :
    Commutes c Eq (updateSender f) (updateSender f) := by
  refine commutes_modify_untimed (fun s hs => ?_) fun s => ?_
  · split <;> exact ⟨hs.seconds, hs.expiry, hs.stats⟩
  · simp only [scale_role]
    cases s.role <;> rfl

theorem commutes_startSending : Commutes c Eq startSending startSending := by
  unfold startSending
  refine commutes_get_bind fun s _ => ?_
  simp only [scale_client, scale_filename, scale_mode]
  refine Commutes.ite (fun _ => (commutes_transmit _).bind_eq fun _ => ?_) fun _ => ?_
  all_goals
    exact commutes_modify_untimed (fun _ hs => ⟨hs.seconds, hs.expiry, hs.stats⟩) fun _ => rfl

theorem commutes_gather : ∀ (fuel : Nat) (g : List UInt8),
    Commutes c Eq (gather g fuel) (gather g fuel)
  | 0, _ => commutes_pure rfl
  | fuel + 1, g => by
    unfold gather
    refine Commutes.ite (fun _ => commutes_pure rfl) fun _ =>
      commutes_ask_bind trivial rfl (fun h => Request.noConfusion h) fun y _ => ?_
    -- a read brings more bytes, the end of the stream, or the handler's failure
    cases y with
    | streamed result =>
      cases result with
      | error e => exact commutes_throw _
      | ok reply =>
        cases reply with
        | bytes data =>
          cases data with
          | nil => exact commutes_pure rfl
          | cons b bs => exact commutes_gather fuel _
        | count n => exact commutes_pure rfl
    | _ => exact commutes_pure rfl

theorem commutes_nextBlock : Commutes c Eq nextBlock nextBlock := by
  unfold nextBlock
  exact commutes_sender.bind_eq fun x => (commutes_ofExcept _).bind_eq fun _ =>
    (commutes_updateSender _).bind_eq fun _ => (commutes_gather _ _).bind_eq fun _ =>
      commutes_updateSender _

theorem commutes_transmitData : Commutes c Eq transmitData transmitData := by
  unfold transmitData
  refine commutes_sender.bind_eq fun x => (commutes_transmit _).bind_eq fun _ =>
    Commutes.bind_eq (commutes_updateStats fun _ hst => ⟨hst, rfl⟩) fun _ => ?_
  dsimp only
  refine Commutes.ite (fun _ => (commutes_updateSender _).bind_eq fun _ => ?_) fun _ => ?_
  all_goals
    exact commutes_modify_untimed (fun _ hs => ⟨hs.seconds, hs.expiry, hs.stats⟩) fun _ => rfl

theorem commutes_handleAck (block : Int) : Commutes c Eq (handleAck block) (handleAck block) := by
  unfold handleAck
  refine commutes_sender.bind_eq fun x => ?_
  dsimp only
  -- another block: its counter is written in decimal; this block: counted, and the phase moves
  refine Commutes.ite (fun _ => (commutes_discard (commutes_ofExcept _)).bind_eq fun _ =>
    commutes_pure rfl) fun _ => Commutes.ite (fun _ => Commutes.bind_eq
      (commutes_updateStats fun _ hst => ⟨hst, rfl⟩) fun _ => ?_) fun _ => ?_
  all_goals
    refine Commutes.ite (fun _ => ?_) fun _ => ?_
    all_goals
      exact commutes_modify_untimed (fun _ hs => ⟨hs.seconds, hs.expiry, hs.stats⟩) fun _ => rfl

theorem commutes_sendOnce (hc : 0 < c) : Commutes c Eq sendOnce sendOnce := by
  unfold sendOnce
  refine commutes_get_bind fun s _ => ?_
  simp only [scale_phase]
  refine Commutes.ite (fun _ => commutes_nextBlock.bind_eq fun _ => commutes_transmitData)
    fun _ => (commutes_receive hc).bind_eq fun got => ?_
  -- an acknowledgement is taken, anything else dropped; the check closes the step
  cases got with
  | none => exact commutes_expire hc .awaitAck
  | some q =>
    cases q with
    | ack block => exact (commutes_handleAck block).bind_eq fun _ => commutes_expire hc .awaitAck
    | _ => exact commutes_expire hc .awaitAck

/-! ## The steps of a receiver -/

theorem commutes_receiver : Commutes c Eq receiver receiver := by
  unfold receiver
  refine commutes_get_bind fun s _ => ?_
  simp only [scale_role]
  cases s.role <;> exact commutes_pure rfl

theorem commutes_updateReceiver (f : Receiver → Receiver) :
    Commutes c Eq (updateReceiver f) (updateReceiver f) := by
  refine commutes_modify_untimed (fun s hs => ?_) fun s => ?_
  · split <;> exact ⟨hs.seconds, hs.expiry, hs.stats⟩
  · simp only [scale_role]
    cases s.role <;> rfl

theorem commutes_deliver (payload : List UInt8) :
    Commutes c Eq (deliver payload) (deliver payload) := by
  unfold deliver
  refine commutes_ask_bind trivial rfl (fun h => Request.noConfusion h) fun y _ => ?_
  cases y with
  | streamed result => cases result <;> first | exact commutes_throw _ | exact commutes_pure rfl
  | _ => exact commutes_pure rfl

theorem commutes_startReceiving : Commutes c Eq startReceiving startReceiving := by
  unfold startReceiving
  refine commutes_get_bind fun s _ => ?_
  dsimp only
  refine Commutes.ite (fun _ => (commutes_transmit _).bind_eq fun _ => ?_) fun _ =>
    (commutes_deliver _).bind_eq fun _ => (commutes_transmit _).bind_eq fun _ => ?_
  all_goals
    exact commutes_modify_untimed (fun _ hs => ⟨hs.seconds, hs.expiry, hs.stats⟩) fun _ => rfl

theorem commutes_handleData (block : Int) (payload : List UInt8) :
    Commutes c Eq (handleData block payload) (handleData block payload) := by
  unfold handleData
  refine commutes_receiver.bind_eq fun x => (commutes_ofExcept _).bind_eq fun next => ?_
  dsimp only
  -- the expected block is taken; a repeat of the last is acknowledged again; the rest dropped
  refine Commutes.ite (fun _ => (commutes_deliver _).bind_eq fun _ =>
    (commutes_updateReceiver _).bind_eq fun _ => Commutes.bind_eq
      (commutes_updateStats fun _ hst => ⟨hst, rfl⟩) fun _ => (commutes_transmit _).bind_eq
        fun _ => Commutes.ite (fun _ => ?_) fun _ => commutes_pure rfl) fun _ =>
    Commutes.ite (fun _ => commutes_send _) fun _ => commutes_discard (commutes_ofExcept _)
  exact commutes_modify_untimed (fun _ hs => ⟨hs.seconds, hs.expiry, hs.stats⟩) fun _ => rfl

theorem commutes_receiveOnce (hc : 0 < c) : Commutes c Eq receiveOnce receiveOnce := by
  unfold receiveOnce
  refine (commutes_receive hc).bind_eq fun got => ?_
  -- DATA is taken, anything else dropped; the check closes the step
  cases got with
  | none => exact commutes_expire hc .awaitData
  | some q =>
    cases q with
    | data block payload =>
      exact (commutes_handleData block payload).bind_eq fun _ => commutes_expire hc .awaitData
    | _ => exact commutes_expire hc .awaitData

theorem commutes_map {m : SessionM α} (f : α → β) (hm : Commutes c Eq m m) :
    Commutes c Eq (f <$> m) (f <$> m) :=
  hm.bind_eq fun _ => commutes_pure rfl

theorem commutes_dallyFor (hc : 0 < c) : ∀ fuel : Nat,
    Commutes c Eq (dallyFor fuel) (dallyFor fuel)
  | 0 => commutes_pure rfl
  | fuel + 1 => by
    unfold dallyFor
    refine commutes_timeLeft.bind_time fun n => ?_
    rw [Number.isNonpos_scale hc]
    refine Commutes.ite (fun _ => commutes_pure rfl) fun _ => Commutes.bind_eq
      ((commutes_map some (commutes_receive hc)).tryCatch fun _ =>
        Commutes.ite (fun _ => commutes_pure rfl) fun _ => commutes_throw _) fun got => ?_
    -- nothing more comes, a repeat of the last block is acknowledged again, or the dally goes on
    rcases got with _ | _ | q
    · exact commutes_pure rfl
    · exact commutes_dallyFor hc fuel
    · cases q with
      | data block payload =>
        refine commutes_receiver.bind_eq fun x => ?_
        dsimp only
        refine Commutes.ite (fun _ => Commutes.bind_eq (Commutes.tryCatch
          ((commutes_send _).bind_eq fun _ => commutes_pure rfl) fun _ =>
            Commutes.ite (fun _ => commutes_pure rfl) fun _ => commutes_throw _) fun _ =>
          Commutes.ite (fun _ => commutes_pure rfl) fun _ => commutes_dallyFor hc fuel) fun _ =>
          commutes_dallyFor hc fuel
      | _ => exact commutes_dallyFor hc fuel

theorem commutes_dally (hc : 0 < c) (fuel : Nat) : Commutes c Eq (dally fuel) (dally fuel) := by
  unfold dally
  exact (commutes_discard (commutes_ask (r := .closeStream none) trivial)).bind_eq fun _ =>
    commutes_resetTimeout.bind_eq fun _ => commutes_dallyFor hc fuel

/-! ## A whole session -/

theorem commutes_start : Commutes c Eq start start := by
  unfold start
  refine commutes_get_bind fun s _ => ?_
  simp only [scale_role]
  cases s.role
  · exact commutes_startSending
  · exact commutes_startReceiving

theorem commutes_stepOnce (hc : 0 < c) : Commutes c Eq stepOnce stepOnce := by
  unfold stepOnce
  refine commutes_get_bind fun s _ => ?_
  simp only [scale_role]
  cases s.role
  · exact commutes_sendOnce hc
  · exact commutes_receiveOnce hc

theorem commutes_loop (hc : 0 < c) : ∀ fuel : Nat, Commutes c Eq (loop fuel) (loop fuel)
  | 0 => commutes_pure rfl
  | fuel + 1 => by
    unfold loop
    refine commutes_get_bind fun s _ => ?_
    rw [ended_scale]
    exact Commutes.ite (fun _ => commutes_pure rfl) fun _ =>
      (commutes_stepOnce hc).bind_eq fun _ => commutes_loop hc fuel

theorem commutes_close (hc : 0 < c) (fuel : Nat) : Commutes c Eq (close fuel) (close fuel) := by
  unfold close
  refine commutes_get_bind fun s _ => ?_
  simp only [scale_role, scale_phase]
  -- a receiver that took the last block dallies before it closes
  cases s.role
  · exact commutes_finish
  · rcases s.phase with _ | (_ | _ | _ | _)
    all_goals first
      | exact commutes_finish
      | exact (commutes_dally hc fuel).bind_eq fun _ => commutes_finish

theorem commutes_run (hc : 0 < c) (fuel : Nat) : Commutes c Eq (run fuel) (run fuel) := by
  unfold run
  refine Commutes.bind_eq (Commutes.tryCatch (Commutes.bind_eq (Commutes.tryCatch
    (commutes_start.bind_eq fun _ => commutes_loop hc fuel) fun e =>
      (commutes_fail e.toFault).bind_eq fun _ => commutes_pure rfl) fun _ => commutes_pure rfl)
    fun _ => commutes_pure rfl) fun outcome => (commutes_close hc fuel).bind_eq fun _ => ?_
  cases outcome
  · exact commutes_throw _
  · exact commutes_pure rfl

end Session

namespace Setup

/-- The setup counted in a unit `c` times smaller: its timeout is `c` times longer. -/
def scale (c : Int) (st : Setup) : Setup := { st with policy := st.policy.scale c }

variable {c : Int}

/-- A session created on the scaled clock is the scaled copy of the one created on the
    clock, and its times are whole. -/
theorem create_scaled (st : Setup) (hsec : st.policy.seconds.Whole) :
    Program.Scaled c (Session.Agrees fun s s' => s.Whole ∧ s' = s.scale c) st.create
      (st.scale c).create := by
  obtain ⟨d, hd⟩ := hsec
  unfold create
  refine ⟨trivial, _, rfl, ?_⟩
  rintro y ⟨n, rfl⟩
  simp only [Response.scale, Number.scale_int, clockOf, scale, RetryPolicy.seconds_scale, hd]
  refine ⟨trivial, _, rfl, fun a ha => ?_⟩
  rw [Response.scale_of_ne_time ha]
  refine ⟨trivial, _, rfl, ?_⟩
  rintro y ⟨m, rfl⟩
  refine ⟨_, rfl, ⟨⟨⟨d, hd⟩, ⟨_, rfl⟩, ⟨_, rfl⟩, ?_⟩, ?_⟩⟩
  · rintro t ⟨⟩
  · simp only [Session.scale, Stats.scale, Number.scale_int, Int.mul_add]
    rfl

/-- The whole session runs on a clock counted in a unit `c` times smaller as on the clock:
    it asks the same requests with their times scaled, and ends the same way in the scaled
    copy of its final state. -/
theorem program_scaled (hc : 0 < c) (st : Setup) (fuel : Nat)
    (hsec : st.policy.seconds.Whole) :
    Program.Scaled c (fun x y => y = x.map fun r => (r.1, r.2.scale c)) (st.program fuel)
      ((st.scale c).program fuel) := by
  unfold program
  refine Program.Scaled.bind (fun x y hxy => ?_) (create_scaled st hsec)
  rcases x with e | s <;> rcases y with e' | s'
  · subst hxy
    exact ⟨_, rfl, rfl⟩
  · exact hxy.elim
  · exact hxy.elim
  obtain ⟨hs, rfl⟩ := hxy
  refine Program.Scaled.bind (fun x y hxy => ?_) (Session.commutes_run hc fuel s hs)
  obtain ⟨r, s₁⟩ := x
  obtain ⟨r', s₁'⟩ := y
  obtain ⟨hagree, -, rfl⟩ := hxy
  rcases r with e | b <;> rcases r' with e' | b'
  · subst hagree
    exact ⟨_, rfl, rfl⟩
  · exact hagree.elim
  · exact hagree.elim
  subst hagree
  cases b <;> exact ⟨_, rfl, rfl⟩

end Setup

end Tftp
