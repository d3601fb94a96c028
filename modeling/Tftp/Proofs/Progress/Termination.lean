import Tftp.Proofs.Progress.Fuel
import Tftp.Simulation.Transfer

/-! # A transfer in a scripted world ends

    A scripted world answers each request of a session from its script.  What holds of every
    run whose answers keep `ok` holds of the world's run once the world keeps an invariant whose
    every answer keeps `ok` (`World.run_always`), and programs that agree there have the same
    run in the world (`World.run_agree`).

    The world's answers are exact surroundings (`Exact`) when its clock starts at whole seconds
    and no datagram of its script comes after a delay in doubles: the clock then reads whole
    seconds and moves only when a receive times out, by the time it waited, or when a datagram
    comes late, and each datagram uses up an event (`World.Steady`).  So a transfer ends within
    its bound of steps, and more fuel changes nothing. -/

namespace Tftp

/-- The event moves the clock by whole seconds, if at all: a datagram's delay is no double. -/
def NetEvent.Whole : NetEvent → Prop
  | .datagram _ _ (.float _) => False
  | _ => True

namespace World

variable {α : Type}

/-- The exchanges of the program's run in the world. -/
def trace : Program α → World → List Exchange
  | .done _, _ => []
  | .ask r k, w => (r, (w.answer r).1) :: trace (k (w.answer r).1) (w.answer r).2

@[simp] theorem run_done (a : α) (w : World) : run (.done a) w = (a, w) := rfl

theorem run_ask (r : Request) (k : Response → Program α) (w : World) :
    run (.ask r k) w = run (k (w.answer r).1) (w.answer r).2 := rfl

/-- A property of the world and the exchanges so far that every answer keeps, each answer
    keeping `ok`. -/
def Answers (ok : List Exchange → Prop) (I : World → List Exchange → Prop) : Prop :=
  ∀ w h r, I w h →
    ok (h ++ [(r, (w.answer r).1)]) ∧ I (w.answer r).2 (h ++ [(r, (w.answer r).1)])

variable {ok : List Exchange → Prop} {I : World → List Exchange → Prop}

/-- What every run whose answers keep `ok` ends with, the world's run ends with. -/
theorem run_always (hI : Answers ok I) {post : α → List Exchange → Prop} :
    ∀ (p : Program α) (w : World) (h : List Exchange), p.Always ok post h → I w h →
      post (run p w).1 (h ++ trace p w)
  | .done a, w, h, hp, _ => by simpa [trace] using hp
  | .ask r k, w, h, hp, hw => by
    obtain ⟨hok, hw'⟩ := hI w h r hw
    have := run_always hI (k (w.answer r).1) (w.answer r).2 _ (hp _ hok) hw'
    simpa [run_ask, trace] using this

/-- Programs that agree along the runs whose answers keep `ok` have the same run in the world. -/
theorem run_agree (hI : Answers ok I) :
    ∀ (p q : Program α) (w : World) (h : List Exchange), Program.Agree ok p q h → I w h →
      run p w = run q w
  | .done a, .done b, _, _, hpq, _ => by
    obtain rfl : a = b := hpq
    rfl
  | .done _, .ask _ _, _, _, hpq, _ => hpq.elim
  | .ask _ _, .done _, _, _, hpq, _ => hpq.elim
  | .ask r k, .ask r' k', w, h, hpq, hw => by
    obtain ⟨rfl, hk⟩ := hpq
    obtain ⟨hok, hw'⟩ := hI w h r hw
    rw [run_ask, run_ask]
    exact run_agree hI _ _ _ _ (hk _ hok) hw'

end World

/-! ## Steady worlds -/

/-- A whole event delivered to a receive that waits whole seconds, on a clock in whole seconds:
    the clock stays in whole seconds, and it has moved on by the wait when the receive timed
    out. -/
theorem NetEvent.deliver_whole {e : NetEvent} (he : e.Whole) (c w : Int) (source : Address) :
    (∃ c', (e.deliver (.int c) (.int w) source).2 = .int c') ∧
    ((e.deliver (.int c) (.int w) source).1 = .timedOut →
      (e.deliver (.int c) (.int w) source).2 = .int (c + w)) := by
  cases e with
  | timeout => exact ⟨⟨c + w, rfl⟩, fun _ => rfl⟩
  | failure reason => exact ⟨⟨c, rfl⟩, fun hd => nomatch hd⟩
  | datagram payload src delay =>
    -- a delay that is a number moves the clock by whole seconds; any other fails the receive
    have hdelay : (∃ n, delay.toNumber? = some (.int n)) ∨ delay.toNumber? = none := by
      cases delay with
      | float x => exact he.elim
      | bool b => exact .inl ⟨_, rfl⟩
      | int n => exact .inl ⟨n, rfl⟩
      | _ => exact .inr rfl
    rcases hdelay with ⟨n, hn⟩ | hn
    · simp only [NetEvent.deliver, Number.advanceBy, hn, Number.advance, Number.add?]
      cases payload.encode <;> exact ⟨⟨c + n, rfl⟩, fun hd => nomatch hd⟩
    · simp only [NetEvent.deliver, Number.advanceBy, hn]
      exact ⟨⟨c, rfl⟩, fun hd => nomatch hd⟩

/-- Only a datagram of the script arrives. -/
theorem NetEvent.deliver_timeout_ne (clock timeout : Number) (source : Address)
    (bytes : List UInt8) (src : Address) :
    (NetEvent.timeout.deliver clock timeout source).1 ≠ .arrived bytes src := by
  simp only [NetEvent.deliver]
  split <;> exact fun hd => nomatch hd

/-- The answer a delivery gives a receive. -/
def Delivery.response : Delivery → Response
  | .timedOut => .timedOut
  | .arrived bytes source => .datagram bytes source
  | .failed f => .receiveFailed f

theorem Delivery.eq_timedOut {d : Delivery} (hd : d.response = .timedOut) : d = .timedOut := by
  cases d <;> first | rfl | cases hd

theorem arrivals_single_le (e : Exchange) : arrivals [e] ≤ 1 := by
  unfold arrivals
  cases he : Exchange.arrival? e <;> simp [he]

theorem clocked_concat (h : List Exchange) (e : Exchange) :
    Clocked .whole (h ++ [e]) ↔ Clocked .whole h ∧ (Gauge.of h).allows e := by
  rw [clocked_append]
  simp [Clocked, Gauge.of]

namespace Gauge

/-- A receive that gets what a delivery gives keeps every promise. -/
theorem allows_response (g : Gauge) (t : Number) (ph : Option Phase) (d : Delivery) :
    g.allows (.receive t ph, d.response) := by
  cases g with
  | loose => trivial
  | _ =>
    cases d with
    | timedOut => exact .inl rfl
    | failed f => exact .inr (.inl ⟨f, rfl⟩)
    | arrived bytes source => exact .inr (.inr ⟨bytes, source, rfl⟩)

/-- Exchanges other than a reading or a receive keep every promise. -/
theorem allows_untimed (g : Gauge) {r : Request} (hr : r.timed = false) (x : Response) :
    g.allows (r, x) := by
  cases r with
  | now | receive _ _ => exact Bool.noConfusion hr
  | _ => cases g <;> trivial

/-- A promise is kept after a receive only if the receive waited whole seconds. -/
theorem whole_of_after_receive {g : Gauge} {t : Number} {ph : Option Phase} {x : Response}
    (hg : g.after (.receive t ph, x) ≠ .loose) : g ≠ .loose ∧ ∃ w, t = .int w := by
  cases g <;> cases t <;> simp_all [after]

/-- After a receive that waited `w` whole seconds, a clock at `c'` keeps the promise if it kept
    it at `c` before and moved on by the wait when the receive timed out. -/
theorem below_after_receive {g : Gauge} {c c' w : Int} (hb : g.below c) (ph : Option Phase)
    (x : Response) (hc' : x = .timedOut → c' = c + w) :
    (g.after (.receive (.int w) ph, x)).below c' := by
  intro c'' hg
  cases g with
  | loose => cases hg
  | whole => cases x <;> cases hg
  | floor c₀ =>
    cases x with
    | timedOut =>
      cases hg
      have := hb c₀ rfl
      rw [hc' rfl]
      omega
    | _ => cases hg

end Gauge

namespace World

/-- A receive uses the next event of the script, or a timeout once the events ran out. -/
theorem receive_spec (w : World) (t : Number) (ph : Option Phase) :
    ∃ e, (w.events = [] ∧ e = .timeout ∨ w.events.head? = some e) ∧
      (w.receive t ph).1 = (e.deliver w.clock t w.defaultSource).1.response ∧
      (w.receive t ph).2.clock = (e.deliver w.clock t w.defaultSource).2 ∧
      (w.receive t ph).2.events = w.events.tail := by
  unfold World.receive
  cases hev : w.events with
  | nil =>
    refine ⟨.timeout, .inl ⟨rfl, rfl⟩, ?_, rfl, by simp [record, hev]⟩
    simp only [record]
    cases (NetEvent.timeout.deliver w.clock t w.defaultSource).1 <;> rfl
  | cons e rest =>
    refine ⟨e, .inr rfl, ?_, rfl, rfl⟩
    simp only [record]
    cases (e.deliver w.clock t w.defaultSource).1 <;> rfl

/-- A pipe call changes only the pipe and the handler. -/
theorem perform_frame : ∀ (n : Nat) (c : Call) (w : World),
    ∃ p hd, (perform n c w).2 = { w with pipe := p, handler := hd }
  | 0, _, w => ⟨w.pipe, w.handler, rfl⟩
  | n + 1, c, w => by
    simp only [perform]
    split
    · split
      · exact ⟨_, w.handler, rfl⟩
      · obtain ⟨p, hd, hq⟩ := perform_frame n _ { w with pipe := _ }
        exact ⟨p, hd, hq⟩
    · obtain ⟨p, hd, hq⟩ := perform_frame n c { w with handler := _, pipe := _ }
      exact ⟨p, hd, hq⟩

/-- Answers other than a reading or a receive leave the events and the clock alone. -/
theorem answer_untimed (w : World) {r : Request} (hr : r.timed = false) :
    (w.answer r).2.events = w.events ∧ (w.answer r).2.clock = w.clock := by
  cases r with
  | now | receive _ _ => exact Bool.noConfusion hr
  | stream c =>
    obtain ⟨p, hd, hq⟩ := perform_frame 16 c w
    show (perform 16 c w).2.events = w.events ∧ (perform 16 c w).2.clock = w.clock
    rw [hq]
    exact ⟨rfl, rfl⟩
  | closeStream e =>
    show (w.closeSessionEnd e).events = w.events ∧ (w.closeSessionEnd e).clock = w.clock
    unfold closeSessionEnd
    split <;> exact ⟨rfl, rfl⟩
  | _ => exact ⟨rfl, rfl⟩

/-- What keeps a world's answers exact: its events bring at most `E` datagrams in all and move
    the clock by whole seconds, and the clock reads whole seconds at or past the promise of the
    exchanges so far, unless a receive waited a time that is no whole number of seconds. -/
structure Steady (E : Nat) (w : World) (h : List Exchange) : Prop where
  events : arrivals h + w.events.length ≤ E
  whole : ∀ e ∈ w.events, e.Whole
  clocked : Clocked .whole h
  clock : Gauge.of h ≠ .loose → ∃ c, w.clock = .int c ∧ (Gauge.of h).below c

variable {E : Nat} {w : World} {h : List Exchange}

theorem steady_untimed (hw : Steady E w h) {r : Request} (hr : r.timed = false) :
    Exact E (h ++ [(r, (w.answer r).1)]) ∧ Steady E (w.answer r).2 (h ++ [(r, (w.answer r).1)]) := by
  obtain ⟨hev, hclk⟩ := w.answer_untimed hr
  have harr : arrivals (h ++ [(r, (w.answer r).1)]) = arrivals h := by
    rw [arrivals_append, arrivals_untimed hr, Nat.add_zero]
  have hcl : Clocked .whole (h ++ [(r, (w.answer r).1)]) :=
    (clocked_concat _ _).mpr ⟨hw.clocked, Gauge.allows_untimed _ hr _⟩
  have hg : Gauge.of (h ++ [(r, (w.answer r).1)]) = Gauge.of h := by
    rw [Gauge.of_concat, Gauge.after_untimed _ hr]
  have hE := hw.events
  refine ⟨⟨by omega, hcl⟩, ⟨?_, ?_, hcl, ?_⟩⟩
  · rw [harr, hev]
    exact hw.events
  · rw [hev]
    exact hw.whole
  · rw [hg, hclk]
    exact hw.clock

theorem steady_now (hw : Steady E w h) :
    Exact E (h ++ [(.now, .time w.clock)]) ∧ Steady E w (h ++ [(.now, .time w.clock)]) := by
  have harr : arrivals (h ++ [(.now, .time w.clock)]) = arrivals h := by
    rw [arrivals_append]
    rfl
  have hE := hw.events
  by_cases hg : Gauge.of h = .loose
  · have hcl := (clocked_concat h (.now, .time w.clock)).mpr ⟨hw.clocked, by rw [hg]; trivial⟩
    have hg' : Gauge.of (h ++ [(.now, .time w.clock)]) = .loose := by
      rw [Gauge.of_concat, hg]
      rfl
    exact ⟨⟨by omega, hcl⟩, ⟨by rw [harr]; exact hE, hw.whole, hcl, fun hne => absurd hg' hne⟩⟩
  · obtain ⟨c, hc, hb⟩ := hw.clock hg
    have hallow : (Gauge.of h).allows (.now, .time w.clock) := by
      rw [hc]
      cases hgh : Gauge.of h with
      | floor c₀ => exact ⟨c, rfl, hb c₀ hgh⟩
      | whole => exact ⟨c, rfl⟩
      | loose => exact absurd hgh hg
    have hcl := (clocked_concat h (.now, .time w.clock)).mpr ⟨hw.clocked, hallow⟩
    have hg' : Gauge.of (h ++ [(.now, .time w.clock)]) = .floor c := by
      rw [Gauge.of_concat, hc, Gauge.after_now hg]
    refine ⟨⟨by omega, hcl⟩, ⟨by rw [harr]; exact hE, hw.whole, hcl, fun _ => ⟨c, hc, ?_⟩⟩⟩
    rw [hg']
    intro c' hc'
    cases hc'
    exact Int.le_refl c

theorem steady_receive (hw : Steady E w h) (t : Number) (ph : Option Phase) :
    Exact E (h ++ [(.receive t ph, (w.receive t ph).1)]) ∧
      Steady E (w.receive t ph).2 (h ++ [(.receive t ph, (w.receive t ph).1)]) := by
  obtain ⟨e, hsrc, hx, hclk, hev⟩ := w.receive_spec t ph
  have hwhole : e.Whole := by
    rcases hsrc with ⟨-, rfl⟩ | hhead
    · trivial
    · exact hw.whole e (List.mem_of_head? hhead)
  -- a datagram uses up an event of the script
  have hused : arrivals [(.receive t ph, (w.receive t ph).1)] + w.events.tail.length ≤
      w.events.length := by
    rcases hsrc with ⟨hnil, rfl⟩ | hhead
    · rw [hx, hnil]
      cases hd : (NetEvent.timeout.deliver w.clock t w.defaultSource).1 with
      | arrived b s => exact absurd hd (NetEvent.deliver_timeout_ne _ _ _ b s)
      | _ => simp [Delivery.response, arrivals, Exchange.arrival?]
    · cases hev' : w.events with
      | nil => rw [hev'] at hhead; cases hhead
      | cons e' rest =>
        have := arrivals_single_le (.receive t ph, (w.receive t ph).1)
        simp only [List.tail_cons, List.length_cons]
        omega
  have hcl := (clocked_concat h (.receive t ph, (w.receive t ph).1)).mpr
    ⟨hw.clocked, by rw [hx]; exact Gauge.allows_response _ _ _ _⟩
  have hE := hw.events
  refine ⟨⟨?_, hcl⟩, ⟨?_, ?_, hcl, ?_⟩⟩
  · rw [arrivals_append]
    omega
  · rw [arrivals_append, hev]
    omega
  · rw [hev]
    exact fun e he => hw.whole e (List.mem_of_mem_tail he)
  · -- a receive that waited whole seconds leaves the clock whole, moved on by a timeout
    intro hg'
    rw [Gauge.of_concat] at hg' ⊢
    obtain ⟨hg, wt, rfl⟩ := Gauge.whole_of_after_receive hg'
    obtain ⟨c, hc, hb⟩ := hw.clock hg
    rw [hc] at hx hclk
    obtain ⟨⟨c', hc'⟩, hto⟩ := NetEvent.deliver_whole hwhole c wt w.defaultSource
    refine ⟨c', hclk.trans hc', Gauge.below_after_receive hb ph _ fun hto' => ?_⟩
    rw [hx] at hto'
    have := hc'.symm.trans (hto (Delivery.eq_timedOut hto'))
    exact Number.int.inj this

/-- A steady world's answers are exact surroundings, and it stays steady. -/
theorem steady_answers : Answers (Exact E) (Steady E) := by
  intro w h r hw
  cases hr : r.timed with
  | false => exact steady_untimed hw hr
  | true =>
    cases r with
    | now => exact steady_now hw
    | receive t ph => exact steady_receive hw t ph
    | _ => exact Bool.noConfusion hr

end World

namespace Setup

variable {E : Nat}

/-- A session created on readings in whole seconds, with a timer in whole seconds, is
    calibrated. -/
theorem calibrated_initial (st : Setup) {d t₀ t₂ : Int} (hd : st.policy.seconds = .int d)
    (x₁ : Response) :
    Calibrated st.policy st.kind 0 (st.initial (.int (t₀ + d)) x₁ (.time (.int t₂)))
      [(.now, .time (.int t₀)), (.localAddress, x₁), (.now, .time (.int t₂))] where
  policy := rfl
  seconds := ⟨d, hd⟩
  kind := by
    obtain ⟨kind, client, peer, filename, mode, policy, initialBlock⟩ := st
    cases kind <;> cases initialBlock <;> rfl
  expiry := ⟨_, rfl⟩
  budget := Nat.zero_le _
  gauge := by simp [Gauge.of, Gauge.after]
  arrivals := rfl

/-- In exact surroundings the creation of a session does not fail, and the session is
    calibrated. -/
theorem always_create_calibrated (st : Setup) (hsec : ∃ d, st.policy.seconds = .int d)
    {post : Except Failure Session → List Exchange → Prop}
    (hpost : ∀ s h, Calibrated st.policy st.kind 0 s h → post (.ok s) h) :
    st.create.Always (Exact E) post [] := by
  obtain ⟨d, hd⟩ := hsec
  unfold create
  intro x₀ hx₀
  obtain ⟨t₀, rfl, -⟩ := Exact.reading hx₀ (by simp)
  rw [List.nil_append] at hx₀
  dsimp only [Program.bind, List.nil_append]
  rw [hd]
  intro x₁ hx₁ x₂ hx₂
  obtain ⟨t₂, rfl, -⟩ := Exact.reading hx₂ (by simp [Gauge.of, Gauge.after])
  exact hpost _ _ (st.calibrated_initial hd x₁)

/-- In exact surroundings fuel beyond the bound changes nothing in a whole session. -/
theorem agree_program (st : Setup) (hsec : ∃ d, st.policy.seconds = .int d) {n : Nat}
    (hn : (E + 1) * (st.policy.retries + 2) ≤ n) (extra : Nat) :
    Program.Agree (Exact E) (st.program (n + extra)) (st.program n) [] := by
  unfold program
  show Program.Agree _ (Program.bind st.create _) (Program.bind st.create _) []
  refine Program.Agree.bind (Program.Agree.refl _ _) (st.always_create_calibrated hsec ?_)
  intro s h hc
  show Program.Agree _ (Program.bind ((Session.run (n + extra)).run.run s) _)
    (Program.bind ((Session.run n).run.run s) _) h
  exact Program.Agree.bind (Session.same_run hc (Nat.zero_le E) hn extra)
    (Program.always_of_forall (fun _ _ => Program.Agree.refl _ _) _ _)

/-- In exact surroundings a whole session with enough fuel ends: it closes, or a failure
    escapes it. -/
theorem program_ends (st : Setup) (hsec : ∃ d, st.policy.seconds = .int d) {n : Nat}
    (hn : (E + 1) * (st.policy.retries + 2) ≤ n) :
    (st.program n).Always (Exact E)
      (fun res _ => ∀ ending s, res = .ok (ending, s) → ending ≠ .unfinished) [] := by
  unfold program
  show Program.Always _ _ (Program.bind st.create _) []
  rw [Program.always_bind]
  apply st.always_create_calibrated hsec
  intro s h hc
  show Program.Always _ _ (Program.bind ((Session.run n).run.run s) _) h
  rw [Program.always_bind]
  apply Program.Always.mono _ (Session.wp_run_ended hc (Nat.zero_le E) hn)
  rintro ⟨r, s'⟩ h' hr
  rcases r with e | _ | _
  · rintro ending s'' ⟨⟩
    exact fun hu => nomatch hu
  · exact absurd (hr false rfl) Bool.false_ne_true
  · rintro ending s'' ⟨⟩
    exact fun hu => nomatch hu

end Setup

namespace Transfer

/-- A world whose clock starts at whole seconds and whose datagrams come after whole delays is
    steady before the first request. -/
theorem steady_start (w : World) (hclock : ∃ c, w.clock = .int c)
    (hwhole : ∀ e ∈ w.events, e.Whole) : World.Steady w.events.length w [] where
  events := by simp
  whole := hwhole
  clocked := trivial
  clock := fun _ => by
    obtain ⟨c, hc⟩ := hclock
    exact ⟨c, hc, fun _ hg => nomatch hg⟩

/-- The bound of a transfer's loops covers the steps left and the dally. -/
theorem fuel_le_bound (E R : Nat) : (E + 1) * (R + 2) ≤ bound E R := by
  have := Nat.mul_le_mul (show E + 1 ≤ E + 2 by omega) (show R + 2 ≤ R + 4 by omega)
  unfold bound
  omega

/-- A transfer in a scripted world whose clock starts at whole seconds, whose datagrams come
    after whole delays and whose timer counts whole seconds ends within its bound: its run does
    not change with more fuel, and it does not stop for want of fuel. -/
theorem run_ends_within_bound (st : Setup) (w : World) (hclock : ∃ c, w.clock = .int c)
    (hwhole : ∀ e ∈ w.events, e.Whole) (hsec : ∃ d, st.policy.seconds = .int d) :
    (∀ extra, World.run (st.program (bound w.events.length st.policy.retries + extra)) w =
      World.run (st.program (bound w.events.length st.policy.retries)) w) ∧
    ∀ t, run st w = .ok t → t.ended = true := by
  have hw := steady_start w hclock hwhole
  have hn := fuel_le_bound w.events.length st.policy.retries
  refine ⟨fun extra => World.run_agree World.steady_answers _ _ w []
    (st.agree_program hsec hn extra) hw, fun t ht => ?_⟩
  have hends := World.run_always World.steady_answers _ w [] (st.program_ends hsec hn) hw
  dsimp only [run] at ht
  generalize World.run (st.program (bound w.events.length st.policy.retries)) w = r at ht hends
  obtain ⟨res, w'⟩ := r
  rcases res with e | ⟨ending, s⟩
  · exact nomatch ht
  · cases ht
    have hne := hends ending s rfl
    unfold ended
    cases ending
    · rfl
    · rfl
    · exact absurd rfl hne

end Transfer

end Tftp
