import Tftp.Proofs.Scaling.Session
import Tftp.Proofs.Progress.Termination

/-! # A transfer in a finer unit of time

    The scripted world keeps a clock and moves it by the time a receive waits or by the delay of
    a datagram; it records the time each receive waited and the statistics the session reports.
    Counted in a unit `c` times smaller, every reading, wait and delay is `c` times larger (a
    flag given as a delay counts as the integer 0 or 1), and the world answers each scaled
    request with its answer scaled (`World.answer_scale`).  A program that runs as a session
    does on the scaled clock so runs in the scaled world to the scaled copy of its run
    (`World.run_scaled`).

    Main statement (`Transfer.run_scale`): a transfer whose times are counted in a unit `c` times
    smaller is the transfer counted in the larger unit, with its session and its world scaled;
    it ends the same way and returns the same statistics, their times scaled.  What holds of
    transfers whose timer, clock and delays are whole numbers of seconds holds of those whose
    times are whole multiples of any unit. -/

namespace Tftp

/-- A delay counted in a unit `c` times smaller: a whole number is `c` times larger, a flag
    counting as 0 or 1.  Any other value stays as it is. -/
def Value.scale (c : Int) : Value → Value
  | .bool b => .int (c * if b then 1 else 0)
  | .int n => .int (c * n)
  | v => v

/-- The delay moves the clock by its number scaled. -/
theorem Value.toNumber?_scale (c : Int) (v : Value) :
    (v.scale c).toNumber? = v.toNumber?.map (Number.scale c) := by
  cases v <;> rfl

namespace NetEvent

/-- The event counted in a unit `c` times smaller: the delay of a datagram. -/
def scale (c : Int) : NetEvent → NetEvent
  | .datagram payload source delay => .datagram payload source (delay.scale c)
  | e => e

variable (c : Int) {e : NetEvent}

/-- On the scaled clock, after the scaled wait, the event delivers the same and moves the clock
    to the scaled time. -/
theorem deliver_scale (he : e.Whole) (n t : Int) (source : Address) :
    (e.scale c).deliver (.int (c * n)) (.int (c * t)) source =
      ((e.deliver (.int n) (.int t) source).1, (e.deliver (.int n) (.int t) source).2.scale c) := by
  cases e with
  | timeout => simp [scale, deliver, Number.advance, Int.mul_add]
  | failure reason => rfl
  | datagram payload src delay =>
    -- a number moves the clock; any other delay fails the receive, naming the same types
    cases delay with
    | float x => exact he.elim
    | bool b =>
      simp only [scale, Value.scale, deliver, Number.advanceBy, Value.toNumber?, Number.advance,
        Number.int_add?_int, ← Int.mul_add]
      split <;> rfl
    | int m =>
      simp only [scale, Value.scale, deliver, Number.advanceBy, Value.toNumber?, Number.advance,
        Number.int_add?_int, ← Int.mul_add]
      split <;> rfl
    | _ => rfl

end NetEvent

/-- The record counted in a unit `c` times smaller: the time a receive waited. -/
def SocketRecord.scale (c : Int) : SocketRecord → SocketRecord
  | .received event timeout phase => .received event (timeout.scale c) phase
  | r => r

namespace World

/-- The world counted in a unit `c` times smaller: its clock, the delays of its events, the
    waits it recorded and the times of the statistics it was given. -/
def scale (c : Int) (w : World) : World :=
  { w with events := w.events.map (NetEvent.scale c), clock := w.clock.scale c,
           records := w.records.map (SocketRecord.scale c),
           reports := w.reports.map (Stats.scale c) }

/-- The clock of the world reads whole seconds, and no datagram to come has a delay in
    doubles. -/
structure Whole (w : World) : Prop where
  clock : w.clock.Whole
  events : ∀ e ∈ w.events, e.Whole

section Fields

variable (c : Int) (w : World)

@[simp] theorem scale_events : (w.scale c).events = w.events.map (NetEvent.scale c) := rfl
@[simp] theorem scale_used : (w.scale c).used = w.used := rfl
@[simp] theorem scale_clock : (w.scale c).clock = w.clock.scale c := rfl
@[simp] theorem scale_sends : (w.scale c).sends = w.sends := rfl
@[simp] theorem scale_failingSends : (w.scale c).failingSends = w.failingSends := rfl
@[simp] theorem scale_localAddress : (w.scale c).localAddress = w.localAddress := rfl
@[simp] theorem scale_defaultSource : (w.scale c).defaultSource = w.defaultSource := rfl
@[simp] theorem scale_records : (w.scale c).records = w.records.map (SocketRecord.scale c) := rfl
@[simp] theorem scale_pipe : (w.scale c).pipe = w.pipe := rfl
@[simp] theorem scale_handler : (w.scale c).handler = w.handler := rfl
@[simp] theorem scale_reports : (w.scale c).reports = w.reports.map (Stats.scale c) := rfl

end Fields

variable {c : Int}

/-! ## The world's answers -/

/-- A call on the pipe moves only the pipe and the handler, which are not scaled. -/
theorem perform_scale (c : Int) : ∀ (n : Nat) (call : Call) (w : World),
    perform n call (w.scale c) = ((perform n call w).1, (perform n call w).2.scale c)
  | 0, _, _ => rfl
  | n + 1, call, w => by
    cases hen : call.enabled w.pipe
    · -- the call waits, and the handler runs
      simp only [perform, scale_pipe, scale_handler, hen, Bool.false_eq_true, if_false]
      exact perform_scale c n call
        { w with handler := (w.handler.advance w.pipe).1, pipe := (w.handler.advance w.pipe).2 }
    · simp only [perform, scale_pipe, hen, if_true]
      cases call.step w.pipe with
      | returns r p => rfl
      | continues call' p => exact perform_scale c n call' { w with pipe := p }

theorem finishHandler_scale (w : World) : (w.scale c).finishHandler = w.finishHandler.scale c :=
  rfl

theorem closeSessionEnd_scale (w : World) (e : Option Failure) :
    (w.scale c).closeSessionEnd e = (w.closeSessionEnd e).scale c := by
  unfold closeSessionEnd
  simp only [scale_handler]
  cases w.handler.side <;> rfl

theorem record_scale (w : World) (r : SocketRecord) :
    (w.scale c).record (r.scale c) = (w.record r).scale c := by
  simp [record, scale]

theorem send_scale (w : World) (bytes : List UInt8) (target : Address) :
    (w.scale c).send bytes target = ((w.send bytes target).1, (w.send bytes target).2.scale c) := by
  have hrec := record_scale (c := c) w (.sent bytes target (w.failingSends.contains w.sends))
  simp only [send, scale_failingSends, scale_sends]
  rw [show SocketRecord.sent bytes target (w.failingSends.contains w.sends) =
    (SocketRecord.sent bytes target (w.failingSends.contains w.sends)).scale c from rfl, hrec]
  rfl

/-- A receive that waits the scaled time takes the next event as the receive in the larger unit
    does, records its wait scaled, and moves the clock to the scaled time. -/
theorem receive_scale {w : World} (hw : w.Whole) (t : Int) (phase : Option Phase) :
    (w.scale c).receive (.int (c * t)) phase =
      ((w.receive (.int t) phase).1, (w.receive (.int t) phase).2.scale c) := by
  obtain ⟨n, hn⟩ := hw.clock
  unfold receive
  -- the next event, or a timeout once they ran out; its delivery is scaled
  cases hev : w.events with
  | nil =>
    have hdel : NetEvent.timeout.deliver (.int (c * n)) (.int (c * t)) w.defaultSource =
        ((NetEvent.timeout.deliver (.int n) (.int t) w.defaultSource).1,
          (NetEvent.timeout.deliver (.int n) (.int t) w.defaultSource).2.scale c) :=
      NetEvent.deliver_scale c (e := .timeout) trivial n t w.defaultSource
    simp only [scale_events, hev, List.map_nil, record, scale_records, scale_clock, hn,
      Number.scale_int, scale_defaultSource, hdel]
    generalize NetEvent.timeout.deliver (.int n) (.int t) w.defaultSource = d
    obtain ⟨delivery, clock⟩ := d
    simp [scale, SocketRecord.scale]
  | cons e rest =>
    have hdel := NetEvent.deliver_scale c (hw.events e (by simp [hev])) n t w.defaultSource
    simp only [scale_events, hev, List.map_cons, record, scale_records, scale_clock, hn,
      Number.scale_int, scale_defaultSource, scale_used, hdel]
    generalize e.deliver (.int n) (.int t) w.defaultSource = d
    obtain ⟨delivery, clock⟩ := d
    simp [scale, SocketRecord.scale]

theorem receive_whole {w : World} (hw : w.Whole) (t : Int) (phase : Option Phase) :
    (w.receive (.int t) phase).2.Whole := by
  obtain ⟨n, hn⟩ := hw.clock
  unfold receive
  cases hev : w.events with
  | nil =>
    simp only [record, hn]
    exact ⟨(NetEvent.deliver_whole (e := .timeout) trivial n t w.defaultSource).1, by simp [hev]⟩
  | cons e rest =>
    have he : e.Whole := hw.events e (by simp [hev])
    simp only [record, hn]
    exact ⟨(NetEvent.deliver_whole he n t w.defaultSource).1,
      fun e' he' => hw.events e' (by simp [hev, he'])⟩

/-- The world's answer is one its request can get: a whole reading of the clock, or no reading
    at all. -/
theorem answer_fits {w : World} (hw : w.Whole) (r : Request) : r.Answer (w.answer r).1 := by
  cases r with
  | now =>
    obtain ⟨n, hn⟩ := hw.clock
    exact ⟨n, by rw [answer, hn]⟩
  | send bytes target =>
    intro t
    simp only [answer, send]
    split <;> simp
  | receive timeout phase =>
    intro t
    simp only [answer, receive]
    split <;> simp
  | _ => intro t; simp [answer]

/-- The scaled world answers a scaled request with the answer of the world, scaled, and is left
    as the world is, scaled. -/
theorem answer_scale {w : World} (hw : w.Whole) {r : Request} (hr : r.Whole) :
    (w.scale c).answer (r.scale c) = ((w.answer r).1.scale c, (w.answer r).2.scale c) := by
  cases r with
  | now => rfl
  | localAddress => rfl
  | send bytes target =>
    rw [Response.scale_of_ne_time (answer_fits hw (.send bytes target))]
    exact send_scale w bytes target
  | receive timeout phase =>
    obtain ⟨t, rfl⟩ := hr
    rw [Response.scale_of_ne_time (answer_fits hw (.receive (.int t) phase))]
    exact receive_scale hw t phase
  | closeSocket => exact congrArg (Prod.mk _) (record_scale w .closed)
  | stream call =>
    simp only [Request.scale, answer, perform_scale]
    rfl
  | closeStream e => exact congrArg (Prod.mk _) (closeSessionEnd_scale w e)
  | report st => simp [Request.scale, answer, scale, Response.scale]

/-- An answer other than a reading or a receive leaves the times of the world as they are. -/
theorem whole_of_untimed {w : World} (hw : w.Whole) {r : Request} (hr : r.timed = false) :
    (w.answer r).2.Whole := by
  obtain ⟨hev, hclock⟩ := answer_untimed w hr
  exact ⟨hclock ▸ hw.clock, hev ▸ hw.events⟩

theorem answer_whole {w : World} (hw : w.Whole) {r : Request} (hr : r.Whole) :
    (w.answer r).2.Whole := by
  cases r with
  | now => exact hw
  | receive timeout phase =>
    obtain ⟨t, rfl⟩ := hr
    exact receive_whole hw t phase
  | _ => exact whole_of_untimed hw rfl

/-- A program that runs as another on the scaled clock runs in the scaled world to the scaled
    copy of the other's run: its value is related to the other's, and the world is scaled. -/
theorem run_scaled {α β : Type} {R : α → β → Prop} :
    ∀ (p : Program α) (q : Program β) (w : World), Program.Scaled c R p q → w.Whole →
      R (run p w).1 (run q (w.scale c)).1 ∧ (run q (w.scale c)).2 = (run p w).2.scale c
  | .done a, q, w, ⟨b, hq, hab⟩, _ => by
    subst hq
    exact ⟨hab, rfl⟩
  | .ask r k, q, w, ⟨hr, k', hq, hk⟩, hw => by
    subst hq
    -- the answer in the scaled world is the answer scaled, and the worlds stay so
    rw [run_ask, run_ask, answer_scale hw hr]
    exact run_scaled (k (w.answer r).1) _ _ (hk _ (answer_fits hw r)) (answer_whole hw hr)

end World

namespace Transfer

/-- The transfer counted in a unit `c` times smaller: its session and its world. -/
def scale (c : Int) (t : Transfer) : Transfer :=
  ⟨t.ending, t.session.scale c, t.world.scale c⟩

variable {c : Int}

/-- A transfer whose times are counted in a unit `c` times smaller: its setup's timer, its
    world's clock and the delays of its datagrams `c` times larger.  It is the transfer in the
    larger unit, with its session and its world scaled. -/
theorem run_scale (hc : 0 < c) (st : Setup) (w : World) (hsec : st.policy.seconds.Whole)
    (hw : w.Whole) : run (st.scale c) (w.scale c) = (run st w).map (Transfer.scale c) := by
  have hfuel : bound (w.scale c).events.length (st.scale c).policy.retries =
      bound w.events.length st.policy.retries := by
    simp [Setup.scale]
  simp only [run, hfuel]
  obtain ⟨hres, hworld⟩ := World.run_scaled _ _ w (st.program_scaled hc _ hsec) hw
  generalize World.run (st.program (bound w.events.length st.policy.retries)) w = x at hres hworld
  generalize World.run ((st.scale c).program (bound w.events.length st.policy.retries))
    (w.scale c) = y at hres hworld
  obtain ⟨r, w₁⟩ := x
  obtain ⟨r', w₁'⟩ := y
  dsimp only at hres hworld
  subst hres hworld
  rcases r with e | ⟨ending, s⟩
  · rfl
  · rfl

/-- In the finer unit the transfer ends as it does in the larger one. -/
theorem ended_scale (t : Transfer) : (t.scale c).ended = t.ended := rfl

/-- In the finer unit the transfer returns the statistics it returns in the larger one, their
    times scaled, or the same failure. -/
theorem result_scale (t : Transfer) : (t.scale c).result = t.result.map (Stats.scale c) := by
  unfold result
  simp only [scale, Session.scale_error, Session.scale_stats]
  split <;> rfl

end Transfer

end Tftp
