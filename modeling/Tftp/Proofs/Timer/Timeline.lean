import Tftp.Proofs.Steps

/-! # The retransmission timer as the exchanges show it

    A session's timer is four numbers of its state: the packet it transmitted fresh last, how
    often it resent that packet, how often it resent any packet, and when the timer expires
    (`Session.timer`).  The same four can be read off the exchanges alone, by the `Timeline`
    that `Timeline.of` folds over them.

    A datagram is told apart by the exchange just before it (`Cause`): right after a clock
    reading it is a retransmission, since a session reads the clock just before it resends and
    never just before anything else it sends, except the request that opens a transfer, when
    there is nothing to resend yet.  Right after a receive, or a pipe call that failed, it is an
    answer: an acknowledgement sent again, a refusal to a foreign source, or a fault reported to
    the peer.  Otherwise it is a fresh transmission.  The clock reading right after a
    transmission, fresh or repeated, restarts the timer, and so do the reading when the session
    is created and the one right after a receiver hands the handler the end of the stream.

    `Obeys` is the retry discipline on a run of exchanges, each checked against the timeline
    before it (`Fine`): a retransmission repeats the last fresh transmission, which was repeated
    fewer than `retries` times before; a receive waits exactly the time the timer has left,
    which is more than nothing; a report counts every retransmission.  `Timed` says that a
    session's timer is the timeline of its exchanges and that these obey the discipline. -/

namespace Tftp

/-- The numbers of a retransmission timer. -/
structure Timer where
  /-- the datagram of the last fresh transmission -/
  fresh : Option (List UInt8)
  /-- retransmissions since it -/
  since : Nat
  /-- retransmissions in the whole run -/
  total : Nat
  /-- when the timer expires -/
  expiry : Number

/-- Why a session sends a datagram, as the exchange just before the send shows. -/
inductive Cause where
  /-- right after a clock reading: the timer ran out -/
  | clock
  /-- right after a receive, or a pipe call that failed: an answer to what happened -/
  | reply
  /-- anything else: a block read from or written to the pipe, or the opening of a transfer -/
  | fresh
  deriving DecidableEq, Repr

/-- The timer as the exchanges so far show it, with the last clock reading, whether the next
    reading restarts the timer, and what a datagram sent next would be. -/
structure Timeline where
  timer : Timer
  reading : Number
  armed : Bool
  cause : Cause

namespace Timeline

/-- Before the first exchange: the first clock reading starts the timer. -/
def start : Timeline := ⟨⟨none, 0, 0, 0⟩, 0, true, .fresh⟩

/-- A datagram went out: a retransmission right after a clock reading, if a fresh transmission
    was made; an answer after a receive or a failed pipe call; a fresh transmission otherwise. -/
def sent (v : Timeline) (bytes : List UInt8) : Timeline :=
  match v.cause, v.timer.fresh with
  | .clock, some _ =>
    { v with timer := { v.timer with since := v.timer.since + 1, total := v.timer.total + 1 },
             armed := true, cause := .fresh }
  | .reply, _ => { v with armed := false, cause := .fresh }
  | _, _ =>
    { v with timer := { v.timer with fresh := some bytes, since := 0 }, armed := true,
             cause := .fresh }

/-- The timeline after one more exchange. -/
def record (seconds : Number) (v : Timeline) : Exchange → Timeline
  | (.send bytes _, x) =>
    if x.failedSend then { v with armed := false, cause := .fresh } else v.sent bytes
  | (.now, x) =>
    { v with
      timer := { v.timer with
        expiry := if v.armed then ((Setup.clockOf x).add? seconds).getD v.timer.expiry
          else v.timer.expiry }
      reading := Setup.clockOf x, armed := false, cause := .clock }
  | (.receive _ _, _) => { v with armed := false, cause := .reply }
  | (.stream _, x) =>
    { v with armed := false, cause := if x.streamFailed then .reply else .fresh }
  | (.closeStream e, _) => { v with armed := e.isNone, cause := .fresh }
  | (_, _) => { v with armed := false, cause := .fresh }

/-- The timeline of a run of exchanges, for a timer of `seconds`. -/
def of (seconds : Number) (h : List Exchange) : Timeline :=
  h.foldl (record seconds) start

/-- What one exchange must keep, from the timeline before it: a datagram sent right after a clock
    reading repeats the last fresh transmission, repeated fewer than `retries` times so far; a
    receive waits exactly the time the timer has left at the clock reading just before it, which
    is more than nothing; a report counts every retransmission. -/
def Fine (retries : Nat) (v : Timeline) : Exchange → Prop
  | (.send bytes _, _) =>
    v.cause = .clock → ∀ f, v.timer.fresh = some f → bytes = f ∧ v.timer.since < retries
  | (.receive t _, _) =>
    v.cause = .clock ∧ v.timer.expiry.sub? v.reading = some t ∧ t.isNonpos = false
  | (.report stats, _) => stats.retransmits = v.timer.total
  | _ => True

/-- The exchanges, from the timeline `v`, each keep what `Fine` asks. -/
def Obeys (seconds : Number) (retries : Nat) : Timeline → List Exchange → Prop
  | _, [] => True
  | v, e :: rest => Fine retries v e ∧ Obeys seconds retries (v.record seconds e) rest

variable {seconds : Number} {retries : Nat}

theorem of_append (h δ : List Exchange) :
    of seconds (h ++ δ) = δ.foldl (record seconds) (of seconds h) :=
  List.foldl_append

@[simp] theorem of_concat (h : List Exchange) (e : Exchange) :
    of seconds (h ++ [e]) = (of seconds h).record seconds e := by
  simp [of_append]

@[simp] theorem obeys_nil (v : Timeline) : Obeys seconds retries v [] := trivial

@[simp] theorem obeys_cons (v : Timeline) (e : Exchange) (rest : List Exchange) :
    Obeys seconds retries v (e :: rest) ↔
      Fine retries v e ∧ Obeys seconds retries (v.record seconds e) rest := Iff.rfl

theorem obeys_append (v : Timeline) (δ₁ δ₂ : List Exchange) :
    Obeys seconds retries v (δ₁ ++ δ₂) ↔
      Obeys seconds retries v δ₁ ∧ Obeys seconds retries (δ₁.foldl (record seconds) v) δ₂ := by
  induction δ₁ generalizing v with
  | nil => simp
  | cons e δ ih => simp [ih, and_assoc]

/-! ## One exchange at a time -/

section Record

variable (v : Timeline)

@[simp] theorem record_sent (bytes : List UInt8) (target : Address) (x : Response)
    (hx : x.failedSend = false) : v.record seconds (.send bytes target, x) = v.sent bytes := by
  simp [record, hx]

@[simp] theorem record_sendFailed (bytes : List UInt8) (target : Address) (reason : String) :
    v.record seconds (.send bytes target, .sendFailed reason) =
      { v with armed := false, cause := .fresh } := rfl

@[simp] theorem record_now (x : Response) :
    v.record seconds (.now, x) =
      { v with
        timer := { v.timer with
          expiry := if v.armed then ((Setup.clockOf x).add? seconds).getD v.timer.expiry
            else v.timer.expiry }
        reading := Setup.clockOf x, armed := false, cause := .clock } := rfl

@[simp] theorem record_receive (t : Number) (ph : Option Phase) (y : Response) :
    v.record seconds (.receive t ph, y) = { v with armed := false, cause := .reply } := rfl

@[simp] theorem record_stream (c : Call) (y : Response) :
    v.record seconds (.stream c, y) =
      { v with armed := false, cause := if y.streamFailed then .reply else .fresh } := rfl

@[simp] theorem record_closeStream (e : Option Failure) (y : Response) :
    v.record seconds (.closeStream e, y) = { v with armed := e.isNone, cause := .fresh } := rfl

@[simp] theorem record_localAddress (y : Response) :
    v.record seconds (.localAddress, y) = { v with armed := false, cause := .fresh } := rfl

@[simp] theorem record_closeSocket (y : Response) :
    v.record seconds (.closeSocket, y) = { v with armed := false, cause := .fresh } := rfl

@[simp] theorem record_report (stats : Stats) (y : Response) :
    v.record seconds (.report stats, y) = { v with armed := false, cause := .fresh } := rfl

/-- A datagram sent right after a clock reading repeats the last fresh transmission. -/
theorem sent_of_clock {f : List UInt8} (hc : v.cause = .clock) (hf : v.timer.fresh = some f)
    (bytes : List UInt8) :
    v.sent bytes =
      { v with timer := { v.timer with since := v.timer.since + 1, total := v.timer.total + 1 },
               armed := true, cause := .fresh } := by
  unfold sent
  rw [hc, hf]

/-- An answer leaves the timer as it was. -/
theorem sent_of_reply (hc : v.cause = .reply) (bytes : List UInt8) :
    v.sent bytes = { v with armed := false, cause := .fresh } := by
  unfold sent
  rw [hc]

/-- A datagram that is neither an answer nor a retransmission is fresh. -/
theorem sent_of_fresh (hc : v.cause ≠ .reply) (hf : v.cause = .clock → v.timer.fresh = none)
    (bytes : List UInt8) :
    v.sent bytes =
      { v with timer := { v.timer with fresh := some bytes, since := 0 }, armed := true,
               cause := .fresh } := by
  unfold sent
  cases hcause : v.cause with
  | clock => rw [hf hcause]
  | reply => exact absurd hcause hc
  | fresh => rfl

/-- An answer, sent or not, leaves the timer alone. -/
@[simp] theorem record_answer (hc : v.cause = .reply) (bytes : List UInt8) (target : Address)
    (x : Response) :
    v.record seconds (.send bytes target, x) = { v with armed := false, cause := .fresh } := by
  cases hx : x.failedSend with
  | false => rw [record_sent _ _ _ _ hx, sent_of_reply _ hc]
  | true => cases x <;> simp_all [Response.failedSend, record]

end Record

/-- No exchange the discipline allows brings the retransmissions of one datagram past
    `retries`. -/
theorem since_record_le {v : Timeline} {e : Exchange} (hfine : Fine retries v e)
    (hv : v.timer.since ≤ retries) : (v.record seconds e).timer.since ≤ retries := by
  obtain ⟨r, x⟩ := e
  cases r with
  | send bytes target =>
    cases hx : x.failedSend with
    | true => cases x <;> simp_all [Response.failedSend, record]
    | false =>
      rw [record_sent _ _ _ _ hx]
      unfold sent
      split
      · next f hc hf =>
        have hlt := (hfine hc f hf).2
        simp only
        omega
      · exact hv
      · exact Nat.zero_le _
  | now => exact hv
  | localAddress => exact hv
  | receive t ph => exact hv
  | closeSocket => exact hv
  | stream c => exact hv
  | closeStream e => exact hv
  | report stats => exact hv

/-- Along exchanges that obey the discipline, a datagram is never repeated more than `retries`
    times. -/
theorem Obeys.since_le {v : Timeline} {δ : List Exchange} (ho : Obeys seconds retries v δ)
    (hv : v.timer.since ≤ retries) : (δ.foldl (record seconds) v).timer.since ≤ retries := by
  induction δ generalizing v with
  | nil => exact hv
  | cons e δ ih => exact ih ho.2 (since_record_le ho.1 hv)

end Timeline

/-! ## The session's timer -/

namespace Session

/-- The session's timer: the datagram of the packet it transmitted last, its retransmissions
    since and in all, and when the timer expires. -/
def timer (s : Session) : Timer :=
  ⟨s.lastPacket.bind (fun p => p.encode.toOption), s.retransmits, s.totalRetransmits, s.expiry⟩

@[simp] theorem timer_countSent (s : Session) : s.countSent.timer = s.timer := rfl
@[simp] theorem timer_pinTo (s : Session) (source : Address) : (s.pinTo source).timer = s.timer := by
  unfold pinTo
  split <;> rfl
@[simp] theorem timer_failWith (s : Session) (f : Fault) : (s.failWith f).timer = s.timer := rfl
@[simp] theorem timer_countRetransmit (s : Session) :
    s.countRetransmit.timer =
      { s.timer with since := s.timer.since + 1, total := s.timer.total + 1 } := rfl

/-- The timeline of the exchanges `h`, for the session's timeout. -/
def timeline (s : Session) (h : List Exchange) : Timeline := Timeline.of s.policy.seconds h

@[simp] theorem timeline_append (s : Session) (h δ : List Exchange) :
    s.timeline (h ++ δ) = δ.foldl (Timeline.record s.policy.seconds) (s.timeline h) :=
  Timeline.of_append h δ

theorem timeline_concat (s : Session) (h : List Exchange) (e : Exchange) :
    s.timeline (h ++ [e]) = (s.timeline h).record s.policy.seconds e :=
  Timeline.of_concat h e

theorem timeline_congr {s s' : Session} (hpol : s'.policy = s.policy) (h : List Exchange) :
    s'.timeline h = s.timeline h := by
  simp [timeline, hpol]

/-- The session's timer is the timeline of its exchanges, and these obey the retry discipline. -/
structure Timed (s : Session) (h : List Exchange) : Prop where
  tracks : (s.timeline h).timer = s.timer
  obeys : Timeline.Obeys s.policy.seconds s.policy.retries .start h

/-- A session whose timer keeps to its timeline has resent its last datagram at most `retries`
    times. -/
theorem Timed.retransmits_le {s : Session} {h : List Exchange} (ht : Timed s h) :
    s.retransmits ≤ s.policy.retries := by
  calc s.retransmits = (s.timeline h).timer.since := (congrArg Timer.since ht.tracks).symm
    _ ≤ s.policy.retries := ht.obeys.since_le (Nat.zero_le _)

end Session

end Tftp
