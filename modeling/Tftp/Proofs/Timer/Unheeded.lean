import Tftp.Proofs.Dally
import Tftp.Proofs.Dropped
import Tftp.Proofs.Progress.Exact

/-! # The retry budget when nothing the peer sends is of use

    Every run keeps the discipline of `Timer.Run`: a datagram goes out again only after a clock
    reading, it repeats the last fresh transmission, and a timeout comes only once the budget is
    spent.  Here is the other half.  The check that ends each step of a waiting session acts on
    every expiry: a reading that finds the timer run out is followed by the resend of the last
    fresh transmission while the budget lasts, and by the timeout after (`wp_expire_overdue`).

    Put together over a whole wait: a session that waits for its peer, sender or receiver,
    client or server, and hears nothing it has a use for (`Session.Unheeded`), resends its
    datagram once for each resend left in its budget and then fails with the timeout, within any
    bound of steps above that budget and the datagrams that may arrive meanwhile
    (`wp_loop_unheeded`).  The datagrams that arrive on the way may be malformed, come from a
    foreign source, be packets of another kind or block, or repeat the last block a receiver
    took; they may come late, after the timer ran out.  None of them restarts the timer or
    counts against the budget, and what they get back, a refusal or the acknowledgement sent
    again, is an answer and no transmission (`transmissions`).

    The clock is the host's: it reads doubles, and it keeps the deadlines it was waited for
    (`Session.Lapses`): a receive that waits out the time left to a deadline ends past it, and a
    deadline once passed stays passed.  Nothing here asks for whole seconds. -/

namespace Tftp

namespace Exchange

/-- A datagram sent right after the exchange answers it: after a receive, or after a call on
    the pipe that failed. -/
def answered : Exchange → Bool
  | (.receive _ _, _) => true
  | (.stream _, x) => x.streamFailed
  | _ => false

/-- The datagram the exchange sent, if it went out. -/
def delivered? : Exchange → Option (List UInt8)
  | (.send bytes _, x) => if x.failedSend then none else some bytes
  | _ => none


/-- Only a receive that got a datagram brings one. -/
theorem arrival?_eq_some {e : Exchange} {v : List UInt8 × Address} (he : e.arrival? = some v) :
    ∃ t ph, e = (.receive t ph, .datagram v.1 v.2) := by
  unfold arrival? at he
  split at he
  · cases he
    exact ⟨_, _, rfl⟩
  · cases he

end Exchange

@[simp] theorem arrivals_now_cons (x : Response) (δ : List Exchange) :
    arrivals ((.now, x) :: δ) = arrivals δ := rfl

/-- The datagrams that the exchanges transmitted, fresh or again, after the exchange `prev`:
    every datagram that went out, but the answers. -/
def transmissions : Option Exchange → List Exchange → List (List UInt8)
  | _, [] => []
  | prev, e :: rest =>
    (if prev.any Exchange.answered then [] else e.delivered?.toList) ++ transmissions (some e) rest

@[simp] theorem transmissions_nil (prev : Option Exchange) : transmissions prev [] = [] := rfl

@[simp] theorem transmissions_cons (prev : Option Exchange) (e : Exchange) (rest : List Exchange) :
    transmissions prev (e :: rest) =
      (if prev.any Exchange.answered then [] else e.delivered?.toList) ++
        transmissions (some e) rest := rfl

/-- A run that goes on with a clock reading transmits what the part before it transmitted and
    then what the rest transmits on its own. -/
theorem transmissions_append_now (prev : Option Exchange) (δ rest : List Exchange) (x : Response) :
    transmissions prev (δ ++ (.now, x) :: rest) =
      transmissions prev δ ++ transmissions none ((.now, x) :: rest) := by
  induction δ generalizing prev with
  | nil => simp [Exchange.delivered?]
  | cons e δ ih => simp [ih]

/-- A clock reading transmits nothing. -/
theorem transmissions_append_reading (prev : Option Exchange) (δ : List Exchange) (x : Response) :
    transmissions prev (δ ++ [(.now, x)]) = transmissions prev δ := by
  rw [transmissions_append_now]
  simp [Exchange.delivered?]

namespace Session

variable {ok : List Exchange → Prop}

/-! ## Surroundings that keep deadlines and bring nothing of use -/

/-- The exchanges `H` end in a wait for the deadline `e` that is over: a reading that found `e`
    passed, or a receive that waited the time a reading left to `e` and timed out. -/
def Overdue (e : Number) (H : List Exchange) : Prop :=
  (∃ A x t, H = A ++ [(.now, x)] ∧ e.sub? (Setup.clockOf x) = some t ∧ t.isNonpos = true) ∨
  ∃ A x t ph, H = A ++ [(.now, x), (.receive t ph, .timedOut)] ∧
    e.sub? (Setup.clockOf x) = some t

/-- The clock keeps the deadlines it is waited for: a reading after a wait for a deadline that
    is over finds the deadline passed. -/
def Lapses (ok : List Exchange → Prop) : Prop :=
  ∀ e H y d, Overdue e H → ok (H ++ [(.now, y)]) → e.sub? (Setup.clockOf y) = some d →
    d.isNonpos = true

/-- The block counter of the session's role. -/
def counter (s : Session) : Value :=
  match s.role with
  | .sender x => x.lastSent
  | .receiver x => x.lastDelivered

/-- The packets that move a session with the counter `n` on: for a sender, the acknowledgement
    of its last block; for a receiver, the block after the last one it took. -/
def MovesOn (s : Session) (n : Int) (p : Packet) : Prop :=
  match s.role with
  | .sender _ => p = .ack n
  | .receiver _ => ∃ payload, p = .data (blockAfter n) payload

/-- The session with the counter `n` has no use for the datagram `bytes` from `source`: it
    drops it, or, for a receiver, answers a repeat of its last block.  Before the peer is
    pinned, every datagram that decodes would pin it, so only one that does not decode is of no
    use. -/
def Disregards (s : Session) (n : Int) (bytes : List UInt8) (source : Address) : Prop :=
  (s.pinned = true ∨ ∃ e, Packet.decode bytes = .error e) ∧ s.Drops (s.MovesOn n) bytes source

/-- Surroundings in which the session `s`, with the counter `n`, hears nothing it has a use
    for, on a host that behaves as documented: the clock reads doubles and keeps deadlines,
    every datagram sent goes out, every receive ends with a datagram or with the time up, and
    every datagram that arrives is one the session has no use for. -/
structure Unheeded (s : Session) (n : Int) (ok : List Exchange → Prop) : Prop where
  clock : DoubleClock ok
  lapses : Lapses ok
  sends : ∀ H bytes target x, ok (H ++ [(.send bytes target, x)]) → x.failedSend = false
  receives : ∀ H t ph y, ok (H ++ [(.receive t ph, y)]) →
    y = .timedOut ∨ ∃ bytes source, y = .datagram bytes source
  datagrams : ∀ H t ph bytes source, ok (H ++ [(.receive t ph, .datagram bytes source)]) →
    s.Disregards n bytes source

/-! ## A session that waits -/

/-- The session `s` waits for its peer as `s₀` did, with the packet `p` to resend, its timer a
    double and `n` resends left in its budget. -/
structure Stalls (s₀ s : Session) (p : Draft) (n : Nat) : Prop where
  role : s.role = s₀.role
  peer : s.peer = s₀.peer
  pinned : s.pinned = s₀.pinned
  policy : s.policy = s₀.policy
  wait : s.phase = some s₀.kind.waitPhase
  packet : s.lastPacket = some p
  expiry : ∃ e : Float, s.expiry = .float e
  budget : s.policy.retries = s.retransmits + n

variable {s₀ s : Session} {p : Draft} {n : Nat}

theorem Stalls.disregards {c : Int} {bytes : List UInt8} {source : Address} (hs : Stalls s₀ s p n)
    (hd : s₀.Disregards c bytes source) : s.Disregards c bytes source := by
  unfold Disregards Drops MovesOn at *
  rw [hs.role, hs.peer, hs.pinned]
  exact hd

theorem Stalls.counter_eq (hs : Stalls s₀ s p n) : s.counter = s₀.counter := by
  unfold counter
  rw [hs.role]

/-- After a resend, the session waits on with one resend less left. -/
theorem Stalls.resent {m : Nat} (hs : Stalls s₀ s p (m + 1)) (t : Float) :
    Stalls s₀ { s.countSent.countRetransmit with expiry := .float t } p m where
  role := hs.role
  peer := hs.peer
  pinned := hs.pinned
  policy := hs.policy
  wait := hs.wait
  packet := hs.packet
  expiry := ⟨t, rfl⟩
  budget := by
    simp only [countRetransmit, countSent]
    have := hs.budget
    omega

/-- A pinned session takes a datagram from its peer without changing. -/
theorem pinTo_of_pinned {source : Address} (hpin : s.pinned = true) : s.pinTo source = s := by
  simp [pinTo, hpin]

theorem Stalls.movesOn {c : Int} (hs : Stalls s₀ s p n) : s.MovesOn c = s₀.MovesOn c := by
  unfold MovesOn
  rw [hs.role]

/-- A datagram of no use that decodes came to a pinned session, from a source other than the
    peer, or as a packet that is no ERROR and does not move the session on. -/
theorem Disregards.of_decode {c : Int} {bytes : List UInt8} {source : Address} {q : Packet}
    (hd : s.Disregards c bytes source) (hdec : Packet.decode bytes = .ok q) :
    s.pinned = true ∧
      (source ≠ s.peer ∨ ((∀ code message, q ≠ .error code message) ∧ ¬ s.MovesOn c q)) := by
  obtain ⟨hpin, hdrops⟩ := hd
  refine ⟨hpin.resolve_right ?_, ?_⟩
  · rintro ⟨_, he⟩
    rw [hdec] at he
    cases he
  · unfold Drops at hdrops
    rw [hdec] at hdrops
    exact hdrops

/-! ## The check at the end of a waiting step -/

variable {h : List Exchange} {bytes : List UInt8}

/-- Every expiry the check finds is followed by the resend or the timeout: once the reading
    leaves no time on the timer, the session that still waits with the packet `p` sends its
    datagram to the peer again while its budget lasts, and fails with the timeout after, with
    nothing more asked. -/
theorem wp_expire_overdue {ph : Phase} (hph : s.phase = some ph) (hp : s.lastPacket = some p)
    (henc : p.encode = .ok bytes) :
    Wp ok (expire ph) (fun r _ h' => ∀ x d rest, h' = h ++ (.now, x) :: rest →
      s.expiry.sub? (Setup.clockOf x) = some d → d.isNonpos = true →
        (s.retransmits < s.policy.retries ∧ ∃ y rest', rest = (.send bytes s.peer, y) :: rest') ∨
        (¬ s.retransmits < s.policy.retries ∧ r = .error (timeoutFailure s.retransmits) ∧
          rest = [])) s h := by
  unfold expire
  rw [wp_check_waiting hph, wp_bind, wp_timeLeft]
  intro x _
  -- only the reading `x` was taken so far
  have hfirst : ∀ x' rest, h ++ [(Request.now, x)] = h ++ (.now, x') :: rest →
      x' = x ∧ rest = [] := by
    intro x' rest heq
    simp only [List.append_cancel_left_eq, List.cons.injEq, Prod.mk.injEq, true_and] at heq
    exact ⟨heq.1.symm, heq.2.symm⟩
  cases hd : s.expiry.sub? (Setup.clockOf x) with
  | none =>
    intro x' d rest heq hd'
    obtain ⟨rfl, -⟩ := hfirst x' rest heq
    rw [hd] at hd'
    cases hd'
  | some d =>
    dsimp only
    cases hnp : d.isNonpos with
    | false =>
      rw [if_neg Bool.false_ne_true, wp_pure]
      intro x' d' rest heq hd' hnp'
      obtain ⟨rfl, -⟩ := hfirst x' rest heq
      rw [hd, Option.some.injEq] at hd'
      subst hd'
      rw [hnp] at hnp'
      cases hnp'
    | true =>
      rw [if_pos rfl, wp_handleTimeout]
      refine ⟨fun hlt => ?_, fun hge => ?_⟩
      · -- the resend is the next request, whatever follows it
        rw [wp_retransmit, hp]
        dsimp only
        rw [wp_send, henc]
        intro y _
        have hsent : ∀ δ, ∀ x' rest, h ++ [(Request.now, x)] ++ [(.send bytes s.peer, y)] ++ δ =
            h ++ (.now, x') :: rest → s.retransmits < s.policy.retries ∧
              ∃ y' rest', rest = (.send bytes s.peer, y') :: rest' := by
          intro δ x' rest heq
          simp only [List.append_assoc, List.cons_append, List.append_cancel_left_eq,
            List.cons.injEq] at heq
          exact ⟨hlt, y, δ, heq.2.symm⟩
        split
        · intro x' d' rest heq _ _
          exact .inl (by simpa using hsent [] x' rest (by simpa using heq))
        · apply Wp.mono _ (Wp.seen (Wp.of_forall (Q := fun _ _ _ => True) fun _ _ _ => trivial))
          rintro r s' h' ⟨-, δ, rfl, -⟩ x' d' rest heq _ _
          exact .inl (hsent δ x' rest heq)
      · intro x' d' rest heq _ _
        exact .inr ⟨hge, rfl, (hfirst x' rest heq).2⟩

section Unheeded

variable {c : Int} {d : Float}

/-- The check at the end of a waiting step in surroundings that bring nothing of use: the
    session resends and waits on with one resend less, gives up once its budget is spent, or
    finds time left on the timer and goes on as it was. -/
theorem wp_expire_unheeded (hu : Unheeded s₀ c ok) (hs : Stalls s₀ s p n)
    (henc : p.encode = .ok bytes) (hsec : s₀.policy.seconds.toFloat? = some d)
    {Q : Except Failure Unit → Session → List Exchange → Prop}
    (hresend : ∀ m s' x rest, n = m + 1 → Stalls s₀ s' p m →
      transmissions none ((.now, x) :: rest) = [bytes] → arrivals rest = 0 →
      Q (.ok ()) s' (h ++ (.now, x) :: rest))
    (htimeout : n = 0 → ∀ x, Q (.error (timeoutFailure s.policy.retries)) s (h ++ [(.now, x)]))
    (hleft : ∀ x, ok (h ++ [(.now, x)]) →
      (∀ t, s.expiry.sub? (Setup.clockOf x) = some t → t.isNonpos = false) →
      Q (.ok ()) s (h ++ [(.now, x)])) :
    Wp ok (expire s₀.kind.waitPhase) Q s h := by
  obtain ⟨e, he⟩ := hs.expiry
  unfold expire
  rw [wp_check_waiting hs.wait, wp_bind]
  apply wp_timeLeft_double hu.clock he
  intro t hx
  dsimp only
  cases hnp : (Number.float (e - t)).isNonpos with
  | false =>
    rw [if_neg Bool.false_ne_true, wp_pure]
    refine hleft _ hx fun t' ht' => ?_
    rw [he] at ht'
    simp only [Setup.clockOf, Number.float_sub?_float, Option.some.injEq] at ht'
    rw [← ht', hnp]
  | true =>
    rw [if_pos rfl, wp_handleTimeout]
    refine ⟨fun hlt => ?_, fun hge => ?_⟩
    · -- a resend is left: it goes out, and the timer restarts from a double
      obtain ⟨m, rfl⟩ : ∃ m, n = m + 1 := ⟨n - 1, by have := hs.budget; omega⟩
      rw [wp_retransmit, hs.packet]
      dsimp only
      apply wp_send_of_encode henc
      · intro reason hfail
        have := hu.sends _ _ _ _ hfail
        simp [Response.failedSend] at this
      · intro y hy _
        dsimp only
        apply wp_resetTimeout_double hu.clock
          (by rw [countRetransmit_policy, countSent_policy, hs.policy]; exact hsec)
        intro t' _
        have hδ := hresend m _ (.time (.float t)) [(.send bytes s.peer, y),
          (.now, .time (.float t'))] rfl (hs.resent (t' + d))
          (by simp [Exchange.delivered?, Exchange.answered, hy]) rfl
        simpa using hδ
    · -- the budget is spent
      have hspent : s.retransmits = s.policy.retries := by have := hs.budget; omega
      rw [hspent]
      exact htimeout (by have := hs.budget; omega) _

/-- A receive in surroundings that bring nothing of use leaves the session as it was.  It
    waits out a deadline that is then over, or it brings one datagram: nothing, or a packet that
    is no ERROR and does not move the session on, taken right at the receive.  The answers on
    the way, a refusal to a foreign source, are no transmissions. -/
theorem wp_receive_unheeded (hu : Unheeded s₀ c ok) (hs : Stalls s₀ s p n)
    {Q : Except Failure (Option Packet) → Session → List Exchange → Prop}
    (hidle : ∀ δ, (∃ x rest, δ = (.now, x) :: rest) → Overdue s.expiry (h ++ δ) →
      transmissions none δ = [] → arrivals δ = 0 → Q (.ok none) s (h ++ δ))
    (harrive : ∀ δ got, (∃ x rest, δ = (.now, x) :: rest) → transmissions none δ = [] →
      arrivals δ = 1 →
      (∀ q, got = some q → (∀ code message, q ≠ .error code message) ∧ ¬ s₀.MovesOn c q ∧
        (∀ block payload, q = .data block payload → FitsWord block) ∧
        δ.getLast?.any Exchange.answered = true) →
      Q (.ok got) s (h ++ δ)) :
    Wp ok receive Q s h := by
  obtain ⟨e, he⟩ := hs.expiry
  apply Wp.mono _ (Wp.seen (wp_receive (Q := fun r s' h' => ∃ δ, h' = h ++ δ ∧ Receives s r s' δ)
    fun r s' δ hr => ⟨δ, rfl, hr⟩))
  rintro r s' _ ⟨⟨δ, rfl, hr⟩, δ', hδ, hseen⟩
  rw [List.append_cancel_left_eq] at hδ
  subst hδ
  -- what the surroundings answered after the clock reading
  have hreceive : ∀ x t y, (Request.now, x) :: [(.receive t s.phase, y)] <+: δ →
      ok (h ++ [(.now, x)] ++ [(.receive t s.phase, y)]) := fun x t y hpre => by
    simpa using hseen _ hpre (by simp)
  cases hr with
  | unreadable x hx =>
    -- a double reading is always compared with a double expiry
    obtain ⟨t, rfl⟩ := hu.clock.readings hseen x (by simp)
    simp [he, Setup.clockOf] at hx
  | expired x t hx ht =>
    exact hidle _ ⟨x, _, rfl⟩ (.inl ⟨h, x, t, rfl, hx, ht⟩) (by simp [Exchange.delivered?]) rfl
  | failed x t f hx ht =>
    rcases hu.receives _ _ _ _ (hreceive x t _ (List.prefix_refl _)) with hy | ⟨_, _, hy⟩ <;>
      cases hy
  | silent x t y hx ht _ hdec =>
    rcases hu.receives _ _ _ _ (hreceive x t y (List.prefix_refl _)) with rfl | ⟨bytes, source, rfl⟩
    · exact hidle _ ⟨x, _, rfl⟩ (.inr ⟨h, x, t, s.phase, by simp, hx⟩)
        (by simp [Exchange.delivered?]) rfl
    · exact harrive _ none ⟨x, _, rfl⟩ (by simp [Exchange.delivered?]) rfl fun _ hq => by cases hq
  | foreign x t bytes source q refusal z hx ht hdec hpin hsrc henc =>
    exact harrive _ none ⟨x, _, rfl⟩ (by simp [Exchange.delivered?, Exchange.answered])
      rfl fun _ hq => by cases hq
  | aborted x t bytes source code message hx ht hdec hsrc =>
    -- an ERROR that decodes comes to a pinned session, and only from a foreign source
    obtain ⟨hpin, hfar | ⟨hnot, -⟩⟩ :=
      (hs.disregards (hu.datagrams _ _ _ _ _ (hreceive x t _ (List.prefix_refl _)))).of_decode hdec
    · exact absurd (hsrc hpin) hfar
    · exact absurd rfl (hnot code message)
  | packet x t bytes source q hx ht hdec hsrc hnot =>
    obtain ⟨hpin, hdrops⟩ :=
      (hs.disregards (hu.datagrams _ _ _ _ _ (hreceive x t _ (List.prefix_refl _)))).of_decode hdec
    obtain ⟨-, hother⟩ := hdrops.resolve_left fun hfar => hfar (hsrc hpin)
    rw [pinTo_of_pinned hpin]
    refine harrive _ (some q) ⟨x, _, rfl⟩ (by simp [Exchange.delivered?]) rfl ?_
    rintro q' ⟨⟩
    refine ⟨hnot, by rwa [← hs.movesOn], fun block payload hq => ?_, by simp [Exchange.answered]⟩
    subst hq
    exact fitsWord_of_decode_data hdec

/-- A datagram sent right after an exchange that it answers is no transmission. -/
theorem transmissions_append_answer (prev : Option Exchange) {δ : List Exchange}
    (hlast : δ.getLast?.any Exchange.answered = true) (e : Exchange) :
    transmissions prev (δ ++ [e]) = transmissions prev δ := by
  induction δ generalizing prev with
  | nil => cases hlast
  | cons e' δ ih =>
    cases δ with
    | nil => simp_all
    | cons e'' δ =>
      rw [List.cons_append, transmissions_cons, transmissions_cons, ih]
      simpa using hlast

/-- How a step of a session that waits as `s₀` did, with `n` resends left, ends after the
    exchanges `δ`, which begin with a clock reading: it resent its datagram and waits on with one
    resend less; a datagram arrived and it waits on as it was; or its budget was spent and it
    gave up with the timeout.  Only the resend is a transmission, and at most one datagram
    arrived. -/
def Waited (s₀ : Session) (p : Draft) (bytes : List UInt8) (n : Nat) (r : Except Failure Unit)
    (s' : Session) (δ : List Exchange) : Prop :=
  (∃ x rest, δ = (.now, x) :: rest) ∧ arrivals δ ≤ 1 ∧
    ((r = .ok () ∧ ∃ m, n = m + 1 ∧ Stalls s₀ s' p m ∧ transmissions none δ = [bytes]) ∨
      (r = .ok () ∧ Stalls s₀ s' p n ∧ transmissions none δ = [] ∧
        arrivals δ = 1) ∨
      (r = .error (timeoutFailure s₀.policy.retries) ∧ Stalls s₀ s' p 0 ∧ n = 0 ∧
        transmissions none δ = []))

/-- The check that closes a waiting step, after the exchanges `δ₀` of its receive: a datagram
    arrived in them, or they end in a wait for a deadline that is over, which the check then
    finds passed. -/
theorem wp_expire_waited (hu : Unheeded s₀ c ok) (hs : Stalls s₀ s p n)
    (henc : p.encode = .ok bytes) (hsec : s₀.policy.seconds.toFloat? = some d)
    {δ₀ : List Exchange} (hhead : ∃ x rest, δ₀ = (.now, x) :: rest)
    (htr : transmissions none δ₀ = [])
    (harr : arrivals δ₀ ≤ 1)
    (hover : arrivals δ₀ = 0 → Overdue s.expiry (h ++ δ₀)) :
    Wp ok (expire s₀.kind.waitPhase)
      (fun r s' h' => ∃ δ, h' = h ++ δ ∧ Waited s₀ p bytes n r s' δ) s (h ++ δ₀) := by
  obtain ⟨x₀, rest₀, rfl⟩ := hhead
  apply wp_expire_unheeded hu hs henc hsec
  · intro m s' x rest hn hs' htr' harr'
    refine ⟨_ :: (rest₀ ++ (.now, x) :: rest), by simp, ⟨x₀, _, rfl⟩, ?_,
      .inl ⟨rfl, m, hn, hs', ?_⟩⟩
    · simp only [arrivals_now_cons, arrivals_append] at harr harr' ⊢
      omega
    · rw [← List.cons_append, transmissions_append_now, htr, htr', List.nil_append]
  · intro hn x
    refine ⟨_ :: (rest₀ ++ [(.now, x)]), by simp, ⟨x₀, _, rfl⟩, by simpa using harr,
      .inr (.inr ⟨by rw [hs.policy], hn ▸ hs, hn, ?_⟩)⟩
    rw [← List.cons_append, transmissions_append_reading, htr]
  · intro x hx hleft
    rcases Nat.lt_or_ge (arrivals ((.now, x₀) :: rest₀)) 1 with h0 | h1
    · -- nothing arrived, so the deadline waited for is over, and the reading finds it passed
      obtain ⟨e, he⟩ := hs.expiry
      obtain ⟨t, rfl⟩ := hu.clock _ x hx
      have hsub : s.expiry.sub? (Setup.clockOf (.time (.float t))) = some (.float (e - t)) := by
        simp [he, Setup.clockOf]
      have hpast := hu.lapses _ _ _ _ (hover (by omega)) (by simpa using hx) hsub
      rw [hleft _ hsub] at hpast
      cases hpast
    · refine ⟨_ :: (rest₀ ++ [(.now, x)]), by simp, ⟨x₀, _, rfl⟩, by simpa using harr,
        .inr (.inl ⟨rfl, hs, ?_, ?_⟩)⟩
      · rw [← List.cons_append, transmissions_append_reading, htr]
      · simp only [arrivals_now_cons, arrivals_append, arrivals_nil] at harr h1 ⊢
        omega

/-- An acknowledgement of a block other than the last one sent changes nothing. -/
theorem wp_handleAck_other {x : Sender} {block : Int} (hrole : s.role = .sender x)
    (hn : x.lastSent = .int c) (hb : block ≠ c)
    {Q : Except Failure Unit → Session → List Exchange → Prop}
    (hQ : Q (.ok ()) s h) : Wp ok (handleAck block) Q s h := by
  unfold handleAck
  rw [wp_bind, wp_sender_any, hrole]
  dsimp only
  have hne : Value.eqInt block (.int c) = false :=
    Bool.eq_false_iff.mpr fun h => hb ((Value.eqInt_int_iff block c).mp h)
  rw [hn, if_pos (by simp [hne]), wp_bind, wp_discard, wp_ofExcept]
  exact hQ

/-- A DATA packet that is not the block after the last one taken is dropped, or, as a repeat of
    that block, answered with its acknowledgement, which goes out. -/
theorem wp_handleData_other (hsends : ∀ H bytes target y, ok (H ++ [(.send bytes target, y)]) →
      y.failedSend = false) {x : Receiver} {block : Int} (payload : List UInt8)
    (hrole : s.role = .receiver x) (hn : x.lastDelivered = .int c) (hb : block ≠ blockAfter c)
    (hfit : FitsWord block) {Q : Except Failure Unit → Session → List Exchange → Prop}
    (hdrop : Q (.ok ()) s h)
    (hanswer : ∀ ack y, Q (.ok ()) s.countSent (h ++ [(.send ack s.peer, y)])) :
    Wp ok (handleData block payload) Q s h := by
  have hexp : (expectedAfter c).eqInt block = false :=
    Bool.eq_false_iff.mpr fun h => hb ((expectedAfter_eqInt_iff c block).mp h)
  unfold handleData
  rw [wp_bind, wp_receiver, hrole]
  dsimp only
  rw [wp_bind, wp_ofExcept, hn, show Value.succ false (.int c) = .ok (.int (c + 1)) from rfl]
  dsimp only
  rw [show (if (Number.int (c + 1)).gtInt maxBlockNumber = true then Number.int 0
      else Number.int (c + 1)) = expectedAfter c from rfl, hexp, if_neg Bool.false_ne_true]
  split
  · -- a repeat of the last block: its acknowledgement can be written, and goes out
    obtain ⟨ack, henc, -⟩ := ack_encode hfit
    rw [wp_send, henc]
    intro y hy
    have hgo := hsends _ _ _ _ hy
    cases y <;> first | exact hanswer ack _ | cases hgo
  · obtain ⟨k, hk⟩ : ∃ k, expectedAfter c = .int k := by
      unfold expectedAfter
      split
      · exact ⟨0, rfl⟩
      · exact ⟨c + 1, rfl⟩
    rw [wp_discard, wp_ofExcept, hk]
    exact hdrop

/-- One step of a session that waits, sender or receiver, in surroundings that bring nothing of
    use: it resends, waits on after a datagram it had no use for, or gives up. -/
theorem wp_stepOnce_unheeded (hu : Unheeded s₀ c ok) (hs : Stalls s₀ s p n)
    (hc : s₀.counter = .int c) (henc : p.encode = .ok bytes)
    (hsec : s₀.policy.seconds.toFloat? = some d) :
    Wp ok stepOnce (fun r s' h' => ∃ δ, h' = h ++ δ ∧ Waited s₀ p bytes n r s' δ) s h := by
  have hcounter : s.counter = .int c := hs.counter_eq.trans hc
  -- the check closes the step after the receive and what the step did with what came: a wait
  -- for a deadline that is over, or the one datagram that arrived
  have hquiet : ∀ δ₀, (∃ x rest, δ₀ = (.now, x) :: rest) → Overdue s.expiry (h ++ δ₀) →
      transmissions none δ₀ = [] → arrivals δ₀ = 0 →
      Wp ok (expire s₀.kind.waitPhase)
        (fun r s' h' => ∃ δ, h' = h ++ δ ∧ Waited s₀ p bytes n r s' δ) s (h ++ δ₀) :=
    fun δ₀ hhead hover htr harr =>
      wp_expire_waited hu hs henc hsec hhead htr (by omega) fun _ => hover
  have hheard : ∀ {s₁ : Session} δ₀, Stalls s₀ s₁ p n → (∃ x rest, δ₀ = (.now, x) :: rest) →
      transmissions none δ₀ = [] → arrivals δ₀ = 1 →
      Wp ok (expire s₀.kind.waitPhase)
        (fun r s' h' => ∃ δ, h' = h ++ δ ∧ Waited s₀ p bytes n r s' δ) s₁ (h ++ δ₀) :=
    fun δ₀ hs₁ hhead htr harr =>
      wp_expire_waited hu hs₁ henc hsec hhead htr (by omega) fun h0 => by omega
  unfold stepOnce
  rw [wp_bind, wp_get]
  dsimp only
  cases hrole : s.role with
  | sender x =>
    have hkind : s₀.kind = .sender := by rw [← kind_eq_of_role hs.role]; simp [kind, hrole]
    have hn : x.lastSent = .int c := by simpa [counter, hrole] using hcounter
    rw [hkind] at hquiet hheard
    unfold sendOnce
    rw [wp_bind, wp_get]
    dsimp only
    rw [if_neg (by simp [hs.wait, hkind, RoleKind.waitPhase]), wp_bind]
    refine wp_receive_unheeded hu hs hquiet fun δ got hhead htr harr hgot => ?_
    cases got with
    | none => exact hheard δ hs hhead htr harr
    | some q =>
      obtain ⟨-, hother, -, -⟩ := hgot q rfl
      dsimp only
      cases q with
      | ack block =>
        have hb : block ≠ c := fun hb => hother (by simp [MovesOn, ← hs.role, hrole, hb])
        rw [wp_bind]
        exact wp_handleAck_other hrole hn hb (hheard δ hs hhead htr harr)
      | _ => exact hheard δ hs hhead htr harr
  | receiver x =>
    have hkind : s₀.kind = .receiver := by rw [← kind_eq_of_role hs.role]; simp [kind, hrole]
    have hn : x.lastDelivered = .int c := by simpa [counter, hrole] using hcounter
    rw [hkind] at hquiet hheard
    unfold receiveOnce
    rw [wp_bind]
    refine wp_receive_unheeded hu hs hquiet fun δ got hhead htr harr hgot => ?_
    cases got with
    | none => exact hheard δ hs hhead htr harr
    | some q =>
      obtain ⟨-, hother, hfits, hans⟩ := hgot q rfl
      dsimp only
      cases q with
      | data block payload =>
        have hb : block ≠ blockAfter c :=
          fun hb => hother (by simp [MovesOn, ← hs.role, hrole, hb])
        rw [wp_bind]
        refine wp_handleData_other hu.sends payload hrole hn hb (hfits block payload rfl)
          (hheard δ hs hhead htr harr) fun ack y => ?_
        -- the acknowledgement sent again answers the datagram just received
        have hs' : Stalls s₀ s.countSent p n := { hs with }
        obtain ⟨x₀, rest₀, rfl⟩ := hhead
        rw [List.append_assoc]
        exact hheard ((.now, x₀) :: rest₀ ++ [(.send ack s.peer, y)]) hs' ⟨x₀, _, rfl⟩
          (by rw [transmissions_append_answer _ hans, htr]) (by rw [arrivals_append, harr]; rfl)
      | _ => exact hheard δ hs hhead htr harr

/-- A session that waits with `n` resends left and hears nothing of use resends its datagram
    once for each of them and then fails with the timeout, its budget spent, within any bound of
    steps above those resends and the datagrams that may still arrive.  Each step resends, takes
    an arrival it has no use for, or gives up: the induction is on the steps left, and the
    resends left and the arrivals still possible bound them. -/
theorem wp_loop_unheeded (hu : Unheeded s₀ c ok) (hc : s₀.counter = .int c)
    (henc : p.encode = .ok bytes) (hsec : s₀.policy.seconds.toFloat? = some d) :
    ∀ fuel n A s h, Stalls s₀ s p n → (∀ δ, ok (h ++ δ) → arrivals δ ≤ A) →
      n + A < fuel →
      Wp ok (loop fuel) (fun r s' h' => r = .error (timeoutFailure s₀.policy.retries) ∧
        Stalls s₀ s' p 0 ∧ ∃ δ, h' = h ++ δ ∧ (∃ x rest, δ = (.now, x) :: rest) ∧
          transmissions none δ = List.replicate n bytes) s h := by
  intro fuel
  induction fuel with
  | zero =>
    intro n A s h _ _ hfuel
    omega
  | succ m ih =>
    intro n A s h hs harr hfuel
    unfold loop
    rw [wp_bind, wp_get]
    dsimp only
    rw [ended_of_wait (by rw [kind_eq_of_role hs.role]; exact hs.wait), if_neg Bool.false_ne_true,
      wp_bind]
    apply Wp.mono _ (Wp.seen (wp_stepOnce_unheeded hu hs hc henc hsec))
    rintro r s' h' ⟨⟨δ, rfl, hhead, hle, hway⟩, δ', hδ', hseen⟩
    rw [List.append_cancel_left_eq] at hδ'
    subst hδ'
    -- the step's own exchanges were allowed, so its arrivals count against the bound
    have hstep : arrivals δ ≤ A := by
      obtain ⟨x, rest, rfl⟩ := hhead
      exact harr _ (hseen _ (List.prefix_refl _) (List.cons_ne_nil _ _))
    have hrest : ∀ δ', ok (h ++ δ ++ δ') →
        arrivals δ' ≤ A - arrivals δ := by
      intro δ' hok
      have := harr (δ ++ δ') (by rwa [← List.append_assoc])
      rw [arrivals_append] at this
      omega
    -- what the rest of the loop adds after the step
    have hthen : ∀ n', Stalls s₀ s' p n' →
        n' + (A - arrivals δ) < m →
        Wp ok (loop m) (fun r s'' h'' => r = .error (timeoutFailure s₀.policy.retries) ∧
          Stalls s₀ s'' p 0 ∧ ∃ δ'', h'' = h ++ δ'' ∧ (∃ x rest, δ'' = (.now, x) :: rest) ∧
            transmissions none δ'' = transmissions none δ ++ List.replicate n' bytes)
          s' (h ++ δ) := by
      intro n' hs' hfuel'
      apply Wp.mono _ (ih n' _ s' (h ++ δ) hs' hrest hfuel')
      rintro r s'' h'' ⟨hr, hs'', δ', rfl, ⟨x, rest, rfl⟩, htr⟩
      obtain ⟨x₀, rest₀, rfl⟩ := hhead
      refine ⟨hr, hs'', _ :: (rest₀ ++ (.now, x) :: rest), by simp, ⟨x₀, _, rfl⟩, ?_⟩
      rw [← List.cons_append, transmissions_append_now, htr]
    rcases hway with ⟨rfl, k, rfl, hs', htr⟩ | ⟨rfl, hs', htr, h1⟩ | ⟨rfl, hs', rfl, htr⟩
    · -- a resend: one transmission, and one resend less left
      apply Wp.mono _ (hthen k hs' (by omega))
      rintro r s'' h'' ⟨hr, hs'', δ'', rfl, hhead'', htr''⟩
      refine ⟨hr, hs'', δ'', rfl, hhead'', ?_⟩
      rw [htr'', htr, List.replicate_succ]
      rfl
    · -- an arrival of no use: no transmission, and one arrival less possible
      apply Wp.mono _ (hthen n hs' (by omega))
      rintro r s'' h'' ⟨hr, hs'', δ'', rfl, hhead'', htr''⟩
      exact ⟨hr, hs'', δ'', rfl, hhead'', by rw [htr'', htr, List.nil_append]⟩
    · -- the budget was spent: the timeout ends the loop
      exact ⟨rfl, hs', δ, rfl, hhead, htr⟩

end Unheeded

/-! ## A host on which nothing arrives -/

/-- A host on which nothing arrives: its clock reads doubles and keeps the deadlines it is
    waited for, every datagram sent goes out, and every receive waits its time out. -/
structure Unanswered (H : List Exchange) : Prop where
  readings : DoubleReadings H
  deadlines : ∀ A e y d, A ++ [(.now, y)] <+: H → Overdue e A →
    e.sub? (Setup.clockOf y) = some d → d.isNonpos = true
  sends : ∀ bytes target x, (Request.send bytes target, x) ∈ H → x.failedSend = false
  receives : ∀ t ph y, (Request.receive t ph, y) ∈ H → y = .timedOut

/-- On a host on which nothing arrives, no session hears anything, let alone of use. -/
theorem unheeded_unanswered (s : Session) (c : Int) : Unheeded s c Unanswered where
  clock _ x hH := hH.readings x (by simp)
  lapses e H y d hover hH hd := hH.deadlines H e y d (List.prefix_refl _) hover hd
  sends _ bytes target x hH := hH.sends bytes target x (by simp)
  receives _ t ph y hH := .inl (hH.receives t ph y (by simp))
  datagrams _ t ph bytes source hH := by
    cases hH.receives t ph (.datagram bytes source) (by simp)

theorem Unanswered.nothing_arrives {H δ : List Exchange} (hH : Unanswered (H ++ δ)) :
    arrivals δ = 0 := by
  unfold arrivals
  rw [List.length_eq_zero_iff, List.filterMap_eq_nil_iff]
  intro e he
  cases harr : e.arrival? with
  | none => rfl
  | some v =>
    obtain ⟨t, ph, rfl⟩ := Exchange.arrival?_eq_some harr
    cases hH.receives t ph (.datagram v.1 v.2) (List.mem_append_right H he)

end Session

/-- The retry budget of every session.  Every run keeps the discipline: a resend repeats the last
    fresh transmission, at most `retries` times before the next fresh one, a receive waits the
    time left on the timer, the report counts every retransmission, and a timeout comes only
    once the budget is spent.  The check that closes a waiting step follows every expiry it
    finds with the resend of the last fresh transmission while the budget lasts, and with the
    timeout after.  And a session that waits for its peer, sender or receiver, client or server,
    `k` resends into its budget and hears nothing of use, whatever else arrives, transmits its
    datagram exactly `retries - k` times more and then fails with the timeout after `retries`
    retransmits, within any bound of steps above those resends and the arrivals. -/
theorem sessions_spend_retry_budget :
    (∀ (st : Setup) (fuel : Nat) (ok : List Exchange → Prop), (st.program fuel).Always ok
      (fun res H => Timeline.Obeys st.policy.seconds st.policy.retries .start H ∧
        ∀ ending s f, res = .ok (ending, s) → s.error = some f → f.kind = .protocolTimeout →
          (f = (Session.timeoutFailure st.policy.retries).toFault ∧
            (Timeline.of st.policy.seconds H).timer.since = st.policy.retries) ∨
          PassedThrough H) []) ∧
    (∀ (ok : List Exchange → Prop) (s : Session) (h : List Exchange) (ph : Phase) (p : Draft)
      (bytes : List UInt8), s.phase = some ph → s.lastPacket = some p → p.encode = .ok bytes →
      Session.Wp ok (Session.expire ph) (fun r _ h' => ∀ x d rest, h' = h ++ (.now, x) :: rest →
        s.expiry.sub? (Setup.clockOf x) = some d → d.isNonpos = true →
          (s.retransmits < s.policy.retries ∧
            ∃ y rest', rest = (.send bytes s.peer, y) :: rest') ∨
          (¬ s.retransmits < s.policy.retries ∧ r = .error (Session.timeoutFailure s.retransmits) ∧
            rest = [])) s h) ∧
    ∀ (ok : List Exchange → Prop) (s : Session) (h : List Exchange) (c : Int) (p : Draft)
      (bytes : List UInt8) (e d : Float) (A fuel : Nat),
      Session.Unheeded s c ok → s.counter = .int c → s.phase = some s.kind.waitPhase →
      s.lastPacket = some p → p.encode = .ok bytes → s.expiry = .float e →
      s.policy.seconds.toFloat? = some d → s.retransmits ≤ s.policy.retries →
      (∀ δ, ok (h ++ δ) → arrivals δ ≤ A) →
      s.policy.retries - s.retransmits + A < fuel →
      Session.Wp ok (Session.loop fuel) (fun r s' h' =>
        r = .error (Session.timeoutFailure s.policy.retries) ∧
        s'.retransmits = s.policy.retries ∧ ∃ δ, h' = h ++ δ ∧
          transmissions none (h ++ δ) =
            transmissions none h ++ List.replicate (s.policy.retries - s.retransmits) bytes)
        s h := by
  refine ⟨fun st fuel _ => st.program_keeps_retry_budget fuel,
    fun _ _ _ _ _ _ hph hp henc => Session.wp_expire_overdue hph hp henc, ?_⟩
  intro ok s h c p bytes e d A fuel hu hc hwait hp henc he hsec hle harr hfuel
  -- the session waits as it was, with the resends left in its budget
  have hs : Session.Stalls s s p (s.policy.retries - s.retransmits) :=
    ⟨rfl, rfl, rfl, rfl, hwait, hp, ⟨e, he⟩, by omega⟩
  apply Session.Wp.mono _ (Session.wp_loop_unheeded hu hc henc hsec fuel _ A s h hs harr hfuel)
  rintro r s' h' ⟨hr, hs', δ, rfl, ⟨x, rest, rfl⟩, htr⟩
  refine ⟨hr, ?_, _, rfl, by rw [transmissions_append_now, htr]⟩
  have := hs'.budget
  rw [hs'.policy] at this
  omega

set_option maxRecDepth 4000 in
/-- A server that sent the first block of a stream, with three resends and a timer of a hundredth
    of a second, to a peer from which nothing arrives: the block goes out four times in all, and
    the session fails with the timeout after three retransmits. -/
theorem unanswered_first_block_goes_out_four_times :
    Session.Wp Session.Unanswered (Session.loop 4) (fun r s' h' =>
      r = .error (Session.timeoutFailure 3) ∧ s'.retransmits = 3 ∧
        transmissions none h' = List.replicate 4 ([0, 3, 0, 1] ++ List.replicate 512 120))
      { (default : Session) with
        role := .sender ⟨.int 1, some (List.replicate 512 120), false⟩
        peer := ⟨⟨[104]⟩, 69⟩
        pinned := true
        policy := ⟨3, .number (.float 0.01)⟩
        phase := some .awaitAck
        lastPacket := some (.data (.int 1) (List.replicate 512 120))
        expiry := .float 0.01 }
      [(.send ([0, 3, 0, 1] ++ List.replicate 512 120) ⟨⟨[104]⟩, 69⟩, .sent),
        (.now, .time (.float 0))] := by
  apply Session.Wp.mono _ (sessions_spend_retry_budget.2.2 _ _ _ 1 _ _ 0.01 0.01 0 4
    (Session.unheeded_unanswered _ 1) rfl rfl rfl rfl rfl rfl (by decide)
    (fun _ hH => Nat.le_of_eq (Session.Unanswered.nothing_arrives hH)) (by decide))
  rintro r s' h' ⟨hr, hn, δ, rfl, htr⟩
  refine ⟨hr, hn, ?_⟩
  rw [htr]
  rfl

end Tftp
