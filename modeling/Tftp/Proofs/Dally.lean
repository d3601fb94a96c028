import Tftp.Proofs.Outcome
import Tftp.Proofs.Exchanges
import Tftp.Proofs.Reach
import Tftp.Proofs.Grammar
import Tftp.Proofs.Receiver.Steps
import Tftp.Proofs.Timer.Silence
import Tftp.Proofs.Clock

/-! # After the last block

    A receiver that is done closes its end of the pipe without a fault, so that its handler sees
    the end of the stream at once, restarts its timer and dallies: until the timer expires it
    answers a repeat of the last block from its peer with one more ACK of that block, refuses
    datagrams from foreign sources, and drops everything else (`Session.Dallied`).  It writes
    nothing more to the pipe.  An ERROR from the peer, a failed receive and a failed send to the
    peer end the dally early, and leave the outcome alone: the session stays done, without a
    fault, and closes down as every session does, so that its caller gets the statistics back.

    Not every failure of the dally is a fault: a clock reading too large to compare with the
    timer escapes it, before the socket is closed and the statistics are reported
    (`DallyFailed`), and the caller gets that failure instead of the statistics
    (`done_receiver_closes`).  A clock that reads doubles gives no such reading, and a socket
    that fails only with errors of the system raises only faults, so there nothing escapes
    (`wp_dallyFor_quiet`) and the session closes down (`done_receiver_stays_done`).

    The route: one lemma per kind of round of the dally says which exchanges it adds
    (`Dallied.clocks`, `Dallied.receipt`, `Dallied.replied`), `Dallied.append` joins a round to
    the rounds after it, and `wp_dallyFor_dallied` follows the dally round by round.  The outcome
    and the escapes come from `confined_dallyFor` and `raisesOnly_dallyFor`. -/

namespace Tftp

/-- The request reads the clock, receives or sends: it leaves the pipe alone, and it closes and
    reports nothing. -/
def Request.onWire : Request → Bool
  | .now | .receive _ _ | .send _ _ => true
  | _ => false

namespace Exchange

@[simp] theorem sent?_send (bytes : List UInt8) (target : Address) (x : Response) :
    sent? (.send bytes target, x) = some (bytes, target) := rfl
@[simp] theorem sent?_now (x : Response) : sent? (.now, x) = none := rfl
@[simp] theorem sent?_receive (t : Number) (phase : Option Phase) (x : Response) :
    sent? (.receive t phase, x) = none := rfl

/-- The exchange stops a dally with the peer `peer`: a failed receive, an ERROR that arrived from
    the peer, or a failed send to the peer. -/
def StopsDally (peer : Address) : Exchange → Prop
  | (.receive _ _, .receiveFailed _) => True
  | (.receive _ _, .datagram bytes source) =>
    source = peer ∧ ∃ code message, Packet.decode bytes = .ok (.error code message)
  | (.send _ target, .sendFailed _) => target = peer
  | _ => False

@[simp] theorem not_stopsDally_now (peer : Address) (x : Response) :
    ¬ StopsDally peer (.now, x) := id

/-- A send stops a dally only when it fails and goes to the peer. -/
theorem not_stopsDally_send {peer target : Address} {bytes : List UInt8} {z : Response}
    (hgo : z.failedSend = false ∨ target ≠ peer) : ¬ StopsDally peer (.send bytes target, z) := by
  cases z <;> simp_all [StopsDally, Response.failedSend]

/-- An arrival stops a dally only when it is an ERROR from the peer. -/
theorem not_stopsDally_datagram {peer source : Address} {bytes : List UInt8} {t : Number}
    {ph : Option Phase} {p : Packet} (hdec : Packet.decode bytes = .ok p)
    (hgo : (∀ code message, p ≠ .error code message) ∨ source ≠ peer) :
    ¬ StopsDally peer (.receive t ph, .datagram bytes source) := by
  rintro ⟨hsrc, code, message, herr⟩
  rw [hdec] at herr
  rcases hgo with hp | hsrc'
  · exact hp code message (Except.ok.inj herr)
  · exact hsrc' hsrc

theorem not_stopsDally_of_isClock {peer : Address} {e : Exchange} (he : e.isClock = true) :
    ¬ e.StopsDally peer := by
  obtain ⟨r, x⟩ := e
  cases r <;> simp_all [isClock, StopsDally]

end Exchange

/-- A decoded DATA packet carries a block number in range. -/
theorem fitsWord_of_decode_data {bytes : List UInt8} {block : Int} {payload : List UInt8}
    (h : Packet.decode bytes = .ok (.data block payload)) : FitsWord block := by
  cases Packet.decode_sound h with
  | @data _ _ b₁ b₂ _ _ _ =>
    have h₁ := b₁.toNat_lt
    have h₂ := b₂.toNat_lt
    simp only [FitsWord, wordValue, maxBlockNumber]
    omega

namespace Session

/-- The bytes of an ACK of `block`. -/
def ackOf (block : Int) : List UInt8 :=
  match (Draft.ack (.int block)).encode with
  | .ok bytes => bytes
  | .error _ => []

theorem ackOf_encode {block : Int} (hb : FitsWord block) :
    (Draft.ack (.int block)).encode = .ok (ackOf block) := by
  obtain ⟨bytes, hbytes, -⟩ := ack_encode hb
  unfold ackOf
  rw [hbytes]

/-- What a receiver dallying with the peer `peer`, whose last delivered block is `last`, sends
    back for a datagram that arrived: an ACK of a repeat of the last block from the peer, to the
    peer; the refusal, to a source other than the peer; nothing otherwise. -/
def dallyReply (peer : Address) (last : Value) (arrival : List UInt8 × Address) :
    Option (List UInt8 × Address) :=
  match Packet.decode arrival.1 with
  | .error _ => none
  | .ok p =>
    if arrival.2 = peer then
      match p with
      | .data block _ => if last.eqInt block then some (ackOf block, peer) else none
      | _ => none
    else some (refusal, arrival.2)

/-- The exchange `e`, after the exchanges `A`, is no receive, or a receive that waits, while the
    session is done, for what is left until `expiry` at the clock reading just before it, which
    shows the timer running. -/
def WaitsAfter (expiry : Number) (A : List Exchange) (e : Exchange) : Prop :=
  ∀ t ph y, e = (.receive t ph, y) → ph = some .done ∧
    ∃ A' c, A = A' ++ [(.now, c)] ∧ expiry.sub? (Setup.clockOf c) = some t ∧
      t.isNonpos = false

theorem WaitsAfter.of_ne {expiry : Number} {A : List Exchange} {e : Exchange}
    (he : ∀ t ph y, e ≠ (.receive t ph, y)) : WaitsAfter expiry A e :=
  fun t ph y heq => absurd heq (he t ph y)

/-- The exchanges `δ` of a dally with the peer `peer`, the last delivered block `last` and the
    timer's expiry `expiry`. -/
structure Dallied (peer : Address) (last : Value) (expiry : Number) (δ : List Exchange) :
    Prop where
  /-- only the clock and the socket are used: nothing is written to the pipe -/
  onWire : ∀ e ∈ δ, e.1.onWire = true
  /-- every receive waits for what is left of the timer, which it does not restart -/
  waits : ∀ A e B, δ = A ++ e :: B → WaitsAfter expiry A e
  /-- the datagrams sent are the replies to the datagrams that arrived, one each, in order -/
  replies : δ.filterMap Exchange.sent? =
    (δ.filterMap Exchange.arrival?).filterMap (dallyReply peer last)
  /-- nothing follows an exchange that stops the dally -/
  stops : ∀ A e B, δ = A ++ e :: B → e.StopsDally peer → B = []

namespace Dallied

variable {peer : Address} {last : Value} {expiry : Number} {δ δ₁ δ₂ : List Exchange}

/-- Clock readings alone. -/
theorem clocks (hδ : ∀ e ∈ δ, e.isClock = true) : Dallied peer last expiry δ where
  onWire e he := by
    obtain ⟨r, x⟩ := e
    have := hδ _ he
    cases r <;> simp_all [Exchange.isClock, Request.onWire]
  waits A e B hsplit := WaitsAfter.of_ne fun t ph y he => by
    have := hδ e (by simp [hsplit])
    simp [he] at this
  replies := by
    have hsent : δ.filterMap Exchange.sent? = [] := List.filterMap_eq_nil_iff.mpr fun e he => by
      obtain ⟨r, x⟩ := e
      have := hδ _ he
      cases r <;> simp_all [Exchange.isClock, Exchange.sent?]
    have harr : δ.filterMap Exchange.arrival? = [] := List.filterMap_eq_nil_iff.mpr fun e he => by
      obtain ⟨r, x⟩ := e
      have := hδ _ he
      cases r <;> simp_all [Exchange.isClock, Exchange.arrival?]
    rw [hsent, harr]
    rfl
  stops A e B hsplit hstop :=
    absurd hstop (Exchange.not_stopsDally_of_isClock (hδ e (by simp [hsplit])))

theorem nil : Dallied peer last expiry [] := clocks (by simp)

/-- A stretch of a dally in which nothing stops it, then the rest of the dally. -/
theorem append (h₁ : Dallied peer last expiry δ₁) (hgo : ∀ e ∈ δ₁, ¬ e.StopsDally peer)
    (h₂ : Dallied peer last expiry δ₂) : Dallied peer last expiry (δ₁ ++ δ₂) where
  onWire e he := by
    rcases List.mem_append.mp he with he | he
    · exact h₁.onWire e he
    · exact h₂.onWire e he
  waits := (forall_split_append (P := fun A e _ => WaitsAfter expiry A e) δ₁ δ₂).mpr
    ⟨h₁.waits, fun A e B hs t ph y he => by
      obtain ⟨hph, A', c, rfl, hc, hpos⟩ := h₂.waits A e B hs t ph y he
      exact ⟨hph, δ₁ ++ A', c, by simp, hc, hpos⟩⟩
  replies := by
    rw [List.filterMap_append, List.filterMap_append, List.filterMap_append, h₁.replies,
      h₂.replies]
  stops := (forall_split_append
      (P := fun (_ : List Exchange) (e : Exchange) B => e.StopsDally peer → B = [])
      δ₁ δ₂).mpr
    ⟨fun A e B hs hstop => absurd hstop (hgo e (by simp [hs])), h₂.stops⟩

/-- The receive after a clock reading that shows the timer running waits as a dally must. -/
theorem waitsAfter_receive {c : Response} {t : Number} {y : Response}
    (ht : expiry.sub? (Setup.clockOf c) = some t) (hpos : t.isNonpos = false) :
    WaitsAfter expiry [(.now, c)] (.receive t (some .done), y) := by
  intro t' ph y' he
  simp only [Prod.mk.injEq, Request.receive.injEq] at he
  obtain ⟨⟨rfl, rfl⟩, rfl⟩ := he
  exact ⟨rfl, [], c, rfl, ht, hpos⟩

/-- A round that received the answer `y`, to which there is no reply. -/
theorem receipt {c y : Response} {t : Number} (ht : expiry.sub? (Setup.clockOf c) = some t)
    (hpos : t.isNonpos = false)
    (hnone : ∀ a, Exchange.arrival? (.receive t (some .done), y) = some a →
      dallyReply peer last a = none) :
    Dallied peer last expiry [(.now, c), (.receive t (some .done), y)] where
  onWire := by simp [Request.onWire]
  waits := (forall_split_cons (P := fun A e _ => WaitsAfter expiry A e) _ _).mpr
    ⟨WaitsAfter.of_ne (by simp), (forall_split_cons _ _).mpr
      ⟨waitsAfter_receive ht hpos, forall_split_nil⟩⟩
  replies := by
    cases harr : Exchange.arrival? (.receive t (some .done), y) with
    | none =>
      simp only [List.filterMap_cons, List.filterMap_nil, harr, Exchange.sent?_now,
        Exchange.sent?_receive, Exchange.arrival?_now]
    | some a =>
      simp only [List.filterMap_cons, List.filterMap_nil, harr, hnone a harr, Exchange.sent?_now,
        Exchange.sent?_receive, Exchange.arrival?_now]
  stops := (forall_split_cons
      (P := fun (_ : List Exchange) (e : Exchange) B => e.StopsDally peer → B = []) _ _).mpr
    ⟨fun hstop => absurd hstop (Exchange.not_stopsDally_of_isClock rfl),
      (forall_split_cons _ _).mpr ⟨fun _ => rfl, forall_split_nil⟩⟩

/-- A round that received a datagram and sent its reply. -/
theorem replied {c z : Response} {t : Number} {bytes : List UInt8} {source : Address}
    {reply : List UInt8 × Address} (ht : expiry.sub? (Setup.clockOf c) = some t)
    (hpos : t.isNonpos = false) (hreply : dallyReply peer last (bytes, source) = some reply)
    (hgo : ¬ Exchange.StopsDally peer (.receive t (some .done), .datagram bytes source)) :
    Dallied peer last expiry
      [(.now, c), (.receive t (some .done), .datagram bytes source), (.send reply.1 reply.2, z)]
      where
  onWire := by simp [Request.onWire]
  waits := (forall_split_cons (P := fun A e _ => WaitsAfter expiry A e) _ _).mpr
    ⟨WaitsAfter.of_ne (by simp), (forall_split_cons _ _).mpr
      ⟨waitsAfter_receive ht hpos, (forall_split_cons _ _).mpr
        ⟨WaitsAfter.of_ne (by simp), forall_split_nil⟩⟩⟩
  replies := by
    simp only [List.filterMap_cons, List.filterMap_nil, hreply, Exchange.sent?_now,
      Exchange.sent?_receive, Exchange.sent?_send, Exchange.arrival?_now,
      Exchange.arrival?_datagram, Exchange.arrival?_send]
  stops := (forall_split_cons
      (P := fun (_ : List Exchange) (e : Exchange) B => e.StopsDally peer → B = []) _ _).mpr
    ⟨fun hstop => absurd hstop (Exchange.not_stopsDally_of_isClock rfl),
      (forall_split_cons _ _).mpr ⟨fun hstop => absurd hstop hgo,
        (forall_split_cons _ _).mpr ⟨fun _ => rfl, forall_split_nil⟩⟩⟩

/-- A dally closes nothing. -/
theorem noneClosed (hδ : Dallied peer last expiry δ) : NoneClosed δ := by
  intro e he
  have hwire := hδ.onWire e he
  obtain ⟨r, x⟩ := e
  cases r <;> simp_all [Request.onWire, Request.closesDown]

/-- A round that does not stop the dally, then the rest of the dally after it. -/
theorem extend {ρ h h' : List Exchange} (hρ : Dallied peer last expiry ρ)
    (hgo : ∀ e ∈ ρ, ¬ e.StopsDally peer)
    (hrest : ∃ δ, h' = h ++ ρ ++ δ ∧ Dallied peer last expiry δ) :
    ∃ δ, h' = h ++ δ ∧ Dallied peer last expiry δ := by
  obtain ⟨δ, rfl, hδ⟩ := hrest
  exact ⟨ρ ++ δ, by simp, hρ.append hgo hδ⟩

end Dallied

/-! ## The dally, round by round -/

variable {ok : List Exchange → Prop}

/-- One round of the dally of a receiver that is done: a round after which the dally stops, or a
    failure escapes, leaves the exchanges of a dally; after any other round the dally goes on from
    a session with the same role, pin, phase, peer and timer. -/
theorem wp_dallyFor_succ {x : Receiver} {Q : Except Failure Unit → Session → List Exchange → Prop}
    (n : Nat) {s : Session} {h : List Exchange} (hrole : s.role = .receiver x)
    (hpin : s.pinned = true) (hdone : s.phase = some .done)
    (hend : ∀ r s' ρ, Dallied s.peer x.lastDelivered s.expiry ρ → Q r s' (h ++ ρ))
    (hrest : ∀ ρ (s₁ : Session), Dallied s.peer x.lastDelivered s.expiry ρ →
      (∀ e ∈ ρ, ¬ e.StopsDally s.peer) → s₁.role = s.role → s₁.pinned = s.pinned →
      s₁.phase = s.phase → s₁.peer = s.peer → s₁.expiry = s.expiry →
      Wp ok (dallyFor n) Q s₁ (h ++ ρ)) :
    Wp ok (dallyFor (n + 1)) Q s h := by
  unfold dallyFor
  rw [wp_bind, wp_timeLeft]
  intro c₀ _
  have hlook : Dallied s.peer x.lastDelivered s.expiry [(.now, c₀)] := Dallied.clocks (by simp)
  -- a round that stops the dally, or after which a failure escapes, ends its exchanges
  have hstop : ∀ {r s'} ρ h₁, h₁ = h ++ [(.now, c₀)] ++ ρ →
      Dallied s.peer x.lastDelivered s.expiry ((.now, c₀) :: ρ) → Q r s' h₁ := by
    rintro r s' ρ _ rfl hρ
    simpa using hend r s' _ hρ
  cases hsub : s.expiry.sub? (Setup.clockOf c₀) with
  | none => exact hstop [] _ (by simp) hlook
  | some d =>
    dsimp only
    cases hnp : d.isNonpos with
    | true =>
      rw [if_pos rfl]
      exact hstop [] _ (by simp) hlook
    | false =>
      rw [if_neg Bool.false_ne_true, wp_bind, wp_tryCatch, wp_map]
      apply wp_receive
      intro r s₂ δ hrecv
      -- after a round that does not stop it, the dally goes on from a session with the same
      -- peer, timer and role
      have hnext : ∀ ρ h₁, h₁ = h ++ [(.now, c₀)] ++ ρ →
          Dallied s.peer x.lastDelivered s.expiry ((.now, c₀) :: ρ) →
          (∀ e ∈ (.now, c₀) :: ρ, ¬ Exchange.StopsDally s.peer e) → ∀ s₁ : Session,
          s₁.role = s.role → s₁.pinned = s.pinned → s₁.phase = s.phase → s₁.peer = s.peer →
          s₁.expiry = s.expiry → Wp ok (dallyFor n) Q s₁ h₁ := by
        rintro ρ _ rfl hρ hgo s₁ hr hp hph hpeer hexp
        simpa using hrest _ s₁ hρ hgo hr hp hph hpeer hexp
      have hlookGo : ∀ e ∈ [((.now, c₀) : Exchange)], ¬ Exchange.StopsDally s.peer e := by
        simp
      -- one case per way the receive ended
      cases hrecv with
      | unreadable y hy =>
        dsimp only [Except.map]
        split <;> exact hstop _ _ rfl (Dallied.clocks (by simp))
      | expired y t hy ht =>
        exact hnext _ _ rfl (Dallied.clocks (by simp)) (by simp) s rfl rfl rfl rfl rfl
      | failed y t f hy ht =>
        rw [hdone]
        dsimp only [Except.map]
        split <;> exact hstop _ _ rfl
          (hlook.append hlookGo (Dallied.receipt hy ht (by simp [Exchange.arrival?])))
      | silent y t z hy ht hz hdecode =>
        -- nothing usable arrived: no reply, and the dally goes on
        rw [hdone]
        have hnone : ∀ a, Exchange.arrival? (.receive t (some .done), z) = some a →
            dallyReply s.peer x.lastDelivered a = none := by
          intro a ha
          cases z with
          | datagram bytes source =>
            simp only [Exchange.arrival?_datagram, Option.some.injEq] at ha
            subst ha
            obtain ⟨e, he⟩ := hdecode bytes source rfl
            simp [dallyReply, he]
          | _ => simp [Exchange.arrival?] at ha
        have hgo : ¬ Exchange.StopsDally s.peer (.receive t (some .done), z) := by
          cases z with
          | receiveFailed f => exact absurd rfl (hz f)
          | datagram bytes source =>
            obtain ⟨e, he⟩ := hdecode bytes source rfl
            rintro ⟨-, code, message, herr⟩
            rw [he] at herr
            cases herr
          | _ => exact id
        exact hnext _ _ rfl (hlook.append hlookGo (Dallied.receipt hy ht hnone))
          (by simp [hgo]) s rfl rfl rfl rfl rfl
      | foreign y t bytes source p bytes' z hy ht hdec hpin' hsrc henc =>
        -- a datagram from a foreign source is refused, and the dally goes on
        rw [hdone]
        have hrefusal : bytes' = refusal := by
          rw [refusal_encode] at henc
          exact (Except.ok.inj henc).symm
        subst hrefusal
        have hreply : dallyReply s.peer x.lastDelivered (bytes, source) = some (refusal, source) :=
          by simp [dallyReply, hdec, hsrc]
        have hgo : ¬ Exchange.StopsDally s.peer
            (.receive t (some .done), .datagram bytes source) :=
          Exchange.not_stopsDally_datagram hdec (.inr hsrc)
        exact hnext _ _ rfl (hlook.append hlookGo (Dallied.replied hy ht hreply hgo))
          (by simp [hgo, Exchange.not_stopsDally_send (.inr hsrc)]) s rfl rfl rfl rfl rfl
      | aborted y t bytes source code message hy ht hdec hsrc =>
        rw [hdone]
        dsimp only [Except.map]
        split <;> exact hstop _ _ rfl (hlook.append hlookGo (Dallied.receipt hy ht (by
          intro a ha
          simp only [Exchange.arrival?_datagram, Option.some.injEq] at ha
          subst ha
          simp [dallyReply, hdec, hsrc hpin])))
      | packet y t bytes source p hy ht hdec hsrc hnot =>
        -- a packet from the peer, which the pinned session takes as it is
        have hs₂ : s.pinTo source = s := if_pos hpin
        have hpeer : source = s.peer := hsrc hpin
        rw [hdone, hs₂]
        dsimp only [Except.map]
        have hgo : ¬ Exchange.StopsDally s.peer
            (.receive t (some .done), .datagram bytes source) :=
          Exchange.not_stopsDally_datagram hdec (.inl hnot)
        have hquiet : dallyReply s.peer x.lastDelivered (bytes, source) = none →
            Wp ok (dallyFor n) Q s
              (h ++ [(.now, c₀)] ++ [(.now, y), (.receive t (some .done), .datagram bytes source)]) :=
          fun hnone => hnext _ _ rfl (hlook.append hlookGo (Dallied.receipt hy ht (by
            intro a ha
            simp only [Exchange.arrival?_datagram, Option.some.injEq] at ha
            subst ha
            exact hnone))) (by simp [hgo]) s rfl rfl rfl rfl rfl
        cases p with
        | data block payload =>
          rw [wp_bind, wp_receiver, hrole]
          dsimp only
          by_cases hb : Value.eqInt block x.lastDelivered = true
          · -- a repeat of the last block is acknowledged once more
            have hreply : dallyReply s.peer x.lastDelivered (bytes, source) =
                some (ackOf block, s.peer) := by
              simp [dallyReply, hdec, hpeer, hb]
            rw [if_pos hb, wp_bind, wp_tryCatch, wp_seqRight, wp_bind]
            apply wp_send_of_encode (ackOf_encode (fitsWord_of_decode_data hdec))
            · intro reason _
              dsimp only
              split <;> exact hstop _ _ (by simp)
                (hlook.append hlookGo (Dallied.replied (z := .sendFailed reason) hy ht hreply hgo))
            · intro z hz _
              exact hnext _ _ (by simp)
                (hlook.append hlookGo (Dallied.replied (z := z) hy ht hreply hgo))
                (by simp [hgo, Exchange.not_stopsDally_send (.inl hz)]) s.countSent
                rfl rfl rfl rfl rfl
          · rw [if_neg hb]
            exact hquiet (by simp [dallyReply, hdec, hpeer, hb])
        | _ => exact hquiet (by simp [dallyReply, hdec, hpeer])

/-- Dallying, round by round: whatever arrives and however the dally ends, its exchanges are
    those of a dally with the session's peer, its last delivered block and its timer. -/
theorem wp_dallyFor_dallied {x : Receiver} (fuel : Nat) :
    ∀ s h, s.role = .receiver x → s.pinned = true → s.phase = some .done →
      Wp ok (dallyFor fuel) (fun _ _ h' => ∃ δ, h' = h ++ δ ∧
        Dallied s.peer x.lastDelivered s.expiry δ) s h := by
  -- on the rounds left: each round keeps the role, the pin, the peer and the timer
  induction fuel with
  | zero =>
    intro s h _ _ _
    exact ⟨[], by simp, Dallied.nil⟩
  | succ n ih =>
    intro s h hrole hpin hdone
    refine wp_dallyFor_succ n hrole hpin hdone (fun _ _ ρ hρ => ⟨ρ, rfl, hρ⟩) ?_
    intro ρ s₁ hρ hgo hr hp hph hpeer hexp
    apply Wp.mono _ (ih s₁ _ (hr.trans hrole) (hp.trans hpin) (hph.trans hdone))
    intro _ _ h' hrest
    rw [hpeer, hexp] at hrest
    exact Dallied.extend hρ hgo hrest

/-- Under a clock that reads doubles and a socket that fails only with errors of the system, a
    dally whose timer has a double expiry raises nothing: the time left is always read, and
    every other failure of a round is a fault, which ends the dally quietly. -/
theorem wp_dallyFor_quiet (hclock : DoubleClock ok) (hsock : OsSocket ok) (fuel : Nat) :
    ∀ s h, (∃ e : Float, s.expiry = .float e) →
      Wp ok (dallyFor fuel) (fun r _ _ => r = .ok ()) s h := by
  -- on the rounds left: no round touches the timer's expiry
  induction fuel with
  | zero =>
    intro s h _
    rfl
  | succ n ih =>
    intro s h ⟨e, he⟩
    have hgo : ∀ s₁ h₁, s₁.expiry = s.expiry →
        Wp ok (dallyFor n) (fun r _ _ => r = .ok ()) s₁ h₁ :=
      fun s₁ h₁ hexp => ih s₁ h₁ ⟨e, hexp.trans he⟩
    unfold dallyFor
    rw [wp_bind]
    apply wp_timeLeft_double hclock he
    intro t _
    dsimp only
    split
    · rfl
    · rw [wp_bind, wp_tryCatch, wp_map]
      apply wp_receive_faults hclock hsock he
      intro r s₂ δ hrecv hfault
      -- a failure of the receive is a fault, which the round catches
      rcases r with f | got
      · dsimp only [Except.map]
        rw [if_pos (hfault f rfl)]
        rfl
      · dsimp only [Except.map]
        cases hrecv with
        | expired => exact hgo _ _ rfl
        | silent => exact hgo _ _ rfl
        | foreign => exact hgo _ _ rfl
        | packet y t bytes source p hy ht hdec hsrc hnot =>
          cases p with
          | data block payload =>
            rw [wp_bind]
            apply wp_receiver_of_forall
            intro x
            dsimp only
            split
            · -- the repeat is acknowledged; a failed send is a fault, which ends the dally
              rw [wp_bind, wp_tryCatch, wp_seqRight, wp_bind]
              apply wp_send_of_encode (ackOf_encode (fitsWord_of_decode_data hdec))
              · intro reason _
                rfl
              · intro z _ _
                exact hgo _ _ (pinTo_expiry s source)
            · exact hgo _ _ (pinTo_expiry s source)
          | _ => exact hgo _ _ (pinTo_expiry s source)

/-! ## A receiver that is done -/

variable {s : Session} {h : List Exchange}

/-- Closing a receiver that is done hands its handler the end of the stream at once, restarts
    the timer and dallies with its peer, its last delivered block and the restarted timer, as
    `Dallied` says; through it all the session stays done, without a fault, also in its
    statistics.  When nothing escapes the dally, the session then closes down, so that its
    caller gets the statistics back.  What escapes the dally is a failure that is no fault, such
    as a clock reading too large to restart or read the timer with; it escapes before the socket
    is closed and anything is reported. -/
theorem done_receiver_closes {x : Receiver} (fuel : Nat) (hrole : s.role = .receiver x)
    (hpin : s.pinned = true) (hdone : s.phase = some .done) (herr : s.error = none)
    (hrec : s.stats.error = none) (hn : NoneClosed h) :
    Wp ok (close fuel) (fun r s' h' =>
      s'.phase = some .done ∧ s'.error = none ∧ s'.stats.error = none ∧
      ∃ y c δ τ, h' = h ++ (.closeStream none, y) :: (.now, c) :: δ ++ τ ∧
        (match (Setup.clockOf c).add? s.policy.seconds with
          | some expiry => Dallied s.peer x.lastDelivered expiry δ
          | none => δ = []) ∧
        match r with
        | .ok _ => ClosedDown s' h'
        | .error e => τ = [] ∧ DallyFailed s' e h') s h := by
  unfold close
  rw [wp_bind, wp_get]
  simp only [hrole, hdone]
  rw [wp_bind]
  unfold dally
  rw [wp_bind, wp_discard, wp_ask]
  intro y _
  dsimp only [Except.map]
  rw [wp_bind, wp_resetTimeout]
  intro c _
  cases hadd : (Setup.clockOf c).add? s.policy.seconds with
  | none =>
    -- the timer cannot restart, and that failure escapes at once
    obtain ⟨hpipe, hsock, hrep⟩ :=
      hn.views_dallied (show NoneClosed [(.now, c)] by simp [NoneClosed, Request.closesDown]) y
    exact ⟨hdone, herr, hrec, y, c, [], [], by simp, by rw [hadd], rfl, hdone, herr, rfl,
      hpipe, hsock, hrep⟩
  | some expiry =>
    dsimp only
    -- the dally's exchanges, its outcome and what may escape it, together
    have hall := Wp.and (Wp.and
      (wp_dallyFor_dallied fuel { s with expiry := expiry } (h ++ [(.closeStream none, y)] ++
        [(.now, c)]) hrole hpin hdone)
      (@confined_dallyFor ok (· = s.outcome) fuel { s with expiry := expiry } _ rfl))
      (@raisesOnly_dallyFor ok fuel { s with expiry := expiry } _)
    apply Wp.mono _ hall
    rintro (e | _) s₁ h₁ ⟨⟨⟨δ, rfl, hδ⟩, hout, -⟩, hraise⟩ <;>
      simp only [outcome, Prod.mk.injEq] at hout <;>
      obtain ⟨hpipe, hsock, hrep⟩ := hn.views_dallied
        (show NoneClosed ((.now, c) :: δ) from List.forall_mem_cons.mpr ⟨rfl, hδ.noneClosed⟩) y
    · -- a failure escaped the dally: it is no fault, and nothing more was asked
      refine ⟨hout.1.trans hdone, hout.2.1.trans herr, hout.2.2.trans hrec, y, c, δ, [],
        by simp, by rw [hadd]; exact hδ, rfl, hout.1.trans hdone, hout.2.1.trans herr,
        hraise e rfl, ?_, ?_, ?_⟩
      · simpa using hpipe
      · simpa using hsock
      · simpa using hrep
    · -- the dally ended: the session closes down with no fault
      dsimp only
      rw [show h ++ [(Request.closeStream none, y)] ++ [(.now, c)] ++ δ =
        h ++ [(Request.closeStream none, y)] ++ (.now, c) :: δ by simp]
      apply Wp.mono _ (Wp.extends (wp_finish_clean (hout.2.1.trans herr)
        (hout.2.2.trans hrec) hpipe hsock hrep))
      rintro r s' h' ⟨⟨rfl, hph, herr', hrec', hcd⟩, τ, rfl, -⟩
      exact ⟨hph.trans (hout.1.trans hdone), herr', hrec', y, c, δ, τ, by simp,
        by rw [hadd]; exact hδ, hcd⟩

/-- Under a clock that reads doubles and a socket that fails only with errors of the system,
    closing a session whose timeout has a double raises nothing, and closes the socket: a
    receiver that is done restarts its timer, a double, and dallies quietly. -/
theorem wp_close_quiet (hclock : DoubleClock ok) (hsock : OsSocket ok) (fuel : Nat) {d : Float}
    (hd : s.policy.seconds.toFloat? = some d) :
    Wp ok (close fuel) (fun r _ h' => r = .ok () ∧ ∃ x, (Request.closeSocket, x) ∈ h') s h := by
  have hfinish : ∀ (s₁ : Session) h₁, Wp ok finish
      (fun r _ h' => r = .ok () ∧ ∃ x, (Request.closeSocket, x) ∈ h') s₁ h₁ :=
    fun _ _ => wp_finish fun _ x₂ _ _ => ⟨rfl, x₂, by simp⟩
  unfold close
  rw [wp_bind, wp_get]
  dsimp only
  split
  · rw [wp_bind]
    unfold dally
    rw [wp_bind, wp_discard, wp_ask]
    intro y _
    dsimp only [Except.map]
    rw [wp_bind]
    apply wp_resetTimeout_double hclock hd
    intro t _
    apply Wp.mono _ (wp_dallyFor_quiet hclock hsock fuel _ _ ⟨t + d, rfl⟩)
    rintro r s₁ h₁ rfl
    exact hfinish s₁ h₁
  · exact hfinish s h

/-- A receiver that is done after block 1 from its pinned peer. -/
def doneReceiver : Session :=
  { (default : Session) with
    role := .receiver ⟨.int 1, true⟩, pinned := true, phase := some .done }

end Session

/-- Under a clock that reads doubles and a socket that fails only with errors of the system, every
    created session's run ends with its socket closed: the session keeps the timeout it was
    created with, which has a double, and closing it raises nothing. -/
theorem Setup.always_closes_socket (st : Setup) (fuel : Nat) {ok : List Exchange → Prop}
    (hclock : Session.DoubleClock ok) (hsock : Session.OsSocket ok) :
    (st.program fuel).Always ok (fun r H => ∀ ending s, r = .ok (ending, s) →
      ∃ x, (Request.closeSocket, x) ∈ H) [] := by
  apply st.always_program_seen fuel
  · intro x _ _ ending s hr
    cases hr
  · intro x₀ expiry x₁ x₂ hx₀ hadd
    obtain ⟨t, rfl⟩ := hclock [] x₀ hx₀
    obtain ⟨d, hd⟩ := Setup.seconds_fit_of_add hadd
    obtain ⟨ht, harmed, hc, hnone⟩ := st.initial_timed hadd x₁ x₂
    have hfinal : ∀ s₁ h₁, s₁.policy = (st.initial expiry x₁ x₂).policy →
        Session.Wp ok (Session.close fuel)
          (fun _ _ h' => ∃ x, (Request.closeSocket, x) ∈ h') s₁ h₁ :=
      fun s₁ h₁ hpol => Session.Wp.mono (fun _ _ _ hq => hq.2)
        (Session.wp_close_quiet hclock hsock fuel (by rw [hpol]; exact hd))
    apply Session.Wp.mono _ (Session.wp_run_timed fuel ht harmed hc hnone
      (Session.calm_initial st expiry x₁ x₂) hfinal)
    rintro r s' H ⟨-, -, -, hclosed⟩ ending s -
    exact hclosed

end Tftp
