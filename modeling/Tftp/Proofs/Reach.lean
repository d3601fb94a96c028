import Tftp.Proofs.Steps

/-! # Where a step comes to

    `Wp` speaks of every run of a step to its end.  A frame statement speaks of one stretch of a
    run instead: from the session `s`, after the exchanges `δ`, the step `m` has become the step
    `m'` from the session `s'` (`Session.Comes m s δ m' s'`).  It is `Program.Reaches` of the
    programs the two steps make, so stretches compose (`Comes.trans`) and carry through the rest
    of a `do` block (`Comes.bind`, `Comes.bind_left`).

    The lemmas below say, one per building block, where a step comes to: reading the clock, a
    receive that brings a datagram, the check of its source, and reading the session's role.
    A statement about a whole step is then a chain of them. -/

namespace Tftp

namespace Program

variable {α β : Type}

/-- Two stretches of a run, one after the other. -/
theorem Reaches.trans {p q r : Program α} {H₁ H₂ : List Exchange} (h₁ : p.Reaches H₁ q)
    (h₂ : q.Reaches H₂ r) : p.Reaches (H₁ ++ H₂) r := by
  induction h₁ with
  | refl => exact h₂
  | step r k x _ ih => exact .step r k x (ih h₂)

/-- A stretch of a run of `p` is a stretch of every run of `p` followed by more. -/
theorem Reaches.bind (f : α → Program β) {p q : Program α} {H : List Exchange}
    (h : p.Reaches H q) : (p.bind f).Reaches H (q.bind f) := by
  induction h with
  | refl => exact .refl _
  | step r k x _ ih => exact .step r (fun x => (k x).bind f) x ih

end Program

namespace Session

variable {α β : Type}

/-- From the session `s`, after the exchanges `δ`, the step `m` has become the step `m'` from the
    session `s'`. -/
def Comes (m : SessionM α) (s : Session) (δ : List Exchange) (m' : SessionM α)
    (s' : Session) : Prop :=
  (m.run.run s).Reaches δ (m'.run.run s')

section Calculus

variable {m m' m₁ m₂ : SessionM α} {s s' s₁ s₂ : Session} {δ δ₁ δ₂ : List Exchange}

theorem Comes.refl (m : SessionM α) (s : Session) : Comes m s [] m s := Program.Reaches.refl _

theorem Comes.of_eq (h : m = m') : Comes m s [] m' s := by
  subst h
  exact Comes.refl _ _

theorem Comes.trans (h₁ : Comes m s δ₁ m₁ s₁) (h₂ : Comes m₁ s₁ δ₂ m₂ s₂) :
    Comes m s (δ₁ ++ δ₂) m₂ s₂ :=
  Program.Reaches.trans h₁ h₂

/-- A stretch followed by one that asks nothing. -/
theorem Comes.trans_nil (h₁ : Comes m s δ m₁ s₁) (h₂ : Comes m₁ s₁ [] m₂ s₂) :
    Comes m s δ m₂ s₂ := by
  simpa using h₁.trans h₂

/-- A step that has come to its value goes on with the rest of the block. -/
theorem Comes.bind {a : α} (h : Comes m s δ (pure a) s') (f : α → SessionM β) :
    Comes (m >>= f) s δ (f a) s' :=
  Program.Reaches.bind _ h

theorem Comes.bind_left (h : Comes m s δ m' s') (f : α → SessionM β) :
    Comes (m >>= f) s δ (m' >>= f) s' :=
  Program.Reaches.bind _ h

/-- A handler is never run for a step that has come to its value. -/
theorem Comes.tryCatch {a : α} (h : Comes m s δ (pure a) s') (handler : Failure → SessionM α) :
    Comes (tryCatch m handler) s δ (pure a) s' :=
  Program.Reaches.bind _ h

theorem Comes.map {a : α} (h : Comes m s δ (pure a) s') (f : α → β) :
    Comes (f <$> m) s δ (pure (f a)) s' :=
  Program.Reaches.bind _ h

end Calculus

theorem comes_ask (r : Request) (x : Response) (s : Session) :
    Comes (ask r) s [(r, x)] (pure x) s :=
  .step r _ x (.refl _)

theorem comes_get_bind (f : Session → SessionM α) (s : Session) :
    Comes (get >>= f) s [] (f s) s :=
  Comes.refl _ _

theorem comes_ofExcept_ok (a : α) (s : Session) :
    Comes (MonadExcept.ofExcept (.ok a : Except Failure α)) s [] (pure a) s :=
  Comes.refl _ _

/-! ## The clock and the socket -/

variable {s : Session} {x c z : Response} {t : Number}

theorem comes_now (s : Session) (x : Response) :
    Comes now s [(.now, x)] (pure (Setup.clockOf x)) s := by
  cases x <;> exact .step _ _ _ (.refl _)

/-- Reading the timer: one clock reading, and the time left until the expiry. -/
theorem comes_timeLeft (ht : s.expiry.sub? (Setup.clockOf x) = some t) :
    Comes timeLeft s [(.now, x)] (pure t) s := by
  unfold timeLeft
  refine ((comes_now s x).bind _).trans_nil ((comes_get_bind _ s).trans_nil ?_)
  simp only [ht]
  exact Comes.refl _ _

/-- A receive while the timer runs that brings a datagram: what comes next depends on its
    decoding alone. -/
theorem comes_receive_datagram (ht : s.expiry.sub? (Setup.clockOf x) = some t)
    (hpos : t.isNonpos = false) (bytes : List UInt8) (source : Address) :
    Comes receive s [(.now, x), (.receive t s.phase, .datagram bytes source)]
      (match Packet.decode bytes with
        | .error _ => pure none
        | .ok p => accept source p) s := by
  unfold receive
  refine ((comes_timeLeft ht).bind _).trans ?_
  rw [if_neg (by simp [hpos])]
  refine (comes_get_bind _ s).trans ?_
  exact (comes_ask _ _ s).bind _

/-- The datagram that tells a foreign source it has no transfer here: ERROR 5, unknown transfer
    ID. -/
def refusal : List UInt8 :=
  match (Draft.error foreignFault.code foreignFault.message).encode with
  | .ok bytes => bytes
  | .error _ => []

theorem refusal_encode :
    (Draft.error foreignFault.code foreignFault.message).encode = .ok refusal := by
  obtain ⟨bytes, hbytes⟩ := foreignRefusal_encode
  unfold refusal
  rw [hbytes]

/-- A pinned session answers a packet from a foreign source with the refusal, sent past the
    statistics, and takes nothing. -/
theorem comes_accept_foreign {source : Address} (p : Packet) (hpin : s.pinned = true)
    (hsrc : source ≠ s.peer) (z : Response) :
    Comes (accept source p) s [(.send refusal source, z)] (pure none) s := by
  unfold accept
  refine (comes_get_bind _ s).trans ?_
  rw [if_neg (by simp [hpin]), if_pos (by simpa using hsrc)]
  unfold rejectForeign
  have henc : (Draft.error (Fault.make .foreignPeer "unknown transfer ID" none).code
      (Fault.make .foreignPeer "unknown transfer ID" none).message).encode = .ok refusal :=
    refusal_encode
  simp only [henc]
  exact ((comes_ask _ z s).bind _).bind _

/-- A pinned session takes a packet from its peer that is no ERROR as it is. -/
theorem comes_accept_peer {source : Address} {p : Packet} (hpin : s.pinned = true)
    (hsrc : source = s.peer) (hp : ∀ code message, p ≠ .error code message) :
    Comes (accept source p) s [] (pure (some p)) s := by
  unfold accept
  refine (comes_get_bind _ s).trans ?_
  rw [if_neg (by simp [hpin]), if_neg (by simp [hsrc])]
  cases p with
  | error code message => exact absurd rfl (hp code message)
  | _ => exact Comes.refl _ _

section Receive

variable {bytes : List UInt8} {source : Address}

theorem comes_receive_malformed (ht : s.expiry.sub? (Setup.clockOf x) = some t)
    (hpos : t.isNonpos = false) {e : Malformation} (hdec : Packet.decode bytes = .error e) :
    Comes receive s [(.now, x), (.receive t s.phase, .datagram bytes source)] (pure none) s :=
  (comes_receive_datagram ht hpos bytes source).trans (Comes.of_eq (by rw [hdec]))

theorem comes_receive_foreign (ht : s.expiry.sub? (Setup.clockOf x) = some t)
    (hpos : t.isNonpos = false) {p : Packet} (hdec : Packet.decode bytes = .ok p)
    (hpin : s.pinned = true) (hsrc : source ≠ s.peer) (z : Response) :
    Comes receive s [(.now, x), (.receive t s.phase, .datagram bytes source),
      (.send refusal source, z)] (pure none) s :=
  ((comes_receive_datagram ht hpos bytes source).trans (Comes.of_eq (by rw [hdec]))).trans
    (comes_accept_foreign p hpin hsrc z)

theorem comes_receive_packet (ht : s.expiry.sub? (Setup.clockOf x) = some t)
    (hpos : t.isNonpos = false) {p : Packet} (hdec : Packet.decode bytes = .ok p)
    (hpin : s.pinned = true) (hsrc : source = s.peer)
    (hp : ∀ code message, p ≠ .error code message) :
    Comes receive s [(.now, x), (.receive t s.phase, .datagram bytes source)]
      (pure (some p)) s :=
  ((comes_receive_datagram ht hpos bytes source).trans (Comes.of_eq (by rw [hdec]))).trans
    (comes_accept_peer hpin hsrc hp)

end Receive

/-! ## The role -/

theorem comes_sender {x : Sender} (hrole : s.role = .sender x) : Comes sender s [] (pure x) s := by
  unfold sender
  refine (comes_get_bind _ s).trans ?_
  rw [hrole]
  exact Comes.refl _ _

theorem comes_receiver {x : Receiver} (hrole : s.role = .receiver x) :
    Comes receiver s [] (pure x) s := by
  unfold receiver
  refine (comes_get_bind _ s).trans ?_
  rw [hrole]
  exact Comes.refl _ _

end Session

end Tftp
