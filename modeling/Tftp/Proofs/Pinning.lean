import Tftp.Proofs.Timer.Silence
import Tftp.Proofs.Threads.Calls
import Tftp.Proofs.Reach
import Tftp.Proofs.Exchanges

/-! # Peer pinning

    A server session talks to the peer it was set up with.  A client session starts out with the
    server's address and pins its peer to the source of the first datagram that decodes, whatever
    its kind; until then it sends nothing but its request, and from then on its peer is fixed.  A
    datagram that decodes but comes from elsewhere is refused at once, and an ERROR from the peer
    before the transfer is done ends the session with the peer's code and message.

    `Setup.peerAfter st h` is the peer that the exchanges `h` fix for a session of the setup `st`.
    `Session.Pins` is what every step keeps: the session's peer and the peer its statistics name
    agree with `peerAfter`, every datagram sent went to the peer of its time or was the refusal
    of a foreign source, every report named the peer of its time, and every foreign datagram that
    decoded was refused.  `Session.Guards` carries it through the steps of a transfer, together
    with how a step may end: with no ERROR from the peer let through, or raising the abort of the
    ERROR it took last.  Main statement (`Setup.program_pins_peer`): every run of a whole session
    ends with `Pins` and with every ERROR from the peer before the transfer was done having ended
    it with that ERROR's code and message; conversely, a session ends with a peer's abort only
    after an ERROR from its peer (`Session.AbortedByPeer`). -/

namespace Tftp

/-- The request waits for a datagram. -/
def Request.receives : Request → Bool
  | .receive _ _ => true
  | _ => false

@[simp] theorem Failure.toFault_ofKind_kind (k : FaultKind) (m : Text) :
    (Failure.ofKind k m).toFault.kind = k := rfl

@[simp] theorem Failure.toFault_host_kind (k : HostKind) (a : Option Value) :
    (Failure.host k a).toFault.kind = .general := rfl

/-- A failure that is no fault stands for a general fault. -/
theorem Failure.toFault_kind_of_host {e : Failure} (he : e.isFault = false) :
    e.toFault.kind = .general := by
  cases e with
  | fault _ => cases he
  | host k a => rfl

/-- A packet that cannot be written fails on the host's side. -/
@[simp] theorem EncodeError.failure_toFault_kind (e : EncodeError) :
    e.failure.toFault.kind = .general := by
  cases e <;> rfl

namespace Exchange

/-- The source of a datagram that arrived and decodes, whatever its kind. -/
def pinSource? : Exchange → Option Address
  | (.receive _ _, .datagram bytes source) =>
    match Packet.decode bytes with
    | .ok _ => some source
    | .error _ => none
  | _ => none

theorem pinSource?_of_receives {e : Exchange} (he : e.1.receives = false) : e.pinSource? = none := by
  obtain ⟨r, x⟩ := e
  cases r with
  | receive t ph => simp [Request.receives] at he
  | _ => rfl

theorem pinSource?_datagram {t : Number} {ph : Option Phase} {bytes : List UInt8}
    {source : Address} {p : Packet} (hdec : Packet.decode bytes = .ok p) :
    pinSource? (.receive t ph, .datagram bytes source) = some source := by
  simp [pinSource?, hdec]

/-- A receive that brought nothing that decodes pins nothing. -/
theorem pinSource?_receive {t : Number} {ph : Option Phase} {y : Response}
    (hy : ∀ bytes source, y = .datagram bytes source → ∃ e, Packet.decode bytes = .error e) :
    pinSource? (.receive t ph, y) = none := by
  cases y with
  | datagram bytes source =>
    obtain ⟨e, he⟩ := hy bytes source rfl
    simp [pinSource?, he]
  | _ => rfl

end Exchange

/-- The source of the first datagram among the exchanges that decoded. -/
def firstSource (h : List Exchange) : Option Address :=
  (h.filterMap Exchange.pinSource?).head?

theorem firstSource_append (h δ : List Exchange) :
    firstSource (h ++ δ) = (firstSource h).or (firstSource δ) := by
  simp [firstSource, List.filterMap_append, List.head?_append]

theorem firstSource_singleton (e : Exchange) : firstSource [e] = e.pinSource? := by
  unfold firstSource
  rw [List.filterMap_cons, List.filterMap_nil]
  cases e.pinSource? <;> rfl

theorem firstSource_eq_none {δ : List Exchange} (hδ : ∀ e ∈ δ, e.pinSource? = none) :
    firstSource δ = none := by
  simp only [firstSource, List.head?_eq_none_iff, List.filterMap_eq_nil_iff]
  exact hδ

namespace Setup

/-- A client of the setup whose exchanges `h` brought no datagram that decodes has not pinned its
    peer yet; a server never has anything to pin. -/
def unpinned (st : Setup) (h : List Exchange) : Bool :=
  st.client && (firstSource h).isNone

/-- The peer of a session of the setup after the exchanges `h`: a server's is the one it was set
    up with; a client's is the source of the first datagram that decoded, and the server it
    wrote to before that. -/
def peerAfter (st : Setup) (h : List Exchange) : Address :=
  if st.client then (firstSource h).getD st.peer else st.peer

variable (st : Setup) {h δ : List Exchange}

/-- A server's peer never changes. -/
theorem peerAfter_server (hc : st.client = false) (h : List Exchange) : st.peerAfter h = st.peer := by
  simp [peerAfter, hc]

/-- Before pinning, the peer is the server's address. -/
theorem peerAfter_of_unpinned (hu : st.unpinned h = true) : st.peerAfter h = st.peer := by
  simp only [unpinned, Bool.and_eq_true, Option.isNone_iff_eq_none] at hu
  simp [peerAfter, hu.1, hu.2]

/-- Once pinned, the peer never changes again. -/
theorem peerAfter_append_of_pinned (hu : st.unpinned h = false) (δ : List Exchange) :
    st.peerAfter (h ++ δ) = st.peerAfter h := by
  unfold peerAfter
  split
  · next hc =>
    obtain ⟨a, ha⟩ := Option.isSome_iff_exists.mp (by simpa [unpinned, hc] using hu)
    simp [firstSource_append, ha]
  · rfl

theorem unpinned_append_of_pinned (hu : st.unpinned h = false) (δ : List Exchange) :
    st.unpinned (h ++ δ) = false := by
  cases hc : st.client
  · simp [unpinned, hc]
  · obtain ⟨a, ha⟩ := Option.isSome_iff_exists.mp (by simpa [unpinned, hc] using hu)
    simp [unpinned, firstSource_append, ha]

/-- Exchanges that bring no datagram that decodes leave the peer alone. -/
theorem peerAfter_append_inert (hδ : ∀ e ∈ δ, e.pinSource? = none) :
    st.peerAfter (h ++ δ) = st.peerAfter h := by
  simp [peerAfter, firstSource_append, firstSource_eq_none hδ]

theorem unpinned_append_inert (hδ : ∀ e ∈ δ, e.pinSource? = none) :
    st.unpinned (h ++ δ) = st.unpinned h := by
  simp [unpinned, firstSource_append, firstSource_eq_none hδ]

/-- The first datagram that decodes pins a client's peer to its source. -/
theorem peerAfter_pin (hu : st.unpinned h = true) {e : Exchange} {source : Address}
    (he : e.pinSource? = some source) :
    st.peerAfter (h ++ [e]) = source ∧ st.unpinned (h ++ [e]) = false := by
  simp only [unpinned, Bool.and_eq_true, Option.isNone_iff_eq_none] at hu
  have hfirst : firstSource (h ++ [e]) = some source := by
    rw [firstSource_append, hu.2, firstSource_singleton, he]
    rfl
  simp [peerAfter, unpinned, hu.1, hfirst]

/-- A datagram a session of the setup may send after the exchanges `A`: one to the peer of the
    time, where a client that has not pinned its peer sends nothing but its request; or the
    refusal, sent to a foreign source whose datagram decoded and arrived just before. -/
def Sendable (A : List Exchange) (bytes : List UInt8) (target : Address) : Prop :=
  (target = st.peerAfter A ∧ (st.unpinned A = true → st.request.encode = .ok bytes)) ∨
  (bytes = Session.refusal ∧ target ≠ st.peerAfter A ∧
    ∃ A' e, A = A' ++ [e] ∧ e.pinSource? = some target)

/-- Before pinning, a client sends nothing but its request, to the server it was set up with. -/
theorem Sendable.unpinned {A : List Exchange} {bytes : List UInt8} {target : Address}
    (hs : st.Sendable A bytes target) (hu : st.unpinned A = true) :
    target = st.peer ∧ st.request.encode = .ok bytes := by
  rcases hs with ⟨rfl, hreq⟩ | ⟨-, -, A', e, rfl, he⟩
  · exact ⟨st.peerAfter_of_unpinned hu, hreq hu⟩
  · -- the datagram just before it decoded, so the peer is pinned
    have hpinned : st.unpinned (A' ++ [e]) = false := by
      cases hc : st.client
      · simp [Setup.unpinned, hc]
      · simp [Setup.unpinned, firstSource_append, firstSource_singleton, he]
    rw [hpinned] at hu
    cases hu

/-- The exchange `e`, after the exchanges `A`, brought an ERROR with `code` and `message` from the
    peer before the transfer was done: a datagram that decodes so, from the peer it pinned or
    had pinned, received in a phase other than done. -/
def AbortsAt (A : List Exchange) (e : Exchange) (code : Int) (message : String) : Prop :=
  ∃ t ph bytes source, e = (.receive t ph, .datagram bytes source) ∧ ph ≠ some .done ∧
    Packet.decode bytes = .ok (.error code message) ∧ source = st.peerAfter (A ++ [e])

/-- The exchange `e`, after the exchanges `A`, brought an ERROR with `code` and `message` from the
    peer it pinned or had pinned, in whatever phase. -/
def ErrorFromPeer (A : List Exchange) (e : Exchange) (code : Int) (message : String) : Prop :=
  ∃ t ph bytes source, e = (.receive t ph, .datagram bytes source) ∧
    Packet.decode bytes = .ok (.error code message) ∧ source = st.peerAfter (A ++ [e])

theorem AbortsAt.errorFromPeer {st : Setup} {A : List Exchange} {e : Exchange} {code : Int}
    {message : String} (hat : st.AbortsAt A e code message) : st.ErrorFromPeer A e code message := by
  obtain ⟨t, ph, bytes, source, rfl, -, hdec, hsrc⟩ := hat
  exact ⟨t, ph, bytes, source, rfl, hdec, hsrc⟩

/-- The exchanges `h` hold no ERROR from the peer before the transfer was done. -/
def Quiet (h : List Exchange) : Prop :=
  ∀ A e B, h = A ++ e :: B → ∀ code message, ¬ st.AbortsAt A e code message

theorem not_abortsAt_of_pinSource {A : List Exchange} {e : Exchange}
    (he : e.pinSource? = none) (code : Int) (message : String) : ¬ st.AbortsAt A e code message := by
  rintro ⟨t, ph, bytes, source, rfl, -, hdec, -⟩
  simp [Exchange.pinSource?, hdec] at he

theorem quiet_nil : st.Quiet [] := fun A e B h => by simp at h

theorem Quiet.append {st : Setup} (hq : st.Quiet h)
    (hδ : ∀ A e B, δ = A ++ e :: B → ∀ code message, ¬ st.AbortsAt (h ++ A) e code message) :
    st.Quiet (h ++ δ) :=
  (forall_split_append (P := fun A (e : Exchange) _ => ∀ code message, ¬ st.AbortsAt A e code message) h δ).mpr
    ⟨fun A e B hsplit => hq A e B hsplit, hδ⟩

/-- An ERROR from the peer carries one code and one message. -/
theorem AbortsAt.unique {st : Setup} {A : List Exchange} {x : Exchange} {c₁ c₂ : Int}
    {m₁ m₂ : String} (h₁ : st.AbortsAt A x c₁ m₁) (h₂ : st.AbortsAt A x c₂ m₂) :
    c₁ = c₂ ∧ m₁ = m₂ := by
  obtain ⟨t, ph, bytes, source, rfl, -, hdec₁, -⟩ := h₁
  obtain ⟨_, _, _, _, he, -, hdec₂, -⟩ := h₂
  cases he
  rw [hdec₁] at hdec₂
  cases hdec₂
  exact ⟨rfl, rfl⟩

theorem Quiet.append_inert {st : Setup} (hq : st.Quiet h) (hδ : ∀ e ∈ δ, e.pinSource? = none) :
    st.Quiet (h ++ δ) :=
  hq.append fun A e B hs => st.not_abortsAt_of_pinSource (hδ e (by simp [hs]))

end Setup

namespace Session

variable {α β : Type} {ok : List Exchange → Prop} {st : Setup}

/-! ## The invariant -/

/-- What every step of a session of the setup `st` keeps about its peer, after the exchanges `h`. -/
structure Pins (st : Setup) (s : Session) (h : List Exchange) : Prop where
  /-- the peer is the setup's for a server, and for a client the source of the first datagram
      that decoded -/
  peer : s.peer = st.peerAfter h
  /-- the peer is pinned exactly when it can change no more -/
  pinned : s.pinned = !st.unpinned h
  /-- the statistics name the session's peer -/
  statsPeer : s.stats.peer = s.peer
  /-- every datagram sent went to the peer of its time, or was the refusal of a foreign source -/
  sends : ∀ A (e : Exchange) B, h = A ++ e :: B → ∀ bytes target, e.sent? = some (bytes, target) →
    st.Sendable A bytes target
  /-- every report of the statistics named the peer of its time -/
  reports : ∀ A (e : Exchange) B, h = A ++ e :: B → ∀ stats, e.report? = some stats →
    stats.peer = st.peerAfter A
  /-- a foreign datagram that decoded was refused right away -/
  refuses : ∀ A (e : Exchange) B, h = A ++ e :: B → ∀ source, e.pinSource? = some source →
    source ≠ st.peerAfter (A ++ [e]) → ∃ z B', B = (.send refusal source, z) :: B'
  /-- the session is the setup's -/
  client : s.client = st.client
  kind : s.kind = st.kind
  filename : s.filename = st.filename
  mode : s.mode = st.mode
  /-- before pinning, the session has nothing to resend but its request -/
  resend : s.pinned = false → s.lastPacket = none ∨ s.lastPacket = some st.request
  /-- before pinning, the session opens the transfer, waits for its peer, or has failed -/
  waiting : s.pinned = false →
    s.phase = none ∨ s.phase = some st.kind.waitPhase ∨ s.phase = some .failed

section Append

variable {s : Session} {h δ : List Exchange}

/-- The datagrams sent before `δ` stay sendable; those of `δ` are judged after what came before
    them. -/
theorem Pins.sends_append (hp : Pins st s h)
    (hδ : ∀ A e B, δ = A ++ e :: B → ∀ bytes target, e.sent? = some (bytes, target) →
      st.Sendable (h ++ A) bytes target) :
    ∀ A (e : Exchange) B, h ++ δ = A ++ e :: B → ∀ bytes target,
      e.sent? = some (bytes, target) → st.Sendable A bytes target :=
  (forall_split_append (P := fun A (e : Exchange) _ => ∀ bytes target,
    e.sent? = some (bytes, target) → st.Sendable A bytes target) h δ).mpr ⟨hp.sends, hδ⟩

theorem Pins.reports_append (hp : Pins st s h)
    (hδ : ∀ A e B, δ = A ++ e :: B → ∀ stats, e.report? = some stats →
      stats.peer = st.peerAfter (h ++ A)) :
    ∀ A (e : Exchange) B, h ++ δ = A ++ e :: B → ∀ stats, e.report? = some stats →
      stats.peer = st.peerAfter A :=
  (forall_split_append (P := fun A (e : Exchange) _ => ∀ stats,
    e.report? = some stats → stats.peer = st.peerAfter A) h δ).mpr ⟨hp.reports, hδ⟩

theorem Pins.refuses_append (hp : Pins st s h)
    (hδ : ∀ A (e : Exchange) B, δ = A ++ e :: B → ∀ source, e.pinSource? = some source →
      source ≠ st.peerAfter (h ++ A ++ [e]) → ∃ z B', B = (.send refusal source, z) :: B') :
    ∀ A (e : Exchange) B, h ++ δ = A ++ e :: B → ∀ source, e.pinSource? = some source →
      source ≠ st.peerAfter (A ++ [e]) → ∃ z B', B = (.send refusal source, z) :: B' := by
  refine (forall_split_append (P := fun A (e : Exchange) B => ∀ source,
    e.pinSource? = some source → source ≠ st.peerAfter (A ++ [e]) →
      ∃ z B', B = (.send refusal source, z) :: B') h δ).mpr
    ⟨fun A e B hs source hsrc hne => ?_, hδ⟩
  -- the refusal of a datagram before `δ` came before `δ` too
  obtain ⟨z, B', rfl⟩ := hp.refuses A e B hs source hsrc hne
  exact ⟨z, B' ++ δ, rfl⟩

/-- One more exchange that brings no datagram that decodes keeps the invariant, if what it sends
    may be sent and what it reports names the peer. -/
theorem Pins.push (hp : Pins st s h) (e : Exchange) (hpin : e.pinSource? = none)
    (hsent : ∀ bytes target, e.sent? = some (bytes, target) → st.Sendable h bytes target)
    (hrep : ∀ stats, e.report? = some stats → stats.peer = st.peerAfter h) :
    Pins st s (h ++ [e]) := by
  have hinert : ∀ e' ∈ [e], e'.pinSource? = none := by simpa using hpin
  exact { hp with
    peer := hp.peer.trans (st.peerAfter_append_inert hinert).symm
    pinned := by rw [hp.pinned, st.unpinned_append_inert hinert]
    sends := hp.sends_append ((forall_split_singleton _).mpr (by simpa using hsent))
    reports := hp.reports_append ((forall_split_singleton _).mpr (by simpa using hrep))
    refuses := hp.refuses_append ((forall_split_singleton _).mpr
      fun _ hsrc => by simp [hpin] at hsrc) }

/-- Exchanges that bring no datagram that decodes, send nothing and report nothing keep the
    invariant. -/
theorem Pins.append (hp : Pins st s h)
    (hδ : ∀ e ∈ δ, e.pinSource? = none ∧ e.sent? = none ∧ e.report? = none) :
    Pins st s (h ++ δ) := by
  induction δ generalizing h with
  | nil => simpa using hp
  | cons e δ ih =>
    have he := hδ e (by simp)
    have hp' := hp.push e he.1 (fun _ _ hs => by simp [he.2.1] at hs)
      (fun _ hr => by simp [he.2.2] at hr)
    simpa using ih hp' (fun e' he' => hδ e' (by simp [he']))

/-- A datagram the session may send keeps the invariant. -/
theorem Pins.send (hp : Pins st s h) {bytes : List UInt8} {target : Address}
    (hs : st.Sendable h bytes target) (x : Response) :
    Pins st s (h ++ [(.send bytes target, x)]) :=
  hp.push _ rfl (fun bytes' target' hsent => by
    simp only [Exchange.sent?, Option.some.injEq, Prod.mk.injEq] at hsent
    obtain ⟨rfl, rfl⟩ := hsent
    exact hs) (fun _ hr => by simp [Exchange.report?] at hr)

/-- A report of statistics that name the peer keeps the invariant. -/
theorem Pins.report (hp : Pins st s h) {stats : Stats} (hst : stats.peer = s.peer)
    (x : Response) : Pins st s (h ++ [(.report stats, x)]) :=
  hp.push _ rfl (fun _ _ hs => by simp [Exchange.sent?] at hs) (fun stats' hr => by
    simp only [Exchange.report?, Option.some.injEq] at hr
    rw [← hr, hst, hp.peer])

/-- An exchange that neither waits for a datagram, sends nor reports keeps the invariant. -/
theorem Pins.quiet (hp : Pins st s h) {r : Request} (hr : r.receives = false)
    (hs : ∀ bytes target, r ≠ .send bytes target) (hrep : ∀ stats, r ≠ .report stats)
    (x : Response) : Pins st s (h ++ [(r, x)]) := by
  apply hp.push _ (Exchange.pinSource?_of_receives hr)
  · intro bytes target hsent
    cases r <;> simp_all [Exchange.sent?]
  · intro stats hrep'
    cases r <;> simp_all [Exchange.report?]

/-- Counting a datagram sent and stamping the end of the run touch nothing the invariant
    reads. -/
theorem Pins.countSent (hp : Pins st s h) : Pins st s.countSent h := { hp with }

theorem Pins.closedAt (hp : Pins st s h) (t : Number) : Pins st (s.closedAt t) h := { hp with }

end Append

/-- A pinned session stays pinned. -/
theorem Pins.pinned_append {s s' : Session} {h δ : List Exchange} (hp : Pins st s h)
    (hpin : s.pinned = true) (hp' : Pins st s' (h ++ δ)) : s'.pinned = true := by
  have hu : st.unpinned h = false := by simpa [hp.pinned] using hpin
  rw [hp'.pinned, st.unpinned_append_of_pinned hu]
  rfl

/-- A session whose peer is pinned. -/
def Pinned (st : Setup) (s : Session) (h : List Exchange) : Prop :=
  Pins st s h ∧ s.pinned = true

/-- A session that may send the draft `p`: one that has pinned its peer, or one whose draft is
    its request. -/
def Sends (st : Setup) (p : Draft) (s : Session) (h : List Exchange) : Prop :=
  Pins st s h ∧ (s.pinned = false → p = st.request)

/-! ## How a step ends -/

/-- The step raised the abort of the ERROR from the peer that it took last, before the transfer
    was done; the exchanges before that ERROR hold no other. -/
def Aborts (st : Setup) (e : Failure) (s : Session) (h : List Exchange) : Prop :=
  s.phase ≠ some .done ∧ ∃ A x code message, h = A ++ [x] ∧ st.Quiet A ∧
    st.AbortsAt A x code message ∧ e = peerAbort code message

/-- The step raised `e`, the abort of the ERROR from the peer that it took last, in whatever
    phase. -/
def AbortsFromPeer (st : Setup) (e : Failure) (h : List Exchange) : Prop :=
  ∃ A x code message, h = A ++ [x] ∧ st.ErrorFromPeer A x code message ∧ e = peerAbort code message

theorem Aborts.fromPeer {e : Failure} {s : Session} {h : List Exchange} (hab : Aborts st e s h) :
    AbortsFromPeer st e h := by
  obtain ⟨-, A, x, code, message, rfl, -, hat, rfl⟩ := hab
  exact ⟨A, x, code, message, rfl, hat.errorFromPeer, rfl⟩

/-- How a step of a transfer may end: having let no ERROR from the peer through, or raising the
    abort of the ERROR from the peer that it took last.  A session that has not pinned its peer
    never fails with a fault of its handler, and a step raises a peer's abort only right after an
    ERROR from the peer. -/
def Guarded (st : Setup) : Except Failure α → Session → List Exchange → Prop
  | .ok _, _, h => st.Quiet h
  | .error e, s, h => (s.pinned = false → e.toFault.kind ≠ .handlerFailure) ∧
      (e.toFault.kind = .peerAbort → AbortsFromPeer st e h) ∧ (st.Quiet h ∨ Aborts st e s h)

/-- Every run of the step `m` from a state that satisfies `I`, after exchanges that let no ERROR
    from the peer through, keeps `I` and ends as `Guarded` says. -/
def Guards (ok : List Exchange → Prop) (st : Setup) (I : Session → List Exchange → Prop)
    (m : SessionM α) : Prop :=
  ∀ s h, I s h → st.Quiet h → Wp ok m (fun r s' h' => I s' h' ∧ Guarded st r s' h') s h

section Closure

variable {I J : Session → List Exchange → Prop}

theorem guards_pure (a : α) : Guards ok st I (pure a) := fun _ _ hi hq => ⟨hi, hq⟩

theorem guards_get : Guards ok st I get := fun _ _ hi hq => ⟨hi, hq⟩

theorem guards_throw {e : Failure} (hk : e.toFault.kind ≠ .peerAbort)
    (he : ∀ s h, I s h → s.pinned = false → e.toFault.kind ≠ .handlerFailure) :
    Guards ok st I (throw e : SessionM α) :=
  fun s h hi hq => ⟨hi, he s h hi, fun hk' => absurd hk' hk, .inl hq⟩

theorem guards_ofExcept {x : Except Failure α}
    (hk : ∀ e, x = .error e → e.isFault = false)
    (he : ∀ e, x = .error e → ∀ s h, I s h → s.pinned = false → e.toFault.kind ≠ .handlerFailure) :
    Guards ok st I (MonadExcept.ofExcept x) := by
  cases x with
  | error e => exact guards_throw (by rw [Failure.toFault_kind_of_host (hk e rfl)]; decide) (he e rfl)
  | ok a => exact guards_pure a

theorem guards_modify {f : Session → Session} (hf : ∀ s h, I s h → I (f s) h) :
    Guards ok st I (modify f) :=
  fun s h hi hq => ⟨hf s h hi, hq⟩

theorem guards_ask {r : Request} (hr : r.receives = false)
    (hI : ∀ s h x, I s h → I s (h ++ [(r, x)])) : Guards ok st I (ask r) := by
  intro s h hi hq
  rw [wp_ask]
  intro x _
  exact ⟨hI s h x hi, hq.append_inert (by simpa using Exchange.pinSource?_of_receives hr)⟩

theorem Guards.bind {m : SessionM α} {f : α → SessionM β} (hm : Guards ok st I m)
    (hf : ∀ a, Guards ok st I (f a)) : Guards ok st I (m >>= f) := by
  intro s h hi hq
  rw [wp_bind]
  apply Wp.mono _ (hm s h hi hq)
  rintro (e | a) s' h' ⟨hi', hend⟩
  · exact ⟨hi', hend⟩
  · exact hf a s' h' hi' hend

theorem Guards.seq {m : SessionM α} {m' : SessionM β} (hm : Guards ok st I m)
    (hm' : Guards ok st I m') : Guards ok st I (m >>= fun _ => m') :=
  hm.bind fun _ => hm'

theorem Guards.ite {c : Prop} [Decidable c] {a b : SessionM α} (ha : Guards ok st I a)
    (hb : Guards ok st I b) : Guards ok st I (if c then a else b) := by
  split
  · exact ha
  · exact hb

theorem Guards.discard {m : SessionM α} (hm : Guards ok st I m) : Guards ok st I (discard m) :=
  hm.seq (guards_pure _)

theorem Guards.map {m : SessionM α} (f : α → β) (hm : Guards ok st I m) :
    Guards ok st I (f <$> m) :=
  hm.bind fun a => guards_pure (f a)

/-- A handler runs only after a failure that took no ERROR from the peer. -/
theorem Guards.tryCatch {m : SessionM α} {handler : Failure → SessionM α} (hm : Guards ok st I m)
    (hab : ∀ e s h, I s h → ¬ Aborts st e s h) (hh : ∀ e, Guards ok st I (handler e)) :
    Guards ok st I (tryCatch m handler) := by
  intro s h hi hq
  rw [wp_tryCatch]
  apply Wp.mono _ (hm s h hi hq)
  rintro (e | a) s' h' ⟨hi', hend⟩
  · rcases hend.2.2 with hq' | hab'
    · exact hh e s' h' hi' hq'
    · exact absurd hab' (hab e s' h' hi')
  · exact ⟨hi', hend⟩

/-- A step that keeps a weaker invariant keeps a stronger one whose surplus every run keeps. -/
theorem Guards.lift {m : SessionM α} (hm : Guards ok st I m) (hJI : ∀ s h, J s h → I s h)
    (hpost : ∀ s h s' δ, J s h → I s' (h ++ δ) → J s' (h ++ δ)) : Guards ok st J m := by
  intro s h hj hq
  apply Wp.mono _ (Wp.extends (hm s h (hJI s h hj) hq))
  rintro r s' h' ⟨⟨hi', hend⟩, δ, rfl, -⟩
  exact ⟨hpost s h s' δ hj hi', hend⟩

/-- A step keeps its invariant together with what it keeps of the outcome. -/
theorem Guards.outcome {Q : Option Phase × Option Fault × Option Fault → Prop} {m : SessionM α}
    (hm : Guards ok st I m) (hc : Confined ok Q m) :
    Guards ok st (fun s h => I s h ∧ Q s.outcome) m := by
  intro s h ⟨hi, hQ⟩ hq
  exact Wp.mono (fun _ _ _ ⟨⟨hi', hend⟩, hQ', _⟩ => ⟨⟨hi', hQ'⟩, hend⟩)
    (Wp.and (hm s h hi hq) (hc s h hQ))

variable {m : SessionM α}

theorem Guards.pinned (hm : Guards ok st (Pins st) m) : Guards ok st (Pinned st) m :=
  hm.lift (fun _ _ hj => hj.1) fun _ _ _ _ hj hp => ⟨hp, hj.1.pinned_append hj.2 hp⟩

theorem Guards.sends {p : Draft} (hm : Guards ok st (Pins st) m) : Guards ok st (Sends st p) m :=
  hm.lift (fun _ _ hj => hj.1) fun s _ s' _ hj hp => ⟨hp, fun hpin => hj.2 (by
    cases hs : s.pinned
    · rfl
    · rw [hj.1.pinned_append hs hp] at hpin
      cases hpin)⟩

/-- A pinned session may send any draft. -/
theorem Guards.of_sends {p : Draft} (hm : Guards ok st (Sends st p) m) :
    Guards ok st (Pinned st) m :=
  hm.lift (fun _ _ hj => ⟨hj.1, fun hpin => by rw [hj.2] at hpin; cases hpin⟩)
    fun _ _ _ _ hj hs => ⟨hs.1, hj.1.pinned_append hj.2 hs.1⟩

/-- Any session may send its request. -/
theorem Guards.of_request (hm : Guards ok st (Sends st st.request) m) : Guards ok st (Pins st) m :=
  hm.lift (fun _ _ hp => ⟨hp, fun _ => rfl⟩) fun _ _ _ _ _ hs => hs.1

end Closure

theorem Pinned.not_unpinned {s : Session} {h : List Exchange} (hi : Pinned st s h)
    (hpin : s.pinned = false) : False := by
  rw [hi.2] at hpin
  cases hpin

/-- Under a pinned peer, a step may fail in any way but with a peer's abort. -/
theorem guards_throw_pinned {e : Failure} (hk : e.toFault.kind ≠ .peerAbort) :
    Guards ok st (Pinned st) (throw e : SessionM α) :=
  guards_throw hk fun _ _ hi hpin => (hi.not_unpinned hpin).elim

theorem guards_ofExcept_pinned {x : Except Failure α} (hk : ∀ e, x = .error e → e.isFault = false) :
    Guards ok st (Pinned st) (MonadExcept.ofExcept x) :=
  guards_ofExcept hk fun _ _ _ _ hi hpin => (hi.not_unpinned hpin).elim

/-! ## The shared steps -/

/-- A request that neither waits for a datagram, sends nor reports. -/
theorem guards_ask_quiet {r : Request} (hr : r.receives = false)
    (hs : ∀ bytes target, r ≠ .send bytes target) (hrep : ∀ stats, r ≠ .report stats) :
    Guards ok st (Pins st) (ask r) :=
  guards_ask hr fun _ _ x hp => hp.quiet hr hs hrep x

theorem guards_stream (c : Call) : Guards ok st (Pins st) (ask (.stream c)) :=
  guards_ask_quiet rfl (fun _ _ => Request.noConfusion) (fun _ => Request.noConfusion)

theorem guards_now : Guards ok st (Pins st) now :=
  (guards_ask_quiet (r := .now) rfl (fun _ _ => Request.noConfusion)
    (fun _ => Request.noConfusion)).bind fun x => by
    cases x <;> exact guards_pure _

theorem guards_updateStats {f : Stats → Stats} (hf : ∀ x, (f x).peer = x.peer) :
    Guards ok st (Pins st) (updateStats f) :=
  guards_modify fun s _ hp => { hp with statsPeer := (hf s.stats).trans hp.statsPeer }

theorem guards_resetTimeout : Guards ok st (Pins st) resetTimeout :=
  guards_now.bind fun _ => guards_get.bind fun _ => by
    split
    · exact guards_modify fun _ _ hp => { hp with }
    · exact guards_throw (by decide) fun _ _ _ _ => by decide

theorem guards_timeLeft : Guards ok st (Pins st) timeLeft :=
  guards_now.bind fun _ => guards_get.bind fun _ => by
    split
    · exact guards_pure _
    · exact guards_throw (by decide) fun _ _ _ _ => by decide

/-- A send goes to the peer of its time; before pinning, it is the request. -/
theorem guards_send (p : Draft) : Guards ok st (Sends st p) (send p) := by
  intro s h ⟨hp, hreq⟩ hq
  rw [wp_send]
  split
  · exact ⟨⟨hp, hreq⟩, fun _ => by simp, fun hk => by simp at hk, .inl hq⟩
  · next bytes henc =>
    intro x _
    have hs : st.Sendable h bytes s.peer := .inl ⟨hp.peer, fun hu => by
      rw [← hreq (by rw [hp.pinned, hu]; rfl)]
      exact henc⟩
    have hq' : st.Quiet (h ++ [(.send bytes s.peer, x)]) :=
      hq.append_inert (by simp [Exchange.pinSource?])
    split
    · exact ⟨⟨hp.send hs _, hreq⟩, fun _ => by simp [sendFailure],
        fun hk => by simp [sendFailure] at hk, .inl hq'⟩
    · exact ⟨⟨(hp.send hs _).countSent, hreq⟩, hq'⟩

/-- A fresh transmission leaves the draft to resend, which before pinning is the request. -/
theorem guards_transmit (p : Draft) : Guards ok st (Sends st p) (transmit p) :=
  (guards_send p).seq ((guards_modify fun _ _ hs =>
    ⟨{ hs.1 with resend := fun hpin => .inr (by rw [hs.2 hpin]) }, hs.2⟩).seq
      guards_resetTimeout.sends)

theorem guards_retransmit : Guards ok st (Pins st) retransmit := by
  intro s h hp hq
  rw [wp_retransmit]
  split
  · next p hlast =>
    -- before pinning, the draft to resend is the request
    have hsends : Sends st p s h := ⟨hp, fun hpin => by
      rcases hp.resend hpin with hnone | hreq
      · rw [hlast] at hnone
        cases hnone
      · rw [hlast] at hreq
        exact Option.some.inj hreq⟩
    apply Wp.mono _ (guards_send p s h hsends hq)
    rintro (e | _) s₁ h₁ ⟨hs₁, hend⟩
    · exact ⟨hs₁.1, hend⟩
    · exact guards_resetTimeout _ _ { hs₁.1 with } hend
  · exact guards_resetTimeout _ _ { hp with } hq

theorem guards_handleTimeout : Guards ok st (Pins st) handleTimeout :=
  guards_get.bind fun _ => Guards.ite guards_retransmit (guards_throw (by simp) fun _ _ _ _ => by simp)

/-- The rest of a step that waited: resend if the timer expired while still waiting. -/
theorem guards_expire (ph : Phase) : Guards ok st (Pins st) (do
      if (← get).phase == some ph then
        if (← timeLeft).isNonpos then handleTimeout) :=
  guards_get.bind fun _ => Guards.ite
    (guards_timeLeft.bind fun _ => Guards.ite guards_handleTimeout (guards_pure _)) (guards_pure _)

/-! ## Receiving -/

section Receive

variable {s : Session} {h : List Exchange} {t : Number} {ph : Option Phase} {bytes : List UInt8}
  {source : Address} {p : Packet}

@[simp] theorem peerAbort_toFault_kind (code : Int) (message : String) :
    (peerAbort code message).toFault.kind = .peerAbort := rfl

@[simp] theorem handlerFailure_toFault_kind (cause : Failure) :
    (handlerFailure cause).toFault.kind = .handlerFailure := rfl

/-- A failed receive raises a transport failure or what the socket raised. -/
theorem receiveFailure_toFault_kind_of_host {f : Failure} (hf : f.isFault = false) :
    (s.receiveFailure f).toFault.kind = .transportFailure ∨
      (s.receiveFailure f).toFault.kind = .general := by
  unfold receiveFailure
  split
  · simp
  · exact .inr (Failure.toFault_kind_of_host hf)

theorem receiveFailure_toFault_kind {f : Failure} (hf : f.isFault = false) :
    (s.receiveFailure f).toFault.kind ≠ .handlerFailure := by
  rcases receiveFailure_toFault_kind_of_host (s := s) hf with hk | hk <;> simp [hk]

/-- A receive that brought nothing that decodes keeps the invariant and lets no ERROR through. -/
theorem Pins.silent (hp : Pins st s h) {y : Response}
    (hy : Exchange.pinSource? (.receive t ph, y) = none) :
    Pins st s (h ++ [(.receive t ph, y)]) :=
  hp.push _ hy (fun _ _ hs => by simp [Exchange.sent?] at hs)
    (fun _ hr => by simp [Exchange.report?] at hr)

/-- A datagram that decodes and comes from the peer, or pins it: the session takes it, with its
    peer fixed to the source. -/
theorem Pins.take (hp : Pins st s h) (t : Number) (ph : Option Phase)
    (hdec : Packet.decode bytes = .ok p)
    (hsrc : s.pinned = true → source = s.peer) :
    Pins st (s.pinTo source) (h ++ [(.receive t ph, .datagram bytes source)]) ∧
      source = st.peerAfter (h ++ [(.receive t ph, .datagram bytes source)]) := by
  have harr : Exchange.pinSource? (.receive t ph, .datagram bytes source) = some source :=
    Exchange.pinSource?_datagram hdec
  -- the datagram pins the peer, or comes from the peer already pinned
  have hpeer : st.peerAfter (h ++ [(.receive t ph, .datagram bytes source)]) = source ∧
      st.unpinned (h ++ [(.receive t ph, .datagram bytes source)]) = false := by
    cases hpin : s.pinned
    · exact st.peerAfter_pin (by simpa [hp.pinned] using hpin) harr
    · have hu : st.unpinned h = false := by simpa [hp.pinned] using hpin
      exact ⟨(st.peerAfter_append_of_pinned hu _).trans (hp.peer.symm.trans (hsrc hpin).symm),
        st.unpinned_append_of_pinned hu _⟩
  have hpinTo : (s.pinTo source).peer = source ∧ (s.pinTo source).stats.peer = source ∧
      (s.pinTo source).kind = s.kind ∧ (s.pinTo source).filename = s.filename ∧
      (s.pinTo source).mode = s.mode := by
    unfold pinTo
    split
    · next hpin => exact ⟨(hsrc hpin).symm, hp.statsPeer.trans (hsrc hpin).symm, rfl, rfl, rfl⟩
    · exact ⟨rfl, rfl, rfl, rfl, rfl⟩
  refine ⟨{
    peer := hpinTo.1.trans hpeer.1.symm
    pinned := by rw [pinTo_pinned, hpeer.2]; rfl
    statsPeer := hpinTo.2.1.trans hpinTo.1.symm
    sends := hp.sends_append ((forall_split_singleton _).mpr
      fun _ _ hs => by simp [Exchange.sent?] at hs)
    reports := hp.reports_append ((forall_split_singleton _).mpr
      fun _ hr => by simp [Exchange.report?] at hr)
    refuses := hp.refuses_append ((forall_split_singleton _).mpr fun source' hsrc' hne => ?_)
    client := by rw [pinTo_client, hp.client]
    kind := hpinTo.2.2.1.trans hp.kind
    filename := hpinTo.2.2.2.1.trans hp.filename
    mode := hpinTo.2.2.2.2.trans hp.mode
    resend := fun hpin => by simp at hpin
    waiting := fun hpin => by simp at hpin }, hpeer.1.symm⟩
  -- the datagram comes from the peer it fixes, so it is no foreign one
  rw [harr] at hsrc'
  cases hsrc'
  exact absurd hpeer.1.symm (by simpa using hne)

/-- A datagram that decodes but comes from a foreign source, once the peer is pinned: the
    refusal goes back to the source at once. -/
theorem Pins.refuse (hp : Pins st s h) (t : Number) (ph : Option Phase)
    (hdec : Packet.decode bytes = .ok p) (hpin : s.pinned = true) (hsrc : source ≠ s.peer)
    (z : Response) :
    Pins st s (h ++ [(Request.receive t ph, .datagram bytes source), (Request.send refusal source, z)]) ∧
      source ≠ st.peerAfter (h ++ [(.receive t ph, .datagram bytes source)]) := by
  have harr : Exchange.pinSource? (.receive t ph, .datagram bytes source) = some source :=
    Exchange.pinSource?_datagram hdec
  have hu : st.unpinned h = false := by simpa [hp.pinned] using hpin
  have hfar : source ≠ st.peerAfter (h ++ [(.receive t ph, .datagram bytes source)]) := by
    rw [st.peerAfter_append_of_pinned hu, ← hp.peer]
    exact hsrc
  refine ⟨{ hp with
    peer := hp.peer.trans (st.peerAfter_append_of_pinned hu _).symm
    pinned := by rw [hpin, st.unpinned_append_of_pinned hu]; rfl
    sends := hp.sends_append ((forall_split_cons _ _).mpr
      ⟨fun _ _ hs => by simp [Exchange.sent?] at hs, (forall_split_singleton _).mpr ?_⟩)
    reports := hp.reports_append ((forall_split_cons _ _).mpr
      ⟨fun _ hr => by simp [Exchange.report?] at hr,
        (forall_split_singleton _).mpr fun _ hr => by simp [Exchange.report?] at hr⟩)
    refuses := hp.refuses_append ((forall_split_cons _ _).mpr
      ⟨fun source' hsrc' _ => ?_, (forall_split_singleton _).mpr
        fun _ hsrc' => by simp [Exchange.pinSource?] at hsrc'⟩) }, hfar⟩
  · -- the refusal goes to the foreign source of the datagram just received
    intro bytes' target' hs
    simp only [Exchange.sent?, Option.some.injEq, Prod.mk.injEq] at hs
    obtain ⟨rfl, rfl⟩ := hs
    exact .inr ⟨rfl, by simpa using hfar, _, _, rfl, harr⟩
  · rw [harr] at hsrc'
    cases hsrc'
    exact ⟨z, [], rfl⟩

/-- Surroundings whose socket fails only with errors of the host, never with a fault of the
    engine. -/
def HostSocket (ok : List Exchange → Prop) : Prop :=
  ∀ H t ph f, ok (H ++ [(.receive t ph, .receiveFailed f)]) → f.isFault = false

/-- Every way a receive ends keeps the invariant and lets no ERROR from the peer through, but
    for the one it raises the abort of; a packet it takes comes from a pinned peer. -/
theorem wp_receive_pins (hok : HostSocket ok) (hp : Pins st s h) (hq : st.Quiet h) :
    Wp ok receive (fun r s' h' => (Pins st s' h' ∧ Guarded st r s' h') ∧
      ∀ p, r = .ok (some p) → s'.pinned = true) s h := by
  apply Wp.mono _ (Wp.extends (wp_receive (Q := fun r s' h' => ∃ δ, h' = h ++ δ ∧ Receives s r s' δ)
    fun r s' δ hr => ⟨δ, rfl, hr⟩))
  rintro r s' h' ⟨⟨δ, rfl, hr⟩, δ', hδ', hlast⟩
  -- the clock reading before the wait
  have hnow : ∀ x, Pins st s (h ++ [(Request.now, x)]) ∧ st.Quiet (h ++ [(Request.now, x)]) :=
    fun x => ⟨hp.quiet (r := .now) rfl (fun _ _ => Request.noConfusion)
      (fun _ => Request.noConfusion) x, hq.append_inert (by simp [Exchange.pinSource?])⟩
  have hsplit : ∀ x ys, h ++ (Request.now, x) :: ys = h ++ [(Request.now, x)] ++ ys := by simp
  cases hr with
  | unreadable x _ =>
    exact ⟨⟨(hnow x).1, fun _ => by decide, fun hk => absurd hk (by decide), .inl (hnow x).2⟩,
      nofun⟩
  | expired x t _ _ => exact ⟨⟨(hnow x).1, (hnow x).2⟩, nofun⟩
  | failed x t f _ _ =>
    -- the socket raised an error of the host
    have hf : f.isFault = false := by
      rcases hlast with rfl | hlast
      · simp at hδ'
      · exact hok (h ++ [(Request.now, x)]) t s.phase f (by simpa using hlast)
    rw [hsplit]
    have hk := receiveFailure_toFault_kind_of_host (s := s) hf
    exact ⟨⟨(hnow x).1.silent rfl, fun _ => receiveFailure_toFault_kind hf,
      fun hk' => by rcases hk with hk | hk <;> simp [hk] at hk',
      .inl ((hnow x).2.append_inert (by simp [Exchange.pinSource?]))⟩, nofun⟩
  | silent x t y _ _ _ hy =>
    have hin : Exchange.pinSource? (.receive t s.phase, y) = none := Exchange.pinSource?_receive hy
    rw [hsplit]
    exact ⟨⟨(hnow x).1.silent hin, (hnow x).2.append_inert (by simpa using hin)⟩, nofun⟩
  | foreign x t bytes source p refusal' z _ _ hdec hpin hsrc henc =>
    have href : refusal' = refusal := Except.ok.inj (henc.symm.trans refusal_encode)
    subst href
    obtain ⟨hp', hfar⟩ := (hnow x).1.refuse t s.phase hdec hpin hsrc z
    rw [hsplit]
    refine ⟨⟨hp', ?_⟩, nofun⟩
    -- neither the foreign datagram nor the refusal is an ERROR from the peer
    refine (hnow x).2.append ((forall_split_cons _ _).mpr ⟨?_, (forall_split_singleton _).mpr
      fun _ _ => st.not_abortsAt_of_pinSource rfl _ _⟩)
    rintro code message ⟨_, _, _, _, he, -, -, hfrom⟩
    cases he
    exact hfar (by simpa using hfrom)
  | aborted x t bytes source code message _ _ hdec hsrc =>
    obtain ⟨hp', hfrom⟩ := (hnow x).1.take t s.phase hdec hsrc
    rw [hsplit]
    refine ⟨⟨hp', fun _ => by simp, fun _ => ⟨_, _, code, message, rfl,
      ⟨t, s.phase, bytes, source, rfl, hdec, by simpa using hfrom⟩, rfl⟩, ?_⟩, nofun⟩
    by_cases hdone : s.phase = some .done
    · -- an ERROR while dallying after the last block does not count
      refine .inl ((hnow x).2.append ((forall_split_singleton _).mpr ?_))
      rintro code' message' ⟨_, _, _, _, he, hph, -, -⟩
      cases he
      exact hph hdone
    · exact .inr ⟨by simpa using hdone, _, _, code, message, rfl, (hnow x).2,
        ⟨t, s.phase, bytes, source, rfl, hdone, hdec, by simpa using hfrom⟩, rfl⟩
  | packet x t bytes source p _ _ hdec hsrc hnot =>
    obtain ⟨hp', -⟩ := (hnow x).1.take t s.phase hdec hsrc
    rw [hsplit]
    refine ⟨⟨hp', (hnow x).2.append ((forall_split_singleton _).mpr ?_)⟩,
      fun _ _ => pinTo_pinned _ _⟩
    rintro code message ⟨_, _, _, _, he, -, hdec', -⟩
    cases he
    rw [hdec] at hdec'
    exact hnot code message (Except.ok.inj hdec')

/-- Surroundings whose socket never fails with a fault of the engine. -/
def hostFailures (H : List Exchange) : Prop :=
  ∀ t ph f, (.receive t ph, .receiveFailed f) ∈ H → f.isFault = false

theorem hostSocket_hostFailures : HostSocket hostFailures :=
  fun _ t ph f hH => hH t ph f (by simp)

theorem guards_receive (hok : HostSocket ok) : Guards ok st (Pins st) receive :=
  fun _ _ hp hq => Wp.mono (fun _ _ _ hr => hr.1) (wp_receive_pins hok hp hq)

/-- A receive followed by a step that takes the packet only from a pinned peer. -/
theorem guards_receive_bind (hok : HostSocket ok) {f : Option Packet → SessionM α}
    (hsome : ∀ p, Guards ok st (Pinned st) (f (some p))) (hnone : Guards ok st (Pins st) (f none)) :
    Guards ok st (Pins st) (receive >>= f) := by
  intro s h hp hq
  rw [wp_bind]
  apply Wp.mono _ (wp_receive_pins hok hp hq)
  rintro (e | (_ | p)) s₁ h₁ ⟨⟨hp₁, hend₁⟩, hpin₁⟩
  · exact ⟨hp₁, hend₁⟩
  · exact hnone s₁ h₁ hp₁ hend₁
  · exact Wp.mono (fun _ _ _ hr => ⟨hr.1.1, hr.2⟩) (hsome p s₁ h₁ ⟨hp₁, hpin₁ p rfl⟩ hend₁)

end Receive

/-! ## A sender -/

section Roles

variable {s : Session} {h : List Exchange}

theorem Pins.kind_sender (hp : Pins st s h) {x : Sender} (hr : s.role = .sender x) :
    st.kind = .sender := by
  rw [← hp.kind]
  simp [Session.kind, hr]

theorem Pins.kind_receiver (hp : Pins st s h) {x : Receiver} (hr : s.role = .receiver x) :
    st.kind = .receiver := by
  rw [← hp.kind]
  simp [Session.kind, hr]

/-- A server has its peer pinned from the start. -/
theorem Pins.pinned_of_server (hp : Pins st s h) (hc : s.client = false) : s.pinned = true := by
  rw [hp.pinned]
  simp [Setup.unpinned, ← hp.client, hc]

/-- Before pinning, a session only opens, waits for its peer or fails. -/
theorem Pins.pinned_of_phase (hp : Pins st s h) {ph : Phase} (hph : s.phase = some ph)
    (hwait : ph ≠ st.kind.waitPhase) (hfail : ph ≠ .failed) : s.pinned = true := by
  cases hpin : s.pinned
  · rcases hp.waiting hpin with hw | hw | hw <;> rw [hph] at hw
    · cases hw
    · exact absurd (Option.some.inj hw) hwait
    · exact absurd (Option.some.inj hw) hfail
  · rfl

theorem guards_sender {I : Session → List Exchange → Prop} : Guards ok st I sender :=
  guards_get.bind fun s => by
    cases s.role <;> exact guards_pure _

theorem guards_updateSender (f : Sender → Sender) : Guards ok st (Pins st) (updateSender f) :=
  guards_modify fun s _ hp => by
    split
    · next x hr => exact { hp with kind := by rw [← hp.kind]; simp [kind, hr] }
    · exact hp

/-- A pinned session may enter any phase. -/
theorem guards_enter (ph : Phase) :
    Guards ok st (Pinned st) (modify fun s => { s with phase := some ph }) :=
  guards_modify fun _ _ hi =>
    ⟨{ hi.1 with waiting := fun hpin => (hi.not_unpinned hpin).elim }, hi.2⟩

theorem guards_gather (g : List UInt8) (fuel : Nat) : Guards ok st (Pinned st) (gather g fuel) := by
  induction fuel generalizing g with
  | zero => exact guards_pure _
  | succ n ih =>
    unfold gather
    refine Guards.ite (guards_pure _) ((guards_stream _).pinned.bind fun x => ?_)
    split
    · exact guards_pure _
    · exact ih _
    · exact guards_throw_pinned (by simp)
    · exact guards_pure _

theorem guards_nextBlock : Guards ok st (Pinned st) nextBlock :=
  guards_sender.bind fun _ => (guards_ofExcept_pinned fun _ => Value.succ_isFault).bind fun _ =>
    (guards_updateSender _).pinned.seq
      ((guards_gather _ _).bind fun _ => (guards_updateSender _).pinned)

theorem guards_transmitData : Guards ok st (Pinned st) transmitData := by
  unfold transmitData
  refine guards_sender.bind fun _ =>
    (guards_transmit _).of_sends.seq ((guards_updateStats (by intro; rfl)).pinned.seq ?_)
  simp only []
  exact Guards.ite ((guards_updateSender _).pinned.seq (guards_enter _)) (guards_enter _)

theorem guards_handleAck (block : Int) : Guards ok st (Pinned st) (handleAck block) := by
  unfold handleAck
  refine guards_sender.bind fun x => ?_
  apply Guards.ite ((guards_ofExcept_pinned fun _ => Value.decimal_isFault).discard.seq
    (guards_pure _))
  have hnext : Guards ok st (Pinned st) (if x.awaitingLastAck = true then
      modify fun s => { s with phase := some Phase.done }
    else modify fun s => { s with phase := some Phase.awaitData }) :=
    Guards.ite (guards_enter _) (guards_enter _)
  simp only []
  exact Guards.ite ((guards_updateStats (by intro; rfl)).pinned.seq hnext) hnext

theorem guards_sendOnce (hok : HostSocket ok) (hk : st.kind = .sender) :
    Guards ok st (Pins st) sendOnce := by
  intro s h hp hq
  unfold sendOnce
  rw [wp_bind, wp_get]
  dsimp only
  split
  · next hph =>
    -- a sender reading blocks has pinned its peer: before pinning it waits for an ACK
    have hpin : s.pinned = true :=
      hp.pinned_of_phase (by simpa using hph) (by rw [hk]; decide) (by decide)
    exact Wp.mono (fun _ _ _ hr => ⟨hr.1.1, hr.2⟩)
      ((guards_nextBlock.seq guards_transmitData) s h ⟨hp, hpin⟩ hq)
  · refine guards_receive_bind hok (fun p => ?_) (guards_expire _) s h hp hq
    split
    · exact (guards_handleAck _).seq (guards_expire _).pinned
    · exact (guards_expire _).pinned

/-! ## A receiver -/

theorem guards_receiver {I : Session → List Exchange → Prop} : Guards ok st I receiver :=
  guards_get.bind fun s => by
    cases s.role <;> exact guards_pure _

theorem guards_updateReceiver (f : Receiver → Receiver) :
    Guards ok st (Pins st) (updateReceiver f) :=
  guards_modify fun s _ hp => by
    split
    · next x hr => exact { hp with kind := by rw [← hp.kind]; simp [kind, hr] }
    · exact hp

theorem guards_deliver (payload : List UInt8) : Guards ok st (Pinned st) (deliver payload) := by
  unfold deliver
  refine (guards_stream _).pinned.bind fun _ => ?_
  split
  · exact guards_throw_pinned (by simp)
  · exact guards_pure _

theorem guards_handleData (block : Int) (payload : List UInt8) :
    Guards ok st (Pinned st) (handleData block payload) := by
  unfold handleData
  refine guards_receiver.bind fun _ =>
    (guards_ofExcept_pinned fun _ => Value.succ_isFault).bind fun _ => ?_
  apply Guards.ite _ (Guards.ite (guards_send _).of_sends
    (guards_ofExcept_pinned fun _ => Value.decimal_isFault).discard)
  refine (guards_deliver _).seq ((guards_updateReceiver _).pinned.seq
    ((guards_updateStats (by intro; rfl)).pinned.seq ((guards_transmit _).of_sends.seq ?_)))
  exact Guards.ite (guards_enter _) (guards_pure _)

theorem guards_receiveOnce (hok : HostSocket ok) : Guards ok st (Pins st) receiveOnce := by
  unfold receiveOnce
  refine guards_receive_bind hok (fun p => ?_) (guards_expire _)
  split
  · exact (guards_handleData _ _).seq (guards_expire _).pinned
  · exact (guards_expire _).pinned

/-! ## The dally -/

/-- A session lingering after its last block: its peer pinned, and done. -/
def Lingers (st : Setup) (s : Session) (h : List Exchange) : Prop :=
  Pinned st s h ∧ s.outcome.1 = some .done

theorem guards_dallyFor (hok : HostSocket ok) (fuel : Nat) :
    Guards ok st (Lingers st) (dallyFor fuel) := by
  -- an ERROR taken while done aborts nothing, so the dally's own handlers see every failure
  have hab : ∀ e s h, Lingers st s h → ¬ Aborts st e s h := fun _ _ _ hl hab => hab.1 hl.2
  have hcatch : ∀ {β : Type} (b : β) (e : Failure),
      Guards ok st (Lingers st) (if e.isFault = true then pure b else throw e : SessionM β) := by
    intro β b e
    by_cases he : e.isFault = true
    · simpa [he] using guards_pure b
    · -- what escapes is no fault, so no peer's abort
      have hthrow : Guards ok st (Lingers st) (throw e : SessionM β) :=
        guards_throw (by rw [Failure.toFault_kind_of_host (by simpa using he)]; decide)
          fun _ _ hl hpin => (hl.1.not_unpinned hpin).elim
      simpa [he] using hthrow
  induction fuel with
  | zero => exact guards_pure _
  | succ n ih =>
    unfold dallyFor
    refine (guards_timeLeft.pinned.outcome (Q := fun o => o.1 = some .done) confined_timeLeft).bind
      fun _ => Guards.ite (guards_pure _) ?_
    refine (Guards.tryCatch (((guards_receive hok).pinned.outcome (Q := fun o => o.1 = some .done)
      confined_receive).map _) hab fun e => hcatch _ e).bind fun got => ?_
    split
    · exact guards_pure _
    · refine guards_receiver.bind fun _ => Guards.ite ?_ ih
      exact (Guards.tryCatch (((guards_send _).of_sends.outcome (Q := fun o => o.1 = some .done)
        (confined_send _)).seq (guards_pure _)) hab fun e => hcatch _ e).bind
          fun _ => Guards.ite (guards_pure _) ih
    · exact ih

theorem guards_dally (hok : HostSocket ok) (fuel : Nat) : Guards ok st (Lingers st) (dally fuel) :=
  (guards_ask rfl fun _ _ x hl =>
    ⟨⟨hl.1.1.quiet (r := .closeStream none) rfl (fun _ _ => Request.noConfusion)
      (fun _ => Request.noConfusion) x, hl.1.2⟩, hl.2⟩).discard.seq
    ((guards_resetTimeout.pinned.outcome (Q := fun o => o.1 = some .done)
      confined_resetTimeout).seq (guards_dallyFor hok fuel))

/-! ## Either role -/

theorem guards_startSending (hk : st.kind = .sender) : Guards ok st (Pins st) startSending := by
  intro s h hp hq
  unfold startSending
  rw [wp_bind, wp_get]
  dsimp only
  split
  · -- a client opens with its request and waits for the ACK
    have hreq : Draft.wrq s.filename s.mode = st.request := by
      simp [Setup.request, hk, hp.filename, hp.mode]
    rw [hreq]
    exact ((guards_transmit _).seq (guards_modify (by
      intro _ _ hs
      exact ⟨{ hs.1 with waiting := fun _ => .inr (.inl (by rw [hk]; rfl)) }, hs.2⟩))).of_request
        s h hp hq
  · next hc =>
    exact Wp.mono (fun _ _ _ hr => ⟨hr.1.1, hr.2⟩)
      (guards_enter _ s h ⟨hp, hp.pinned_of_server (by simpa using hc)⟩ hq)

theorem guards_startReceiving (hk : st.kind = .receiver) :
    Guards ok st (Pins st) startReceiving := by
  intro s h hp hq
  unfold startReceiving
  rw [wp_bind, wp_get]
  dsimp only
  split
  · -- a client opens with its request and waits for DATA
    have hreq : Draft.rrq s.filename s.mode = st.request := by
      simp [Setup.request, hk, hp.filename, hp.mode]
    rw [hreq]
    exact ((guards_transmit _).seq (guards_modify (by
      intro _ _ hs
      exact ⟨{ hs.1 with waiting := fun _ => .inr (.inl (by rw [hk]; rfl)) }, hs.2⟩))).of_request
        s h hp hq
  · next hc =>
    exact Wp.mono (fun _ _ _ hr => ⟨hr.1.1, hr.2⟩)
      (((guards_deliver _).seq ((guards_transmit _).of_sends.seq (guards_enter _))) s h
        ⟨hp, hp.pinned_of_server (by simpa using hc)⟩ hq)

theorem guards_start : Guards ok st (Pins st) start := by
  intro s h hp hq
  unfold start
  rw [wp_bind, wp_get]
  dsimp only
  split
  · next x hr => exact guards_startSending (hp.kind_sender hr) s h hp hq
  · next x hr => exact guards_startReceiving (hp.kind_receiver hr) s h hp hq

theorem guards_stepOnce (hok : HostSocket ok) : Guards ok st (Pins st) stepOnce := by
  intro s h hp hq
  unfold stepOnce
  rw [wp_bind, wp_get]
  dsimp only
  split
  · next x hr => exact guards_sendOnce hok (hp.kind_sender hr) s h hp hq
  · exact guards_receiveOnce hok s h hp hq

end Roles

/-! ## A whole session -/

section Run

variable {s s' : Session} {h δ A : List Exchange} {x : Exchange} {code : Int} {message : String}

/-- Every ERROR from the peer before the transfer was done ended the session with the fault it
    carries, and nothing was received after it. -/
def Aborted (st : Setup) (s : Session) (h : List Exchange) : Prop :=
  ∀ A x B, h = A ++ x :: B → ∀ code message, st.AbortsAt A x code message →
    s.error = some (peerAbort code message).toFault ∧ ∀ y ∈ B, y.1.receives = false

theorem Aborted.of_quiet (hq : st.Quiet h) : Aborted st s h :=
  fun A x B hs code message hat => absurd hat (hq A x B hs code message)

/-- Exchanges that receive nothing, under the same fault, keep every abort in place. -/
theorem Aborted.append (ha : Aborted st s h) (herr : s'.error = s.error)
    (hδ : ∀ y ∈ δ, y.1.receives = false) : Aborted st s' (h ++ δ) := by
  refine (forall_split_append (P := fun A (x : Exchange) B => ∀ code message,
    st.AbortsAt A x code message → s'.error = some (peerAbort code message).toFault ∧
      ∀ y ∈ B, y.1.receives = false) h δ).mpr ⟨fun A x B hs code message hat => ?_, ?_⟩
  · obtain ⟨herr', hB⟩ := ha A x B hs code message hat
    exact ⟨herr.trans herr', fun y hy => (List.mem_append.mp hy).elim (hB y) (hδ y)⟩
  · rintro A x B hs code message ⟨t, ph, bytes, source, rfl, -⟩
    have := hδ (.receive t ph, .datagram bytes source) (by simp [hs])
    simp [Request.receives] at this

/-- The session's fault is a peer's abort only where an ERROR from the peer carried its code and
    message: no ERROR from a foreign source, nor anything but an ERROR, ends a session that way. -/
def AbortedByPeer (st : Setup) (s : Session) (h : List Exchange) : Prop :=
  ∀ f, s.error = some f → f.kind = .peerAbort →
    ∃ A x B code message, h = A ++ x :: B ∧ st.ErrorFromPeer A x code message ∧
      f = (peerAbort code message).toFault

theorem AbortedByPeer.of_kind {f : Fault} (herr : s.error = some f) (hk : f.kind ≠ .peerAbort) :
    AbortedByPeer st s h := by
  intro f' hf' hk'
  rw [herr, Option.some.injEq] at hf'
  subst hf'
  exact absurd hk' hk

theorem AbortedByPeer.of_error_none (herr : s.error = none) : AbortedByPeer st s h := by
  intro f hf
  rw [herr] at hf
  cases hf

/-- Later exchanges, under the same fault, leave the ERROR that brought it in place. -/
theorem AbortedByPeer.append (ha : AbortedByPeer st s h) (herr : s'.error = s.error)
    (δ : List Exchange) : AbortedByPeer st s' (h ++ δ) := by
  intro f hf hk
  obtain ⟨A, x, B, code, message, rfl, hfrom, rfl⟩ := ha f (herr ▸ hf) hk
  exact ⟨A, x, B ++ δ, code, message, by simp, hfrom, rfl⟩

/-- A step that raised a peer's abort took the ERROR last. -/
theorem AbortedByPeer.failWith {e : Failure} (hend : Guarded st (.error e : Except Failure Unit) s h) :
    AbortedByPeer st (s.failWith e.toFault) h := by
  intro f hf hk
  obtain rfl : e.toFault = f := Option.some.inj hf
  obtain ⟨A, x, code, message, rfl, hfrom, rfl⟩ := hend.2.1 hk
  exact ⟨A, x, [], code, message, rfl, hfrom, rfl⟩

/-- The abort of the one ERROR from the peer, taken last, recorded as the session's fault. -/
theorem Aborted.last (hqA : st.Quiet A) (hat : st.AbortsAt A x code message)
    (herr : s.error = some (peerAbort code message).toFault) : Aborted st s (A ++ [x]) := by
  refine (forall_split_append (P := fun A (x : Exchange) B => ∀ code message,
    st.AbortsAt A x code message → s.error = some (peerAbort code message).toFault ∧
      ∀ y ∈ B, y.1.receives = false) A [x]).mpr
    ⟨fun A' x' B hs c m hat' => absurd hat' (hqA A' x' B hs c m),
      (forall_split_singleton _).mpr fun c m hat' => ?_⟩
  rw [List.append_nil] at hat'
  obtain ⟨rfl, rfl⟩ := hat.unique hat'
  exact ⟨herr, by simp⟩

/-- Failing keeps the invariant and records the abort of an ERROR from the peer; only a
    handler's failure is reported, to the pinned peer. -/
theorem wp_fail_pins {e : Failure} (hp : Pins st s h)
    (hend : Guarded st (.error e : Except Failure Unit) s h) :
    Wp ok (fail e.toFault) (fun _ s' h' =>
      Pins st s' h' ∧ s'.phase = some .failed ∧ Aborted st s' h' ∧ AbortedByPeer st s' h') s h := by
  have hp' : Pins st (s.failWith e.toFault) h := { hp with waiting := fun _ => .inr (.inr rfl) }
  rw [wp_fail]
  refine ⟨fun hk => ?_, fun _ => ⟨hp', rfl, ?_, AbortedByPeer.failWith hend⟩⟩
  · -- a handler's failure comes after pinning and after no ERROR from the peer
    have hpin : s.pinned = true := by
      cases hpin : s.pinned
      · exact absurd hk (hend.1 hpin)
      · rfl
    have hq : st.Quiet h := hend.2.2.resolve_right fun ⟨_, _, _, _, _, _, _, _, he⟩ => by
      rw [he] at hk
      simp at hk
    -- the fault is the handler's, so no peer's abort
    have hby : ∀ s₁ : Session, s₁.error = some e.toFault → AbortedByPeer st s₁ h :=
      fun _ herr => AbortedByPeer.of_kind herr (by rw [hk]; decide)
    rw [wp_transmitError, wp_send]
    split
    · dsimp only
      split <;> exact ⟨hp', rfl, Aborted.of_quiet hq, hby _ rfl⟩
    · next bytes henc =>
      intro y _
      have hsend : st.Sendable h bytes s.peer :=
        .inl ⟨hp.peer, fun hu => by rw [hp.pinned, hu] at hpin; cases hpin⟩
      have hs : Pins st (s.failWith e.toFault) (h ++ [(Request.send bytes s.peer, y)]) := hp'.send hsend y
      have hq' : st.Quiet (h ++ [(Request.send bytes s.peer, y)]) :=
        hq.append_inert (by simp [Exchange.pinSource?])
      have hby' := (hby (s.failWith e.toFault) rfl).append rfl [(Request.send bytes s.peer, y)]
      split
      · dsimp only
        split <;> exact ⟨hs, rfl, Aborted.of_quiet hq', hby'⟩
      · exact ⟨hs.countSent, rfl, Aborted.of_quiet hq', hby'⟩
  · rcases hend.2.2 with hq | ⟨-, A, x, code, message, rfl, hqA, hat, rfl⟩
    · exact Aborted.of_quiet hq
    · exact Aborted.last hqA hat rfl

/-- The last steps close the pipe and the socket and report statistics that name the peer. -/
theorem wp_finish_pins (hp : Pins st s h) :
    Wp ok finish (fun _ s' h' => Pins st s' h' ∧ s'.error = s.error ∧
      ∃ δ, h' = h ++ δ ∧ ∀ y ∈ δ, y.1.receives = false) s h := by
  apply wp_finish
  intro x₁ x₂ x₃ x₄
  have hquiet : Pins st s (h ++ [(Request.closeStream (s.error.map .fault), x₁),
      (Request.closeSocket, x₂), (Request.now, x₃)]) :=
    hp.append (by simp [Exchange.pinSource?, Exchange.sent?, Exchange.report?])
  have hp₃ := hquiet.closedAt (Setup.clockOf x₃)
  have hst : (s.closedAt (Setup.clockOf x₃)).stats.peer = s.peer := hp.statsPeer
  have hp₄ := hp₃.report hst x₄
  simp only [List.append_assoc, List.cons_append, List.nil_append] at hp₄
  exact ⟨hp₄, rfl, _, rfl, by simp [Request.receives]⟩

/-- Closing keeps the invariant and every abort: a receiver that is done dallies, and takes
    no ERROR that counts; a session that failed only finishes.  Neither changes the fault. -/
theorem wp_close_pins (hok : HostSocket ok) (fuel : Nat) (hp : Pins st s h)
    (hs : st.Quiet h ∨ (s.phase = some .failed ∧ Aborted st s h)) (hby : AbortedByPeer st s h) :
    Wp ok (close fuel) (fun _ s' h' =>
      Pins st s' h' ∧ Aborted st s' h' ∧ AbortedByPeer st s' h') s h := by
  have hfinish : ∀ s₁ h₁, Pins st s₁ h₁ → Aborted st s₁ h₁ → AbortedByPeer st s₁ h₁ →
      Wp ok finish (fun _ s' h' => Pins st s' h' ∧ Aborted st s' h' ∧ AbortedByPeer st s' h')
        s₁ h₁ :=
    fun _ _ hp₁ ha₁ hby₁ => Wp.mono (fun _ _ _ ⟨hp', herr, δ, hδ, hrec⟩ =>
      ⟨hp', hδ ▸ ha₁.append herr hrec, hδ ▸ hby₁.append herr δ⟩) (wp_finish_pins hp₁)
  unfold close
  rw [wp_bind, wp_get]
  dsimp only
  split
  · next x hph =>
    have hq : st.Quiet h := hs.resolve_right fun ⟨hf, _⟩ => by
      rw [hph] at hf
      cases hf
    have hpin : s.pinned = true :=
      hp.pinned_of_phase hph (by cases st.kind <;> decide) (by decide)
    rw [wp_bind]
    apply Wp.mono _ (Wp.and (guards_dally hok fuel s h ⟨⟨hp, hpin⟩, hph⟩ hq) (wp_dally fuel))
    rintro r s₁ h₁ ⟨⟨⟨⟨hp₁, -⟩, hph₁⟩, hend₁⟩, hout₁, ⟨x, δ, rfl, -⟩, -⟩
    -- the dally leaves the fault as it was
    have hby₁ : AbortedByPeer st s₁ (h ++ [(.closeStream none, x)] ++ δ) :=
      (hby.append (congrArg (·.2.1) hout₁) _).append rfl δ
    cases r with
    | error e => exact ⟨hp₁, Aborted.of_quiet (hend₁.2.2.resolve_right fun hab => hab.1 hph₁), hby₁⟩
    | ok _ => exact hfinish s₁ _ hp₁ (Aborted.of_quiet hend₁) hby₁
  · exact hfinish s h hp (hs.elim Aborted.of_quiet And.right) hby

/-- A run of a session keeps the invariant to its end, every ERROR from the peer before the
    transfer was done ended it, and only such an ERROR ended it with a peer's abort. -/
theorem wp_run_pins (hok : HostSocket ok) (fuel : Nat) (hp : Pins st s h) (hcalm : Calm s.outcome)
    (hq : st.Quiet h) :
    Wp ok (run fuel) (fun _ s' h' =>
      Pins st s' h' ∧ Aborted st s' h' ∧ AbortedByPeer st s' h') s h := by
  -- until it fails, the session is calm: it has no fault at all
  refine @wp_run ok s h fuel (fun s h => (Pins st s h ∧ Calm s.outcome) ∧ st.Quiet h)
    (fun e s h => Pins st s h ∧ Guarded st (.error e : Except Failure Unit) s h)
    (fun s h => Pins st s h ∧ s.phase = some .failed ∧ Aborted st s h ∧ AbortedByPeer st s h)
    (fun s h => Pins st s h ∧ Aborted st s h ∧ AbortedByPeer st s h) ?start ?loop ?fail ?close
  case start =>
    apply Wp.mono _ ((guards_start.outcome confined_start) s h ⟨hp, hcalm⟩ hq)
    rintro (e | _) s' h' ⟨hp', hend⟩
    · exact ⟨hp'.1, hend⟩
    · exact ⟨hp', hend⟩
  case loop =>
    refine wp_loop (fun s h hinv _ => Wp.mono ?_
      (((guards_stepOnce hok).outcome confined_stepOnce) s h hinv.1 hinv.2)) fuel
    rintro (e | _) s' h' ⟨hp', hend⟩
    · exact ⟨hp'.1, hend⟩
    · exact ⟨hp', hend⟩
  case fail =>
    rintro e s h ⟨hp, hend⟩
    exact wp_fail_pins hp hend
  case close =>
    rintro s h (⟨⟨hp, hcalm⟩, hq⟩ | ⟨hp, hph, ha, hby⟩)
    · exact wp_close_pins hok fuel hp (.inl hq) (AbortedByPeer.of_error_none hcalm.2.1)
    · exact wp_close_pins hok fuel hp (.inr ⟨hph, ha⟩) hby

end Run

/-- A freshly created session: its peer is the setup's, pinned unless it is a client. -/
theorem Pins.initial (st : Setup) (expiry : Number) (x₁ x₂ : Response) :
    Pins st (st.initial expiry x₁ x₂) [] where
  peer := by simp [Setup.initial, Setup.peerAfter, firstSource]
  pinned := by simp [Setup.initial, Setup.unpinned, firstSource]
  statsPeer := rfl
  sends := fun _ _ _ hs => by simp at hs
  reports := fun _ _ _ hs => by simp at hs
  refuses := fun _ _ _ hs => by simp at hs
  client := rfl
  kind := Setup.kind_initial st expiry x₁ x₂
  filename := rfl
  mode := rfl
  resend := fun _ => .inl rfl
  waiting := fun _ => .inl rfl

end Session

namespace Setup

/-- Every run of a whole session pins its peer as `peerAfter` says, whatever the network
    answers, as long as the socket fails only with errors of the host.  The session's peer and
    the peer its statistics name are `peerAfter` of the run: a server's is the one it was set up
    with, a client's the source of the first datagram that decoded, of any kind.  Every datagram
    sent went to the peer of its time, and before pinning it was the request; the only other
    datagram is the refusal, sent at once to a foreign source whose datagram decoded, which the
    session then goes on from.  Every report named the peer of its time.  And every ERROR that
    came before the transfer was done from the peer, the pinning datagram included, ended the
    session with the peer's code and message, with nothing received after it.  Conversely, a
    session that ends with a peer's abort took an ERROR with that code and message from the peer
    of its time: an ERROR from a foreign source never ends a session. -/
theorem program_pins_peer {ok : List Exchange → Prop} (st : Setup) (fuel : Nat)
    (hok : Session.HostSocket ok) :
    (st.program fuel).Always ok (fun r H => ∀ e s, r = .ok (e, s) →
      Session.Pins st s H ∧ Session.Aborted st s H ∧ Session.AbortedByPeer st s H) [] := by
  apply always_program
  · intro x _ e s hr
    cases hr
  · intro x₀ expiry x₁ x₂ _
    -- the clock readings and the socket's address before the first step bring and send nothing
    have hinert : ∀ e ∈ ([(.now, x₀), (.localAddress, x₁), (.now, x₂)] : List Exchange),
        e.pinSource? = none ∧ e.sent? = none ∧ e.report? = none := by
      simp [Exchange.pinSource?, Exchange.sent?, Exchange.report?]
    have hp : Session.Pins st (st.initial expiry x₁ x₂) [(.now, x₀), (.localAddress, x₁), (.now, x₂)] :=
      (Session.Pins.initial st expiry x₁ x₂).append hinert
    have hq : st.Quiet [(.now, x₀), (.localAddress, x₁), (.now, x₂)] :=
      st.quiet_nil.append_inert fun e he => (hinert e he).1
    refine Session.Wp.mono ?_
      (Session.wp_run_pins hok fuel hp (Session.calm_initial st expiry x₁ x₂) hq)
    rintro (e | (_ | _)) s' h' hpost e' s hr <;>
      simp only [conclude, Except.ok.injEq, Prod.mk.injEq] at hr <;>
      obtain ⟨-, rfl⟩ := hr <;> exact hpost

/-- A client opening a read on the default server. -/
def readClient : Setup := { (default : Setup) with kind := .receiver, client := true }

/-- A client reading in surroundings whose socket fails only with errors of the host. -/
theorem readClient_pins_peer :
    Session.HostSocket Session.hostFailures ∧
      (readClient.program 4).Always Session.hostFailures (fun r H => ∀ e s, r = .ok (e, s) →
        Session.Pins readClient s H ∧ Session.Aborted readClient s H ∧
          Session.AbortedByPeer readClient s H) [] :=
  ⟨Session.hostSocket_hostFailures, program_pins_peer readClient 4 Session.hostSocket_hostFailures⟩

end Setup

end Tftp
