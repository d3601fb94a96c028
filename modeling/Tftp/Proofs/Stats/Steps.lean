import Tftp.Proofs.Stats.Tally
import Tftp.Proofs.Sender.Invariant

/-! # The steps that keep the statistics in step with the exchanges

    Between the exchanges of a step, a session's statistics count what its exchanges show, but
    for what is still owed (`Session.Owes`): the acknowledgement an ACK gives is counted once the
    sender takes the ACK, and the bytes of a write once the receiver notes them.  A session that
    owes nothing is `Tallied`.

    One lemma per kind of exchange says how it moves the exchanges' counters and the session's
    together (`Owes.now`, `Owes.sent`, `Owes.take`, ...).  From them, the steps both roles share
    keep what is owed (`owes_send`, `owes_transmit`, `owes_fail`, ...), a receive owes what the
    packet it takes acknowledges (`wp_receive_owes`), and the last steps report statistics that
    count every exchange before the report (`tallied_finish`). -/

namespace Tftp

/-! ## Drafts that are no DATA -/

/-- Bytes whose first word is not the opcode of DATA never read back as DATA. -/
theorem decode_ne_data_of_opcode {hi lo : UInt8} {body : List UInt8}
    (hop : Opcode.ofCode? (wordValue hi lo) ≠ some .data) (block : Int) (payload : List UInt8) :
    Packet.decode (hi :: lo :: body) ≠ .ok (.data block payload) :=
  fun hdec => hop (opcode_of_decode hdec)

/-- An ACK is written, if at all, after the word of its opcode. -/
theorem ack_encode_prefix {v : Value} {bytes : List UInt8} (h : (Draft.ack v).encode = .ok bytes) :
    ∃ rest, bytes = 0 :: 4 :: rest := by
  unfold Draft.encode at h
  cases hc : Draft.checkField "block number" v with
  | error e => simp [hc, bind, Except.bind] at h
  | ok n =>
    cases hw : Draft.wholeField n with
    | error e => simp [hc, hw, bind, Except.bind] at h
    | ok b =>
      simp only [hc, hw, bind, Except.bind, pure, Except.pure, Except.ok.injEq] at h
      rw [show word Opcode.ack.code = [0, 4] from by decide] at h
      exact ⟨word b, by simp [← h]⟩

/-- A draft that is no DATA never writes a datagram that reads back as DATA. -/
theorem Draft.encode_not_data {p : Draft} (hp : ∀ v payload, p ≠ .data v payload)
    {bytes : List UInt8} (henc : p.encode = .ok bytes) (block : Int) (payload : List UInt8) :
    Packet.decode bytes ≠ .ok (.data block payload) := by
  cases p with
  | rrq filename mode =>
    obtain ⟨rest, rfl⟩ := request_encode_prefix henc
    rw [show word Opcode.rrq.code = [0, 1] from by decide]
    exact decode_ne_data_of_opcode (by decide) block payload
  | wrq filename mode => exact wrq_encode_not_data henc block payload
  | data v payload' => exact absurd rfl (hp v payload')
  | ack v =>
    obtain ⟨rest, rfl⟩ := ack_encode_prefix henc
    exact decode_ne_data_of_opcode (by decide) block payload
  | error code message => exact error_encode_not_data henc block payload
  | other v => cases henc

/-- A field that passes the check is the number the value stands for. -/
theorem Draft.checkField_eq_ok {field : String} {v : Value} {n : Number}
    (h : Draft.checkField field v = .ok n) : v.toNumber? = some n := by
  unfold Draft.checkField at h
  cases hv : v.toNumber? with
  | none => rw [hv] at h; cases h
  | some m =>
    rw [hv] at h
    dsimp only at h
    split at h <;> split at h <;> simp_all

/-- A DATA draft that is written reads back as DATA of its payload, numbered by its block
    number, which is an integer. -/
theorem data_encode_decode {v : Value} {payload bytes : List UInt8}
    (h : (Draft.data v payload).encode = .ok bytes) :
    ∃ block, v.toNumber? = some (.int block) ∧
      Packet.decode bytes = .ok (.data block payload) := by
  cases hc : Draft.checkField "block number" v with
  | error e => simp [Draft.encode, hc, bind, Except.bind] at h
  | ok n =>
    have hv := Draft.checkField_eq_ok hc
    cases n with
    | float x =>
      -- a block number that is a double is never written as a word
      simp only [Draft.encode, hc, bind, Except.bind] at h
      split at h <;> simp_all [Draft.wholeField, throw, throwThe, MonadExceptOf.throw]
    | int block =>
      -- the draft is written as the one numbered by the integer itself
      have hc' : Draft.checkField "block number" (.int block) = .ok (.int block) := by
        unfold Draft.checkField at hc ⊢
        rw [hv] at hc
        simpa [Value.toNumber?] using hc
      refine ⟨block, hv, (data_round_trip block payload).2.2 bytes ?_⟩
      rw [← h]
      simp only [Draft.encode, hc, hc']

namespace Session

/-! ## The invariant -/

/-- What a session of the setup `st` keeps after the exchanges `h`, while its statistics have
    still to count `owed` of what the exchanges show. -/
structure Owes (st : Setup) (owed : Tally) (s : Session) (h : List Exchange) : Prop where
  /-- the statistics count what the exchanges show, but for what is owed -/
  counters : s.stats.tally + owed = st.tally h
  /-- the peer is the one the exchanges fix, pinned once it can change no more -/
  peer : s.peer = st.peerAfter h
  pinned : s.pinned = !st.unpinned h
  /-- the session keeps the setup's timeout -/
  policy : s.policy = st.policy
  /-- no DATA waits for the clock reading that counts its payload -/
  settled : freshPayload? h = none
  /-- nothing but that clock reading ever followed a DATA that went out fresh -/
  waits : ∀ A (e : Exchange) B, h = A ++ e :: B → e.1 ≠ .now → freshPayload? A = none
  /-- every report counted what the exchanges before it show -/
  reports : ∀ A (e : Exchange) B, h = A ++ e :: B → ∀ stats, e.report? = some stats →
    stats.tally = st.tally A

/-- A session whose statistics count what its exchanges show. -/
def Tallied (st : Setup) (s : Session) (h : List Exchange) : Prop := Owes st 0 s h

section Exchanges

variable {st : Setup} {d c : Tally} {s : Session} {h : List Exchange}

/-- A session that changed nothing the invariant reads keeps it. -/
theorem Owes.congr (ho : Owes st d s h) {s' : Session} (hs : s'.stats.tally = s.stats.tally)
    (hpeer : s'.peer = s.peer) (hpin : s'.pinned = s.pinned) (hpol : s'.policy = s.policy) :
    Owes st d s' h where
  counters := by rw [hs]; exact ho.counters
  peer := hpeer.trans ho.peer
  pinned := hpin.trans ho.pinned
  policy := hpol.trans ho.policy
  settled := ho.settled
  waits := ho.waits
  reports := ho.reports

/-- Counting what is owed pays it. -/
theorem Owes.pay (ho : Owes st (d + c) s h) {s' : Session}
    (hs : s'.stats.tally = s.stats.tally + c) (hpeer : s'.peer = s.peer)
    (hpin : s'.pinned = s.pinned) (hpol : s'.policy = s.policy) : Owes st d s' h where
  counters := by rw [hs, Tally.add_right_comm, Tally.add_assoc]; exact ho.counters
  peer := hpeer.trans ho.peer
  pinned := hpin.trans ho.pinned
  policy := hpol.trans ho.policy
  settled := ho.settled
  waits := ho.waits
  reports := ho.reports

theorem Owes.reports_append (ho : Owes st d s h) {δ : List Exchange}
    (hδ : ∀ A (e : Exchange) B, δ = A ++ e :: B → ∀ stats, e.report? = some stats →
      stats.tally = st.tally (h ++ A)) :
    ∀ A (e : Exchange) B, h ++ δ = A ++ e :: B → ∀ stats, e.report? = some stats →
      stats.tally = st.tally A :=
  (forall_split_append (P := fun A (e : Exchange) _ => ∀ stats, e.report? = some stats →
    stats.tally = st.tally A) h δ).mpr ⟨ho.reports, hδ⟩

theorem Owes.waits_append (ho : Owes st d s h) {δ : List Exchange}
    (hδ : ∀ A (e : Exchange) B, δ = A ++ e :: B → e.1 ≠ .now → freshPayload? (h ++ A) = none) :
    ∀ A (e : Exchange) B, h ++ δ = A ++ e :: B → e.1 ≠ .now → freshPayload? A = none :=
  (forall_split_append (P := fun A (e : Exchange) _ => e.1 ≠ .now → freshPayload? A = none) h
    δ).mpr ⟨ho.waits, hδ⟩

/-- One more exchange comes where no DATA is pending. -/
theorem Owes.waits_concat (ho : Owes st d s h) (e : Exchange) :
    ∀ A (e' : Exchange) B, h ++ [e] = A ++ e' :: B → e'.1 ≠ .now → freshPayload? A = none :=
  ho.waits_append ((forall_split_singleton _).mpr fun _ => by simpa using ho.settled)

/-- One more exchange that pins nothing, leaves no DATA pending and reports nothing: the
    statistics owe what it counts. -/
theorem Owes.extend (ho : Owes st d s h) (e : Exchange) (hpin : e.pinSource? = none)
    (hfresh : freshPayload? (h ++ [e]) = none) (hrep : e.report? = none) :
    Owes st (d + st.counted h e) s (h ++ [e]) := by
  have hinert : ∀ e' ∈ [e], e'.pinSource? = none := by simpa using hpin
  exact {
    counters := by rw [st.tally_concat, ← ho.counters, Tally.add_assoc]
    peer := ho.peer.trans (st.peerAfter_append_inert hinert).symm
    pinned := by rw [ho.pinned, st.unpinned_append_inert hinert]
    policy := ho.policy
    settled := hfresh
    waits := ho.waits_concat _
    reports := ho.reports_append ((forall_split_singleton _).mpr fun _ hr => by
      rw [hrep] at hr
      cases hr) }

/-- One more exchange that counts nothing, pins nothing, leaves no DATA pending and reports
    nothing keeps the invariant. -/
theorem Owes.push (ho : Owes st d s h) (e : Exchange) (hc : st.counted h e = 0)
    (hpin : e.pinSource? = none) (hfresh : freshPayload? (h ++ [e]) = none)
    (hrep : e.report? = none) : Owes st d s (h ++ [e]) := by
  have ho' := ho.extend e hpin hfresh hrep
  rwa [hc, Tally.add_zero] at ho'

/-- A clock reading, with no DATA waiting for it, counts nothing. -/
theorem Owes.now (ho : Owes st d s h) (x : Response) : Owes st d s (h ++ [(.now, x)]) :=
  ho.push _ (Setup.counted_now_of_settled h ho.settled x) rfl
    (freshPayload?_concat_of_ne_send (fun _ _ => Request.noConfusion) h) rfl

/-- Asking the socket's address, reading from the pipe, closing the pipe or the socket count
    nothing. -/
theorem Owes.quiet (ho : Owes st d s h) {r : Request}
    (hr : r = .localAddress ∨ r = .closeSocket ∨ (∃ error, r = .closeStream error) ∨
      ∃ cut waiting, r = .stream (.read cut waiting))
    (x : Response) : Owes st d s (h ++ [(r, x)]) := by
  have hfresh : freshPayload? (h ++ [(r, x)]) = none := by
    apply freshPayload?_concat_of_ne_send
    rintro bytes target rfl
    simp at hr
  rcases hr with rfl | rfl | ⟨_, rfl⟩ | ⟨_, _, rfl⟩ <;> exact ho.push _ rfl rfl hfresh rfl

/-- A write to the pipe: the statistics owe its bytes if it returned. -/
theorem Owes.wrote (ho : Owes st d s h) (data : List UInt8) (y : Response) :
    Owes st (d + ⟨0, 0, 0, if y.streamFailed then 0 else data.length⟩) s
      (h ++ [(.stream (.write data), y)]) := by
  have ho' := ho.extend (.stream (.write data), y) rfl
    (freshPayload?_concat_of_ne_send (fun _ _ => Request.noConfusion) h) rfl
  rwa [Setup.counted_write] at ho'

/-- A datagram that went out to the peer: the statistics count it as the exchanges do. -/
theorem Owes.sent (ho : Owes st d s h) (bytes : List UInt8) {x : Response}
    (hx : x.failedSend = false) (hfresh : freshPayload? (h ++ [(.send bytes s.peer, x)]) = none) :
    Owes st d s.countSent (h ++ [(.send bytes s.peer, x)]) := by
  have hc : st.counted h (.send bytes s.peer, x) = ⟨1, 0, 0, 0⟩ := by
    rw [ho.peer]
    exact Setup.counted_send_peer h bytes hx
  have hinert : ∀ e' ∈ [((.send bytes s.peer, x) : Exchange)],
      Exchange.pinSource? e' = none := by
    simp [Exchange.pinSource?]
  exact {
    counters := by
      rw [st.tally_concat, hc, ← ho.counters, Tally.add_right_comm]
      rfl
    peer := ho.peer.trans (st.peerAfter_append_inert hinert).symm
    pinned := by rw [countSent_pinned, ho.pinned, st.unpinned_append_inert hinert]
    policy := ho.policy
    settled := hfresh
    waits := ho.waits_concat _
    reports := ho.reports_append ((forall_split_singleton _).mpr fun _ hr => by
      simp [Exchange.report?] at hr) }

/-- A datagram that failed to go out counts nothing. -/
theorem Owes.sendFailed (ho : Owes st d s h) (bytes : List UInt8) (target : Address)
    (reason : String) : Owes st d s (h ++ [(.send bytes target, .sendFailed reason)]) :=
  ho.push _ (Setup.counted_send_eq_zero h (.inl rfl)) rfl
    (freshPayload?_concat_send_eq_none (.inl rfl) target) rfl

/-- A datagram sent elsewhere than to the peer, that is no DATA, counts nothing. -/
theorem Owes.refused (ho : Owes st d s h) {bytes : List UInt8}
    (hnot : ∀ block payload, Packet.decode bytes ≠ .ok (.data block payload)) {target : Address}
    (ht : target ≠ s.peer) (z : Response) : Owes st d s (h ++ [(.send bytes target, z)]) :=
  ho.push _ (Setup.counted_send_eq_zero h (.inr (ho.peer ▸ ht))) rfl
    (freshPayload?_concat_send_eq_none (.inr (.inr hnot)) target) rfl

/-- A receive that brought nothing that decodes counts nothing. -/
theorem Owes.silent (ho : Owes st d s h) {t : Number} {ph : Option Phase} {y : Response}
    (hy : Exchange.pinSource? (.receive t ph, y) = none) :
    Owes st d s (h ++ [(.receive t ph, y)]) :=
  ho.push _ (Setup.counted_receive_of_pinSource h hy) hy
    (freshPayload?_concat_of_ne_send (fun _ _ => Request.noConfusion) h) rfl

/-- The peer a session takes a datagram from, when the peer was pinned already or the datagram
    pins it: the source, and no other can follow. -/
theorem Owes.peerAfter_take (ho : Owes st d s h) {t : Number} {ph : Option Phase}
    {bytes : List UInt8} {source : Address} {p : Packet} (hdec : Packet.decode bytes = .ok p)
    (hsrc : s.pinned = true → source = s.peer) :
    st.peerAfter (h ++ [(.receive t ph, .datagram bytes source)]) = source ∧
      st.unpinned (h ++ [(.receive t ph, .datagram bytes source)]) = false := by
  cases hpin : s.pinned
  · exact st.peerAfter_pin (by simpa [ho.pinned] using hpin) (Exchange.pinSource?_datagram hdec)
  · have hu : st.unpinned h = false := by simpa [ho.pinned] using hpin
    exact ⟨(st.peerAfter_append_of_pinned hu _).trans (ho.peer.symm.trans (hsrc hpin).symm),
      st.unpinned_append_of_pinned hu _⟩

/-- Pinning the peer touches no counter of the statistics. -/
@[simp] theorem tally_pinTo (s : Session) (source : Address) :
    (s.pinTo source).stats.tally = s.stats.tally := by
  unfold pinTo
  split <;> rfl

/-- A datagram from the peer, or the first that pins it: the session takes it from its peer, and
    owes what it acknowledges of the last DATA sent. -/
theorem Owes.take (ho : Owes st d s h) (t : Number) (ph : Option Phase) {bytes : List UInt8}
    {source : Address} {p : Packet} (hdec : Packet.decode bytes = .ok p)
    (hsrc : s.pinned = true → source = s.peer) :
    Owes st (d + p.acking (lastDataBlock h)) (s.pinTo source)
      (h ++ [(.receive t ph, .datagram bytes source)]) := by
  obtain ⟨hpeer, hu⟩ := ho.peerAfter_take hdec hsrc
  have hc : st.counted h (.receive t ph, .datagram bytes source) = p.acking (lastDataBlock h) := by
    rw [Setup.counted_datagram h hdec, if_pos hpeer.symm]
  exact {
    counters := by rw [tally_pinTo, st.tally_concat, hc, ← Tally.add_assoc, ho.counters]
    peer := by
      rw [pinTo_peer, hpeer]
      split
      · next hpin => exact (hsrc hpin).symm
      · rfl
    pinned := by rw [pinTo_pinned, hu]; rfl
    policy := by rw [pinTo_policy]; exact ho.policy
    settled := freshPayload?_concat_of_ne_send (fun _ _ => Request.noConfusion) h
    waits := ho.waits_concat _
    reports := ho.reports_append ((forall_split_singleton _).mpr fun _ hr => by
      simp [Exchange.report?] at hr) }

/-- A datagram that decodes but comes from a foreign source, once the peer is pinned, counts
    nothing. -/
theorem Owes.foreign (ho : Owes st d s h) (t : Number) (ph : Option Phase) {bytes : List UInt8}
    {source : Address} {p : Packet} (hdec : Packet.decode bytes = .ok p) (hpin : s.pinned = true)
    (hsrc : source ≠ s.peer) : Owes st d s (h ++ [(.receive t ph, .datagram bytes source)]) := by
  have hu : st.unpinned h = false := by simpa [ho.pinned] using hpin
  have hc : st.counted h (.receive t ph, .datagram bytes source) = 0 := by
    rw [Setup.counted_datagram h hdec, if_neg]
    rw [st.peerAfter_append_of_pinned hu, ← ho.peer]
    exact hsrc
  exact {
    counters := by rw [st.tally_concat, hc, Tally.add_zero, ho.counters]
    peer := ho.peer.trans (st.peerAfter_append_of_pinned hu _).symm
    pinned := by rw [hpin, st.unpinned_append_of_pinned hu]; rfl
    policy := ho.policy
    settled := freshPayload?_concat_of_ne_send (fun _ _ => Request.noConfusion) h
    waits := ho.waits_concat _
    reports := ho.reports_append ((forall_split_singleton _).mpr fun _ hr => by
      simp [Exchange.report?] at hr) }

/-- A report of statistics that count what the exchanges show is one more counted report. -/
theorem Tallied.report (ht : Tallied st s h) {stats : Stats} (hst : stats.tally = s.stats.tally)
    (x : Response) : Tallied st s (h ++ [(.report stats, x)]) where
  counters := by rw [st.tally_concat]; exact ht.counters
  peer := ht.peer.trans (st.peerAfter_append_inert (by simp [Exchange.pinSource?])).symm
  pinned := by rw [ht.pinned, st.unpinned_append_inert (by simp [Exchange.pinSource?])]
  policy := ht.policy
  settled := freshPayload?_concat_of_ne_send (fun _ _ => Request.noConfusion) h
  waits := ht.waits_concat _
  reports := ht.reports_append ((forall_split_singleton _).mpr fun stats' hr => by
    simp only [Exchange.report?, Option.some.injEq] at hr
    rw [← hr, hst, List.append_nil]
    simpa using ht.counters)

end Exchanges

/-! ## The steps both roles share -/

section Steps

variable {ok : List Exchange → Prop} {st : Setup} {d : Tally} {s : Session} {h : List Exchange}

/-- A change of the session that leaves the counters, the peer and the policy alone. -/
theorem owes_modify {f : Session → Session}
    (hf : ∀ s, (f s).stats.tally = s.stats.tally ∧ (f s).peer = s.peer ∧
      (f s).pinned = s.pinned ∧ (f s).policy = s.policy) :
    Keeps ok (Owes st d) (modify f) :=
  keeps_modify fun s _ ho => ho.congr (hf s).1 (hf s).2.1 (hf s).2.2.1 (hf s).2.2.2

theorem owes_now : Keeps ok (Owes st d) now := by
  intro s h ho
  rw [wp_now]
  exact fun x _ => ho.now x

theorem owes_resetTimeout : Keeps ok (Owes st d) resetTimeout :=
  owes_now.bind fun _ => keeps_get.bind fun _ => by
    split
    · exact owes_modify fun _ => ⟨rfl, rfl, rfl, rfl⟩
    · exact keeps_throw _

/-- A send of a draft that is no DATA: the statistics count it as the exchanges do. -/
theorem owes_send {p : Draft} (hp : ∀ v payload, p ≠ .data v payload) :
    Keeps ok (Owes st d) (send p) := by
  intro s h ho
  rw [wp_send]
  cases henc : p.encode with
  | error e => exact ho
  | ok bytes =>
    intro x _
    have hnot := Draft.encode_not_data hp henc
    cases x with
    | sendFailed reason => exact ho.sendFailed bytes s.peer reason
    | _ => exact ho.sent bytes rfl (freshPayload?_concat_send_eq_none (.inr (.inr hnot)) _)

/-- A fresh transmission of a draft that is no DATA. -/
theorem owes_transmit {p : Draft} (hp : ∀ v payload, p ≠ .data v payload) :
    Keeps ok (Owes st d) (transmit p) :=
  (owes_send hp).seq (Keeps.seq (by exact owes_modify fun _ => ⟨rfl, rfl, rfl, rfl⟩)
    owes_resetTimeout)

theorem owes_transmitError (f : Fault) : Keeps ok (Owes st d) (transmitError f) :=
  Keeps.tryCatch (owes_send fun _ _ => Draft.noConfusion) fun _ =>
    Keeps.ite (keeps_pure _) (keeps_throw _)

/-- Failing records the fault, which no counter reads, and reports a handler's failure with an
    ERROR. -/
theorem owes_fail (f : Fault) : Keeps ok (Owes st d) (fail f) :=
  Keeps.seq (by exact owes_modify fun _ => ⟨rfl, rfl, rfl, rfl⟩)
    (Keeps.ite (owes_transmitError f) (keeps_pure _))

/-- Every way a receive ends keeps the invariant, owing what a packet it takes acknowledges of
    the last DATA sent; it changes nothing but the peer, and sends no DATA. -/
theorem wp_receive_owes (ht : Tallied st s h) :
    Wp ok receive (fun r s' h' => (s' = s ∨ ∃ source, s' = s.pinTo source) ∧
      lastDataBlock h' = lastDataBlock h ∧
      Owes st (match r with
        | .ok (some p) => p.acking (lastDataBlock h)
        | _ => 0) s' h') s h := by
  apply wp_receive
  intro r s' δ hr
  have hnow : ∀ x, lastDataBlock (h ++ [(.now, x)]) = lastDataBlock h := fun x =>
    lastDataBlock_concat_of_data? rfl h
  have hrecv : ∀ x t ph y, lastDataBlock (h ++ [(.now, x), (.receive t ph, y)]) =
      lastDataBlock h := by
    intro x t ph y
    rw [show h ++ [(Request.now, x), (Request.receive t ph, y)] =
      h ++ [(Request.now, x)] ++ [(Request.receive t ph, y)] by simp,
      lastDataBlock_concat_of_data? rfl, hnow]
  have hsplit : ∀ x ys, h ++ (Request.now, x) :: ys = h ++ [(Request.now, x)] ++ ys := by simp
  cases hr with
  | unreadable x _ => exact ⟨.inl rfl, hnow x, ht.now x⟩
  | expired x t _ _ => exact ⟨.inl rfl, hnow x, ht.now x⟩
  | failed x t f _ _ =>
    refine ⟨.inl rfl, hrecv x t s.phase _, ?_⟩
    rw [hsplit]
    exact (ht.now x).silent rfl
  | silent x t y _ _ _ hy =>
    refine ⟨.inl rfl, hrecv x t s.phase y, ?_⟩
    rw [hsplit]
    exact (ht.now x).silent (Exchange.pinSource?_receive hy)
  | foreign x t bytes source p refusal z _ _ hdec hpin hsrc henc =>
    have hnot := error_encode_not_data henc
    refine ⟨.inl rfl, ?_, ?_⟩
    · rw [show h ++ [(Request.now, x), (Request.receive t s.phase, Response.datagram bytes source),
          (Request.send refusal source, z)] = h ++ [(Request.now, x),
          (Request.receive t s.phase, Response.datagram bytes source)] ++
          [(Request.send refusal source, z)] by simp,
        lastDataBlock_concat_of_data? (Exchange.data?_send_of_not_data hnot source z), hrecv]
    · rw [show h ++ [(Request.now, x), (Request.receive t s.phase, Response.datagram bytes source),
          (Request.send refusal source, z)] = h ++ [(Request.now, x)] ++
          [(Request.receive t s.phase, Response.datagram bytes source)] ++
          [(Request.send refusal source, z)] by simp]
      exact (((ht.now x).foreign t s.phase hdec hpin hsrc).refused hnot hsrc z)
  | aborted x t bytes source code message _ _ hdec hsrc =>
    refine ⟨.inr ⟨source, rfl⟩, hrecv x t s.phase _, ?_⟩
    rw [hsplit]
    exact (ht.now x).take t s.phase hdec hsrc
  | packet x t bytes source p _ _ hdec hsrc _ =>
    refine ⟨.inr ⟨source, rfl⟩, hrecv x t s.phase _, ?_⟩
    rw [hsplit]
    have hto := (ht.now x).take t s.phase hdec hsrc
    rwa [hnow, Tally.zero_add] at hto

/-- The last steps report statistics that count every exchange before the report. -/
theorem tallied_finish : Keeps ok (Tallied st) finish := by
  intro s h ht
  apply wp_finish
  intro x₁ x₂ x₃ x₄
  -- closing the pipe and the socket and reading the clock count nothing
  have h₁ : Tallied st s (h ++ [(Request.closeStream (s.error.map .fault), x₁)]) :=
    ht.quiet (.inr (.inr (.inl ⟨_, rfl⟩))) x₁
  have h₂ : Tallied st s (h ++ [(Request.closeStream (s.error.map .fault), x₁)] ++
      [(Request.closeSocket, x₂)]) :=
    h₁.quiet (.inr (.inl rfl)) x₂
  have h₃ : Tallied st (s.closedAt (Setup.clockOf x₃)) (h ++
      [(Request.closeStream (s.error.map .fault), x₁)] ++ [(Request.closeSocket, x₂)] ++
      [(Request.now, x₃)]) :=
    Owes.congr (h₂.now x₃) rfl rfl rfl rfl
  simpa using h₃.report rfl x₄

end Steps

end Session

end Tftp
