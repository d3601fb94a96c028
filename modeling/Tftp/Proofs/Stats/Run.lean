import Tftp.Proofs.Stats.Steps
import Tftp.Proofs.Timer.Run
import Tftp.Proofs.Clock

/-! # Every run of a session counts what its exchanges show

    The statistics a session reports, and those it ends with, count what the exchanges of its
    run show (`Setup.tally`): the datagrams sent to the peer, the acknowledgements taken of the
    block in flight, the payload bytes of the blocks sent fresh and the bytes written to the
    pipe; and a report counts the retransmissions the timer made (`program_counts_statistics`).

    Between steps a session is `Balanced`: it is `Tallied`, and it `Recalls` the last DATA its
    exchanges show, so that an ACK the exchanges count is one the session counts.  A step that
    fails leaves it tallied only (`Accounted`).  Within a step, a sender owes the payload of a
    fresh DATA from its send to the clock reading that restarts the timer, and an
    acknowledgement from its arrival to its note; a receiver owes the bytes of a write until it
    notes them.  The payload of a block whose timer cannot restart is owed for good: the
    exchanges show it sent, and the statistics never count it.  A clock that reads doubles always
    restarts the timer, and nothing but a reading follows a DATA that went out fresh, so there
    the bytes sent are the payloads of all such DATA (`freshPayloads`). -/

namespace Tftp

/-! ## What a session recalls of the DATA it sent -/

/-- What the role's counters say of `last`, the block of the last DATA sent: a sender's counter
    names it, with its block read, and before any DATA the sender has read no block; a receiver
    sends no DATA. -/
def Role.Tracks : Role → Option Int → Prop
  | .sender x, some b => x.lastSent.toNumber? = some (.int b) ∧ x.current.isSome = true
  | .sender x, none => x.current = none
  | .receiver _, last => last = none

namespace Session

/-- What a session recalls of `last`, the block of the last DATA its exchanges show: a DATA it
    would resend is that block, and its role tracks it. -/
structure Recalls (s : Session) (last : Option Int) : Prop where
  resend : ∀ (p : Draft) (bytes : List UInt8) (block : Int) (payload : List UInt8),
    s.lastPacket = some p → p.encode = .ok bytes →
    Packet.decode bytes = .ok (.data block payload) → last = some block
  role : s.role.Tracks last

/-- A session whose statistics count what the exchanges `h` show, and that recalls the last DATA
    they show. -/
structure Balanced (st : Setup) (s : Session) (h : List Exchange) : Prop where
  tallied : Tallied st s h
  recalls : Recalls s (lastDataBlock h)

/-- What a step leaves: a balanced session if it went through, a tallied one if it failed. -/
def Accounted {α : Type} (st : Setup) : Except Failure α → Session → List Exchange → Prop
  | .ok _, s, h => Balanced st s h
  | .error _, s, h => Tallied st s h

section Recalls

variable {s : Session} {last : Option Int}

theorem Recalls.congr (hr : Recalls s last) {s' : Session} (hrole : s'.role = s.role)
    (hlp : s'.lastPacket = s.lastPacket) : Recalls s' last where
  resend p bytes block payload hp := hr.resend p bytes block payload (hlp ▸ hp)
  role := hrole ▸ hr.role

/-- A receiver recalls no DATA. -/
theorem Recalls.none_of_receiver (hr : Recalls s last) {x : Receiver}
    (hrole : s.role = .receiver x) : last = none := by
  have hx := hr.role
  rw [hrole] at hx
  exact hx

/-- A sender recalls the same while its counter and its block stay. -/
theorem Recalls.withSender (hr : Recalls s last) {x x' : Sender} (hrole : s.role = .sender x)
    (hsent : x'.lastSent = x.lastSent) (hcur : x'.current = x.current) :
    Recalls (s.withSender x') last where
  resend := hr.resend
  role := by
    have hx := hr.role
    rw [hrole] at hx
    rw [withSender_role]
    cases last <;> simpa [Role.Tracks, hsent, hcur] using hx

/-- A draft that is no DATA, remembered to resend, recalls nothing new. -/
theorem Recalls.remember (hr : Recalls s last) {p : Draft}
    (hp : ∀ v payload, p ≠ .data v payload) :
    Recalls { s with lastPacket := some p, retransmits := 0 } last where
  resend p' bytes block payload hlp henc hdec := by
    cases hlp
    exact absurd hdec (Draft.encode_not_data hp henc block payload)
  role := hr.role

/-- A sender that has just sent its block as DATA, and would resend that DATA, recalls it. -/
theorem Recalls.ofData {x : Sender} (hrole : s.role = .sender x) (hcur : x.current.isSome = true)
    {payload bytes : List UInt8} (hlp : s.lastPacket = some (.data x.lastSent payload))
    (henc : (Draft.data x.lastSent payload).encode = .ok bytes) {block : Int}
    (hv : x.lastSent.toNumber? = some (.int block))
    (hdec : Packet.decode bytes = .ok (.data block payload)) : Recalls s (some block) where
  resend p bytes' block' payload' hp henc' hdec' := by
    rw [hlp] at hp
    cases hp
    rw [henc] at henc'
    cases henc'
    rw [hdec] at hdec'
    cases hdec'
    rfl
  role := by
    rw [hrole]
    exact ⟨hv, hcur⟩

/-- What an ACK acknowledges of the block a sender recalls is what the sender's counter and
    block say. -/
theorem Recalls.acking_ack (hr : Recalls s last) {x : Sender} (hrole : s.role = .sender x)
    (block : Int) : (Packet.ack block).acking last =
      ⟨0, if (Value.eqInt block x.lastSent && x.current.isSome) = true then 1 else 0, 0, 0⟩ :=
    by
  have hx := hr.role
  rw [hrole] at hx
  cases last with
  | none =>
    have hcur : x.current = none := hx
    rw [Packet.acking_none, hcur, Option.isSome_none, Bool.and_false]
    rfl
  | some b =>
    obtain ⟨hv, hcur⟩ := hx
    have heq : Value.eqInt block x.lastSent = (b == block) := by
      simp only [Value.eqInt, hv, Number.eqInt]
    rw [heq, hcur, Bool.and_true]
    simp only [Packet.acking, Option.some.injEq, beq_iff_eq]

/-- Resending the packet a session recalls sends no DATA other than the last. -/
theorem Recalls.lastDataBlock_resend {h : List Exchange} (hr : Recalls s (lastDataBlock h))
    {p : Draft} (hp : s.lastPacket = some p) {bytes : List UInt8} (henc : p.encode = .ok bytes)
    (target : Address) (y : Response) :
    lastDataBlock (h ++ [(.send bytes target, y)]) = lastDataBlock h := by
  rw [lastDataBlock_concat]
  cases hd : Exchange.data? (.send bytes target, y) with
  | none => rfl
  | some bp =>
    obtain ⟨block, payload⟩ := bp
    have hdec : Packet.decode bytes = .ok (.data block payload) := by
      simp only [Exchange.data?] at hd
      split at hd
      · cases hd
        assumption
      · cases hd
    exact (hr.resend p bytes block payload hp henc hdec).symm

end Recalls

/-! ## Steps that keep the balance -/

section Balance

variable {ok : List Exchange → Prop} {st : Setup} {s : Session} {h : List Exchange}

theorem Balanced.accounted {α : Type} (hb : Balanced st s h) (r : Except Failure α) :
    Accounted st r s h := by
  cases r
  · exact hb.tallied
  · exact hb

theorem Balanced.congr (hb : Balanced st s h) {s' : Session}
    (hs : s'.stats.tally = s.stats.tally) (hpeer : s'.peer = s.peer) (hpin : s'.pinned = s.pinned)
    (hpol : s'.policy = s.policy) (hrole : s'.role = s.role)
    (hlp : s'.lastPacket = s.lastPacket) : Balanced st s' h :=
  ⟨hb.tallied.congr hs hpeer hpin hpol, hb.recalls.congr hrole hlp⟩

/-- An exchange that sends no DATA leaves the last DATA as it was. -/
theorem Balanced.push (hb : Balanced st s h) {e : Exchange} (ht : Tallied st s (h ++ [e]))
    (he : e.data? = none) : Balanced st s (h ++ [e]) :=
  ⟨ht, by rw [lastDataBlock_concat_of_data? he]; exact hb.recalls⟩

theorem Balanced.now (hb : Balanced st s h) (x : Response) : Balanced st s (h ++ [(.now, x)]) :=
  hb.push (hb.tallied.now x) rfl

theorem balanced_enter (ph : Phase) :
    Keeps ok (Balanced st) (modify fun s => { s with phase := some ph }) :=
  keeps_modify fun _ _ hb => hb.congr rfl rfl rfl rfl rfl rfl

/-- Restarting the timer keeps the balance and the last DATA. -/
theorem wp_resetTimeout_balanced (hb : Balanced st s h) :
    Wp ok resetTimeout (fun _ s' h' => Balanced st s' h' ∧ lastDataBlock h' = lastDataBlock h)
      s h := by
  rw [wp_resetTimeout]
  intro x _
  have hd : lastDataBlock (h ++ [(.now, x)]) = lastDataBlock h :=
    lastDataBlock_concat_of_data? rfl h
  split
  · exact ⟨(hb.now x).congr rfl rfl rfl rfl rfl rfl, hd⟩
  · exact ⟨hb.now x, hd⟩

theorem balanced_resetTimeout : Keeps ok (Balanced st) resetTimeout :=
  fun _ _ hb => Wp.mono (fun _ _ _ hb' => hb'.1) (wp_resetTimeout_balanced hb)

/-- A send of a draft that is no DATA keeps the balance and the last DATA. -/
theorem wp_send_balanced {p : Draft} (hp : ∀ v payload, p ≠ .data v payload)
    (hb : Balanced st s h) :
    Wp ok (send p) (fun _ s' h' => Balanced st s' h' ∧ lastDataBlock h' = lastDataBlock h)
      s h := by
  rw [wp_send]
  cases henc : p.encode with
  | error e => exact ⟨hb, rfl⟩
  | ok bytes =>
    intro x _
    have hnot := Draft.encode_not_data hp henc
    have hd : lastDataBlock (h ++ [(.send bytes s.peer, x)]) = lastDataBlock h :=
      lastDataBlock_concat_of_data? (Exchange.data?_send_of_not_data hnot _ x) h
    cases x with
    | sendFailed reason =>
      exact ⟨⟨hb.tallied.sendFailed bytes s.peer reason, by rw [hd]; exact hb.recalls⟩, hd⟩
    | _ =>
      refine ⟨⟨hb.tallied.sent bytes rfl
        (freshPayload?_concat_send_eq_none (.inr (.inr hnot)) _), ?_⟩, hd⟩
      rw [hd]
      exact hb.recalls.congr rfl rfl

theorem balanced_send {p : Draft} (hp : ∀ v payload, p ≠ .data v payload) :
    Keeps ok (Balanced st) (send p) :=
  fun _ _ hb => Wp.mono (fun _ _ _ hb' => hb'.1) (wp_send_balanced hp hb)

/-- A fresh transmission of a draft that is no DATA. -/
theorem balanced_transmit {p : Draft} (hp : ∀ v payload, p ≠ .data v payload) :
    Keeps ok (Balanced st) (transmit p) :=
  (balanced_send hp).seq (Keeps.seq (by exact keeps_modify fun _ _ hb =>
    ⟨hb.tallied.congr rfl rfl rfl rfl, hb.recalls.remember hp⟩) balanced_resetTimeout)

/-- A receive keeps the role and what the session recalls, and owes what the packet it takes
    acknowledges. -/
theorem wp_receive_balanced (hb : Balanced st s h) :
    Wp ok receive (fun r s' h' => s'.role = s.role ∧ Recalls s' (lastDataBlock h') ∧
      lastDataBlock h' = lastDataBlock h ∧ Owes st (match r with
        | .ok (some p) => p.acking (lastDataBlock h)
        | _ => 0) s' h') s h := by
  apply Wp.mono _ (wp_receive_owes hb.tallied)
  rintro r s' h' ⟨hs, hd, ho⟩
  have hframe : s'.role = s.role ∧ s'.lastPacket = s.lastPacket := by
    rcases hs with rfl | ⟨source, rfl⟩ <;> simp
  refine ⟨hframe.1, ?_, hd, ho⟩
  rw [hd]
  exact hb.recalls.congr hframe.1 hframe.2

/-- A receive of a session that sent no DATA owes nothing. -/
theorem wp_receive_unowed (hb : Balanced st s h) (hnone : lastDataBlock h = none) :
    Wp ok receive (fun _ s' h' => s'.role = s.role ∧ Balanced st s' h' ∧
      lastDataBlock h' = lastDataBlock h) s h := by
  apply Wp.mono _ (wp_receive_balanced hb)
  rintro r s' h' ⟨hrole, hr, hd, ho⟩
  refine ⟨hrole, ⟨?_, hr⟩, hd⟩
  rw [hnone] at ho
  rcases r with e | _ | p <;> simpa [Tallied] using ho

/-- Marking the block read as the last changes nothing the balance reads. -/
theorem balanced_markLast :
    Keeps ok (Balanced st) (updateSender fun x => { x with awaitingLastAck := true }) := by
  intro s h hb
  cases hr : s.role with
  | sender x =>
    rw [wp_updateSender _ hr]
    exact ⟨hb.tallied.congr rfl rfl rfl rfl, hb.recalls.withSender hr rfl rfl⟩
  | receiver _ =>
    unfold updateSender
    rw [wp_modify]
    simp only [hr]
    exact hb

end Balance

/-! ## The sender -/

section Sender

variable {ok : List Exchange → Prop} {st : Setup} {d : Tally} {s : Session} {h : List Exchange}

/-- Reading a block from the pipe counts nothing and sends nothing; unless the block was full
    already, the exchanges end with a read, so that a DATA sent next goes out fresh. -/
theorem wp_gather_owes : ∀ (fuel : Nat) (g : List UInt8) (h : List Exchange), Owes st d s h →
    (g.length < blockSize ∧ 0 < fuel) ∨ h.getLast?.any Exchange.isClock = false →
    Wp ok (gather g fuel) (fun _ s' h' => s' = s ∧ Owes st d s h' ∧
      lastDataBlock h' = lastDataBlock h ∧ h'.getLast?.any Exchange.isClock = false) s h := by
  intro fuel
  induction fuel with
  | zero =>
    intro g h ho hpre
    rcases hpre with ⟨_, hfuel⟩ | hlast
    · exact absurd hfuel (Nat.lt_irrefl 0)
    · exact ⟨rfl, ho, rfl, hlast⟩
  | succ n ih =>
    intro g h ho hpre
    unfold gather
    by_cases hfull : g.length ≥ blockSize
    · rw [if_pos hfull, wp_pure]
      rcases hpre with ⟨hlen, _⟩ | hlast
      · omega
      · exact ⟨rfl, ho, rfl, hlast⟩
    · rw [if_neg hfull, wp_bind, wp_ask]
      intro x _
      -- a read of the pipe counts nothing, sends nothing and is no clock reading
      have ho₁ : Owes st d s (h ++ [(.stream (.read (.upTo (blockSize - g.length)) false), x)]) :=
        ho.quiet (.inr (.inr (.inr ⟨_, _, rfl⟩))) x
      have hd₁ : lastDataBlock (h ++ [(.stream (.read (.upTo (blockSize - g.length)) false), x)])
          = lastDataBlock h :=
        lastDataBlock_concat_of_data? rfl h
      have hread : (h ++ [(Request.stream (.read (.upTo (blockSize - g.length)) false), x)]
          ).getLast?.any Exchange.isClock = false := by
        simp [Exchange.isClock]
      dsimp only
      split
      · exact ⟨rfl, ho₁, hd₁, hread⟩
      · exact Wp.mono (fun _ _ _ ⟨hs, ho', hd', hc'⟩ => ⟨hs, ho', hd'.trans hd₁, hc'⟩)
          (ih _ _ ho₁ (.inr hread))
      · exact ⟨rfl, ho₁, hd₁, hread⟩
      · exact ⟨rfl, ho₁, hd₁, hread⟩

/-- Reading the next block counts nothing and sends nothing; once it was read, the sender holds
    it and the exchanges end with a read of the pipe. -/
theorem wp_nextBlock_owes {x : Sender} (hrole : s.role = .sender x) (ht : Tallied st s h) :
    Wp ok nextBlock (fun r s' h' => Tallied st s' h' ∧ (r = .ok () →
      (∃ x', s'.role = .sender x' ∧ x'.current.isSome = true) ∧
      h'.getLast?.any Exchange.isClock = false)) s h := by
  unfold nextBlock
  rw [wp_bind, wp_sender hrole]
  dsimp only
  rw [wp_bind, wp_ofExcept]
  cases hn : x.lastSent.succ true with
  | error e => exact ⟨ht, fun hr => nomatch hr⟩
  | ok n =>
    dsimp only
    rw [wp_bind, wp_updateSender _ hrole, wp_bind]
    apply Wp.mono _ (wp_gather_owes (s := s.withSender _) (blockSize + 1) [] h
      (ht.congr rfl rfl rfl rfl) (.inl ⟨by decide, by decide⟩))
    rintro (e | block) s' h' ⟨rfl, ho', -, hlast'⟩
    · exact ⟨ho', fun hr => nomatch hr⟩
    · dsimp only
      rw [wp_updateSender _ (withSender_role _ _)]
      exact ⟨ho'.congr rfl rfl rfl rfl, fun _ => ⟨⟨_, rfl, rfl⟩, hlast'⟩⟩

/-- A datagram that went out to the peer, and the clock reading just after it: the statistics
    count the datagram as the exchanges do, and owe what the reading counts. -/
theorem Owes.sentThenNow (ho : Owes st d s h) (bytes : List UInt8) {x : Response}
    (hx : x.failedSend = false) (t : Response) :
    Owes st (d + st.counted (h ++ [(.send bytes s.peer, x)]) (.now, t)) s.countSent
      (h ++ [(.send bytes s.peer, x), (.now, t)]) := by
  have hc : st.counted h (.send bytes s.peer, x) = ⟨1, 0, 0, 0⟩ := by
    rw [ho.peer]
    exact Setup.counted_send_peer h bytes hx
  have hinert : ∀ e ∈ ([(.send bytes s.peer, x), (.now, t)] : List Exchange),
      Exchange.pinSource? e = none := by
    simp [Exchange.pinSource?]
  have hsplit : h ++ [((Request.send bytes s.peer, x) : Exchange), (Request.now, t)] =
      h ++ [(.send bytes s.peer, x)] ++ [(.now, t)] := by simp
  exact {
    counters := by
      rw [hsplit, st.tally_concat, st.tally_concat, hc, ← ho.counters]
      show s.stats.tally + (⟨1, 0, 0, 0⟩ : Tally) + (d + _) = _
      rw [← Tally.add_assoc, Tally.add_right_comm _ ⟨1, 0, 0, 0⟩ d]
    peer := ho.peer.trans (st.peerAfter_append_inert hinert).symm
    pinned := by rw [countSent_pinned, ho.pinned, st.unpinned_append_inert hinert]
    policy := ho.policy
    settled := by
      rw [hsplit]
      exact freshPayload?_concat_of_ne_send (fun _ _ => Request.noConfusion) _
    -- the DATA, if fresh, is followed by the reading
    waits := ho.waits_append ((forall_split_cons _ _).mpr
      ⟨fun _ => by simpa using ho.settled, (forall_split_singleton _).mpr fun hne => absurd rfl hne⟩)
    reports := ho.reports_append fun A e B hs stats hr => by
      have he : e ∈ ([(.send bytes s.peer, x), (.now, t)] : List Exchange) := by
        rw [hs]
        simp
      simp only [List.mem_cons, List.not_mem_nil, or_false] at he
      rcases he with rfl | rfl <;> simp [Exchange.report?] at hr }

/-- Sending the block read last: the DATA goes out fresh, so that its payload is counted once
    the timer restarts, and the sender then recalls the block. -/
theorem wp_transmitData_owes {x : Sender} (hrole : s.role = .sender x)
    (hcur : x.current.isSome = true) (ht : Tallied st s h)
    (hlast : h.getLast?.any Exchange.isClock = false) :
    Wp ok transmitData (fun r s' h' => Accounted st r s' h') s h := by
  unfold transmitData
  rw [wp_bind, wp_sender hrole]
  dsimp only
  rw [wp_bind]
  cases henc : (Draft.data x.lastSent (x.current.getD [])).encode with
  | error e =>
    -- a block number that cannot be written fails before anything is sent
    rw [wp_transmit, wp_send, henc]
    exact ht
  | ok bytes =>
    obtain ⟨block, hv, hdec⟩ := data_encode_decode henc
    apply wp_transmit_of_encode henc
    · intro reason
      exact ht.sendFailed bytes s.peer reason
    · -- the DATA went out, but the timer cannot restart: its payload is never counted
      intro y t hy hadd
      have hadd' : (Setup.clockOf t).add? st.policy.seconds = none := by
        rw [← ht.policy]
        exact hadd
      have ho := ht.sentThenNow bytes hy t
      rw [Setup.counted_now_of_add _ hadd'] at ho
      exact ho.congr rfl rfl rfl rfl
    · -- the timer restarted after the fresh DATA: its payload is owed until it is counted
      intro y t expiry hy hadd
      have hadd' : (Setup.clockOf t).add? st.policy.seconds = some expiry := by
        rw [← ht.policy]
        exact hadd
      have hfresh : freshPayload? (h ++ [(.send bytes s.peer, y)]) = some (x.current.getD []) := by
        rw [freshPayload?_concat_send, hy, hlast, hdec]
        rfl
      have ho := ht.sentThenNow bytes hy t
      rw [Setup.counted_now_restart _ hfresh hadd'] at ho
      have hd : lastDataBlock (h ++ [(.send bytes s.peer, y), (.now, t)]) = some block := by
        rw [show h ++ [((Request.send bytes s.peer, y) : Exchange), (Request.now, t)] =
            h ++ [(.send bytes s.peer, y)] ++ [(.now, t)] by simp,
          lastDataBlock_concat_of_data? rfl, lastDataBlock_concat,
          Exchange.data?_send_of_decode hdec]
      dsimp only
      rw [wp_bind]
      unfold updateStats
      rw [wp_modify]
      refine Wp.mono (fun r _ _ hb => Balanced.accounted hb r)
        (Keeps.ite (balanced_markLast.seq (balanced_enter .awaitAck)) (balanced_enter .awaitAck)
          _ _ ⟨ho.pay rfl rfl rfl rfl, ?_⟩)
      rw [hd]
      apply Recalls.ofData (x := x) _ hcur _ henc hv hdec
      · exact hrole
      · rfl

/-- Taking an ACK pays what it acknowledges: the block in flight is counted once, if it was
    read; any other ACK acknowledges nothing, and only the note about it can fail. -/
theorem wp_handleAck_owes {x : Sender} (hrole : s.role = .sender x)
    (hr : Recalls s (lastDataBlock h)) (block : Int)
    (ho : Owes st ((Packet.ack block).acking (lastDataBlock h)) s h) :
    Wp ok (handleAck block) (fun r s' h' => Accounted st r s' h') s h := by
  rw [hr.acking_ack hrole] at ho
  unfold handleAck
  rw [wp_bind, wp_sender hrole]
  dsimp only
  split
  · next hne =>
    have heq : Value.eqInt block x.lastSent = false := by simpa using hne
    rw [heq, Bool.false_and] at ho
    have hb : Balanced st s h := ⟨ho, hr⟩
    rw [wp_bind, wp_discard, wp_ofExcept]
    cases Value.decimal x.lastSent with
    | error e => exact hb.tallied
    | ok _ =>
      dsimp only [Except.map]
      rw [wp_pure]
      exact hb
  · next heq =>
    have heq' : Value.eqInt block x.lastSent = true := by simpa using heq
    rw [heq'] at ho
    -- whether the block was read or not, the wait then ends
    have hwait : ∀ s₂ : Session, Balanced st s₂ h →
        Wp ok (if x.awaitingLastAck = true then modify fun s => { s with phase := some .done }
          else modify fun s => { s with phase := some .awaitData })
          (fun r s' h' => Accounted st r s' h') s₂ h := by
      intro s₂ hb₂
      rw [wp_endWait]
      exact hb₂.congr rfl rfl rfl rfl rfl rfl
    cases hcur : x.current.isSome with
    | true =>
      rw [hcur] at ho
      have ho' : Owes st (0 + ⟨0, 1, 0, 0⟩) s h := ho
      rw [if_pos rfl, wp_bind]
      unfold updateStats
      rw [wp_modify]
      exact hwait _ ⟨ho'.pay rfl rfl rfl rfl, hr.congr rfl rfl⟩
    | false =>
      rw [hcur] at ho
      rw [if_neg Bool.false_ne_true]
      exact hwait s ⟨ho, hr⟩

/-- A retransmission resends what the session recalls, so the last DATA stays; right after a
    clock reading it leaves no payload pending. -/
theorem wp_retransmit_balanced (hb : Balanced st s h)
    (hclock : h.getLast?.any Exchange.isClock = true) :
    Wp ok retransmit (fun r s' h' => Accounted st r s' h') s h := by
  rw [wp_retransmit]
  -- after the resend, the count of retransmissions grows and the timer restarts
  have hreset : ∀ s₁ h₁, Balanced st s₁ h₁ →
      Wp ok resetTimeout (fun r s' h' => Accounted st r s' h') s₁.countRetransmit h₁ :=
    fun s₁ h₁ hb₁ => Wp.mono (fun r _ _ hb' => hb'.1.accounted r)
      (wp_resetTimeout_balanced (hb₁.congr rfl rfl rfl rfl rfl rfl))
  cases hp : s.lastPacket with
  | none => exact hreset s h hb
  | some p =>
    dsimp only
    rw [wp_send]
    cases henc : p.encode with
    | error e => exact hb.tallied
    | ok bytes =>
      intro y _
      have hd := hb.recalls.lastDataBlock_resend hp henc s.peer y
      cases y with
      | sendFailed reason => exact hb.tallied.sendFailed bytes s.peer reason
      | _ =>
        refine hreset _ _ ⟨hb.tallied.sent bytes rfl
          (freshPayload?_concat_send_eq_none (.inr (.inl hclock)) _), ?_⟩
        rw [hd]
        exact hb.recalls.congr rfl rfl

theorem wp_handleTimeout_balanced (hb : Balanced st s h)
    (hclock : h.getLast?.any Exchange.isClock = true) :
    Wp ok handleTimeout (fun r s' h' => Accounted st r s' h') s h := by
  rw [wp_handleTimeout]
  exact ⟨fun _ => wp_retransmit_balanced hb hclock, fun _ => hb.tallied⟩

/-- The end of a step that waits: once the timer ran out, resend or give up. -/
theorem wp_expire_balanced (ph : Phase) (hb : Balanced st s h) :
    Wp ok (do
      if (← get).phase == some ph then
        if (← timeLeft).isNonpos then handleTimeout)
      (fun r s' h' => Accounted st r s' h') s h := by
  rw [wp_bind, wp_get]
  dsimp only
  split
  · rw [wp_bind, wp_timeLeft]
    intro c _
    have hclock : (h ++ [(Request.now, c)]).getLast?.any Exchange.isClock = true := by
      simp [Exchange.isClock]
    split
    · dsimp only
      split
      · exact wp_handleTimeout_balanced (hb.now c) hclock
      · exact hb.now c
    · exact (hb.now c).tallied
  · exact hb

/-- One step of a sender: it reads and sends the next block, or waits for an ACK, takes the one
    of the block in flight, and resends on silence. -/
theorem wp_sendOnce_accounted {x : Sender} (hrole : s.role = .sender x) (hb : Balanced st s h) :
    Wp ok sendOnce (fun r s' h' => Accounted st r s' h') s h := by
  unfold sendOnce
  rw [wp_bind, wp_get]
  dsimp only
  split
  · rw [wp_bind]
    apply Wp.mono _ (wp_nextBlock_owes hrole hb.tallied)
    rintro (e | u) s₁ h₁ ⟨ht₁, hnext⟩
    · exact ht₁
    · obtain ⟨⟨x₁, hrole₁, hcur₁⟩, hlast₁⟩ := hnext rfl
      exact wp_transmitData_owes hrole₁ hcur₁ ht₁ hlast₁
  · rw [wp_bind]
    apply Wp.mono _ (wp_receive_balanced hb)
    rintro (e | got) s₁ h₁ ⟨hrole₁, hr₁, hd₁, ho₁⟩
    · exact ho₁
    · dsimp only
      cases got with
      | none => exact wp_expire_balanced .awaitAck ⟨ho₁, hr₁⟩
      | some p =>
        cases p with
        | ack block =>
          have ho₂ : Owes st ((Packet.ack block).acking (lastDataBlock h₁)) s₁ h₁ := by
            rw [hd₁]
            exact ho₁
          dsimp only
          rw [wp_bind]
          apply Wp.mono _ (wp_handleAck_owes (hrole₁.trans hrole) hr₁ block ho₂)
          rintro (e | u) s₂ h₂ hacc
          · exact hacc
          · exact wp_expire_balanced .awaitAck hacc
        | _ => exact wp_expire_balanced .awaitAck ⟨ho₁, hr₁⟩

end Sender

/-! ## The receiver -/

section Receiver

variable {ok : List Exchange → Prop} {st : Setup} {s : Session} {h : List Exchange}

/-- Handing the pipe no bytes counts nothing. -/
theorem balanced_deliverNothing : Keeps ok (Balanced st) (deliver []) := by
  intro s h hb
  rw [wp_deliver]
  intro y _
  have ho := hb.tallied.wrote [] y
  rw [List.length_nil, ite_self] at ho
  have hb₁ : Balanced st s (h ++ [(.stream (.write []), y)]) := hb.push ho rfl
  split <;> exact hb₁

/-- Taking a DATA keeps a receiver balanced: the bytes of the expected block are owed from the
    write until they are noted, and every ACK is no DATA. -/
theorem wp_handleData_balanced {x : Receiver} (hrole : s.role = .receiver x)
    (hb : Balanced st s h) (block : Int) (payload : List UInt8) :
    Wp ok (handleData block payload) (fun _ s' h' => Balanced st s' h') s h := by
  unfold handleData
  rw [wp_bind, wp_receiver, hrole]
  dsimp only
  rw [wp_bind, wp_ofExcept]
  cases hn : x.lastDelivered.succ false with
  | error e => exact hb
  | ok next =>
    dsimp only
    generalize (if next.gtInt maxBlockNumber then Number.int 0 else next) = expected
    split
    · rw [wp_bind, wp_deliver]
      intro y _
      have ho₁ := hb.tallied.wrote payload y
      have hr₁ : Recalls s (lastDataBlock (h ++ [(.stream (.write payload), y)])) := by
        rw [lastDataBlock_concat_of_data? rfl]
        exact hb.recalls
      split
      · exact ⟨ho₁, hr₁⟩
      · next hne =>
        rw [Response.streamFailed_eq_false hne] at ho₁
        dsimp only
        rw [wp_bind, wp_updateReceiver, hrole]
        dsimp only
        rw [wp_bind]
        unfold updateStats
        rw [wp_modify]
        refine (balanced_transmit fun _ _ => Draft.noConfusion).seq
          (Keeps.ite (balanced_enter .done) (keeps_pure _)) _ _ ⟨ho₁.pay rfl rfl rfl rfl, ?_⟩
        exact ⟨hr₁.resend, hr₁.none_of_receiver hrole⟩
    · split
      · exact balanced_send (fun _ _ => Draft.noConfusion) s h hb
      · exact (keeps_ofExcept _).discard s h hb

/-- One step of a receiver: it waits for DATA, takes the expected block, and resends on
    silence. -/
theorem wp_receiveOnce_accounted {x : Receiver} (hrole : s.role = .receiver x)
    (hb : Balanced st s h) :
    Wp ok receiveOnce (fun r s' h' => Accounted st r s' h') s h := by
  unfold receiveOnce
  rw [wp_bind]
  apply Wp.mono _ (wp_receive_unowed hb (hb.recalls.none_of_receiver hrole))
  rintro (e | got) s₁ h₁ ⟨hrole₁, hb₁, -⟩
  · exact hb₁.tallied
  · dsimp only
    cases got with
    | none => exact wp_expire_balanced .awaitData hb₁
    | some p =>
      cases p with
      | data block payload =>
        dsimp only
        rw [wp_bind]
        apply Wp.mono _ (wp_handleData_balanced (hrole₁.trans hrole) hb₁ block payload)
        rintro (e | u) s₂ h₂ hb₂
        · exact hb₂.tallied
        · exact wp_expire_balanced .awaitData hb₂
      | _ => exact wp_expire_balanced .awaitData hb₁

/-- Dallying keeps a session that sent no DATA balanced: each round reads the clock, receives,
    and answers a repeat of the last block with an ACK. -/
theorem wp_dallyFor_balanced : ∀ (fuel : Nat) (s : Session) (h : List Exchange),
    Balanced st s h → lastDataBlock h = none →
    Wp ok (dallyFor fuel) (fun _ s' h' => Balanced st s' h') s h := by
  intro fuel
  induction fuel with
  | zero => exact fun _ _ hb _ => hb
  | succ n ih =>
    intro s h hb hnone
    unfold dallyFor
    rw [wp_bind, wp_timeLeft]
    intro c _
    have hb₁ := hb.now c
    have hnone₁ : lastDataBlock (h ++ [(.now, c)]) = none := by
      rw [lastDataBlock_concat_of_data? rfl, hnone]
    split
    · dsimp only
      split
      · exact hb₁
      · rw [wp_bind, wp_tryCatch, wp_map]
        apply Wp.mono _ (wp_receive_unowed hb₁ hnone₁)
        rintro (e | got) s₂ h₂ ⟨-, hb₂, hd₂⟩
        · -- a fault ends the dally quietly, any other failure escapes
          dsimp only [Except.map]
          by_cases hf : e.isFault = true
          · rw [if_pos hf, wp_pure]
            exact hb₂
          · rw [if_neg hf, wp_throw]
            exact hb₂
        · rw [hnone₁] at hd₂
          dsimp only [Except.map]
          cases got with
          | none => exact ih s₂ h₂ hb₂ hd₂
          | some p =>
            cases p with
            | data block payload =>
              dsimp only
              rw [wp_bind]
              refine wp_receiver_of_forall fun x => ?_
              dsimp only
              split
              · -- a repeat of the last block is answered again
                rw [wp_bind, wp_tryCatch, wp_seqRight, wp_bind]
                apply Wp.mono _ (wp_send_balanced (fun _ _ => Draft.noConfusion) hb₂)
                rintro (e | u) s₃ h₃ ⟨hb₃, hd₃⟩
                · dsimp only
                  by_cases hf : e.isFault = true
                  · rw [if_pos hf, wp_pure]
                    exact hb₃
                  · rw [if_neg hf, wp_throw]
                    exact hb₃
                · exact ih s₃ h₃ hb₃ (hd₃.trans hd₂)
              · exact ih s₂ h₂ hb₂ hd₂
            | _ => exact ih s₂ h₂ hb₂ hd₂
    · exact hb₁

/-- The dally closes the pipe cleanly, restarts the timer and dallies, balanced throughout. -/
theorem wp_dally_balanced (fuel : Nat) (hb : Balanced st s h) (hnone : lastDataBlock h = none) :
    Wp ok (dally fuel) (fun _ s' h' => Balanced st s' h') s h := by
  unfold dally
  rw [wp_bind, wp_discard, wp_ask]
  intro c _
  have hb₁ : Balanced st s (h ++ [(.closeStream none, c)]) :=
    hb.push (hb.tallied.quiet (.inr (.inr (.inl ⟨_, rfl⟩))) c) rfl
  rw [wp_bind]
  apply Wp.mono _ (wp_resetTimeout_balanced hb₁)
  rintro (e | _) s₂ h₂ ⟨hb₂, hd₂⟩
  · exact hb₂
  · refine wp_dallyFor_balanced fuel s₂ h₂ hb₂ ?_
    rw [hd₂, lastDataBlock_concat_of_data? rfl, hnone]

end Receiver

/-! ## A whole run -/

section Run

variable {ok : List Exchange → Prop} {st : Setup} {s : Session} {h : List Exchange}

/-- Opening the transfer keeps a new session balanced: the requests and ACK 0 are no DATA, and
    a server's first write is empty. -/
theorem balanced_start : Keeps ok (Balanced st) start :=
  keeps_get.bind fun s => by
    cases s.role
    · unfold startSending
      refine keeps_get.bind fun _ => ?_
      exact Keeps.ite ((balanced_transmit fun _ _ => Draft.noConfusion).seq (balanced_enter _))
        (balanced_enter _)
    · unfold startReceiving
      refine keeps_get.bind fun _ => ?_
      dsimp only
      exact Keeps.ite ((balanced_transmit fun _ _ => Draft.noConfusion).seq (balanced_enter _))
        (balanced_deliverNothing.seq ((balanced_transmit fun _ _ => Draft.noConfusion).seq
          (balanced_enter _)))

theorem wp_stepOnce_accounted (hb : Balanced st s h) :
    Wp ok stepOnce (fun r s' h' => Accounted st r s' h') s h := by
  unfold stepOnce
  rw [wp_bind, wp_get]
  dsimp only
  cases hrole : s.role with
  | sender x => exact wp_sendOnce_accounted hrole hb
  | receiver x => exact wp_receiveOnce_accounted hrole hb

/-- Closing, from a balanced session or one that failed, reports and ends with statistics that
    count what the exchanges show; a receiver that is done dallies first. -/
theorem wp_close_tallied (fuel : Nat)
    (hs : Balanced st s h ∨ (Tallied st s h ∧ s.phase = some .failed)) :
    Wp ok (close fuel) (fun _ s' h' => Tallied st s' h') s h := by
  unfold close
  rw [wp_bind, wp_get]
  dsimp only
  split
  · next x hrole hph =>
    have hb : Balanced st s h := hs.resolve_right fun ⟨_, hf⟩ => by
      rw [hph] at hf
      cases hf
    rw [wp_bind]
    apply Wp.mono _ (wp_dally_balanced fuel hb (hb.recalls.none_of_receiver hrole))
    rintro (e | _) s₁ h₁ hb₁
    · exact hb₁.tallied
    · exact tallied_finish s₁ h₁ hb₁.tallied
  · exact tallied_finish s h (hs.elim Balanced.tallied And.left)

/-- A run from a balanced session ends with statistics that count what its exchanges show. -/
theorem wp_run_tallied (fuel : Nat) (hb : Balanced st s h) :
    Wp ok (run fuel) (fun _ s' h' => Tallied st s' h') s h := by
  refine @wp_run ok s h fuel (Balanced st) (fun _ => Tallied st)
    (fun s h => Tallied st s h ∧ s.phase = some .failed) (Tallied st) ?start ?loop ?fail ?close
  case start =>
    apply Wp.mono _ (balanced_start s h hb)
    rintro (e | _) s' h' hb'
    · exact hb'.tallied
    · exact hb'
  case loop =>
    refine wp_loop (fun s h hb _ => Wp.mono ?_ (wp_stepOnce_accounted hb)) fuel
    rintro (e | _) s' h' hacc <;> exact hacc
  case fail =>
    intro e s h ht
    exact Wp.mono (fun _ _ _ hf => ⟨hf.1, hf.2.2⟩)
      (Wp.and (owes_fail e.toFault s h ht)
        (wp_fail_keeps (P := fun _ => True) e.toFault trivial fun _ _ _ => trivial))
  case close => exact fun s h hs => wp_close_tallied fuel hs

end Run

end Session

namespace Setup

variable {ok : List Exchange → Prop}

/-- A session as it is created counts nothing and recalls no DATA, after the clock readings and
    the question for the socket's address. -/
theorem initial_balanced (st : Setup) (expiry : Number) (x₀ x₁ x₂ : Response) :
    Session.Balanced st (st.initial expiry x₁ x₂)
      [(.now, x₀), (.localAddress, x₁), (.now, x₂)] := by
  have ht : Session.Tallied st (st.initial expiry x₁ x₂) [] := {
    counters := rfl
    peer := by simp [initial, peerAfter, firstSource]
    pinned := by simp [initial, unpinned, firstSource]
    policy := rfl
    settled := rfl
    waits := fun _ _ _ hs => by simp at hs
    reports := fun _ _ _ hs => by simp at hs }
  have hr : Session.Recalls (st.initial expiry x₁ x₂) none := {
    resend := fun _ _ _ _ hp => by cases hp
    role := by
      unfold initial
      cases st.kind <;> cases st.initialBlock <;> rfl }
  have hb₀ : Session.Balanced st (st.initial expiry x₁ x₂) [(.now, x₀)] :=
    Session.Balanced.now ⟨ht, hr⟩ x₀
  exact (hb₀.push (hb₀.tallied.quiet (.inl rfl) x₁) rfl).now x₂

/-- Every run of a session counts what its exchanges show: each report counted the exchanges
    before it, and the session ends with statistics that count them all, with no DATA pending
    and none ever followed by anything but the reading that counts it. -/
theorem program_tallies (st : Setup) (fuel : Nat) :
    (st.program fuel).Always ok (fun res H =>
      (∀ A (e : Exchange) B, H = A ++ e :: B → ∀ stats, e.report? = some stats →
        stats.tally = st.tally A) ∧
      ∀ ending s, res = .ok (ending, s) → s.stats.tally = st.tally H ∧
        freshPayload? H = none ∧
        ∀ A (e : Exchange) B, H = A ++ e :: B → e.1 ≠ .now → freshPayload? A = none) [] := by
  apply always_program
  · intro x _
    refine ⟨fun A e B hs stats hr => ?_, fun _ _ hres => nomatch hres⟩
    have he : e ∈ [((Request.now, x) : Exchange)] := by
      rw [hs]
      simp
    rw [List.mem_singleton] at he
    subst he
    cases hr
  · intro x₀ expiry x₁ x₂ _
    apply Session.Wp.mono _
      (Session.wp_run_tallied fuel (st.initial_balanced expiry x₀ x₁ x₂))
    rintro r s' H ht
    refine ⟨ht.reports, fun ending s hres => ?_⟩
    -- the session a run ends with is the final session, whatever the result
    have hs : s = s' := by
      rcases r with e | _ | _ <;> (cases hres; rfl)
    subst hs
    exact ⟨by simpa using ht.counters, ht.settled, ht.waits⟩

/-- Under a clock that reads doubles, every reading of a created session's run restarts the
    timer: the readings are doubles and so is the timeout. -/
theorem always_readings_restart (st : Setup) (fuel : Nat) (hclock : Session.DoubleClock ok) :
    (st.program fuel).Always ok (fun res H => ∀ ending s, res = .ok (ending, s) →
      ∀ x, (Request.now, x) ∈ H → ((clockOf x).add? st.policy.seconds).isSome) [] := by
  apply Program.Always.mono _ (st.always_seconds_fit fuel hclock).seen
  rintro res H ⟨hfit, δ, hδ, hseen⟩ ending s hres x hx
  rw [List.nil_append] at hδ
  subst hδ
  obtain ⟨d, hd⟩ := hfit ending s hres
  obtain ⟨t, rfl⟩ := hclock.readings hseen x hx
  simp [clockOf, hd]

/-- Every run of a session keeps statistics that count what its exchanges show.  Each report
    counts the datagrams that went out to the peer of their time, so not the refusal of a
    foreign source; the ACKs from the peer of the block of the last DATA sent; the payload bytes
    of every DATA that went out fresh and whose timer then restarted; the bytes of every write to
    the pipe that returned; and the retransmissions the timer made.  The session ends with the
    four counters of all its exchanges.  Under a clock that reads doubles the timer always
    restarts, so the bytes sent, in every report and at the end, are the payloads of all the
    DATA that went out fresh. -/
theorem program_counts_statistics (st : Setup) (fuel : Nat) (hclock : Session.DoubleClock ok) :
    (st.program fuel).Always ok (fun res H =>
      (∀ A stats x B, H = A ++ (.report stats, x) :: B →
        stats.tally = st.tally A ∧
        stats.retransmits = (Timeline.of st.policy.seconds A).timer.total) ∧
      ∀ ending s, res = .ok (ending, s) → s.stats.tally = st.tally H ∧
        s.stats.bytesSent = (freshPayloads H).flatten.length ∧
        ∀ A stats x B, H = A ++ (.report stats, x) :: B →
          stats.bytesSent = (freshPayloads A).flatten.length) [] := by
  apply Program.Always.mono _ (((program_tallies st fuel).and
    (program_keeps_retry_budget st fuel)).and (always_readings_restart st fuel hclock))
  rintro res H ⟨⟨⟨hreports, hfinal⟩, hobeys, -⟩, hrestart⟩
  refine ⟨fun A stats x B hH => ⟨hreports A _ B hH stats rfl, ?_⟩, fun ending s hres => ?_⟩
  · rw [hH, Timeline.obeys_append] at hobeys
    exact hobeys.2.1
  obtain ⟨htally, hsettled, hwaits⟩ := hfinal ending s hres
  have hnow := hrestart ending s hres
  have hbytes := st.tally_bytesSent_add_pending H hnow hwaits
  rw [hsettled] at hbytes
  refine ⟨htally, ?_, fun A stats x B hH => ?_⟩
  · -- the final statistics count all the exchanges, nothing pending
    rw [← hbytes, ← htally]
    rfl
  · -- a report comes where nothing is pending, and counts the exchanges before it
    subst hH
    have hA := st.tally_bytesSent_add_pending A
      (fun y hy => hnow y (List.mem_append_left _ hy))
      fun A' e B' hs => hwaits A' e (B' ++ (.report stats, x) :: B) (by simp [hs])
    rw [hwaits A _ B rfl (fun h => Request.noConfusion h)] at hA
    rw [← hA, ← hreports A _ B rfl stats rfl]
    rfl

/-- A client that sends, under the documented clock, counts its statistics. -/
theorem writeClient_counts_statistics :
    Session.DoubleClock Session.Documented ∧
      (Setup.program ⟨.sender, true, default, .none, .none, default, none⟩ 3).Always
        Session.Documented (fun res H =>
          (∀ A stats x B, H = A ++ (.report stats, x) :: B →
            stats.tally = Setup.tally ⟨.sender, true, default, .none, .none, default, none⟩ A ∧
            stats.retransmits = (Timeline.of (default : RetryPolicy).seconds A).timer.total) ∧
          ∀ ending s, res = .ok (ending, s) →
            s.stats.tally = Setup.tally ⟨.sender, true, default, .none, .none, default, none⟩ H ∧
            s.stats.bytesSent = (freshPayloads H).flatten.length ∧
            ∀ A stats x B, H = A ++ (.report stats, x) :: B →
              stats.bytesSent = (freshPayloads A).flatten.length) [] :=
  ⟨Session.doubleClock_documented,
    program_counts_statistics ⟨.sender, true, default, .none, .none, default, none⟩ 3
      Session.doubleClock_documented⟩

end Setup

end Tftp
