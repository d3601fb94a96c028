import Tftp.Proofs.Reach
import Tftp.Proofs.Receiver.Steps
import Tftp.Proofs.Grammar

/-! # Dropped datagrams

    A session waiting on the network with its peer pinned drops a datagram that does not
    decode, comes from a source other than the peer, or is a packet other than an ERROR that the
    state does not act on (`Session.Drops`).  Dropping it leaves the session as it was: the
    step comes, after the clock reading, the receive and, for a foreign source, the refusal sent
    back to it (`Session.arrival`), to the timer check of the same session, and a dally goes on
    from the same session.  Nothing else is asked on the way: no other datagram, no pipe call.

    The route: a receive whose datagram is dropped comes back to the session it started from
    with nothing or with a packet the state does not take (`comes_receive_dropped`); each
    handler then drops that packet (`comes_handleAck_other`, `comes_handleData_drop`), and
    `comes_wait` joins the two for the steps of the sender and the receiver. -/

namespace Tftp

namespace Session

/-- The end of a step that waited in the phase `ph`: once the timer ran out while the session
    still waits, resend or give up. -/
def expire (ph : Phase) : SessionM Unit := do
  if (← get).phase == some ph then
    if (← timeLeft).isNonpos then handleTimeout

/-- The waiting session `s` drops the datagram `bytes` from `source`: it does not decode, it
    comes from a source other than the peer, or it is neither an ERROR nor a packet that the
    session `takes`. -/
def Drops (s : Session) (takes : Packet → Prop) (bytes : List UInt8) (source : Address) : Prop :=
  match Packet.decode bytes with
  | .error _ => True
  | .ok p => source ≠ s.peer ∨ ((∀ code message, p ≠ .error code message) ∧ ¬ takes p)

/-- The exchanges of a wait of the session `s` in which the datagram `bytes` arrives from
    `source`: the clock reading `c`, which leaves `t` on the timer, the receive, and, for a
    datagram that decodes but comes from a source other than the peer, the refusal sent back
    to it, answered `z`. -/
def arrival (s : Session) (c : Response) (t : Number) (bytes : List UInt8) (source : Address)
    (z : Response) : List Exchange :=
  (.now, c) :: (.receive t s.phase, .datagram bytes source) ::
    match Packet.decode bytes with
    | .ok _ => if source = s.peer then [] else [(.send refusal source, z)]
    | .error _ => []

/-- The block a receiver expects after the block `n`: the next one, wrapping from 65535 to 0. -/
def blockAfter (n : Int) : Int := if n < maxBlockNumber then n + 1 else 0

theorem expectedAfter_eqInt_iff (n block : Int) :
    (expectedAfter n).eqInt block = true ↔ block = blockAfter n := by
  unfold expectedAfter blockAfter
  by_cases hwrap : n < maxBlockNumber
  · rw [if_neg (by simp [Number.gtInt]; omega), if_pos hwrap]
    simp only [Number.eqInt, beq_iff_eq]
    exact eq_comm
  · rw [if_pos (by simp [Number.gtInt]; omega), if_neg hwrap]
    simp only [Number.eqInt, beq_iff_eq]
    exact eq_comm

/-! ## The handlers drop what they do not take -/

/-- An acknowledgement of a block other than the last one sent changes nothing. -/
theorem comes_handleAck_other {s : Session} {x : Sender} {n block : Int}
    (hrole : s.role = .sender x) (hn : x.lastSent = .int n) (hb : block ≠ n) :
    Comes (handleAck block) s [] (pure ()) s := by
  have hne : Value.eqInt block (.int n) = false :=
    Bool.eq_false_iff.mpr fun h => hb ((Value.eqInt_int_iff block n).mp h)
  unfold handleAck
  refine ((comes_sender hrole).bind _).trans ?_
  rw [if_pos (by simp [hn, hne]), hn]
  exact Comes.refl _ _

/-- A DATA packet of a block that is neither the expected one nor a repeat of the last one
    delivered changes nothing. -/
theorem comes_handleData_drop {s : Session} {x : Receiver} {n block : Int} (payload : List UInt8)
    (hrole : s.role = .receiver x) (hn : x.lastDelivered = .int n)
    (hexp : (expectedAfter n).eqInt block = false) (hdup : x.deliveredAny = true → block ≠ n) :
    Comes (handleData block payload) s [] (pure ()) s := by
  have hagain : (x.deliveredAny && x.lastDelivered.eqInt block) = false := by
    rw [hn]
    cases hany : x.deliveredAny with
    | false => rfl
    | true => exact Bool.eq_false_iff.mpr fun h => hdup hany ((Value.eqInt_int_iff block n).mp h)
  unfold handleData
  refine ((comes_receiver hrole).bind _).trans ?_
  rw [hn]
  refine ((comes_ofExcept_ok _ s).bind _).trans ?_
  dsimp only
  rw [show (if (Number.int (n + 1)).gtInt maxBlockNumber = true then Number.int 0
      else Number.int (n + 1)) = expectedAfter n from rfl, hexp, ← hn, hagain,
    if_neg Bool.false_ne_true, if_neg Bool.false_ne_true]
  -- the expected block is an integer, which the note about the drop writes without failing
  obtain ⟨k, hk⟩ : ∃ k, expectedAfter n = .int k := by
    unfold expectedAfter
    split
    · exact ⟨0, rfl⟩
    · exact ⟨n + 1, rfl⟩
  rw [hk]
  exact Comes.refl _ _

/-! ## A wait that drops its datagram -/

variable {s : Session} {c z : Response} {t : Number} {bytes : List UInt8} {source : Address}
  {takes : Packet → Prop}

/-- A receive that brings a datagram the waiting session drops ends where it began, with nothing
    or with a packet that is no ERROR and not one the session takes. -/
theorem comes_receive_dropped (hpin : s.pinned = true)
    (ht : s.expiry.sub? (Setup.clockOf c) = some t) (hpos : t.isNonpos = false)
    (hdrops : s.Drops takes bytes source) (z : Response) :
    ∃ got, Comes receive s (s.arrival c t bytes source z) (pure got) s ∧
      ∀ p, got = some p → (∀ code message, p ≠ .error code message) ∧ ¬ takes p := by
  unfold arrival
  unfold Drops at hdrops
  cases hdec : Packet.decode bytes with
  | error e =>
    exact ⟨none, comes_receive_malformed ht hpos hdec, fun _ h => nomatch h⟩
  | ok p =>
    rw [hdec] at hdrops
    by_cases hsrc : source = s.peer
    · rw [if_pos hsrc]
      obtain ⟨hp, htakes⟩ := hdrops.resolve_left (fun hne => hne hsrc)
      exact ⟨some p, comes_receive_packet ht hpos hdec hpin hsrc hp,
        fun q hq => by cases hq; exact ⟨hp, htakes⟩⟩
    · rw [if_neg hsrc]
      exact ⟨none, comes_receive_foreign ht hpos hdec hpin hsrc z, fun _ h => nomatch h⟩

/-- A wait whose datagram the session drops comes to what the step does with nothing at all. -/
theorem comes_wait {step : Option Packet → SessionM Unit} {rest : SessionM Unit}
    (hpin : s.pinned = true) (ht : s.expiry.sub? (Setup.clockOf c) = some t)
    (hpos : t.isNonpos = false) (hdrops : s.Drops takes bytes source)
    (hnone : Comes (step none) s [] rest s)
    (hsome : ∀ p, (∀ code message, p ≠ .error code message) → ¬ takes p →
      Comes (step (some p)) s [] rest s) :
    Comes (receive >>= step) s (s.arrival c t bytes source z) rest s := by
  obtain ⟨got, hcomes, hgot⟩ := comes_receive_dropped hpin ht hpos hdrops z
  cases got with
  | none => exact (hcomes.bind step).trans_nil hnone
  | some p =>
    obtain ⟨hp, htakes⟩ := hgot p rfl
    exact (hcomes.bind step).trans_nil (hsome p hp htakes)

/-! ## The three waiting steps -/

/-- A sender waiting for the acknowledgement of block `n` changes nothing for a datagram it
    drops: its step comes to the timer check from the same session. -/
theorem comes_sendOnce_dropped {x : Sender} {n : Int} (hrole : s.role = .sender x)
    (hn : x.lastSent = .int n) (hph : s.phase = some .awaitAck) (hpin : s.pinned = true)
    (ht : s.expiry.sub? (Setup.clockOf c) = some t) (hpos : t.isNonpos = false)
    (hdrops : s.Drops (· = .ack n) bytes source) :
    Comes sendOnce s (s.arrival c t bytes source z) (expire .awaitAck) s := by
  unfold sendOnce
  refine (comes_get_bind _ s).trans ?_
  rw [if_neg (by simp [hph])]
  refine comes_wait hpin ht hpos hdrops (Comes.refl _ _) fun p _ htakes => ?_
  cases p with
  | ack block =>
    have hb : block ≠ n := fun hb => htakes (by rw [hb])
    exact (comes_handleAck_other hrole hn hb).bind _
  | _ => exact Comes.refl _ _

/-- A receiver changes nothing for a datagram it drops: its step comes to the timer check from
    the same session. -/
theorem comes_receiveOnce_dropped {x : Receiver} {n : Int} (hrole : s.role = .receiver x)
    (hn : x.lastDelivered = .int n) (hpin : s.pinned = true)
    (ht : s.expiry.sub? (Setup.clockOf c) = some t) (hpos : t.isNonpos = false)
    (hdrops : s.Drops (fun p => ∃ q, p = .data (blockAfter n) q ∨
      (x.deliveredAny = true ∧ p = .data n q)) bytes source) :
    Comes receiveOnce s (s.arrival c t bytes source z) (expire .awaitData) s := by
  unfold receiveOnce
  refine comes_wait hpin ht hpos hdrops (Comes.refl _ _) fun p _ htakes => ?_
  cases p with
  | data block payload =>
    have hexp : (expectedAfter n).eqInt block = false :=
      Bool.eq_false_iff.mpr fun h =>
        htakes ⟨payload, .inl (by rw [(expectedAfter_eqInt_iff n block).mp h])⟩
    have hdup : x.deliveredAny = true → block ≠ n :=
      fun hany hb => htakes ⟨payload, .inr ⟨hany, by rw [hb]⟩⟩
    exact (comes_handleData_drop payload hrole hn hexp hdup).bind _
  | _ => exact Comes.refl _ _

/-- A receiver that dallies changes nothing for a datagram it drops: after its own look at the
    timer, the dally goes on from the same session. -/
theorem comes_dallyFor_dropped {x : Receiver} {n : Int} {c₀ : Response} {t₀ : Number}
    (hrole : s.role = .receiver x) (hn : x.lastDelivered = .int n) (hpin : s.pinned = true)
    (ht₀ : s.expiry.sub? (Setup.clockOf c₀) = some t₀) (hpos₀ : t₀.isNonpos = false)
    (ht : s.expiry.sub? (Setup.clockOf c) = some t) (hpos : t.isNonpos = false)
    (hdrops : s.Drops (fun p => ∃ q, p = .data n q) bytes source) (fuel : Nat) :
    Comes (dallyFor (fuel + 1)) s ((.now, c₀) :: s.arrival c t bytes source z)
      (dallyFor fuel) s := by
  obtain ⟨got, hcomes, hgot⟩ := comes_receive_dropped hpin ht hpos hdrops z
  rw [dallyFor.eq_2]
  refine ((comes_timeLeft ht₀).bind _).trans ?_
  rw [if_neg (by simp [hpos₀])]
  refine (((hcomes.map some).tryCatch _).bind _).trans_nil ?_
  cases got with
  | none => exact Comes.refl _ _
  | some p =>
    obtain ⟨-, htakes⟩ := hgot p rfl
    cases p with
    | data block payload =>
      -- only a repeat of the last block is acknowledged again
      have hne : x.lastDelivered.eqInt block = false := by
        rw [hn]
        exact Bool.eq_false_iff.mpr fun h =>
          htakes ⟨payload, by rw [(Value.eqInt_int_iff block n).mp h]⟩
      refine ((comes_receiver hrole).bind _).trans_nil ?_
      rw [hne]
      exact Comes.refl _ _
    | _ => exact Comes.refl _ _

/-- A datagram that a session waiting on the network with its peer pinned drops changes
    nothing: a sender waiting for the acknowledgement of its last block, a receiver waiting for
    DATA and a dallying receiver all go on from the session they had, and the only exchanges on
    the way are the clock reading, the receive and, for a foreign source, the refusal. -/
theorem dropped_datagram_changes_nothing (hpin : s.pinned = true)
    (ht : s.expiry.sub? (Setup.clockOf c) = some t) (hpos : t.isNonpos = false) :
    (∀ (x : Sender) (n : Int), s.role = .sender x → x.lastSent = .int n →
      s.phase = some .awaitAck → s.Drops (· = .ack n) bytes source →
      Comes sendOnce s (s.arrival c t bytes source z) (expire .awaitAck) s) ∧
    (∀ (x : Receiver) (n : Int), s.role = .receiver x → x.lastDelivered = .int n →
      s.Drops (fun p => ∃ q, p = .data (blockAfter n) q ∨
        (x.deliveredAny = true ∧ p = .data n q)) bytes source →
      Comes receiveOnce s (s.arrival c t bytes source z) (expire .awaitData) s) ∧
    (∀ (x : Receiver) (n : Int) (c₀ : Response) (t₀ : Number) (fuel : Nat),
      s.role = .receiver x → x.lastDelivered = .int n →
      s.expiry.sub? (Setup.clockOf c₀) = some t₀ → t₀.isNonpos = false →
      s.Drops (fun p => ∃ q, p = .data n q) bytes source →
      Comes (dallyFor (fuel + 1)) s ((.now, c₀) :: s.arrival c t bytes source z)
        (dallyFor fuel) s) := by
  refine ⟨?sender, ?receiver, ?dally⟩
  case sender =>
    intro x n hrole hn hph hdrops
    exact comes_sendOnce_dropped hrole hn hph hpin ht hpos hdrops
  case receiver =>
    intro x n hrole hn hdrops
    exact comes_receiveOnce_dropped hrole hn hpin ht hpos hdrops
  case dally =>
    intro x n c₀ t₀ fuel hrole hn ht₀ hpos₀ hdrops
    exact comes_dallyFor_dropped hrole hn hpin ht₀ hpos₀ ht hpos hdrops fuel

/-- A sender that waits for ACK 1 from its pinned peer, with a second left on the timer. -/
def waitingSender : Session :=
  { (default : Session) with
    role := .sender ⟨.int 1, none, false⟩, pinned := true, phase := some .awaitAck,
    expiry := .int 1 }

/-- An ACK of block 7 from a stranger is refused and changes nothing. -/
theorem stranger_ack_changes_nothing :
    Comes sendOnce waitingSender
      (waitingSender.arrival (.time (.int 0)) (.int 1) [0, 4, 0, 7] ⟨"stranger", 69⟩ .sent)
      (expire .awaitAck) waitingSender := by
  have hdec : Packet.decode [0, 4, 0, 7] = .ok (.ack (wordValue 0 7)) :=
    Packet.decode_complete (.ack [] (by decide))
  refine (dropped_datagram_changes_nothing rfl rfl rfl).1 _ 1 rfl rfl rfl ?_
  unfold Drops
  rw [hdec]
  exact .inl (by decide)

end Session

end Tftp
