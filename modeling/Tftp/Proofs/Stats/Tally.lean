import Tftp.Proofs.Pinning

/-! # The counters a run of exchanges shows

    A session's statistics count four things it did: the datagrams it sent to its peer, the
    blocks whose acknowledgement it took, the payload bytes of the blocks it sent, and the bytes
    it wrote to its end of the pipe (`Stats.tally`).  The same four counters can be read off the
    exchanges of a run alone (`Setup.tally`), as the sum of what each exchange adds where it
    stands (`Setup.counted`):

    * a datagram that went out to the peer of its time is a packet sent; the refusal of a
      foreign source goes elsewhere and is none;
    * an ACK that arrived from the peer for the block of the last DATA sent acknowledges that
      block; before any DATA, as for the ACK of a write request, it acknowledges none;
    * a DATA that went out fresh, not right after a clock reading as a retransmission does, adds
      its payload to the bytes sent once the clock reading just after it restarts the timer;
    * a write to the pipe that returned adds its data to the bytes received.

    So the payload of a DATA is counted only at the clock reading after it: a run that ends right
    after a DATA went out fresh has that payload pending (`freshPayload?`). -/

namespace Tftp

/-- The counters of a transfer that its exchanges determine. -/
@[ext] structure Tally where
  /-- datagrams sent to the peer -/
  sent : Nat
  /-- blocks whose acknowledgement was taken -/
  acked : Nat
  /-- payload bytes of the blocks sent -/
  bytesSent : Nat
  /-- bytes written to the pipe -/
  bytesReceived : Nat
  deriving DecidableEq

namespace Tally

instance : Zero Tally := ⟨⟨0, 0, 0, 0⟩⟩

instance : Add Tally :=
  ⟨fun a b => ⟨a.sent + b.sent, a.acked + b.acked, a.bytesSent + b.bytesSent,
    a.bytesReceived + b.bytesReceived⟩⟩

@[simp] theorem zero_sent : (0 : Tally).sent = 0 := rfl
@[simp] theorem zero_acked : (0 : Tally).acked = 0 := rfl
@[simp] theorem zero_bytesSent : (0 : Tally).bytesSent = 0 := rfl
@[simp] theorem zero_bytesReceived : (0 : Tally).bytesReceived = 0 := rfl

@[simp] theorem add_sent (a b : Tally) : (a + b).sent = a.sent + b.sent := rfl
@[simp] theorem add_acked (a b : Tally) : (a + b).acked = a.acked + b.acked := rfl
@[simp] theorem add_bytesSent (a b : Tally) : (a + b).bytesSent = a.bytesSent + b.bytesSent := rfl
@[simp] theorem add_bytesReceived (a b : Tally) :
    (a + b).bytesReceived = a.bytesReceived + b.bytesReceived := rfl

@[simp] protected theorem add_zero (a : Tally) : a + 0 = a := rfl

@[simp] protected theorem zero_add (a : Tally) : 0 + a = a := by
  ext <;> simp

protected theorem add_assoc (a b c : Tally) : a + b + c = a + (b + c) := by
  ext <;> simp [Nat.add_assoc]

protected theorem add_right_comm (a b c : Tally) : a + b + c = a + c + b := by
  ext <;> simp [Nat.add_right_comm]

end Tally

/-- The counters of the statistics that the exchanges determine. -/
def Stats.tally (stats : Stats) : Tally :=
  ⟨stats.packetsSent, stats.packetsAcked, stats.bytesSent, stats.bytesReceived⟩

/-! ## Views of the exchanges -/

namespace Exchange

/-- The block number and payload of a DATA datagram the session sent, whether it went out or
    not. -/
def data? : Exchange → Option (Int × List UInt8)
  | (.send bytes _, _) =>
    match Packet.decode bytes with
    | .ok (.data block payload) => some (block, payload)
    | _ => none
  | _ => none

theorem data?_of_ne_send {e : Exchange} (he : ∀ bytes target, e.1 ≠ .send bytes target) :
    e.data? = none := by
  obtain ⟨r, x⟩ := e
  cases r with
  | send bytes target => exact absurd rfl (he bytes target)
  | _ => rfl

/-- A datagram that reads back as no DATA is none. -/
theorem data?_send_of_not_data {bytes : List UInt8}
    (hnot : ∀ block payload, Packet.decode bytes ≠ .ok (.data block payload))
    (target : Address) (x : Response) : data? (.send bytes target, x) = none := by
  show (match Packet.decode bytes with
    | .ok (.data block payload) => some (block, payload)
    | _ => none) = none
  split
  · next block payload hdec => exact absurd hdec (hnot block payload)
  · rfl

theorem data?_send_of_decode {bytes : List UInt8} {block : Int} {payload : List UInt8}
    (hdec : Packet.decode bytes = .ok (.data block payload)) (target : Address) (x : Response) :
    data? (.send bytes target, x) = some (block, payload) := by
  simp [data?, hdec]

end Exchange

/-- The block number of the last DATA among the exchanges. -/
def lastDataBlock (h : List Exchange) : Option Int :=
  (h.filterMap Exchange.data?).getLast?.map Prod.fst

@[simp] theorem lastDataBlock_nil : lastDataBlock [] = none := rfl

theorem lastDataBlock_concat (h : List Exchange) (e : Exchange) :
    lastDataBlock (h ++ [e]) = match e.data? with
      | some (block, _) => some block
      | none => lastDataBlock h := by
  unfold lastDataBlock
  rw [List.filterMap_append, List.getLast?_append]
  cases he : e.data? with
  | none => simp [he]
  | some d => simp [he]

/-- An exchange that is no DATA leaves the last DATA as it was. -/
theorem lastDataBlock_concat_of_data? {e : Exchange} (he : e.data? = none) (h : List Exchange) :
    lastDataBlock (h ++ [e]) = lastDataBlock h := by
  rw [lastDataBlock_concat, he]

/-- The payload of the DATA the exchanges end with, if it went out fresh: its send did not fail,
    and did not come right after a clock reading, as every retransmission does. -/
def freshPayload? (h : List Exchange) : Option (List UInt8) :=
  match h.reverse with
  | (.send bytes _, x) :: before =>
    if x.failedSend || before.head?.any Exchange.isClock then none
    else match Packet.decode bytes with
      | .ok (.data _ payload) => some payload
      | _ => none
  | _ => none

theorem freshPayload?_concat_of_ne_send {e : Exchange}
    (he : ∀ bytes target, e.1 ≠ .send bytes target) (h : List Exchange) :
    freshPayload? (h ++ [e]) = none := by
  obtain ⟨r, x⟩ := e
  unfold freshPayload?
  rw [List.reverse_append, List.reverse_singleton, List.singleton_append]
  cases r with
  | send bytes target => exact absurd rfl (he bytes target)
  | _ => rfl

theorem freshPayload?_concat_send (h : List Exchange) (bytes : List UInt8) (target : Address)
    (x : Response) :
    freshPayload? (h ++ [(.send bytes target, x)]) =
      if x.failedSend || h.getLast?.any Exchange.isClock then none
      else match Packet.decode bytes with
        | .ok (.data _ payload) => some payload
        | _ => none := by
  unfold freshPayload?
  rw [List.reverse_append, List.reverse_singleton, List.singleton_append]
  dsimp only
  rw [List.head?_reverse]

/-- A datagram that is no fresh DATA leaves nothing pending: one that failed, one sent right
    after a clock reading, or one that reads back as no DATA. -/
theorem freshPayload?_concat_send_eq_none {h : List Exchange} {bytes : List UInt8} {x : Response}
    (hnot : x.failedSend = true ∨ h.getLast?.any Exchange.isClock = true ∨
      ∀ block payload, Packet.decode bytes ≠ .ok (.data block payload)) (target : Address) :
    freshPayload? (h ++ [(.send bytes target, x)]) = none := by
  rw [freshPayload?_concat_send]
  rcases hnot with hx | hc | hdec
  · simp [hx]
  · simp [hc]
  · split
    · rfl
    · split
      · next block payload hd => exact absurd hd (hdec _ payload)
      · rfl

/-- What the packet acknowledges of the last DATA sent, `last`: one block if it is its ACK. -/
def Packet.acking (last : Option Int) : Packet → Tally
  | .ack block => ⟨0, if last = some block then 1 else 0, 0, 0⟩
  | _ => 0

/-- Before any DATA, no packet acknowledges a block. -/
@[simp] theorem Packet.acking_none (p : Packet) : p.acking none = 0 := by
  cases p <;> rfl

/-! ## The counters of a run -/

namespace Setup

variable (st : Setup)

/-- What the exchange `e` adds to the counters of a session of the setup `st`, after the
    exchanges `A` before it. -/
def counted (A : List Exchange) : Exchange → Tally
  | (.send _ target, x) =>
    ⟨if x.failedSend = false ∧ target = st.peerAfter A then 1 else 0, 0, 0, 0⟩
  | (.receive t ph, .datagram bytes source) =>
    match Packet.decode bytes with
    | .ok p =>
      if source = st.peerAfter (A ++ [(.receive t ph, .datagram bytes source)]) then
        p.acking (lastDataBlock A)
      else 0
    | .error _ => 0
  | (.now, x) =>
    match freshPayload? A, (clockOf x).add? st.policy.seconds with
    | some payload, some _ => ⟨0, 0, payload.length, 0⟩
    | _, _ => 0
  | (.stream (.write data), x) => ⟨0, 0, 0, if x.streamFailed then 0 else data.length⟩
  | _ => 0

/-- The counters the exchanges show, each counted after the exchanges `A` and those before it in
    the list. -/
def tallyFrom (A : List Exchange) : List Exchange → Tally
  | [] => 0
  | e :: B => st.counted A e + tallyFrom (A ++ [e]) B

/-- The counters the exchanges `h` of a run of a session of the setup `st` show. -/
def tally (h : List Exchange) : Tally := st.tallyFrom [] h

theorem tallyFrom_append (A h t : List Exchange) :
    st.tallyFrom A (h ++ t) = st.tallyFrom A h + st.tallyFrom (A ++ h) t := by
  induction h generalizing A with
  | nil => simp [tallyFrom]
  | cons e h ih => simp [tallyFrom, ih, Tally.add_assoc]

@[simp] theorem tally_nil : st.tally [] = 0 := rfl

theorem tally_concat (h : List Exchange) (e : Exchange) :
    st.tally (h ++ [e]) = st.tally h + st.counted h e := by
  simp [tally, tallyFrom_append, tallyFrom]

/-! ### One exchange at a time -/

variable {st} (A : List Exchange)

theorem counted_send (bytes : List UInt8) (target : Address) (x : Response) :
    st.counted A (.send bytes target, x) =
      ⟨if x.failedSend = false ∧ target = st.peerAfter A then 1 else 0, 0, 0, 0⟩ := rfl

/-- A datagram that went out to the peer of its time is one packet sent. -/
theorem counted_send_peer (bytes : List UInt8) {x : Response} (hx : x.failedSend = false) :
    st.counted A (.send bytes (st.peerAfter A), x) = ⟨1, 0, 0, 0⟩ := by
  simp [counted_send, hx]

/-- A datagram that failed, or went elsewhere than to the peer, is none. -/
theorem counted_send_eq_zero {bytes : List UInt8} {target : Address} {x : Response}
    (h : x.failedSend = true ∨ target ≠ st.peerAfter A) :
    st.counted A (.send bytes target, x) = 0 := by
  rw [counted_send]
  rcases h with hx | ht
  · simp [hx]; rfl
  · simp [ht]; rfl

/-- A clock reading adds nothing unless a fresh DATA waits for it. -/
theorem counted_now_of_settled (hA : freshPayload? A = none) (x : Response) :
    st.counted A (.now, x) = 0 := by
  simp [counted, hA]

/-- The clock reading after a fresh DATA that restarts the timer counts its payload. -/
theorem counted_now_restart {payload : List UInt8} (hA : freshPayload? A = some payload)
    {x : Response} {expiry : Number} (hadd : (clockOf x).add? st.policy.seconds = some expiry) :
    st.counted A (.now, x) = ⟨0, 0, payload.length, 0⟩ := by
  simp [counted, hA, hadd]

/-- A clock reading that cannot restart the timer counts nothing. -/
theorem counted_now_of_add {x : Response} (hadd : (clockOf x).add? st.policy.seconds = none) :
    st.counted A (.now, x) = 0 := by
  simp only [counted, hadd]
  cases freshPayload? A <;> rfl

theorem counted_write (data : List UInt8) (x : Response) :
    st.counted A (.stream (.write data), x) =
      ⟨0, 0, 0, if x.streamFailed then 0 else data.length⟩ := rfl

/-- A datagram that arrived and decodes acknowledges, if it comes from the peer it leaves. -/
theorem counted_datagram {t : Number} {ph : Option Phase} {bytes : List UInt8} {source : Address}
    {p : Packet} (hdec : Packet.decode bytes = .ok p) :
    st.counted A (.receive t ph, .datagram bytes source) =
      if source = st.peerAfter (A ++ [(.receive t ph, .datagram bytes source)]) then
        p.acking (lastDataBlock A)
      else 0 := by
  simp [counted, hdec]

/-- A receive that brought nothing that decodes counts nothing. -/
theorem counted_receive_of_pinSource {t : Number} {ph : Option Phase} {y : Response}
    (hy : Exchange.pinSource? (.receive t ph, y) = none) : st.counted A (.receive t ph, y) = 0 := by
  cases y with
  | datagram bytes source =>
    cases hdec : Packet.decode bytes with
    | ok p => simp [Exchange.pinSource?, hdec] at hy
    | error e => simp [counted, hdec]
  | _ => rfl

/-- Only a clock reading adds to the bytes sent. -/
theorem counted_bytesSent_of_ne_now {e : Exchange} (he : e.1 ≠ .now) :
    (st.counted A e).bytesSent = 0 := by
  obtain ⟨r, x⟩ := e
  cases r with
  | now => exact absurd rfl he
  | receive t ph =>
    cases x with
    | datagram bytes source =>
      cases hdec : Packet.decode bytes with
      | ok p =>
        rw [counted_datagram A hdec]
        split
        · cases p <;> rfl
        · rfl
      | error _ => simp [counted, hdec]
    | _ => rfl
  | stream call =>
    cases call with
    | write data => rfl
    | _ => rfl
  | _ => rfl

end Setup

/-! ## The bytes sent -/

/-- The payloads of the DATA that went out fresh among the exchanges, each after the exchanges
    `A` and those before it in the list. -/
def freshPayloadsFrom (A : List Exchange) : List Exchange → List (List UInt8)
  | [] => []
  | e :: B => (freshPayload? (A ++ [e])).toList ++ freshPayloadsFrom (A ++ [e]) B

/-- The payloads of the DATA that went out fresh in a run, in order: each went out without a
    failure and not as a retransmission. -/
def freshPayloads (h : List Exchange) : List (List UInt8) := freshPayloadsFrom [] h

theorem freshPayloadsFrom_append (A h t : List Exchange) :
    freshPayloadsFrom A (h ++ t) = freshPayloadsFrom A h ++ freshPayloadsFrom (A ++ h) t := by
  induction h generalizing A with
  | nil => simp [freshPayloadsFrom]
  | cons e h ih => simp [freshPayloadsFrom, ih]

theorem freshPayloads_concat (h : List Exchange) (e : Exchange) :
    freshPayloads (h ++ [e]) = freshPayloads h ++ (freshPayload? (h ++ [e])).toList := by
  simp [freshPayloads, freshPayloadsFrom_append, freshPayloadsFrom]

/-- Where every clock reading can restart the timer and nothing but a reading follows a DATA
    that went out fresh, the exchanges count as bytes sent the payload of every DATA that went
    out fresh, but for the one still pending. -/
theorem Setup.tally_bytesSent_add_pending (st : Setup) (h : List Exchange)
    (hnow : ∀ x, (Request.now, x) ∈ h → ((clockOf x).add? st.policy.seconds).isSome)
    (hwait : ∀ A (e : Exchange) B, h = A ++ e :: B → e.1 ≠ .now → freshPayload? A = none) :
    (st.tally h).bytesSent + ((freshPayload? h).map List.length).getD 0 =
      (freshPayloads h).flatten.length := by
  induction h using List.reverseRecOn with
  | nil => rfl
  | append_singleton h e ih =>
    have ih' := ih (fun x hx => hnow x (List.mem_append_left _ hx))
      fun A e' B hs => hwait A e' (B ++ [e]) (by simp [hs])
    rw [st.tally_concat, freshPayloads_concat, Tally.add_bytesSent, List.flatten_append,
      List.length_append, ← ih']
    obtain ⟨r, x⟩ := e
    by_cases hr : r = .now
    · -- the reading restarts the timer, so it counts what was pending
      subst hr
      obtain ⟨expiry, hadd⟩ := Option.isSome_iff_exists.1 (hnow x (by simp))
      rw [freshPayload?_concat_of_ne_send (fun _ _ => Request.noConfusion) h]
      cases hp : freshPayload? h with
      | none => simp [Setup.counted_now_of_settled h hp]
      | some payload => simp [Setup.counted_now_restart h hp hadd]
    · -- nothing is pending before anything but a reading
      have hpend : freshPayload? h = none := hwait h (r, x) [] rfl hr
      rw [Setup.counted_bytesSent_of_ne_now h hr, hpend]
      cases freshPayload? (h ++ [(r, x)]) <;> simp

end Tftp
