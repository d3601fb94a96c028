import Tftp.Proofs.Sender.Rule

/-! # The sender's steps

    One lemma per step of a sending session, so that the proofs about whole runs never unfold
    them.

    * `Gathering` follows the reading of a block read by read, and `wp_gathering` shows that
      every run whose reads keep to the pipe's sizes goes that way; `Gathers` lists the ways it
      ends: the block is full, or the stream ended, or the handler failed.
    * `steppedCounter`: the sender's counter after `n` blocks steps to `n + 1`, wrapped.
    * `Pushes` lists the ways reading and sending the next block can end, and `wp_pushNext`
      reduces that step to one case per way.
    * `wp_handleAck`: an ACK of the last block sent ends the wait, done after the last block;
      any other ACK is ignored. -/

namespace Tftp

namespace Session

variable {ok : List Exchange → Prop} {s : Session} {h : List Exchange}

/-! ## The sender's counters -/

theorem wp_sender {x : Sender} (hrole : s.role = .sender x)
    {Q : Except Failure Sender → Session → List Exchange → Prop} :
    Wp ok sender Q s h ↔ Q (.ok x) s h := by
  unfold sender
  rw [wp_bind, wp_get]
  simp only [hrole]
  rfl

/-- The session with the sender's counters `x`. -/
def withSender (s : Session) (x : Sender) : Session := { s with role := .sender x }

section WithSender

variable (s : Session) (x : Sender)

@[simp] theorem withSender_role : (s.withSender x).role = .sender x := rfl
@[simp] theorem withSender_pinned : (s.withSender x).pinned = s.pinned := rfl
@[simp] theorem withSender_peer : (s.withSender x).peer = s.peer := rfl
@[simp] theorem withSender_client : (s.withSender x).client = s.client := rfl
@[simp] theorem withSender_policy : (s.withSender x).policy = s.policy := rfl
@[simp] theorem withSender_lastPacket : (s.withSender x).lastPacket = s.lastPacket := rfl
@[simp] theorem withSender_phase : (s.withSender x).phase = s.phase := rfl

end WithSender

theorem wp_updateSender (f : Sender → Sender) {x : Sender} (hrole : s.role = .sender x)
    {Q : Except Failure PUnit → Session → List Exchange → Prop} :
    Wp ok (updateSender f) Q s h ↔ Q (.ok ()) (s.withSender (f x)) h := by
  unfold updateSender
  rw [wp_modify]
  simp only [hrole]
  rfl

/-- The sender's counter after `n` blocks steps to the block number of the next one: 65535 is
    followed by 0. -/
theorem steppedCounter (n : Nat) :
    (if (Number.int (((n % 65536 : Nat) : Int) + 1)).gtInt maxBlockNumber then Value.int 0
      else (Number.int (((n % 65536 : Nat) : Int) + 1)).toValue) =
      .int (((n + 1) % 65536 : Nat) : Int) := by
  by_cases hwrap : n % 65536 = 65535
  · have hnext : (n + 1) % 65536 = 0 := by omega
    rw [if_pos (by simp [Number.gtInt, maxBlockNumber, hwrap]), hnext]
    rfl
  · have hnext : (n + 1) % 65536 = n % 65536 + 1 := by omega
    rw [if_neg (by simp [Number.gtInt, maxBlockNumber]; omega), hnext]
    simp [Number.toValue]

/-! ## Reading a block from the pipe -/

/-- How reading a block that holds `g` so far ends, with the exchanges `δ`, all reads: with the
    block, which is what was read added to `g`, full or cut short by the end of the stream; or
    with the handler's failure. -/
inductive Gathers (g : List UInt8) : Except Failure (List UInt8) → List Exchange → Prop
  | block (δ : List Exchange) : (∀ e ∈ δ, e.isRead = true) →
      (g ++ readBytes δ).length ≤ blockSize →
      ((g ++ readBytes δ).length < blockSize → EndOfStream δ) →
      Gathers g (.ok (g ++ readBytes δ)) δ
  | failed (δ : List Exchange) (f : Failure) : (∀ e ∈ δ, e.isRead = true) →
      Gathers g (.error (handlerFailure f)) δ

/-- The bytes of a first read go ahead of what the later reads gather. -/
theorem Gathers.cons {g data : List UInt8} {r : Except Failure (List UInt8)} {δ : List Exchange}
    (cut : Cut) (waiting : Bool) (hg : Gathers (g ++ data) r δ) :
    Gathers g r ((.stream (.read cut waiting), .streamed (.ok (.bytes data))) :: δ) := by
  cases hg with
  | block δ hreads hlen heof =>
    have hbytes : g ++ data ++ readBytes δ =
        g ++ readBytes ((.stream (.read cut waiting), .streamed (.ok (.bytes data))) :: δ) := by
      simp
    rw [hbytes] at hlen heof ⊢
    refine .block _ (List.forall_mem_cons.mpr ⟨rfl, hreads⟩) hlen ?_
    intro hshort
    obtain ⟨e, he, hread⟩ := heof hshort
    exact ⟨e, List.mem_cons_of_mem _ he, hread⟩
  | failed δ f hreads => exact .failed _ f (List.forall_mem_cons.mpr ⟨rfl, hreads⟩)

/-- A block gathered is what the reads returned, added to `g`: it fits, and it is short only at
    the end of the stream. -/
theorem Gathers.of_ok {g block : List UInt8} {δ : List Exchange} (hg : Gathers g (.ok block) δ) :
    (∀ e ∈ δ, e.isRead = true) ∧ block = g ++ readBytes δ ∧ block.length ≤ blockSize ∧
      (block.length < blockSize → EndOfStream δ) := by
  cases hg with
  | block δ hreads hlen heof => exact ⟨hreads, rfl, hlen, heof⟩

/-- However reading a block ends, it only read. -/
theorem Gathers.reads {g : List UInt8} {r : Except Failure (List UInt8)} {δ : List Exchange}
    (hg : Gathers g r δ) : ∀ e ∈ δ, e.isRead = true := by
  cases hg with
  | block δ hreads _ _ => exact hreads
  | failed δ f hreads => exact hreads

/-- The read that gathers more of a block holding `g`: it asks for what the block still lacks. -/
def readFor (g : List UInt8) : Request := .stream (.read (.upTo (blockSize - g.length)) false)

/-- Gathering a block that holds `g`, read by read: a full block is done; otherwise the next read
    asks for what the block still lacks, and the bytes it returns, at least one and at most that
    many, are added and the gathering goes on, while no bytes end it with the block as it is and
    a failure ends it with the handler's failure. -/
inductive Gathering : List UInt8 → Except Failure (List UInt8) → List Exchange → Prop
  | full {g : List UInt8} : g.length = blockSize → Gathering g (.ok g) []
  | ends {g : List UInt8} : g.length < blockSize →
      Gathering g (.ok g) [(readFor g, .streamed (.ok (.bytes [])))]
  | fails {g : List UInt8} (f : Failure) : g.length < blockSize →
      Gathering g (.error (handlerFailure f)) [(readFor g, .streamed (.error f))]
  | more {g data : List UInt8} {r : Except Failure (List UInt8)} {δ : List Exchange} :
      g.length < blockSize → data ≠ [] → data.length ≤ blockSize - g.length →
      Gathering (g ++ data) r δ →
      Gathering g r ((readFor g, .streamed (.ok (.bytes data))) :: δ)

/-- Gathering read by read ends one of the ways `Gathers` lists. -/
theorem Gathering.gathers {g : List UInt8} {r : Except Failure (List UInt8)} {δ : List Exchange}
    (hg : Gathering g r δ) : Gathers g r δ := by
  induction hg with
  | @full g hlen =>
    have hblock : Gathers g (.ok (g ++ readBytes [])) [] :=
      .block [] (by simp) (by simp [hlen]) (by simp [hlen])
    simpa using hblock
  | @ends g hlt =>
    have hblock := Gathers.block (g := g) [(readFor g, .streamed (.ok (.bytes [])))]
      (by simp [readFor]) (by simp [readFor]; omega) (fun _ => ⟨_, List.mem_singleton_self _, rfl⟩)
    simpa [readFor] using hblock
  | fails f _ => exact .failed _ f (by simp [readFor])
  | more _ _ _ _ ih => exact ih.cons _ _

/-- Reading a block, with reads that keep to the pipe's sizes, goes as `Gathering` says.  Each
    read asks for what the block still lacks and returns at least a byte until the stream ends,
    so the block fills up before the reads run out. -/
theorem wp_gathering (hok : ∀ H, ok H → ∀ e ∈ H, e.FitsPipe)
    {Q : Except Failure (List UInt8) → Session → List Exchange → Prop} :
    ∀ (fuel : Nat) (g : List UInt8) (h : List Exchange), g.length ≤ blockSize →
      blockSize < fuel + g.length → (∀ r δ, Gathering g r δ → Q r s (h ++ δ)) →
      Wp ok (gather g fuel) Q s h := by
  intro fuel
  induction fuel with
  | zero => intro g h hg hfuel; omega
  | succ n ih =>
    intro g h hg hfuel hQ
    unfold gather
    by_cases hfull : g.length ≥ blockSize
    · -- the block is full
      rw [if_pos hfull, wp_pure]
      simpa using hQ _ [] (.full (by omega))
    · rw [if_neg hfull, wp_bind, wp_ask]
      intro x hx
      have hfit : Exchange.FitsPipe (readFor g, x) := hok _ hx _ (by simp [readFor])
      have hlt : g.length < blockSize := by omega
      rcases hfit with ⟨data, rfl, hdata⟩ | ⟨f, rfl⟩
      · cases data with
        | nil =>
          -- the end of the stream cuts the block short
          dsimp only
          rw [wp_pure]
          exact hQ _ _ (.ends hlt)
        | cons b rest =>
          -- at least a byte came: read on for the rest of the block
          dsimp only
          apply ih (g ++ b :: rest) _ (by simp at hdata ⊢; omega) (by simp; omega)
          intro r δ hgathered
          simpa [readFor] using hQ r _ (.more hlt (List.cons_ne_nil b rest) hdata hgathered)
      · exact hQ _ _ (.fails f hlt)

/-- Reading a block, with reads that keep to the pipe's sizes, ends one of the ways `Gathers`
    lists. -/
theorem wp_gather (hok : ∀ H, ok H → ∀ e ∈ H, e.FitsPipe)
    {Q : Except Failure (List UInt8) → Session → List Exchange → Prop}
    (fuel : Nat) (g : List UInt8) (h : List Exchange) (hg : g.length ≤ blockSize)
    (hfuel : blockSize < fuel + g.length) (hQ : ∀ r δ, Gathers g r δ → Q r s (h ++ δ)) :
    Wp ok (gather g fuel) Q s h :=
  wp_gathering hok fuel g h hg hfuel fun r δ hgathering => hQ r δ hgathering.gathers

/-! ## Reading and sending the next block -/

/-- The session once it sent `payload` as the block `block` and restarted its timer at
    `expiry`: it waits for the block's acknowledgement, and knows whether the block was the
    last. -/
def sentBlock (s : Session) (block : Int) (payload : List UInt8) (expiry : Number) : Session :=
  { s.countSent with
    role := .sender ⟨.int block, some payload, decide (payload.length < blockSize)⟩
    lastPacket := some (.data (.int block) payload), retransmits := 0, expiry := expiry,
    phase := some .awaitAck,
    stats := { s.countSent.stats with bytesSent := s.stats.bytesSent + payload.length } }

section SentBlock

variable (s : Session) (block : Int) (payload : List UInt8) (expiry : Number)

@[simp] theorem sentBlock_role : (s.sentBlock block payload expiry).role =
    .sender ⟨.int block, some payload, decide (payload.length < blockSize)⟩ := rfl
@[simp] theorem sentBlock_pinned : (s.sentBlock block payload expiry).pinned = s.pinned := rfl
@[simp] theorem sentBlock_peer : (s.sentBlock block payload expiry).peer = s.peer := rfl
@[simp] theorem sentBlock_client : (s.sentBlock block payload expiry).client = s.client := rfl
@[simp] theorem sentBlock_policy : (s.sentBlock block payload expiry).policy = s.policy := rfl
@[simp] theorem sentBlock_lastPacket :
    (s.sentBlock block payload expiry).lastPacket = some (.data (.int block) payload) := rfl
@[simp] theorem sentBlock_phase : (s.sentBlock block payload expiry).phase = some .awaitAck :=
  rfl

end SentBlock

/-- The ways reading and sending the next block can end, for a sender that sent `n` blocks, whose
    block in flight is `cur` and whose last block was not the stream's last: its result, the
    session after it and the exchanges it made. -/
inductive Pushes (s : Session) (n : Nat) (cur : Option (List UInt8)) :
    Except Failure Unit → Session → List Exchange → Prop
  /-- the handler fails while the block is read -/
  | readFailed (δ : List Exchange) (f : Failure) : Gathers [] (.error (handlerFailure f)) δ →
      Pushes s n cur (.error (handlerFailure f))
        (s.withSender ⟨.int (((n + 1) % 65536 : Nat) : Int), cur, false⟩) δ
  /-- the block is read, and its DATA cannot be sent -/
  | sendFailed (δ : List Exchange) (block bytes : List UInt8) (reason : String) :
      Gathers [] (.ok block) δ →
      (Draft.data (.int (((n + 1) % 65536 : Nat) : Int)) block).encode = .ok bytes →
      Pushes s n cur (.error (sendFailure s.peer reason))
        (s.withSender ⟨.int (((n + 1) % 65536 : Nat) : Int), some block, false⟩)
        (δ ++ [(.send bytes s.peer, .sendFailed reason)])
  /-- the block is read and sent, and the clock reading after it cannot restart the timer -/
  | timerFailed (δ : List Exchange) (block bytes : List UInt8) (x t : Response) :
      Gathers [] (.ok block) δ →
      (Draft.data (.int (((n + 1) % 65536 : Nat) : Int)) block).encode = .ok bytes →
      x.failedSend = false → (Setup.clockOf t).add? s.policy.seconds = none →
      Pushes s n cur (.error .tooLarge)
        { (s.withSender ⟨.int (((n + 1) % 65536 : Nat) : Int), some block, false⟩).countSent with
          lastPacket := some (.data (.int (((n + 1) % 65536 : Nat) : Int)) block),
          retransmits := 0 }
        (δ ++ [(.send bytes s.peer, x), (.now, t)])
  /-- the block is read and sent, and the timer restarts -/
  | sent (δ : List Exchange) (block bytes : List UInt8) (x t : Response) (expiry : Number) :
      Gathers [] (.ok block) δ →
      (Draft.data (.int (((n + 1) % 65536 : Nat) : Int)) block).encode = .ok bytes →
      x.failedSend = false → (Setup.clockOf t).add? s.policy.seconds = some expiry →
      Pushes s n cur (.ok ()) (s.sentBlock (((n + 1) % 65536 : Nat) : Int) block expiry)
        (δ ++ [(.send bytes s.peer, x), (.now, t)])

/-- Every way reading and sending the next block ends, with reads that keep to the pipe's sizes,
    is one of `Pushes`. -/
theorem wp_pushNext (hok : ∀ H, ok H → ∀ e ∈ H, e.FitsPipe) (n : Nat)
    (cur : Option (List UInt8)) {Q : Except Failure Unit → Session → List Exchange → Prop}
    (hrole : s.role = .sender ⟨.int ((n % 65536 : Nat) : Int), cur, false⟩)
    (hQ : ∀ r s' δ, Pushes s n cur r s' δ → Q r s' (h ++ δ)) :
    Wp ok (nextBlock >>= fun _ => transmitData) Q s h := by
  rw [wp_bind]
  unfold nextBlock
  rw [wp_bind, wp_sender hrole]
  dsimp only
  rw [wp_bind, wp_ofExcept]
  dsimp only [Value.succ]
  rw [wp_bind, wp_updateSender _ hrole]
  dsimp only
  rw [steppedCounter, wp_bind]
  apply wp_gather hok (blockSize + 1) [] h (by simp) (by simp)
  intro r δ hg
  cases hg with
  | failed δ f hreads => exact hQ _ _ _ (.readFailed δ f (.failed δ f hreads))
  | block δ hreads hlen heof =>
    have hg : Gathers [] (.ok ([] ++ readBytes δ)) δ := .block δ hreads hlen heof
    generalize [] ++ readBytes δ = block at hg hlen
    dsimp only
    rw [wp_updateSender _ (withSender_role _ _)]
    dsimp only
    unfold transmitData
    rw [wp_bind, wp_sender (withSender_role _ _)]
    dsimp only
    obtain ⟨bytes, henc, -⟩ := data_encode (fitsWord_mod (n + 1)) hlen
    rw [wp_bind]
    apply wp_transmit_of_encode henc
    · intro reason
      rw [List.append_assoc]
      exact hQ _ _ _ (.sendFailed δ block bytes reason hg henc)
    · intro x t hx hclock
      rw [List.append_assoc]
      exact hQ _ _ _ (.timerFailed δ block bytes x t hg henc hx hclock)
    · intro x t expiry hx hclock
      dsimp only
      rw [List.append_assoc]
      have hdone := hQ _ _ _ (.sent δ block bytes x t expiry hg henc hx hclock)
      unfold updateStats sentBlock at *
      rw [wp_bind, wp_modify]
      dsimp only
      by_cases hshort : block.length < blockSize
      · -- a short block is the last: the sender waits for the ACK that ends the transfer
        rw [decide_eq_true hshort] at hdone
        rw [Option.getD_some, if_pos hshort, wp_bind, wp_updateSender _ rfl]
        exact hdone
      · rw [decide_eq_false hshort] at hdone
        rw [Option.getD_some, if_neg hshort]
        exact hdone

/-! ## Acknowledgements -/

/-- The session once it accepted the acknowledgement of its block in flight `x`: done after the
    stream's last block, else ready to read the next. -/
def ackAccepted (s : Session) (x : Sender) : Session :=
  { (if x.current.isSome then
      { s with stats := { s.stats with packetsAcked := s.stats.packetsAcked + 1 } } else s) with
    phase := some (if x.awaitingLastAck then .done else .awaitData) }

section AckAccepted

variable (s : Session) (x : Sender)

@[simp] theorem ackAccepted_role : (s.ackAccepted x).role = s.role := by
  unfold ackAccepted; split <;> rfl
@[simp] theorem ackAccepted_pinned : (s.ackAccepted x).pinned = s.pinned := by
  unfold ackAccepted; split <;> rfl
@[simp] theorem ackAccepted_peer : (s.ackAccepted x).peer = s.peer := by
  unfold ackAccepted; split <;> rfl
@[simp] theorem ackAccepted_client : (s.ackAccepted x).client = s.client := by
  unfold ackAccepted; split <;> rfl
@[simp] theorem ackAccepted_policy : (s.ackAccepted x).policy = s.policy := by
  unfold ackAccepted; split <;> rfl
@[simp] theorem ackAccepted_lastPacket : (s.ackAccepted x).lastPacket = s.lastPacket := by
  unfold ackAccepted; split <;> rfl
@[simp] theorem ackAccepted_phase :
    (s.ackAccepted x).phase = some (if x.awaitingLastAck then .done else .awaitData) := rfl

end AckAccepted

/-- The wait for an ACK ends: done after the stream's last block, else ready for the next. -/
theorem wp_endWait (last : Bool) {Q : Except Failure PUnit → Session → List Exchange → Prop} :
    Wp ok (if last = true then modify fun s => { s with phase := some .done }
      else modify fun s => { s with phase := some .awaitData }) Q s h ↔
      Q (.ok ()) { s with phase := some (if last then .done else .awaitData) } h := by
  cases last <;> rfl

/-- An ACK of the block in flight is accepted; any other is ignored, and the note about it
    cannot fail while the counter is an integer. -/
theorem wp_handleAck {x : Sender} {last : Int} (hrole : s.role = .sender x)
    (hlast : x.lastSent = .int last) (block : Int)
    {Q : Except Failure Unit → Session → List Exchange → Prop}
    (hacc : block = last → Q (.ok ()) (s.ackAccepted x) h) (hign : block ≠ last → Q (.ok ()) s h) :
    Wp ok (handleAck block) Q s h := by
  unfold handleAck
  rw [wp_bind, wp_sender hrole]
  dsimp only
  rw [hlast]
  by_cases hb : block = last
  · -- the ACK of the block in flight: count it, then end or read on
    have hdone := hacc hb
    unfold ackAccepted at hdone
    rw [if_neg (by rw [(Value.eqInt_int_iff _ _).mpr hb]; decide)]
    by_cases hcur : x.current.isSome = true
    · rw [if_pos hcur] at hdone
      rw [if_pos hcur, wp_bind]
      unfold updateStats
      rw [wp_modify]
      exact (wp_endWait _).mpr hdone
    · rw [if_neg hcur] at hdone
      rw [if_neg hcur]
      exact (wp_endWait _).mpr hdone
  · -- any other ACK is noted and ignored
    have hne : Value.eqInt block (.int last) = false :=
      Bool.eq_false_iff.mpr fun heq => hb ((Value.eqInt_int_iff _ _).mp heq)
    have hnote : (Value.int last).decimal = .ok (toString last) := rfl
    rw [if_pos (by rw [hne]; rfl), wp_bind, wp_discard, hnote, wp_ofExcept]
    exact hign hb

end Session

end Tftp
