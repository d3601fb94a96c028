import Tftp.Proofs.Sender.Contract
import Mathlib.Data.List.Induction
import Mathlib.Data.List.Infix

/-! # The blocks a sender cuts from its stream

    Two sessions that transfer a stream are each held to their own rule; what ties them together
    is that the sender's DATA carry the stream.  When the sender's handler writes the stream `S`
    and then closes its end cleanly, the pipe answers the sender's reads with `S` in order, and
    with nothing only at its end (`ReadsStream`).  A sender that follows its rule then cuts `S`
    into blocks (`CutFrom`: together they start `S`, all but the last are full, and a short last
    one ends it), and every DATA it sends is one of them under its own number
    (`Exchange.SendsBlockOf`).

    * `FollowsRule.cutFrom`: the blocks of every run that follows the rule, by induction on the
      run, one permitted exchange at a time (`Pushed.step_cutFrom`).
    * `Pushed.exists_ack`: a sender acknowledged after it sent blocks took the acknowledgement
      from an ACK of its last block, which arrived after that block was sent.
    * The contracts are statements about whole runs.  A point in the middle of a run is the
      start of a whole run in which nothing more arrives (`Request.quiet`), so what a contract
      says of the exchanges so far also holds there (`Program.Always.extend`). -/

namespace Tftp

/-! ## Runs that go on quietly -/

/-- The answer that brings nothing: no datagram arrives, and a call on the pipe fails. -/
def Request.quiet : Request → Response
  | .stream _ => .streamed (.error .tooLarge)
  | _ => .timedOut

namespace Request

@[simp] theorem arrival?_quiet (r : Request) : Exchange.arrival? (r, r.quiet) = none := by
  cases r <;> rfl

@[simp] theorem read?_quiet (r : Request) : Exchange.read? (r, r.quiet) = none := by
  cases r with
  | stream call => cases call <;> rfl
  | _ => rfl

theorem fitsPipe_quiet (r : Request) : Exchange.FitsPipe (r, r.quiet) := by
  cases r with
  | stream call =>
    cases call with
    | read cut waiting =>
      cases cut with
      | upTo size => exact .inr ⟨_, rfl⟩
      | unusable => trivial
    | _ => trivial
  | _ => trivial

end Request

theorem readBytes_of_quiet {rest : List Exchange} (hq : ∀ e ∈ rest, e.2 = e.1.quiet) :
    readBytes rest = [] := by
  induction rest with
  | nil => rfl
  | cons e rest ih =>
    obtain ⟨r, x⟩ := e
    have hx : x = r.quiet := hq (r, x) (List.mem_cons_self ..)
    rw [readBytes_cons, hx, Request.read?_quiet, ih fun e he => hq e (List.mem_cons_of_mem _ he)]
    rfl

namespace Program

variable {α : Type} {ok : List Exchange → Prop} {post : α → List Exchange → Prop}

/-- Answered quietly, every program comes to its end, which keeps the promise of `Always` as
    long as quiet answers keep `ok`.  The induction is on the program: each request is answered
    quietly and the run goes on with the branch for that answer. -/
theorem Always.exists_quiet_end (hquiet : ∀ H r, ok H → ok (H ++ [(r, r.quiet)]))
    {p : Program α} {h : List Exchange} (hp : p.Always ok post h) (hh : ok h) :
    ∃ a rest, (∀ e ∈ rest, e.2 = e.1.quiet) ∧ post a (h ++ rest) := by
  induction p generalizing h with
  | done a => exact ⟨a, [], by simp, by simpa using hp⟩
  | ask r k ih =>
    have hx := hquiet h r hh
    obtain ⟨a, rest, hrest, hpost⟩ := ih r.quiet (hp r.quiet hx) hx
    refine ⟨a, (r, r.quiet) :: rest, ?_, by simpa using hpost⟩
    intro e he
    rcases List.mem_cons.mp he with rfl | he
    · rfl
    · exact hrest e he

/-- A point a run reaches, with answers that kept `ok`, is the start of a whole run, answered
    quietly from there on, that keeps the promise of `Always`. -/
theorem Always.extend (hquiet : ∀ H r, ok H → ok (H ++ [(r, r.quiet)])) {p q : Program α}
    {H : List Exchange} (hp : p.Always ok post []) (hr : p.Reaches H q)
    (hok : ∀ pre, pre <+: H → ok pre) :
    ∃ a rest, (∀ e ∈ rest, e.2 = e.1.quiet) ∧ post a (H ++ rest) := by
  have hq : q.Always ok post H := by
    simpa using hp.after hr fun pre hpre _ => by simpa using hok pre hpre
  exact hq.exists_quiet_end hquiet (hok H (List.prefix_refl H))

end Program

/-! ## The stream behind the sender -/

/-- What the pipe answers a sender whose handler writes the stream `S` and then closes its end
    cleanly: every read fits its size, the reads return `S` from its start, and a read returns
    nothing only once all of `S` was read. -/
structure ReadsStream (S : List UInt8) (H : List Exchange) : Prop where
  fits : ∀ e ∈ H, e.FitsPipe
  taken : readBytes H <+: S
  ends : ∀ pre e, pre ++ [e] <+: H → e.read? = some [] → readBytes pre = S

namespace ReadsStream

variable {S : List UInt8} {H : List Exchange}

theorem nil (S : List UInt8) : ReadsStream S [] where
  fits _ he := nomatch he
  taken := List.nil_prefix
  ends pre e h := by simp at h

theorem of_prefix (hs : ReadsStream S H) {pre : List Exchange} (hpre : pre <+: H) :
    ReadsStream S pre where
  fits e he := hs.fits e (hpre.subset he)
  taken := (List.IsPrefix.flatten (hpre.filterMap Exchange.read?)).trans hs.taken
  ends pre' e h := hs.ends pre' e (h.trans hpre)

/-- A quiet answer keeps to the stream: it reads nothing. -/
theorem quiet (hs : ReadsStream S H) (r : Request) : ReadsStream S (H ++ [(r, r.quiet)]) where
  fits e he := by
    rcases List.mem_append.mp he with he | he
    · exact hs.fits e he
    · rw [List.mem_singleton.mp he]
      exact r.fitsPipe_quiet
  taken := by
    have hq : readBytes [(r, r.quiet)] = [] := readBytes_of_quiet (by simp)
    rw [readBytes_append, hq, List.append_nil]
    exact hs.taken
  ends pre e h hread := by
    rcases List.prefix_concat_iff.mp h with h | h
    · obtain ⟨-, he⟩ := List.append_inj' h rfl
      rw [List.singleton_inj] at he
      rw [he, Request.read?_quiet] at hread
      cases hread
    · exact hs.ends pre e h hread

/-- Once a read found the end of the stream, all of `S` was read. -/
theorem eof (hs : ReadsStream S H) (heof : EndOfStream H) : readBytes H = S := by
  obtain ⟨e, he, hread⟩ := heof
  obtain ⟨s, t, rfl⟩ := List.append_of_mem he
  have hs' : readBytes s = S := hs.ends s e ⟨t, by simp⟩ hread
  apply hs.taken.eq_of_length
  apply Nat.le_antisymm hs.taken.length_le
  rw [← hs', readBytes_append]
  exact (List.prefix_append _ _).length_le

end ReadsStream

/-! ## Blocks cut from the stream -/

/-- Blocks cut from the stream `S` one after another: together they start `S`, all but the last
    are full, and a short last one ends `S`. -/
structure CutFrom (S : List UInt8) (ps : List (List UInt8)) : Prop where
  starts : ps.flatten <+: S
  full : ∀ q ∈ ps.dropLast, q.length = blockSize
  ends : ∀ p, ps.getLast? = some p → p.length < blockSize → ps.flatten = S

namespace CutFrom

variable {S : List UInt8} {ps : List (List UInt8)}

theorem nil (S : List UInt8) : CutFrom S [] where
  starts := List.nil_prefix
  full _ hq := nomatch hq
  ends _ hp := nomatch hp

/-- A block cut after full blocks, from the stream read so far, and short only at its end. -/
theorem push {p : List UInt8} (hfull : ∀ q ∈ ps, q.length = blockSize)
    (hstarts : (ps ++ [p]).flatten <+: S)
    (hends : p.length < blockSize → (ps ++ [p]).flatten = S) :
    CutFrom S (ps ++ [p]) where
  starts := hstarts
  full q hq := hfull q (by rwa [List.dropLast_concat] at hq)
  ends p' hp' hshort := by
    rw [List.getLast?_concat, Option.some_inj] at hp'
    subst hp'
    exact hends hshort

/-- A stream shorter than 65535 full blocks is cut into at most 65535 blocks, so that their
    numbers, counted from 1, do not wrap. -/
theorem length_le (hc : CutFrom S ps) (hS : S.length < 65535 * blockSize) :
    ps.length ≤ 65535 := by
  have hfull : ps.dropLast.flatten.length = ps.dropLast.length * blockSize := by
    rw [List.length_flatten, List.map_congr_left (g := fun _ => blockSize) hc.full,
      List.map_const']
    simp
  have hle : ps.dropLast.flatten.length ≤ S.length :=
    calc ps.dropLast.flatten.length ≤ ps.flatten.length :=
        (List.IsPrefix.flatten (List.dropLast_prefix ps)).length_le
      _ ≤ S.length := hc.starts.length_le
  rw [List.length_dropLast] at hfull
  simp only [blockSize] at hfull hS
  omega

/-- A start of the blocks that ends with a short block is all of them, and it is all of `S`:
    every block before the last is full. -/
theorem eq_of_short (hc : CutFrom S ps) {rp : List (List UInt8)} (hrp : rp <+: ps) {p : List UInt8}
    (hlast : rp.getLast? = some p) (hshort : p.length < blockSize) :
    rp = ps ∧ rp.flatten = S := by
  obtain ⟨t, rfl⟩ := hrp
  cases t with
  | nil =>
    rw [List.append_nil] at hc ⊢
    exact ⟨rfl, hc.ends p hlast hshort⟩
  | cons b t =>
    have hmem : p ∈ (rp ++ b :: t).dropLast := by
      rw [List.dropLast_append_of_ne_nil (List.cons_ne_nil b t)]
      exact List.mem_append_left _ (List.mem_of_getLast? hlast)
    have hfull := hc.full p hmem
    omega

end CutFrom

/-! ## The DATA a sender sends -/

/-- The exchange, if it sends DATA, sends one of the blocks `ps` under its number: the block at
    index `i` as block `i + 1`, wrapping after 65535. -/
def Exchange.SendsBlockOf (ps : List (List UInt8)) : Exchange → Prop
  | (.send bytes _, _) => ∀ block payload, Packet.decode bytes = .ok (.data block payload) →
      ∃ i, ps[i]? = some payload ∧ block = (((i + 1) % 65536 : Nat) : Int)
  | _ => True

/-- A block is still one of the blocks after more are cut. -/
theorem Exchange.SendsBlockOf.mono {ps ps' : List (List UInt8)} (hpre : ps <+: ps') {e : Exchange}
    (he : e.SendsBlockOf ps) : e.SendsBlockOf ps' := by
  obtain ⟨r, x⟩ := e
  cases r with
  | send bytes target =>
    intro block payload hdec
    obtain ⟨i, hi, hblock⟩ := he block payload hdec
    obtain ⟨t, rfl⟩ := hpre
    obtain ⟨hlt, -⟩ := List.getElem?_eq_some_iff.mp hi
    exact ⟨i, (List.getElem?_append_left hlt).trans hi, hblock⟩
  | _ => trivial

namespace Pushed

variable {d : Pushed} {e : Exchange}

@[simp] theorem take_payloads (d : Pushed) (bytes : List UInt8) (source : Address) :
    (d.take bytes source).payloads = d.payloads := by
  unfold take
  split <;> rfl

/-- Sending anything but fresh DATA, once the last block was acknowledged, leaves the record. -/
theorem push_of_not_fresh {bytes : List UInt8}
    (hnot : ¬ ∃ block payload,
      Packet.decode bytes = .ok (.data block payload) ∧ d.acked = true) :
    d.push bytes = d := by
  cases hacked : d.acked with
  | false => exact push_again hacked
  | true =>
    apply push_of_not_data
    intro block payload hdec
    exact hnot ⟨block, payload, hdec, hacked⟩

/-- One exchange the rule permits keeps the blocks cut from the stream and only adds to them;
    if it sends DATA, that is one of them under its number.  A block is added only by fresh DATA,
    whose payload is what was read since the last block. -/
theorem step_cutFrom {S : List UInt8} {client : Bool} {H : List Exchange} (hs : ReadsStream S H)
    (hc : CutFrom S d.payloads) (hperm : d.Permits client (readBytes H) (EndOfStream H) e) :
    CutFrom S (d.step e).payloads ∧ d.payloads <+: (d.step e).payloads ∧
      e.SendsBlockOf (d.step e).payloads := by
  obtain ⟨r, x⟩ := e
  cases r with
  | send bytes target =>
    rw [step_send]
    by_cases hdata : ∃ block payload, Packet.decode bytes = .ok (.data block payload)
    · obtain ⟨block, payload, hdec⟩ := hdata
      have hrule := hperm block payload hdec
      have hsent : ∀ block' payload', Packet.decode bytes = .ok (.data block' payload') →
          block' = block ∧ payload' = payload := by
        intro block' payload' hdec'
        rw [hdec] at hdec'
        simp only [Except.ok.injEq, Packet.data.injEq] at hdec'
        exact ⟨hdec'.1.symm, hdec'.2.symm⟩
      cases hacked : d.acked with
      | true =>
        -- fresh DATA: the next block, read since the last one
        obtain ⟨hblock, hread, hfull, -, heof⟩ := hrule.1 hacked
        have hflat : (d.payloads ++ [payload]).flatten = readBytes H := by simp [hread]
        rw [push_fresh hdec hacked]
        refine ⟨CutFrom.push hfull (hflat ▸ hs.taken)
          (fun hshort => hflat ▸ hs.eof (heof hshort)), List.prefix_append _ _, ?_⟩
        intro block' payload' hdec'
        obtain ⟨rfl, rfl⟩ := hsent block' payload' hdec'
        exact ⟨d.payloads.length, by simp, hblock⟩
      | false =>
        -- the last block again, under its own number
        obtain ⟨hblock, hlast⟩ := hrule.2 hacked
        rw [push_again hacked]
        refine ⟨hc, List.prefix_refl _, ?_⟩
        intro block' payload' hdec'
        obtain ⟨rfl, rfl⟩ := hsent block' payload' hdec'
        have hpos : 0 < d.payloads.length :=
          List.length_pos_of_mem (List.mem_of_getLast? hlast)
        refine ⟨d.payloads.length - 1, by rw [← List.getLast?_eq_getElem?]; exact hlast, ?_⟩
        rw [hblock, lastBlock, Nat.sub_add_cancel hpos]
    · have hsame : d.push bytes = d := by
        apply push_of_not_data
        intro block payload hdec
        exact hdata ⟨block, payload, hdec⟩
      rw [hsame]
      refine ⟨hc, List.prefix_refl _, ?_⟩
      intro block payload hdec
      exact absurd ⟨block, payload, hdec⟩ hdata
  | receive t phase =>
    cases x with
    | datagram bytes source =>
      rw [step_arrival, take_payloads]
      exact ⟨hc, List.prefix_refl _, trivial⟩
    | _ => exact ⟨hc, List.prefix_refl _, trivial⟩
  | _ => exact ⟨hc, List.prefix_refl _, trivial⟩

/-- A record acknowledged after one more exchange was acknowledged before it, or takes the
    acknowledgement from it, an ACK of its last block that arrived; the exchange adds no block. -/
theorem step_acked (h : (d.step e).acked = true) :
    (d.step e).payloads = d.payloads ∧ (d.acked = true ∨
      ∃ bytes source, e.arrival? = some (bytes, source) ∧
        Packet.decode bytes = .ok (.ack d.lastBlock)) := by
  obtain ⟨r, x⟩ := e
  cases r with
  | send bytes target =>
    rw [step_send] at h ⊢
    by_cases hfresh : ∃ block payload, Packet.decode bytes = .ok (.data block payload) ∧
        d.acked = true
    · obtain ⟨block, payload, hdec, hacked⟩ := hfresh
      rw [push_fresh hdec hacked] at h
      cases h
    · rw [push_of_not_fresh hfresh] at h ⊢
      exact ⟨rfl, .inl h⟩
  | receive t phase =>
    cases x with
    | datagram bytes source =>
      rw [step_arrival] at h ⊢
      refine ⟨take_payloads .., ?_⟩
      unfold take at h
      cases hdec : Packet.decode bytes with
      | error err =>
        rw [hdec] at h
        exact .inl h
      | ok p =>
        rw [hdec] at h
        simp only [Bool.or_eq_true, Bool.and_eq_true] at h
        rcases h with h | ⟨hack, -⟩
        · exact .inl h
        · cases p with
          | ack block =>
            simp only [acksLast, beq_iff_eq] at hack
            exact .inr ⟨bytes, source, rfl, by rw [hdec, hack]⟩
          | _ => cases hack
    | _ => exact ⟨rfl, .inl h⟩
  | _ => exact ⟨rfl, .inl h⟩

/-- A record whose last block is short has one. -/
theorem exists_short_of_lastShort (hd : d.lastShort = true) :
    ∃ p, d.payloads.getLast? = some p ∧ p.length < blockSize := by
  unfold lastShort at hd
  split at hd
  · next p hlast => exact ⟨p, hlast, of_decide_eq_true hd⟩
  · cases hd

/-- The block number of the last block depends only on the blocks. -/
theorem lastBlock_congr {d d' : Pushed} (h : d.payloads = d'.payloads) :
    d.lastBlock = d'.lastBlock := by
  simp only [lastBlock, h]

/-- A record acknowledged at the end of a run in which blocks were sent took its
    acknowledgement from an ACK of its last block that arrived in the run.  The induction adds one
    exchange at a time: a fresh block clears the acknowledgement, and nothing else adds a block. -/
theorem exists_ack {H : List Exchange} (hacked : (d.after H).acked = true)
    (hgrew : d.payloads.length < (d.after H).payloads.length) :
    ∃ A e B bytes source, H = A ++ e :: B ∧ e.arrival? = some (bytes, source) ∧
      Packet.decode bytes = .ok (.ack (d.after H).lastBlock) := by
  induction H using List.reverseRecOn with
  | nil => exact absurd hgrew (Nat.lt_irrefl _)
  | append_singleton H e ih =>
    rw [after_append, after_cons, after_nil] at hacked hgrew ⊢
    obtain ⟨hpay, hwas | ⟨bytes, source, harr, hdec⟩⟩ := step_acked hacked
    · -- acknowledged already: the same ACK, earlier in the run
      obtain ⟨A, e', B, bytes, source, rfl, harr, hdec⟩ := ih hwas (hpay ▸ hgrew)
      refine ⟨A, e', B ++ [e], bytes, source, by simp, harr, ?_⟩
      rw [lastBlock_congr hpay]
      exact hdec
    · exact ⟨H, e, [], bytes, source, rfl, harr, (lastBlock_congr hpay).symm ▸ hdec⟩

end Pushed

/-! ## A run that follows the rule -/

variable {client : Bool} {d₀ : Pushed} {h t H : List Exchange}

theorem FollowsRule.of_append (hf : FollowsRule client d₀ (h ++ t)) :
    FollowsRule client d₀ h := by
  intro A e B hsplit
  exact hf A e (B ++ t) (by simp [hsplit])

/-- A run that follows the rule and reads the stream `S` cuts `S` into blocks, and every DATA it
    sends is one of them under its number.  The induction adds one exchange at a time, which the
    rule permits after the exchanges before it. -/
theorem FollowsRule.cutFrom {S : List UInt8} (hd₀ : d₀.payloads = [])
    (hf : FollowsRule client d₀ H) (hs : ReadsStream S H) :
    CutFrom S (d₀.after H).payloads ∧ ∀ e ∈ H, e.SendsBlockOf (d₀.after H).payloads := by
  induction H using List.reverseRecOn with
  | nil => exact ⟨by rw [Pushed.after_nil, hd₀]; exact CutFrom.nil S, fun _ he => nomatch he⟩
  | append_singleton H e ih =>
    have hsH := hs.of_prefix (List.prefix_append H [e])
    obtain ⟨hc, hsends⟩ := ih hf.of_append hsH
    obtain ⟨hc', hgrow, hnew⟩ := Pushed.step_cutFrom hsH hc (hf H e [] rfl)
    rw [Pushed.after_append, Pushed.after_cons, Pushed.after_nil]
    refine ⟨hc', fun e' he' => ?_⟩
    rcases List.mem_append.mp he' with he' | he'
    · exact (hsends e' he').mono hgrow
    · rw [List.mem_singleton.mp he']
      exact hnew

end Tftp
