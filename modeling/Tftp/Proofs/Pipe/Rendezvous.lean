import Tftp.Proofs.Pipe.Conservation

/-! # Rendezvous on the pipe

    What a read and a write see of each other in every interleaving of two scripts: a read of at
    most `k` bytes takes them from the write in flight; a write returns only once reads have
    taken exactly its bytes; a read of some bytes returns none only at a clean end of the
    stream, which a write of no bytes never makes; a read to the end of the stream returns the
    rest of the stream up to a clean close; and over a whole run the bytes received balance those
    delivered as `Pair.Flow` says.  Main statement: `stream_conserved_in_every_interleaving`.

    A read to the end of the stream that raises the error the writer closed its end with loses
    what it gathered: `read_to_end_loses_bytes` shows the bytes of a write that returned, read by
    no read. -/

namespace Tftp

namespace Call

/-- A pass of a read of at most `k` bytes that returns bytes takes them from those pending, or
    returns none once nothing is pending and the writer end was closed cleanly. -/
theorem read_returns {k : Nat} {w : Bool} {p q : Pipe} {b : List UInt8}
    (h : (Call.read (.upTo k) w).step p = .returns (.ok (.bytes b)) q) :
    (p.pending ≠ [] ∧ b = p.pending.take k ∧ q.pending = p.pending.drop k) ∨
      (b = [] ∧ p.pending = [] ∧ p.writer = .closed none) := by
  have hpass := readerPass_of_side (c := .read (.upTo k) w) (p := p) rfl
  generalize (Call.read (.upTo k) w).step p = rc at hpass h
  cases hpass with
  | refused _ _ => cases h
  | takes _ hp =>
    simp only [CallStep.returns.injEq, Except.ok.injEq, Reply.bytes.injEq] at h
    obtain ⟨rfl, rfl⟩ := h
    exact .inl ⟨hp, rfl, rfl⟩
  | @ends _ _ e _ _ hp hw =>
    cases e with
    | none =>
      simp only [ending, gathered, CallStep.returns.injEq, Except.ok.injEq, Reply.bytes.injEq] at h
      exact .inr ⟨h.1.symm, hp, hw⟩
    | some e => simp [ending] at h
  | waits _ _ _ _ => cases h

/-- A read of some bytes, or of a size that is no whole number, returns no bytes only once
    nothing is pending and the writer end was closed cleanly. -/
theorem read_returns_nothing {cut : Cut} {w : Bool} {p q : Pipe} (hcut : cut ≠ .upTo 0)
    (h : (Call.read cut w).step p = .returns (.ok (.bytes [])) q) :
    p.pending = [] ∧ p.writer = .closed none := by
  have hpass := readerPass_of_side (c := .read cut w) (p := p) rfl
  generalize (Call.read cut w).step p = rc at hpass h
  cases hpass with
  | refused _ _ => cases h
  | @takes k _ _ _ hp =>
    -- the read took none of the pending bytes, so it was of none
    simp only [CallStep.returns.injEq, Except.ok.injEq, Reply.bytes.injEq] at h
    rcases List.take_eq_nil_iff.mp h.1 with hk | hnil
    · exact (hcut (hk ▸ rfl)).elim
    · exact (hp hnil).elim
  | unusable _ _ => cases h
  | @ends _ _ e _ _ hp hw =>
    cases e with
    | none => exact ⟨hp, hw⟩
    | some e => simp [ending] at h
  | waits _ _ _ _ => cases h

/-- A write of no bytes, begun or waiting for a read, leaves the pipe as it was. -/
theorem write_nothing_keeps_pipe (p : Pipe) :
    ((Call.write []).step p).pipe = p ∧ (Call.awaitRead.step p).pipe = p := by
  cases hu : p.unwritable with
  | some e => simp [step, hu, CallStep.pipe]
  | none => by_cases hw : p.waitingReads > 0 <;> simp [step, hu, hw, CallStep.pipe]

/-- A pass of a read to the end of the stream that returns bytes returns what it gathered, once
    nothing is pending and the writer end was closed cleanly, with the reader end open. -/
theorem readAll_returns {g : List UInt8} {w : Bool} {p q : Pipe} {b : List UInt8}
    (h : (Call.readAll g w).step p = .returns (.ok (.bytes b)) q) :
    b = g ∧ p.pending = [] ∧ p.writer = .closed none ∧ p.reader = .open := by
  have hpass := readerPass_of_side (c := .readAll g w) (p := p) rfl
  generalize (Call.readAll g w).step p = rc at hpass h
  cases hpass with
  | refused _ _ => cases h
  | takesAll _ _ => cases h
  | @ends _ _ e _ hr hp hw =>
    cases e with
    | none =>
      simp only [ending, gathered, CallStep.returns.injEq, Except.ok.injEq, Reply.bytes.injEq] at h
      exact ⟨h.1.symm, hp, hw, hr⟩
    | some e => simp [ending] at h
  | waits _ _ _ _ => cases h

end Call

namespace Pair

variable {writerOps : List Op} {x : Pair}

/-- A write returns the length of its data only once reads have taken exactly its bytes: at the
    step where it returns, the reader has received what the writer delivered before, then the
    write's data.  The cases are the steps that can record a count. -/
theorem Streams.wrote_step (hx : Coherent x) (hs : Streams writerOps x) {w : Script} {p : Pipe}
    {n : Nat} (h : x.writer.step x.pipe = some (w, p))
    (hres : w.results = x.writer.results ++ [.wrote n]) :
    ∃ d, writerOps[x.writer.results.length]? = some (.write d) ∧ n = d.length ∧
      x.reader.received = delivered (x.writer.log writerOps) ++ d := by
  obtain ⟨A, L, hf⟩ := hs.flow
  rcases Script.step_cases h with ⟨c, hc, hen, hr⟩ | ⟨hc, hops, rfl, rfl⟩ |
    ⟨op, rest, hc, hops, hr⟩
  · -- a pass of the write in progress returns its count
    obtain ⟨d, hcur, hcd⟩ := hs.calls c hc
    refine ⟨d, hcur, ?_⟩
    have hpass := writerPass_of_enabled (hx.writerCall c hc) hen
    generalize c.step x.pipe = rc at hpass hr
    cases hpass with
    | refused _ _ =>
      simp only [Script.afterCall, Prod.mk.injEq] at hr
      obtain ⟨rfl, -⟩ := hr
      simp [Script.record, Script.outcomeOf] at hres
    | met hcm _ _ =>
      simp only [Script.afterCall, Prod.mk.injEq] at hr
      obtain ⟨rfl, -⟩ := hr
      -- the write of no bytes waited for a read, and nothing of it was taken
      have hawait : c = .awaitRead ∧ d = [] := by
        rcases hcd with rfl | hawait
        · rcases hcm with h | h <;> cases h
        · exact hawait
      obtain ⟨rfl, rfl⟩ := hawait
      obtain ⟨hA, hL⟩ := hf.awaiting hc
      have hn : n = 0 := by simpa [Script.record, Script.outcomeOf, eq_comm] using hres
      refine ⟨by simp [hn], ?_⟩
      simpa [hA, hL] using hf.balance
    | parks _ _ => rcases hcd with h | ⟨h, -⟩ <;> cases h
    | puts _ _ => rcases hcd with h | ⟨h, -⟩ <;> cases h
    | @drained m _ hp =>
      simp only [Script.afterCall, Prod.mk.injEq] at hr
      obtain ⟨rfl, -⟩ := hr
      -- reads took all of the write's bytes
      have hm : m = d.length := by
        rcases hcd with h | ⟨h, -⟩ <;> cases h
        rfl
      subst hm
      have hn : n = d.length := by simpa [Script.record, Script.outcomeOf, eq_comm] using hres
      obtain ⟨hL, j, hA, hpend⟩ := hf.draining d hcur hc
      have hAd : A = d := by
        rw [hp, eq_comm, List.drop_eq_nil_iff] at hpend
        rw [hA, List.take_of_length_le hpend]
      refine ⟨hn, ?_⟩
      simpa [hAd, hL] using hf.balance
    | abandoned _ _ =>
      simp only [Script.afterCall, Prod.mk.injEq] at hr
      obtain ⟨rfl, -⟩ := hr
      simp [Script.record, Script.outcomeOf] at hres
  · simp at hres
  · -- an operation begins and returns a count at once: a write of no bytes that meets a read
    have hcur := hs.tracks.current hc hops
    cases op with
    | write d =>
      rw [Script.begin_write_writer (s := { x.writer with ops := rest }) hx.writerSide] at hr
      have hpass := writerPass_of_enabled (c := .write d) (p := x.pipe) rfl rfl
      generalize (Call.write d).step x.pipe = rc at hpass hr
      cases hpass with
      | refused _ _ =>
        simp only [Script.afterCall, Prod.mk.injEq] at hr
        obtain ⟨rfl, -⟩ := hr
        simp [Script.record, Script.outcomeOf] at hres
      | met hcm hu _ =>
        simp only [Script.afterCall, Prod.mk.injEq] at hr
        obtain ⟨rfl, -⟩ := hr
        have hd : d = [] := by
          rcases hcm with h | h <;> cases h
          rfl
        subst hd
        obtain ⟨hA, hL⟩ := hf.idle_open hc hu
        have hn : n = 0 := by simpa [Script.record, Script.outcomeOf, eq_comm] using hres
        refine ⟨[], hcur, by simp [hn], ?_⟩
        simpa [hA, hL] using hf.balance
      | parks _ _ =>
        simp only [Script.afterCall, Prod.mk.injEq] at hr
        obtain ⟨rfl, -⟩ := hr
        simp at hres
      | puts _ _ =>
        simp only [Script.afterCall, Prod.mk.injEq] at hr
        obtain ⟨rfl, -⟩ := hr
        simp at hres
    | read size =>
      simp only [Script.begin, hx.writerSide, Prod.mk.injEq] at hr
      obtain ⟨rfl, -⟩ := hr
      simp [Script.record] at hres
    | close | closeWithError _ | isClosed | raise _ =>
      simp only [Script.begin, Prod.mk.injEq] at hr
      obtain ⟨rfl, -⟩ := hr
      simp [Script.record] at hres

/-- What a reachable state bounds of the parts by which the bytes received and delivered differ:
    the lost part only once the writer closed its end with an error that a read raised, and the
    taken part only of a write that failed once the reader end was closed, or of the write in
    flight, whose rest is pending. -/
theorem Streams.bounds (hs : Streams writerOps x) {A L : List UInt8} (hf : Flow writerOps x A L) :
    (L = [] ∨ ∃ e, x.pipe.writer = .closed (some e) ∧
      Outcome.failed e ∈ x.reader.results) ∧
    (A = [] ∨ (∃ d e, (Op.write d, Outcome.failed e) ∈ x.writer.log writerOps ∧ A <+: d ∧
        x.pipe.reader.isClosed = true) ∨
      ∃ d, writerOps[x.writer.results.length]? = some (.write d) ∧
        x.writer.call = some (.drain d.length) ∧ A ++ x.pipe.pending = d) := by
  cases hc : x.writer.call with
  | none =>
    obtain ⟨hA, hL⟩ := hf.idle hc
    exact ⟨hL, hA.elim .inl (fun h => .inr (.inl h))⟩
  | some c =>
    obtain ⟨d, hcur, hcd⟩ := hs.calls c hc
    rcases hcd with rfl | ⟨rfl, -⟩
    · obtain ⟨hL, j, hA, hpend⟩ := hf.draining d hcur hc
      exact ⟨.inl hL, .inr (.inr ⟨d, hcur, rfl, by rw [hA, hpend, List.take_append_drop]⟩)⟩
    · obtain ⟨hA, hL⟩ := hf.awaiting hc
      exact ⟨.inl hL, .inl hA⟩

/-- A read to the end of the stream that returns found the writer end closed cleanly with the
    reader end open: the bytes received are exactly those delivered. -/
theorem Streams.received_of_clean_end (hx : Coherent x) (hs : Streams writerOps x)
    (hw : x.pipe.writer = .closed none) (hr : x.pipe.reader = .open) :
    x.reader.received = delivered (x.writer.log writerOps) := by
  obtain ⟨A, L, hf⟩ := hs.flow
  have hc : x.writer.call = none := by
    by_cases hc : x.writer.call = none
    · exact hc
    · simp [hx.writerOpen hc] at hw
  obtain ⟨hA, hL⟩ := hf.idle hc
  have hA' : A = [] := by
    rcases hA with hA | ⟨_, _, _, _, hclosed⟩
    · exact hA
    · simp [hr, EndState.isClosed] at hclosed
  have hL' : L = [] := by
    rcases hL with hL | ⟨_, hwe, _⟩
    · exact hL
    · rw [hw] at hwe
      cases hwe
  simpa [hA', hL'] using hf.balance

/-- The writer's script and the reader's on one pipe: in every interleaving of their steps the
    reader receives what the writer delivers.  (1) The bytes received, followed by those a read to
    the end of the stream lost when it raised the writer's error, are the data of the writes that
    returned, followed by part of a write that failed once the reader end was closed, or of the
    write in flight; (2) a read of at most `k` bytes returns at most `k`, all from the write in
    flight; (3) a write returns the length of its data only once reads took exactly its bytes;
    (4) a read of some bytes returns none only when nothing is pending and the writer end was
    closed cleanly, which a write of no bytes never does; (5) a read to the end of the stream
    that returns gives the rest of the stream up to a clean close. -/
theorem stream_conserved_in_every_interleaving (writerOps readerOps : List Op) :
    (∀ x, Reachable writerOps readerOps x → ∃ A L,
      x.reader.received ++ L = delivered (x.writer.log writerOps) ++ A ∧
      (L = [] ∨ ∃ e, x.pipe.writer = .closed (some e) ∧ Outcome.failed e ∈ x.reader.results) ∧
      (A = [] ∨ (∃ d e, (Op.write d, Outcome.failed e) ∈ x.writer.log writerOps ∧ A <+: d ∧
          x.pipe.reader.isClosed = true) ∨
        ∃ d, writerOps[x.writer.results.length]? = some (.write d) ∧
          x.writer.call = some (.drain d.length) ∧ A ++ x.pipe.pending = d)) ∧
    (∀ x, Reachable writerOps readerOps x → ∀ k w b q,
      (Call.read (.upTo k) w).step x.pipe = .returns (.ok (.bytes b)) q →
      b.length ≤ k ∧ (b ≠ [] → ∃ d pre, writerOps[x.writer.results.length]? = some (.write d) ∧
        x.writer.call = some (.drain d.length) ∧ d = pre ++ b ++ q.pending)) ∧
    (∀ x y n, Reachable writerOps readerOps x → Step x y →
      y.writer.results = x.writer.results ++ [.wrote n] →
      ∃ d, writerOps[x.writer.results.length]? = some (.write d) ∧ n = d.length ∧
        y.reader.received = delivered (y.writer.log writerOps)) ∧
    ((∀ cut w p q, cut ≠ .upTo 0 → (Call.read cut w).step p = .returns (.ok (.bytes [])) q →
        p.pending = [] ∧ p.writer = .closed none) ∧
      ∀ p, ((Call.write []).step p).pipe = p ∧ (Call.awaitRead.step p).pipe = p) ∧
    (∀ x, Reachable writerOps readerOps x → ∀ g w b q,
      (x.reader.call = some (.readAll g w) ∨ x.reader.call = none ∧ g = [] ∧ w = false) →
      (Call.readAll g w).step x.pipe = .returns (.ok (.bytes b)) q →
      b = g ∧ x.pipe.writer = .closed none ∧
        x.reader.results.flatMap Outcome.chunk ++ b = delivered (x.writer.log writerOps)) := by
  refine ⟨fun x hx => ?_, fun x hx k w b q h => ?_, fun x y n hx hxy hres => ?_,
    ⟨fun cut w p q hcut h => Call.read_returns_nothing hcut h, Call.write_nothing_keeps_pipe⟩,
    fun x hx g w b q hcall h => ?_⟩
  · -- (1) the balance of the invariant, with its bounds
    have hs := hx.streams
    obtain ⟨A, L, hf⟩ := hs.flow
    exact ⟨A, L, hf.balance, hs.bounds hf⟩
  · -- (2) the bytes come from those pending, the rest of the write in flight
    rcases Call.read_returns h with ⟨hp, rfl, hq⟩ | ⟨rfl, -, -⟩
    · refine ⟨List.length_take_le _ _, fun _ => ?_⟩
      have hs := hx.streams
      obtain ⟨A, L, hf⟩ := hs.flow
      obtain ⟨d, j, hcur, hcall, -, -, hpend⟩ := hs.pending_of_draining hx.coherent hf hp
      refine ⟨d, d.take j, hcur, hcall, ?_⟩
      rw [hq, hpend, List.append_assoc, List.take_append_drop, List.take_append_drop]
    · exact ⟨Nat.zero_le _, fun h => (h rfl).elim⟩
  · -- (3) only the writer's steps record its outcomes
    cases hxy with
    | @writer w' p' hw =>
      obtain ⟨d, hcur, hn, hrec⟩ := hx.streams.wrote_step hx.coherent hw hres
      refine ⟨d, hcur, hn, ?_⟩
      show x.reader.received = delivered (w'.log writerOps)
      rw [Script.log_record hcur hres, delivered_append, hrec]
      simp [Op.delivered]
    | reader _ => simp at hres
  · -- (5) a clean end: the bytes received are exactly those delivered
    obtain ⟨rfl, hp, hw, hr⟩ := Call.readAll_returns h
    refine ⟨rfl, hw, ?_⟩
    have hrec := hx.streams.received_of_clean_end hx.coherent hw hr
    rcases hcall with hcall | ⟨hcall, rfl, -⟩
    · simpa [Script.received, hcall, Call.gathered] using hrec
    · simpa [Script.received, hcall] using hrec

/-- A read to the end of the stream loses what it gathered when the writer closes its end with an
    error: the writer's write of five bytes returned, no write failed, and no read returned a
    byte. -/
theorem read_to_end_loses_bytes :
    let ops := [Op.write [104, 101, 108, 108, 111], .closeWithError (Failure.ofHost .key "k")]
    let x := run ops [.read .none]
    x.Finished ∧ x.reader.results = [.failed (Failure.ofHost .key "k")] ∧
      x.writer.results = [.wrote 5, .closed] ∧
      delivered (x.writer.log ops) = [104, 101, 108, 108, 111] :=
  ⟨⟨rfl, rfl⟩, rfl, rfl, rfl⟩

end Pair

end Tftp
