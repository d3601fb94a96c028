import Tftp.Proofs.Pipe.Confluence

/-! # What the reader receives is what the writer delivered

    The bytes a reader's reads returned, with those its read to the end of the stream has
    gathered so far (`Script.received`), against the data of the writer's writes that returned
    (`delivered` of the writer's log).  In every interleaving the two agree up to two parts:

    * `A`, what reads took of a write that did not return: the write in flight, or one write that
      failed once the reader end was closed;
    * `L`, what a read to the end of the stream gathered and lost when it raised the error the
      writer closed its end with.

    `Pair.Flow` states this balance with the facts that bound `A` and `L`, and `Pair.Streams` adds
    how the writer's operations line up with its results; both hold of every reachable state. -/

namespace Tftp

/-- The bytes an outcome read. -/
def Outcome.chunk : Outcome → List UInt8
  | .read b => b
  | _ => []

/-- The bytes an operation handed over, given what it gave: the data of a write that returned. -/
def Op.delivered : Op → Outcome → List UInt8
  | .write d, .wrote _ => d
  | _, _ => []

/-- The bytes of the writes of a log that returned, in order. -/
def delivered (log : List (Op × Outcome)) : List UInt8 := log.flatMap fun e => e.1.delivered e.2

namespace Script

/-- The first operations of `ops₀`, each with what it gave: for a script that runs `ops₀`, the
    operations that returned. -/
def log (ops₀ : List Op) (s : Script) : List (Op × Outcome) := ops₀.zip s.results

/-- The bytes the script's reads returned, then those its read in progress has gathered. -/
def received (s : Script) : List UInt8 :=
  s.results.flatMap Outcome.chunk ++ (s.call.map Call.gathered).getD []

/-- How many operations the script has begun: those that returned and the one in a call. -/
def begun (s : Script) : Nat := s.results.length + if s.call.isSome then 1 else 0

/-- The script runs `ops₀`: what is left of them follows those it has begun. -/
structure Tracks (ops₀ : List Op) (s : Script) : Prop where
  rest : s.ops = ops₀.drop s.begun
  begun_le : s.begun ≤ ops₀.length

theorem tracks_start (side : Side) (ops₀ : List Op) : (start side ops₀).Tracks ops₀ :=
  ⟨by simp [start, begun], by simp [start, begun]⟩

/-- A step passes the call in progress, closes the script's end once its operations are done,
    or begins the next operation. -/
theorem step_cases {s s' : Script} {p p' : Pipe} (h : s.step p = some (s', p')) :
    (∃ c, s.call = some c ∧ c.enabled p = true ∧ s.afterCall (c.step p) = (s', p')) ∨
    (s.call = none ∧ s.ops = [] ∧ s' = { s with finished := true } ∧ p' = s.closeOwn none p) ∨
    (∃ op rest, s.call = none ∧ s.ops = op :: rest ∧ { s with ops := rest }.begin op p = (s', p')) := by
  have hf := finished_eq_false_of_step h
  cases hc : s.call with
  | some c =>
    cases hen : c.enabled p
    · simp [step, hf, hc, hen] at h
    · rw [step_of_call hf hc hen] at h
      exact .inl ⟨c, rfl, hen, Option.some.inj h⟩
  | none =>
    cases hops : s.ops with
    | nil =>
      rw [step_of_finish hf hc hops] at h
      obtain ⟨rfl, rfl⟩ := Prod.mk.inj (Option.some.inj h)
      exact .inr (.inl ⟨rfl, rfl, by rw [hc, hops], rfl⟩)
    | cons op rest =>
      rw [step_of_begin hf hc hops] at h
      exact .inr (.inr ⟨op, rest, rfl, rfl, Option.some.inj h⟩)

/-- What a step leaves of the results: one more outcome and no call, or the same results and a
    call in progress. -/
def Extends (s s' : Script) : Prop :=
  (∃ o, s'.results = s.results ++ [o] ∧ s'.call = none) ∨ (s'.results = s.results ∧ s'.call.isSome)

theorem extends_afterCall (s : Script) (r : CallStep) : s.Extends (s.afterCall r).1 := by
  cases r with
  | returns r q => exact .inl ⟨_, rfl, rfl⟩
  | continues c q => exact .inr ⟨rfl, rfl⟩

theorem afterCall_ops (s : Script) (r : CallStep) : (s.afterCall r).1.ops = s.ops := by
  cases r <;> rfl

theorem record_ops (s : Script) (o : Outcome) : (s.record o).ops = s.ops := rfl

theorem begin_ops (s : Script) (op : Op) (q : Pipe) : (s.begin op q).1.ops = s.ops := by
  cases op with
  | write d => cases hs : s.side <;> simp [begin, hs, afterCall_ops, record_ops]
  | read size =>
    cases hs : s.side with
    | writer => simp [begin, hs, record_ops]
    | reader =>
      rcases begin_read s hs size with ⟨c, -, -, -, hq⟩ | ⟨o, -, hq⟩
      · rw [hq q, afterCall_ops]
      · rw [hq q, record_ops]
  | close | closeWithError _ | isClosed | raise _ => rfl

/-- Beginning an operation records its outcome, or leaves a call in progress. -/
theorem extends_begin (s : Script) (op : Op) (q : Pipe) : s.Extends (s.begin op q).1 := by
  cases op with
  | write d =>
    cases hs : s.side with
    | writer =>
      simp only [begin, hs]
      exact extends_afterCall _ _
    | reader =>
      exact .inl ⟨.failed (missing .reader "write"), by simp [begin, hs, record],
        by simp [begin, hs, record]⟩
  | read size =>
    cases hs : s.side with
    | writer =>
      exact .inl ⟨.failed (missing .writer "read"), by simp [begin, hs, record],
        by simp [begin, hs, record]⟩
    | reader =>
      rcases begin_read s hs size with ⟨c, -, -, -, hq⟩ | ⟨o, -, hq⟩
      · rw [hq q]
        exact extends_afterCall _ _
      · rw [hq q]
        exact .inl ⟨_, rfl, rfl⟩
  | close | closeWithError _ | isClosed | raise _ => exact .inl ⟨_, rfl, rfl⟩

theorem Extends.begun {s s' : Script} (hc : s.call = none) (h : s.Extends s') :
    s'.begun = s.begun + 1 := by
  rcases h with ⟨o, hr, hc'⟩ | ⟨hr, hc'⟩ <;> simp [Script.begun, hr, hc, hc']

/-- A script keeps running its operations, step after step. -/
theorem Tracks.step {ops₀ : List Op} {s s' : Script} {p p' : Pipe} (ht : s.Tracks ops₀)
    (h : s.step p = some (s', p')) : s'.Tracks ops₀ := by
  rcases step_cases h with ⟨c, hc, -, hr⟩ | ⟨hc, hops, rfl, -⟩ | ⟨op, rest, hc, hops, hr⟩
  · -- a pass of the call: it returns and records, or goes on
    have hops' : s'.ops = s.ops := by rw [← afterCall_ops s (c.step p), hr]
    have he : s.Extends s' := by
      have he := extends_afterCall s (c.step p)
      rwa [hr] at he
    have hbegun : s'.begun = s.begun := by
      rcases he with ⟨o, hres, hc'⟩ | ⟨hres, hc'⟩ <;> simp [Script.begun, hres, hc, hc']
    exact ⟨by rw [hops', hbegun, ht.rest], hbegun ▸ ht.begun_le⟩
  · exact ⟨by simpa [Script.begun] using ht.rest, by simpa [Script.begun] using ht.begun_le⟩
  · -- an operation begins: one more is begun, and the rest follows it
    have he : ({ s with ops := rest } : Script).Extends s' := by
      have he := extends_begin { s with ops := rest } op p
      rwa [hr] at he
    have hbegun : s'.begun = s.begun + 1 := he.begun hc
    have hops' : s'.ops = rest := by
      have h' := begin_ops { s with ops := rest } op p
      rwa [hr] at h'
    have hdrop : ops₀.drop s.begun = op :: rest := by rw [← ht.rest, hops]
    refine ⟨by rw [hops', hbegun, ← List.drop_drop, hdrop]; rfl, ?_⟩
    have hlen := congrArg List.length hdrop
    simp only [List.length_drop, List.length_cons] at hlen
    omega

/-- The operation a script begins, or whose call is in progress, is the next one of `ops₀`
    after those that returned. -/
theorem Tracks.current {ops₀ : List Op} {s : Script} (ht : s.Tracks ops₀) {op : Op} {rest : List Op}
    (hc : s.call = none) (hops : s.ops = op :: rest) : ops₀[s.results.length]? = some op := by
  have hdrop : ops₀.drop s.results.length = op :: rest := by
    rw [← hops, ht.rest]
    simp [Script.begun, hc]
  rw [← List.head?_drop, hdrop]
  rfl

theorem received_record (s : Script) (o : Outcome) :
    (s.record o).received = s.results.flatMap Outcome.chunk ++ o.chunk := by
  simp [received, record]

theorem received_call (s : Script) (c : Call) :
    ({ s with call := some c } : Script).received = s.results.flatMap Outcome.chunk ++ c.gathered := by
  simp [received]

theorem begin_write_writer {s : Script} (hs : s.side = .writer) (d : List UInt8) (q : Pipe) :
    s.begin (.write d) q = s.afterCall ((Call.write d).step q) := by
  simp [begin, hs]

theorem log_append {ops₀ : List Op} {rs : List Outcome} {op : Op} (o : Outcome)
    (h : ops₀[rs.length]? = some op) : ops₀.zip (rs ++ [o]) = ops₀.zip rs ++ [(op, o)] := by
  induction ops₀ generalizing rs with
  | nil => simp at h
  | cons a ops ih =>
    cases rs with
    | nil =>
      simp only [List.length_nil, List.getElem?_cons_zero, Option.some.injEq] at h
      subst h
      simp
    | cons r rs =>
      simp only [List.length_cons, List.getElem?_cons_succ] at h
      simp [ih h]

/-- Recording an outcome adds the operation it answers, with it, to the log. -/
theorem log_record {ops₀ : List Op} {s s' : Script} {op : Op} {o : Outcome}
    (h : ops₀[s.results.length]? = some op) (hr : s'.results = s.results ++ [o]) :
    s'.log ops₀ = s.log ops₀ ++ [(op, o)] := by
  rw [log, hr, log_append o h, log]

theorem log_eq {ops₀ : List Op} {s s' : Script} (hr : s'.results = s.results) :
    s'.log ops₀ = s.log ops₀ := by
  rw [log, hr, log]

end Script

theorem Call.gathered_parked (c : Call) : c.parked.gathered = c.gathered := by
  cases c <;> rfl

theorem delivered_append (l l' : List (Op × Outcome)) :
    delivered (l ++ l') = delivered l ++ delivered l' := by
  simp [delivered]

@[simp] theorem delivered_singleton (op : Op) (o : Outcome) :
    delivered [(op, o)] = op.delivered o := by
  simp [delivered]

namespace Pair

/-- How the bytes the reader received stand to those the writer delivered: `A` is what reads
    took of a write that has not returned, `L` what reads to the end of the stream gathered and
    lost. -/
structure Flow (writerOps : List Op) (x : Pair) (A L : List UInt8) : Prop where
  balance : x.reader.received ++ L = delivered (x.writer.log writerOps) ++ A
  /-- while a write drains, reads have taken the start of its data and the rest is pending -/
  draining : ∀ d, writerOps[x.writer.results.length]? = some (.write d) →
    x.writer.call = some (.drain d.length) → L = [] ∧ ∃ j, A = d.take j ∧ x.pipe.pending = d.drop j
  /-- a write of no bytes waiting for a read has had nothing taken -/
  awaiting : x.writer.call = some .awaitRead → A = [] ∧ L = []
  /-- between writes: what reads took of a write that failed once the reader end was closed, and
      what was lost once the writer end was closed with an error that a read raised -/
  idle : x.writer.call = none →
    (A = [] ∨ ∃ d e, (Op.write d, Outcome.failed e) ∈ x.writer.log writerOps ∧ A <+: d ∧
      x.pipe.reader.isClosed = true) ∧
    (L = [] ∨ ∃ e, x.pipe.writer = .closed (some e) ∧ Outcome.failed e ∈ x.reader.results)

/-- The writer runs its operations, its calls are those of its writes, a write that returned
    gave the length of its data, and the bytes flow as `Flow` says. -/
structure Streams (writerOps : List Op) (x : Pair) : Prop where
  tracks : x.writer.Tracks writerOps
  calls : ∀ c, x.writer.call = some c → ∃ d, writerOps[x.writer.results.length]? = some (.write d) ∧
    (c = .drain d.length ∨ c = .awaitRead ∧ d = [])
  wrote : ∀ op n, (op, Outcome.wrote n) ∈ x.writer.log writerOps → ∃ d, op = .write d ∧ n = d.length
  flow : ∃ A L, Flow writerOps x A L

theorem streams_start (writerOps readerOps : List Op) :
    Streams writerOps (start writerOps readerOps) := by
  refine ⟨Script.tracks_start _ _, fun c hc => ?_, fun op n hmem => ?_, [], [], ?_⟩
  · simp [start, Script.start] at hc
  · simp [start, Script.start, Script.log] at hmem
  · refine ⟨by simp [start, Script.start, Script.received, Script.log, delivered], ?_, ?_, ?_⟩ <;>
      simp [start, Script.start]

section

variable {writerOps : List Op} {x : Pair} {A L : List UInt8}

/-- A step of the writer that hands over no bytes, between writes or ending a write of none,
    while the pipe changes at most at the writer end, keeps the flow. -/
theorem Flow.writer_quiet (hf : Flow writerOps x A L) {w : Script} {p : Pipe}
    (hc : x.writer.call = none ∨ x.writer.call = some .awaitRead) (hc' : w.call = none)
    (hlog : ∃ l, w.log writerOps = x.writer.log writerOps ++ l ∧ delivered l = [])
    (hp : p.reader = x.pipe.reader ∧
      (x.pipe.writer.isClosed = true → p.writer = x.pipe.writer)) :
    Flow writerOps ⟨w, x.reader, p⟩ A L := by
  obtain ⟨l, hl, hdl⟩ := hlog
  -- what held between writes, or trivially once a write of no bytes ends
  have hidle := fun h : x.writer.call = none => hf.idle h
  refine ⟨?_, fun d _ h => by simp [hc'] at h, fun h => by simp [hc'] at h, fun _ => ?_⟩
  · show x.reader.received ++ L = delivered (w.log writerOps) ++ A
    rw [hl, delivered_append, hdl, List.append_nil]
    exact hf.balance
  · have hAL : (A = [] ∨ ∃ d e, (Op.write d, Outcome.failed e) ∈ x.writer.log writerOps ∧
        A <+: d ∧ x.pipe.reader.isClosed = true) ∧
        (L = [] ∨ ∃ e, x.pipe.writer = .closed (some e) ∧ Outcome.failed e ∈ x.reader.results) := by
      rcases hc with hc | hc
      · exact hidle hc
      · obtain ⟨hA, hL⟩ := hf.awaiting hc
        exact ⟨.inl hA, .inl hL⟩
    obtain ⟨hA, hL⟩ := hAL
    refine ⟨?_, ?_⟩
    · rcases hA with hA | ⟨d, e, hmem, hpre, hclosed⟩
      · exact .inl hA
      · refine .inr ⟨d, e, ?_, hpre, ?_⟩
        · show (Op.write d, Outcome.failed e) ∈ w.log writerOps
          rw [hl]
          exact List.mem_append_left _ hmem
        · show p.reader.isClosed = true
          rw [hp.1]
          exact hclosed
    · rcases hL with hL | ⟨e, hwe, hmem⟩
      · exact .inl hL
      · refine .inr ⟨e, ?_, hmem⟩
        show p.writer = .closed (some e)
        rw [hp.2 (by simp [hwe, EndState.isClosed]), hwe]

/-- A step of the reader that takes no bytes, keeps what it gathered, and changes the pipe at
    most at the reader end and in the count of waiting reads, keeps the flow. -/
theorem Flow.reader_quiet (hf : Flow writerOps x A L) {r : Script} {p : Pipe}
    (hrec : r.received = x.reader.received) (hres : ∀ o ∈ x.reader.results, o ∈ r.results)
    (hp : p.pending = x.pipe.pending ∧ p.writer = x.pipe.writer ∧
      (x.pipe.reader.isClosed = true → p.reader.isClosed = true)) :
    Flow writerOps ⟨x.writer, r, p⟩ A L := by
  refine ⟨?_, fun d hd h => ?_, hf.awaiting, fun h => ?_⟩
  · show r.received ++ L = delivered (x.writer.log writerOps) ++ A
    rw [hrec]
    exact hf.balance
  · obtain ⟨hL, j, hA, hpend⟩ := hf.draining d hd h
    exact ⟨hL, j, hA, hp.1.trans hpend⟩
  · obtain ⟨hA, hL⟩ := hf.idle h
    refine ⟨?_, ?_⟩
    · rcases hA with hA | ⟨d, e, hmem, hpre, hclosed⟩
      · exact .inl hA
      · exact .inr ⟨d, e, hmem, hpre, hp.2.2 hclosed⟩
    · rcases hL with hL | ⟨e, hwe, hmem⟩
      · exact .inl hL
      · exact .inr ⟨e, hp.2.1.trans hwe, hres _ hmem⟩

/-- Between writes, with both ends open, no read took part of a write that failed and none lost
    what it gathered. -/
theorem Flow.idle_open (hf : Flow writerOps x A L) (hc : x.writer.call = none)
    (hu : x.pipe.unwritable = none) : A = [] ∧ L = [] := by
  obtain ⟨hw, hr⟩ := Pipe.unwritable_eq_none.mp hu
  obtain ⟨hA, hL⟩ := hf.idle hc
  refine ⟨?_, ?_⟩
  · rcases hA with hA | ⟨_, _, _, _, hclosed⟩
    · exact hA
    · simp [hr, EndState.isClosed] at hclosed
  · rcases hL with hL | ⟨_, hwe, _⟩
    · exact hL
    · simp [hw] at hwe

theorem wrote_of_append {l : List (Op × Outcome)} {e : Op × Outcome}
    (hl : ∀ op n, (op, Outcome.wrote n) ∈ l → ∃ d, op = .write d ∧ n = d.length)
    (he : ∀ n, e.2 = .wrote n → ∃ d, e.1 = .write d ∧ n = d.length) :
    ∀ op n, (op, Outcome.wrote n) ∈ l ++ [e] → ∃ d, op = .write d ∧ n = d.length := by
  intro op n hmem
  rcases List.mem_append.mp hmem with hmem | hmem
  · exact hl op n hmem
  · rw [List.mem_singleton] at hmem
    subst hmem
    exact he n rfl

/-- One pass of the writer's call for its current write `d`, which it begins now or has in
    progress, keeps the invariant.  The cases are the kinds of pass. -/
theorem Streams.writer_pass (hx : Coherent x) (hs : Streams writerOps x) {d : List UInt8}
    (hcur : writerOps[x.writer.results.length]? = some (.write d))
    {s₀ : Script} (hres : s₀.results = x.writer.results) {c : Call}
    (hcall : (x.writer.call = none ∧ c = .write d) ∨ x.writer.call = some c)
    {rc : CallStep} (hpass : WriterPass c x.pipe rc) {w : Script} {p : Pipe}
    (hr : s₀.afterCall rc = (w, p)) (ht : w.Tracks writerOps) :
    Streams writerOps ⟨w, x.reader, p⟩ := by
  obtain ⟨A, L, hf⟩ := hs.flow
  -- a call in progress is the drain or the wait of the current write
  have hcur_call : ∀ c', x.writer.call = some c' →
      c' = .drain d.length ∨ c' = .awaitRead ∧ d = [] := by
    intro c' hc'
    obtain ⟨d', hd', hcd⟩ := hs.calls c' hc'
    rw [hcur, Option.some.injEq, Op.write.injEq] at hd'
    subst hd'
    exact hcd
  -- once the call returns, its outcome is logged with the current write
  have hrecord : ∀ o, (s₀.record o).log writerOps = x.writer.log writerOps ++ [(.write d, o)] :=
    fun o => Script.log_record hcur (by simp [Script.record, hres])
  cases hpass with
  | refused hc hu =>
    simp only [Script.afterCall, Prod.mk.injEq] at hr
    obtain ⟨rfl, rfl⟩ := hr
    have hquiet : x.writer.call = none ∨ x.writer.call = some .awaitRead := by
      rcases hcall with ⟨hnone, -⟩ | hsome
      · exact .inl hnone
      · rcases hc with ⟨d', rfl⟩ | rfl
        · rcases hcur_call _ hsome with h | ⟨h, -⟩ <;> cases h
        · exact .inr hsome
    refine ⟨ht, fun c' h => by simp [Script.record] at h, ?_, A, L,
      hf.writer_quiet hquiet rfl ⟨_, hrecord _, rfl⟩ ⟨rfl, fun _ => rfl⟩⟩
    rw [hrecord]
    exact wrote_of_append hs.wrote fun n h => by simp [Script.outcomeOf] at h
  | met hc hu hw =>
    simp only [Script.afterCall, Prod.mk.injEq] at hr
    obtain ⟨rfl, rfl⟩ := hr
    -- a write of no bytes returns, begun now or waiting
    have hd : (x.writer.call = none ∨ x.writer.call = some .awaitRead) ∧ d = [] := by
      rcases hcall with ⟨hnone, rfl⟩ | hsome
      · rcases hc with h | h <;> cases h
        exact ⟨.inl hnone, rfl⟩
      · rcases hc with rfl | rfl
        · rcases hcur_call _ hsome with h | ⟨h, -⟩ <;> cases h
        · rcases hcur_call _ hsome with h | ⟨-, hd⟩
          · cases h
          · exact ⟨.inr hsome, hd⟩
    obtain ⟨hquiet, rfl⟩ := hd
    refine ⟨ht, fun c' h => by simp [Script.record] at h, ?_, A, L,
      hf.writer_quiet hquiet rfl ⟨_, hrecord _, rfl⟩ ⟨rfl, fun _ => rfl⟩⟩
    rw [hrecord]
    exact wrote_of_append hs.wrote fun n h => ⟨[], rfl, by simpa [Script.outcomeOf] using h.symm⟩
  | parks hu hw =>
    simp only [Script.afterCall, Prod.mk.injEq] at hr
    obtain ⟨rfl, rfl⟩ := hr
    -- the write of no bytes is begun now, and waits
    have hnone : x.writer.call = none ∧ d = [] := by
      rcases hcall with ⟨hnone, h⟩ | hsome
      · cases h
        exact ⟨hnone, rfl⟩
      · rcases hcur_call _ hsome with h | ⟨h, -⟩ <;> cases h
    obtain ⟨hA, hL⟩ := hf.idle_open hnone.1 hu
    have hlog : ({ s₀ with call := some .awaitRead } : Script).log writerOps =
        x.writer.log writerOps := Script.log_eq hres
    refine ⟨ht, fun c' h => ⟨d, by simpa [hres] using hcur, .inr ⟨?_, hnone.2⟩⟩, ?_, A, L,
      ⟨?_, fun d' _ h => by simp at h, fun _ => ⟨hA, hL⟩, fun h => by simp at h⟩⟩
    · simpa using h.symm
    · rw [hlog]
      exact hs.wrote
    · show x.reader.received ++ L = _ ++ A
      rw [hlog]
      exact hf.balance
  | @puts d' _ hd' hu =>
    simp only [Script.afterCall, Prod.mk.injEq] at hr
    obtain ⟨rfl, rfl⟩ := hr
    -- the write is begun now and puts its bytes in the pipe
    have hnone : x.writer.call = none ∧ d' = d := by
      rcases hcall with ⟨hnone, h⟩ | hsome
      · cases h
        exact ⟨hnone, rfl⟩
      · rcases hcur_call _ hsome with h | ⟨h, -⟩ <;> cases h
    obtain ⟨hnone, rfl⟩ := hnone
    obtain ⟨hA, hL⟩ := hf.idle_open hnone hu
    have hlog : ({ s₀ with call := some (.drain d'.length) } : Script).log writerOps =
        x.writer.log writerOps := Script.log_eq hres
    have hcur' : writerOps[s₀.results.length]? = some (.write d') := by rw [hres]; exact hcur
    refine ⟨ht, fun c' h => ⟨d', hcur', .inl (by simpa using h.symm)⟩, ?_, A, L,
      ⟨?_, fun d'' hd'' _ => ⟨hL, 0, ?_⟩, fun h => by simp at h, fun h => by simp at h⟩⟩
    · rw [hlog]
      exact hs.wrote
    · show x.reader.received ++ L = _ ++ A
      rw [hlog]
      exact hf.balance
    · have hdd : d'' = d' := by
        have h' : writerOps[s₀.results.length]? = some (.write d'') := hd''
        rw [hcur', Option.some.injEq, Op.write.injEq] at h'
        exact h'.symm
      subst hdd
      exact ⟨by simp [hA], by simp⟩
  | @drained n _ hp =>
    simp only [Script.afterCall, Prod.mk.injEq] at hr
    obtain ⟨rfl, rfl⟩ := hr
    -- the write in progress drained: all its bytes were taken
    have hsome : x.writer.call = some (.drain d.length) ∧ n = d.length := by
      rcases hcall with ⟨-, h⟩ | hsome
      · cases h
      · rcases hcur_call _ hsome with h | ⟨h, -⟩ <;> cases h
        exact ⟨hsome, rfl⟩
    obtain ⟨hsome, rfl⟩ := hsome
    obtain ⟨hL, j, hA, hpend⟩ := hf.draining d hcur hsome
    have hAd : A = d := by
      rw [hp, eq_comm, List.drop_eq_nil_iff] at hpend
      rw [hA, List.take_of_length_le hpend]
    subst hL hAd
    refine ⟨ht, fun c' h => by simp [Script.record] at h, ?_, [], [],
      ⟨?_, fun d' _ h => by simp [Script.record] at h, fun h => by simp [Script.record] at h,
        fun _ => ⟨.inl rfl, .inl rfl⟩⟩⟩
    · rw [hrecord]
      exact wrote_of_append hs.wrote fun n h => ⟨A, rfl, by simpa [Script.outcomeOf] using h.symm⟩
    · show x.reader.received ++ [] = delivered ((s₀.record _).log writerOps) ++ []
      rw [hrecord, delivered_append, List.append_nil]
      simpa [Script.outcomeOf, Op.delivered] using hf.balance
  | @abandoned n _ hp hc =>
    simp only [Script.afterCall, Prod.mk.injEq] at hr
    obtain ⟨rfl, rfl⟩ := hr
    -- the write in progress failed: the reader end was closed, since the writer's is open
    have hsome : x.writer.call = some (.drain d.length) := by
      rcases hcall with ⟨-, h⟩ | hsome
      · cases h
      · rcases hcur_call _ hsome with h | ⟨h, -⟩ <;> cases h
        exact hsome
    obtain ⟨hL, j, hA, -⟩ := hf.draining d hcur hsome
    have hrc : x.pipe.reader.isClosed = true := by
      have hwo := hx.writerOpen (by simp [hsome])
      simpa [hwo, EndState.isClosed] using hc
    refine ⟨ht, fun c' h => by simp [Script.record] at h, ?_, A, L,
      ⟨?_, fun d' _ h => by simp [Script.record] at h, fun h => by simp [Script.record] at h,
        fun _ => ⟨.inr ⟨d, (({ x.pipe with pending := [] } : Pipe).unwritable.getD .brokenPipe), ?_,
          hA ▸ List.take_prefix j d, hrc⟩, .inl hL⟩⟩⟩
    · rw [hrecord]
      exact wrote_of_append hs.wrote fun n h => by simp [Script.outcomeOf] at h
    · show x.reader.received ++ L = delivered ((s₀.record _).log writerOps) ++ A
      rw [hrecord, delivered_append]
      simpa [Script.outcomeOf, Op.delivered] using hf.balance
    · rw [hrecord]
      exact List.mem_append_right _ (List.mem_singleton.mpr rfl)

theorem closeWriter_keeps (q : Pipe) (e : Option Failure) :
    (q.closeWriter e).reader = q.reader ∧
      (q.writer.isClosed = true → (q.closeWriter e).writer = q.writer) :=
  ⟨rfl, fun h => by rw [Pipe.closeWriter_of_closed h]⟩

/-- A step of the writer between writes that hands over no bytes keeps the invariant. -/
theorem Streams.writer_quiet_step (hs : Streams writerOps x) {w : Script} {p : Pipe}
    (ht : w.Tracks writerOps) (hc : x.writer.call = none) (hcw : w.call = none)
    (hlog : ∃ l, w.log writerOps = x.writer.log writerOps ++ l ∧ delivered l = [] ∧
      ∀ op n, (op, Outcome.wrote n) ∉ l)
    (hp : p.reader = x.pipe.reader ∧ (x.pipe.writer.isClosed = true → p.writer = x.pipe.writer)) :
    Streams writerOps ⟨w, x.reader, p⟩ := by
  obtain ⟨A, L, hf⟩ := hs.flow
  obtain ⟨l, hl, hdl, hwl⟩ := hlog
  refine ⟨ht, fun c h => by simp [hcw] at h, fun op n hmem => ?_, A, L,
    hf.writer_quiet (.inl hc) hcw ⟨l, hl, hdl⟩ hp⟩
  rw [hl] at hmem
  rcases List.mem_append.mp hmem with hmem | hmem
  · exact hs.wrote op n hmem
  · exact (hwl op n hmem).elim

/-- Every step of the writer keeps the invariant: a pass of its write, the close of its end
    once its operations are done, or the beginning of an operation. -/
theorem Streams.writer_step (hx : Coherent x) (hs : Streams writerOps x) {w : Script} {p : Pipe}
    (h : x.writer.step x.pipe = some (w, p)) : Streams writerOps ⟨w, x.reader, p⟩ := by
  have ht := hs.tracks.step h
  rcases Script.step_cases h with ⟨c, hc, hen, hr⟩ | ⟨hc, hops, rfl, rfl⟩ |
    ⟨op, rest, hc, hops, hr⟩
  · obtain ⟨d, hcur, -⟩ := hs.calls c hc
    exact hs.writer_pass hx hcur rfl (.inr hc) (writerPass_of_enabled (hx.writerCall c hc) hen)
      hr ht
  · rw [closeOwn_writer hx.writerSide]
    exact hs.writer_quiet_step ht hc hc ⟨[], by simp [Script.log], rfl, by simp⟩
      (closeWriter_keeps _ _)
  · have hcur := hs.tracks.current hc hops
    -- a record of an operation that is no write of the writer's
    have hother : ∀ o, (({ x.writer with ops := rest } : Script).record o).log writerOps =
        x.writer.log writerOps ++ [(op, o)] := fun o => Script.log_record hcur rfl
    cases op with
    | write d =>
      rw [Script.begin_write_writer (s := { x.writer with ops := rest }) hx.writerSide] at hr
      have hres : ({ x.writer with ops := rest } : Script).results = x.writer.results := rfl
      exact hs.writer_pass hx hcur hres (.inl ⟨hc, rfl⟩) (writerPass_of_enabled rfl rfl) hr ht
    | read size =>
      simp only [Script.begin, hx.writerSide, Prod.mk.injEq] at hr
      obtain ⟨rfl, rfl⟩ := hr
      exact hs.writer_quiet_step ht hc rfl ⟨_, hother _, rfl, by simp⟩ ⟨rfl, fun _ => rfl⟩
    | close =>
      simp only [Script.begin, Prod.mk.injEq] at hr
      obtain ⟨rfl, rfl⟩ := hr
      rw [closeOwn_writer (s := { x.writer with ops := rest }) hx.writerSide]
      exact hs.writer_quiet_step ht hc rfl ⟨_, hother _, rfl, by simp⟩ (closeWriter_keeps _ _)
    | closeWithError e =>
      simp only [Script.begin, Prod.mk.injEq] at hr
      obtain ⟨rfl, rfl⟩ := hr
      rw [closeOwn_writer (s := { x.writer with ops := rest }) hx.writerSide]
      exact hs.writer_quiet_step ht hc rfl ⟨_, hother _, rfl, by simp⟩ (closeWriter_keeps _ _)
    | isClosed =>
      simp only [Script.begin, Prod.mk.injEq] at hr
      obtain ⟨rfl, rfl⟩ := hr
      exact hs.writer_quiet_step ht hc rfl ⟨_, hother _, rfl, by simp⟩ ⟨rfl, fun _ => rfl⟩
    | raise e =>
      simp only [Script.begin, Prod.mk.injEq] at hr
      obtain ⟨rfl, rfl⟩ := hr
      rw [closeOwn_writer (s := { x.writer with ops := rest }) hx.writerSide]
      exact hs.writer_quiet_step ht hc rfl ⟨_, hother _, rfl, by simp⟩ (closeWriter_keeps _ _)

theorem closeReader_keeps (q : Pipe) (e : Option Failure) :
    (q.closeReader e).pending = q.pending ∧ (q.closeReader e).writer = q.writer ∧
      (q.reader.isClosed = true → (q.closeReader e).reader.isClosed = true) :=
  ⟨rfl, rfl, fun _ => by simp [Pipe.closeReader]⟩

theorem wake_keeps (w : Bool) (q : Pipe) :
    (Call.wake w q).pending = q.pending ∧ (Call.wake w q).writer = q.writer ∧
      (q.reader.isClosed = true → (Call.wake w q).reader.isClosed = true) :=
  ⟨by simp, by simp, fun h => by simpa using h⟩

/-- A step of the reader that takes no bytes and keeps what it gathered keeps the invariant. -/
theorem Streams.reader_quiet_step (hs : Streams writerOps x) {r : Script} {p : Pipe}
    (hrec : r.received = x.reader.received) (hres : ∀ o ∈ x.reader.results, o ∈ r.results)
    (hp : p.pending = x.pipe.pending ∧ p.writer = x.pipe.writer ∧
      (x.pipe.reader.isClosed = true → p.reader.isClosed = true)) :
    Streams writerOps ⟨x.writer, r, p⟩ :=
  let ⟨A, L, hf⟩ := hs.flow
  ⟨hs.tracks, hs.calls, hs.wrote, A, L, hf.reader_quiet hrec hres hp⟩

/-- Bytes pending belong to the write in progress, whose start reads have taken. -/
theorem Streams.pending_of_draining (hx : Coherent x) (hs : Streams writerOps x) {A L : List UInt8}
    (hf : Flow writerOps x A L) (hp : x.pipe.pending ≠ []) :
    ∃ d j, writerOps[x.writer.results.length]? = some (.write d) ∧
      x.writer.call = some (.drain d.length) ∧ L = [] ∧ A = d.take j ∧ x.pipe.pending = d.drop j := by
  obtain ⟨n, hn⟩ := hx.inFlight hp
  obtain ⟨d, hcur, hcd⟩ := hs.calls _ hn
  have hnd : n = d.length := by
    rcases hcd with h | ⟨h, -⟩ <;> cases h
    rfl
  subst hnd
  obtain ⟨hL, j, hA, hpend⟩ := hf.draining d hcur hn
  exact ⟨d, j, hcur, hn, hL, hA, hpend⟩

/-- Reads take up to `k` more bytes of the write in progress, as gathered or returned bytes: the
    flow goes on with them taken. -/
theorem Flow.reader_takes {A L : List UInt8} (hf : Flow writerOps x A L) {d : List UInt8} {j : Nat}
    (hcur : writerOps[x.writer.results.length]? = some (.write d))
    (hcall : x.writer.call = some (.drain d.length)) (hL : L = []) (hA : A = d.take j)
    {r : Script} {p : Pipe} {k : Nat}
    (hrec : r.received = x.reader.received ++ (d.drop j).take k)
    (hp' : p.pending = d.drop (j + k)) :
    Flow writerOps ⟨x.writer, r, p⟩ (d.take (j + k)) L := by
  refine ⟨?_, fun d' hd' _ => ?_, fun h => by simp [hcall] at h, fun h => by simp [hcall] at h⟩
  · show r.received ++ L = delivered (x.writer.log writerOps) ++ d.take (j + k)
    rw [hrec, List.take_add, ← List.append_assoc, ← hA, ← hf.balance, hL]
    simp
  · have h' : writerOps[x.writer.results.length]? = some (.write d') := hd'
    rw [hcur, Option.some.injEq, Op.write.injEq] at h'
    subst h'
    exact ⟨hL, j + k, rfl, hp'⟩

/-- One pass of the reader's call, begun now or in progress, keeps the invariant.  The cases are
    the kinds of pass; only a pass that takes bytes or loses what it gathered moves the flow. -/
theorem Streams.reader_pass (hx : Coherent x) (hs : Streams writerOps x) {s₀ : Script} {c : Call}
    (hres : s₀.results = x.reader.results)
    (hrec : x.reader.received = x.reader.results.flatMap Outcome.chunk ++ c.gathered)
    (hopen : c.gathered ≠ [] → x.pipe.reader = .open)
    {rc : CallStep} (hpass : ReaderPass c x.pipe rc) {r : Script} {p : Pipe}
    (hr : s₀.afterCall rc = (r, p)) : Streams writerOps ⟨x.writer, r, p⟩ := by
  obtain ⟨A, L, hf⟩ := hs.flow
  have hmono : ∀ o, ∀ o' ∈ x.reader.results, o' ∈ (s₀.record o).results := fun o o' h => by
    simp [Script.record, hres, h]
  cases hpass with
  | refused _ hrc =>
    simp only [Script.afterCall, Prod.mk.injEq] at hr
    obtain ⟨rfl, rfl⟩ := hr
    -- the reader end is closed, so the read has gathered nothing
    have hg : c.gathered = [] := by
      by_cases hg : c.gathered = []
      · exact hg
      · simp [hopen hg, EndState.isClosed] at hrc
    refine hs.reader_quiet_step ?_ (hmono _) (wake_keeps _ _)
    rw [Script.received_record, hrec, hg, hres]
    rfl
  | @takes k w _ hro hp =>
    simp only [Script.afterCall, Prod.mk.injEq] at hr
    obtain ⟨rfl, rfl⟩ := hr
    obtain ⟨d, j, hcur, hcall, hL, hA, hpend⟩ := hs.pending_of_draining hx hf hp
    refine ⟨hs.tracks, hs.calls, hs.wrote, _, L,
      hf.reader_takes hcur hcall hL hA (k := k) ?_ ?_⟩
    · rw [Script.received_record, hrec, hres, hpend]
      simp [Outcome.chunk, Call.gathered, Script.outcomeOf]
    · simp [hpend, List.drop_drop]
  | unusable hro hp =>
    simp only [Script.afterCall, Prod.mk.injEq] at hr
    obtain ⟨rfl, rfl⟩ := hr
    refine hs.reader_quiet_step ?_ (hmono _) (wake_keeps _ _)
    rw [Script.received_record, hrec, hres]
    rfl
  | @takesAll g w _ hro hp =>
    simp only [Script.afterCall, Prod.mk.injEq] at hr
    obtain ⟨rfl, rfl⟩ := hr
    obtain ⟨d, j, hcur, hcall, hL, hA, hpend⟩ := hs.pending_of_draining hx hf hp
    refine ⟨hs.tracks, hs.calls, hs.wrote, _, L,
      hf.reader_takes hcur hcall hL hA (k := (d.drop j).length) ?_ ?_⟩
    · rw [Script.received_call, hrec, hres, hpend, List.take_of_length_le (Nat.le_refl _)]
      simp [Call.gathered]
    · exact (List.drop_eq_nil_of_le (by rw [List.length_drop]; omega)).symm
  | @ends _ _ e _ hro hp hw =>
    -- the writer end is closed, so the writer makes no call
    have hwc : x.writer.call = none := by
      by_cases hwc : x.writer.call = none
      · exact hwc
      · simp [hx.writerOpen hwc] at hw
    cases e with
    | none =>
      simp only [Script.afterCall, Call.ending, Prod.mk.injEq] at hr
      obtain ⟨rfl, rfl⟩ := hr
      refine hs.reader_quiet_step ?_ (hmono _) (wake_keeps _ _)
      rw [Script.received_record, hrec, hres]
      rfl
    | some e =>
      simp only [Script.afterCall, Call.ending, Prod.mk.injEq] at hr
      obtain ⟨rfl, rfl⟩ := hr
      -- what the read gathered is lost
      obtain ⟨hA, -⟩ := hf.idle hwc
      have hwake := wake_keeps c.waiting x.pipe
      refine ⟨hs.tracks, hs.calls, hs.wrote, A, c.gathered ++ L,
        ⟨?_, fun d _ h => by simp [hwc] at h, fun h => by simp [hwc] at h, fun _ => ⟨?_, ?_⟩⟩⟩
      · show (s₀.record _).received ++ (c.gathered ++ L) = _
        rw [Script.received_record, hres, ← hf.balance, hrec]
        simp [Script.outcomeOf, Outcome.chunk]
      · rcases hA with hA | ⟨d, e', hmem, hpre, hclosed⟩
        · exact .inl hA
        · exact .inr ⟨d, e', hmem, hpre, hwake.2.2 hclosed⟩
      · refine .inr ⟨e, hwake.2.1.trans hw, ?_⟩
        simp [Script.record, Script.outcomeOf]
  | waits _ hro hp hw =>
    simp only [Script.afterCall, Prod.mk.injEq] at hr
    obtain ⟨rfl, rfl⟩ := hr
    refine hs.reader_quiet_step ?_ (fun o h => by simp [hres, h]) ⟨by simp, by simp, fun h => ?_⟩
    · rw [Script.received_call, Call.gathered_parked, hrec, hres]
    · simpa using h

/-- A step of the reader between reads that records an outcome without bytes keeps the
    invariant. -/
theorem Streams.reader_records (hs : Streams writerOps x) {r : Script} {p : Pipe} {o : Outcome}
    (hc : x.reader.call = none) (hres : r.results = x.reader.results ++ [o]) (hrc : r.call = none)
    (ho : o.chunk = [])
    (hp : p.pending = x.pipe.pending ∧ p.writer = x.pipe.writer ∧
      (x.pipe.reader.isClosed = true → p.reader.isClosed = true)) :
    Streams writerOps ⟨x.writer, r, p⟩ :=
  hs.reader_quiet_step (by simp [Script.received, hres, hrc, hc, ho])
    (fun o' h => by simp [hres, h]) hp

/-- Every step of the reader keeps the invariant: a pass of its read, the close of its end once
    its operations are done, or the beginning of an operation. -/
theorem Streams.reader_step (hx : Coherent x) (hs : Streams writerOps x) {r : Script} {p : Pipe}
    (h : x.reader.step x.pipe = some (r, p)) : Streams writerOps ⟨x.writer, r, p⟩ := by
  rcases Script.step_cases h with ⟨c, hc, -, hr⟩ | ⟨hc, hops, rfl, rfl⟩ |
    ⟨op, rest, hc, hops, hr⟩
  · exact hs.reader_pass hx rfl (by simp [Script.received, hc])
      (fun _ => hx.readerOpen (by simp [hc])) (readerPass_of_side (hx.readerCall c hc)) hr
  · rw [closeOwn_reader hx.readerSide]
    exact hs.reader_quiet_step rfl (fun o h => h) (closeReader_keeps _ _)
  · have hres : ({ x.reader with ops := rest } : Script).results = x.reader.results := rfl
    cases op with
    | read size =>
      rcases Script.begin_read { x.reader with ops := rest } hx.readerSide size with
        ⟨c, hcs, -, hg, hq⟩ | ⟨o, ho, hq⟩
      · rw [hq] at hr
        exact hs.reader_pass hx hres (by simp [Script.received, hc, hg])
          (fun h => (h hg).elim) (readerPass_of_side hcs) hr
      · rw [hq, Prod.mk.injEq] at hr
        obtain ⟨rfl, rfl⟩ := hr
        have hchunk : o.chunk = [] := by
          rcases ho with rfl | ⟨e, rfl⟩ <;> rfl
        exact hs.reader_records hc rfl rfl hchunk ⟨rfl, rfl, id⟩
    | write d =>
      simp only [Script.begin, hx.readerSide, Prod.mk.injEq] at hr
      obtain ⟨rfl, rfl⟩ := hr
      exact hs.reader_records hc rfl rfl rfl ⟨rfl, rfl, id⟩
    | close =>
      simp only [Script.begin, Prod.mk.injEq] at hr
      obtain ⟨rfl, rfl⟩ := hr
      rw [closeOwn_reader (s := { x.reader with ops := rest }) hx.readerSide]
      exact hs.reader_records hc rfl rfl rfl (closeReader_keeps _ _)
    | closeWithError e =>
      simp only [Script.begin, Prod.mk.injEq] at hr
      obtain ⟨rfl, rfl⟩ := hr
      rw [closeOwn_reader (s := { x.reader with ops := rest }) hx.readerSide]
      exact hs.reader_records hc rfl rfl rfl (closeReader_keeps _ _)
    | isClosed =>
      simp only [Script.begin, Prod.mk.injEq] at hr
      obtain ⟨rfl, rfl⟩ := hr
      exact hs.reader_records hc rfl rfl rfl ⟨rfl, rfl, id⟩
    | raise e =>
      simp only [Script.begin, Prod.mk.injEq] at hr
      obtain ⟨rfl, rfl⟩ := hr
      rw [closeOwn_reader (s := { x.reader with ops := rest }) hx.readerSide]
      exact hs.reader_records hc rfl rfl rfl (closeReader_keeps _ _)

/-- The invariant holds of every state an interleaving reaches. -/
theorem Reachable.streams {readerOps : List Op} (h : Reachable writerOps readerOps x) :
    Streams writerOps x := by
  induction h with
  | refl => exact streams_start writerOps readerOps
  | @tail y z hy hstep ih =>
    have hcoh : Coherent y := Reachable.coherent hy
    cases hstep with
    | writer hw => exact ih.writer_step hcoh hw
    | reader hr => exact ih.reader_step hcoh hr

end

end Pair

end Tftp
