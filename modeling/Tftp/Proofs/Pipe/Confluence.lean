import Tftp.Proofs.Pipe.Steps

/-! # The interleavings of a pipe's threads all end alike

    Two steps of the same thread from one state are the same step.  A step of the writer and a
    step of the reader from one coherent state either commute or join after one more step on one
    side, at states of three kinds:

    * the writer puts bytes, or closes its end, while the reader is about to wait for bytes: the
      reader then takes the bytes, or ends, at once, or after waiting one round;
    * the writer is about to wait for a read of its write of no bytes while the reader is about
      to wait: the writer's write returns at once, or after one round;
    * the writer puts bytes, or waits for a read, while the reader closes its end: the write
      then fails at once, or once it notices the close.

    `Pair.Meet` says which of these ways two steps join.  So the steps are locally confluent on
    coherent states, every step lowers the measure of `Pair.weight`, and by Newman's lemma all
    interleavings from one state end in the same state. -/

namespace Tftp

theorem Script.afterCall_call (s : Script) (c : Option Call) (r : CallStep) :
    ({ s with call := c } : Script).afterCall r = s.afterCall r := by
  cases r <;> rfl

/-- A thread that made a call takes the call's pass as the thread it was before the call. -/
theorem Script.step_with_call {s₀ : Script} {c : Call} {q : Pipe} (hf : s₀.finished = false)
    (hen : c.enabled q = true) :
    ({ s₀ with call := some c } : Script).step q = some (s₀.afterCall (c.step q)) := by
  rw [@step_of_call { s₀ with call := some c } _ _ hf rfl hen, afterCall_call]

/-- A read that was about to wait, taking its pass after it waited and the count of waiting
    reads rose, does what it would have done at once. -/
theorem Call.step_parked {c : Call} (hc : c.side = .reader) (hw : c.waiting = false) (q : Pipe) :
    c.parked.step { q with waitingReads := q.waitingReads + 1 } = c.step q := by
  have hwake : wake true { q with waitingReads := q.waitingReads + 1 } = q := by
    simp [wake]
  cases c with
  | read cut w =>
    simp only [waiting] at hw
    subst hw
    simp only [parked, step]
    rw [hwake]
    rfl
  | readAll g w =>
    simp only [waiting] at hw
    subst hw
    simp only [parked, step]
    rw [hwake]
    rfl
  | _ => simp [side] at hc

theorem Call.enabled_of_reader_closed {c : Call} {p : Pipe} (hs : c.side = .reader)
    (h : p.reader.isClosed = true) : c.enabled p = true := by
  cases c with
  | read cut w => cases w <;> simp_all [enabled]
  | readAll g w => cases w <;> simp_all [enabled]
  | _ => simp [side] at hs

theorem Call.enabled_of_writer_closed {c : Call} {p : Pipe} (hs : c.side = .reader)
    (h : p.writer.isClosed = true) : c.enabled p = true := by
  cases c with
  | read cut w => cases w <;> simp_all [enabled]
  | readAll g w => cases w <;> simp_all [enabled]
  | _ => simp [side] at hs

theorem Call.enabled_of_pending {c : Call} {p : Pipe} (hs : c.side = .reader)
    (h : p.pending ≠ []) : c.enabled p = true := by
  cases c with
  | read cut w => cases w <;> simp_all [enabled]
  | readAll g w => cases w <;> simp_all [enabled]
  | _ => simp [side] at hs

/-- A read that can take its pass while nothing is pending and both ends are open does not wait
    yet. -/
theorem Call.waiting_eq_false {c : Call} {p : Pipe} (hs : c.side = .reader)
    (hen : c.enabled p = true) (hp : p.pending = []) (hw : p.writer = .open)
    (hr : p.reader = .open) : c.waiting = false := by
  cases c with
  | read cut w => cases w <;> simp_all [enabled, waiting, EndState.isClosed]
  | readAll g w => cases w <;> simp_all [enabled, waiting, EndState.isClosed]
  | _ => simp [side] at hs

/-- A writer's call that takes a pass of one of its kinds was able to take it. -/
theorem WriterPass.enabled {c : Call} {p : Pipe} {r : CallStep} (h : WriterPass c p r) :
    c.enabled p = true := by
  cases h with
  | refused hc hu => rcases hc with ⟨d, rfl⟩ | rfl <;> simp [Call.enabled, hu]
  | met hc _ hw => rcases hc with rfl | rfl <;> simp [Call.enabled, hw]
  | parks => rfl
  | puts => rfl
  | drained hp => simp [Call.enabled, hp]
  | abandoned _ hc => rcases hc with h | h <;> simp [Call.enabled, h]

namespace Pipe

theorem closeWriter_closeReader (p : Pipe) (e e' : Option Failure) :
    (p.closeReader e').closeWriter e = (p.closeWriter e).closeReader e' := rfl

theorem closeWriter_of_closed {p : Pipe} (h : p.writer.isClosed = true) (e : Option Failure) :
    p.closeWriter e = p := by
  obtain ⟨e₀, he⟩ := EndState.isClosed_eq_true.mp h
  cases p
  simp_all [closeWriter, EndState.close]

theorem closeReader_of_closed {p : Pipe} (h : p.reader.isClosed = true) (e : Option Failure) :
    p.closeReader e = p := by
  obtain ⟨e₀, he⟩ := EndState.isClosed_eq_true.mp h
  cases p
  simp_all [closeReader, EndState.close]

theorem unwritable_congr {p q : Pipe} (hw : p.writer = q.writer) (hr : p.reader = q.reader) :
    p.unwritable = q.unwritable := by
  unfold unwritable
  rw [hw, hr]

theorem unwritable_closeReader {p : Pipe} {e : Failure} (h : p.unwritable = some e)
    (e' : Option Failure) : (p.closeReader e').unwritable = some e := by
  cases hw : p.writer <;> cases hr : p.reader <;>
    simp_all [unwritable, closeReader, EndState.close]

theorem unwritable_isSome_of_reader {p : Pipe} (h : p.reader.isClosed = true) :
    ∃ e, p.unwritable = some e := by
  unfold unwritable
  split <;> simp_all [EndState.isClosed]

end Pipe

@[simp] theorem Call.wake_false (p : Pipe) : wake false p = p := rfl

@[simp] theorem unwritable_withWaiting (p : Pipe) (n : Nat) :
    ({ p with waitingReads := n } : Pipe).unwritable = p.unwritable := rfl

@[simp] theorem unwritable_withPending (p : Pipe) (d : List UInt8) :
    ({ p with pending := d } : Pipe).unwritable = p.unwritable := rfl

theorem Call.wake_drop (w : Bool) (p : Pipe) :
    wake w { p with pending := [] } = { wake w p with pending := [] } := by
  cases w <;> rfl

theorem Call.wake_closeWriter (w : Bool) (p : Pipe) (e : Option Failure) :
    wake w (p.closeWriter e) = (wake w p).closeWriter e := by
  cases w <;> rfl

namespace Pair

open Relation

variable {x : Pair}

theorem closeOwn_writer {s : Script} (hs : s.side = .writer) (e : Option Failure) (q : Pipe) :
    s.closeOwn e q = q.closeWriter e := by
  simp [Script.closeOwn, hs]

theorem closeOwn_reader {s : Script} (hs : s.side = .reader) (e : Option Failure) (q : Pipe) :
    s.closeOwn e q = q.closeReader e := by
  simp [Script.closeOwn, hs]

/-- How a step of the writer to `w` on the pipe `p₁` and a step of the reader to `r` on the pipe
    `p₂`, both from `x`, meet again: each thread takes on the other's pipe the step it took, or
    one of them, whose step went on with a call, takes one more step of that call after the
    other's step. -/
inductive Meet (x : Pair) (w r : Script) (p₁ p₂ : Pipe) : Prop
  | steps {q : Pipe} (hw : x.writer.step p₂ = some (w, q)) (hr : x.reader.step p₁ = some (r, q))
  | readerAfter {r' : Script} {p₃ q : Pipe} (hr₁ : x.reader.step p₁ = some (r', q))
      (hw : x.writer.step p₂ = some (w, p₃)) (hr₂ : r.step p₃ = some (r', q)) (hcall : r.call ≠ none)
  | writerAfter {w' : Script} {p₃ q : Pipe} (hw₁ : x.writer.step p₂ = some (w', q))
      (hr : x.reader.step p₁ = some (r, p₃)) (hw₂ : w.step p₃ = some (w', q)) (hcall : w.call ≠ none)

/-- Two steps that meet join. -/
theorem Meet.join {w r : Script} {p₁ p₂ : Pipe} (h : Meet x w r p₁ p₂) :
    Join (ReflTransGen Step) ⟨w, x.reader, p₁⟩ ⟨x.writer, r, p₂⟩ := by
  cases h with
  | steps hw hr => exact ⟨_, .single (.reader hr), .single (.writer hw)⟩
  | readerAfter hr₁ hw hr₂ _ =>
    exact ⟨_, .single (.reader hr₁), .head (.writer hw) (.single (.reader hr₂))⟩
  | writerAfter hw₁ hr hw₂ _ =>
    exact ⟨_, .head (.reader hr) (.single (.writer hw₂)), .single (.writer hw₁)⟩

/-- The writer's call, which steps on every pipe where it is enabled, takes on the pipe `q` the
    pass it takes there. -/
theorem writer_step_of_pass {s₀ : Script} {c : Call} {q : Pipe} {r : CallStep}
    (hW : ∀ q, c.enabled q = true → x.writer.step q = some (s₀.afterCall (c.step q)))
    (hq : WriterPass c q r) : x.writer.step q = some (s₀.afterCall r) := by
  rw [hW _ hq.enabled, hq.step_eq]

/-- A step of the reader leaves the writer end as it was. -/
theorem Coherent.reader_keeps_writer {r : Script} {p : Pipe} (hx : Coherent x)
    (h : x.reader.step x.pipe = some (r, p)) : p.writer = x.pipe.writer := by
  cases Script.uses_of_step h with
  | own => rfl
  | shut e => simp [Script.closeOwn, hx.readerSide, Pipe.closeReader]
  | call s₀ c hen hfrom hs₀ _ hr =>
    have hside : c.side = .reader := by
      rcases hfrom with ⟨_, hcs, _⟩ | ⟨hc, _⟩
      · exact hcs.trans hx.readerSide
      · exact hx.readerCall c hc
    have hpass := readerPass_of_side (p := x.pipe) hside
    generalize c.step x.pipe = r' at hpass hr
    cases hpass <;> simp only [Script.afterCall, Prod.mk.injEq] at hr <;> rw [← hr.2] <;> simp

/-- A step of the writer leaves the reader end and the count of waiting reads as they were. -/
theorem Coherent.writer_keeps_reader {w : Script} {p : Pipe} (hx : Coherent x)
    (h : x.writer.step x.pipe = some (w, p)) :
    p.reader = x.pipe.reader ∧ p.waitingReads = x.pipe.waitingReads := by
  cases Script.uses_of_step h with
  | own => exact ⟨rfl, rfl⟩
  | shut e => simp [Script.closeOwn, hx.writerSide, Pipe.closeWriter]
  | call s₀ c hen hfrom hs₀ _ hr =>
    have hside : c.side = .writer := by
      rcases hfrom with ⟨_, hcs, _⟩ | ⟨hc, _⟩
      · exact hcs.trans hx.writerSide
      · exact hx.writerCall c hc
    have hpass := writerPass_of_enabled hside hen
    generalize c.step x.pipe = r' at hpass hr
    cases hpass <;> simp only [Script.afterCall, Prod.mk.injEq] at hr <;> rw [← hr.2] <;>
      exact ⟨rfl, rfl⟩

/-- The writer closes its end while the reader makes a pass of a read: they commute, but for a
    read about to wait, which ends at once after the close, or after waiting one round. -/
theorem Coherent.join_shut_call (hx : Coherent x) {w r : Script} {p₂ : Pipe}
    (e : Option Failure)
    (hws : x.writer.call = none)
    (hW : ∀ q, x.writer.step q = some (w, x.writer.closeOwn e q))
    {s₀ : Script} {c : Call} (hen : c.enabled x.pipe = true)
    (hfrom : (x.reader.call = none ∧ c.side = x.reader.side ∧ c.waiting = false ∧
      s₀.ops.length < x.reader.ops.length) ∨ (x.reader.call = some c ∧ s₀ = x.reader))
    (hs₀ : s₀.finished = false)
    (hR : ∀ q, c.enabled q = true → x.reader.step q = some (s₀.afterCall (c.step q)))
    (hrr : s₀.afterCall (c.step x.pipe) = (r, p₂)) :
    Meet x w r (x.writer.closeOwn e x.pipe) p₂ := by
  simp only [closeOwn_writer hx.writerSide] at hW ⊢
  have hside : c.side = .reader := by
    rcases hfrom with ⟨_, hcs, _⟩ | ⟨hc, _⟩
    · exact hcs.trans hx.readerSide
    · exact hx.readerCall c hc
  -- the writer makes no call, so nothing is pending
  have hpend : x.pipe.pending = [] := hx.pending_eq_nil (by simp [hws])
  have hpass := readerPass_of_side (p := x.pipe) hside
  generalize hcs : c.step x.pipe = rc at hpass hrr
  cases hpass with
  | refused _ hrc =>
    simp only [Script.afterCall, Prod.mk.injEq] at hrr
    obtain ⟨rfl, rfl⟩ := hrr
    have hq : (x.pipe.closeWriter e).reader.isClosed = true := hrc
    have hstep := hR _ (Call.enabled_of_reader_closed hside hq)
    rw [(ReaderPass.refused hside hq).step_eq] at hstep
    refine Meet.steps (hW _) ?_
    rw [hstep, Call.wake_closeWriter]
    rfl
  | takes _ hp => exact absurd hpend hp
  | unusable _ hp => exact absurd hpend hp
  | takesAll _ hp => exact absurd hpend hp
  | ends _ _ _ hwc =>
    -- the writer end is closed already, so closing it changes nothing
    have hclosed : x.pipe.writer.isClosed = true := by simp [hwc, EndState.isClosed]
    simp only [Script.afterCall, Prod.mk.injEq] at hrr
    obtain ⟨rfl, rfl⟩ := hrr
    have hW' := hW (Call.wake c.waiting x.pipe)
    rw [Pipe.closeWriter_of_closed (by simpa using hclosed)] at hW'
    rw [Pipe.closeWriter_of_closed hclosed]
    refine Meet.steps hW' ?_
    rw [hR _ hen, hcs]
    rfl
  | waits _ hro hp hwo =>
    have hnw := Call.waiting_eq_false hside hen hp hwo hro
    simp only [Script.afterCall, Prod.mk.injEq] at hrr
    obtain ⟨rfl, rfl⟩ := hrr
    -- after the close the read ends at once; after waiting one round it ends the same way
    have hq : c.enabled (x.pipe.closeWriter e) = true := Call.enabled_of_not_waiting hside hnw
    refine .readerAfter (hR _ hq) (hW _) ?_ (by simp)
    have hen' : c.parked.enabled (Pipe.closeWriter e
        { Call.wake c.waiting x.pipe with
          waitingReads := (Call.wake c.waiting x.pipe).waitingReads + 1 }) = true :=
      Call.enabled_of_writer_closed (Call.side_parked hside) (by simp [Pipe.closeWriter])
    rw [Script.step_with_call hs₀ hen']
    simp only [hnw]
    exact congrArg (fun r => some (s₀.afterCall r))
      (Call.step_parked hside hnw (x.pipe.closeWriter e))

/-- While bytes are pending and the reader end is open, the writer drains them and waits. -/
theorem Coherent.writer_blocked (hx : Coherent x) (hp : x.pipe.pending ≠ [])
    (hro : x.pipe.reader = .open) : x.writer.step x.pipe = none := by
  obtain ⟨n, hn⟩ := hx.inFlight hp
  have hwo := hx.writerOpen (by simp [hn])
  have hen : (Call.drain n).enabled x.pipe = false := by
    simp [Call.enabled, hp, hro, hwo, EndState.isClosed]
  cases hf : x.writer.finished
  · simp [Script.step, hf, hn, hen]
  · simp [Script.step, hf]

/-- The reader closes its end while the writer makes a pass of a write: they commute, but for
    a write of some bytes, or of none, about to wait, which fails at once after the close, or
    once it notices the close. -/
theorem Coherent.join_call_shut (hx : Coherent x) {w r : Script} {p₁ : Pipe}
    (e' : Option Failure)
    (hrs : x.reader.call = none)
    (hR : ∀ q, x.reader.step q = some (r, x.reader.closeOwn e' q))
    {s₀ : Script} {c : Call} (hen : c.enabled x.pipe = true)
    (hfrom : (x.writer.call = none ∧ c.side = x.writer.side ∧ c.waiting = false ∧
      s₀.ops.length < x.writer.ops.length) ∨ (x.writer.call = some c ∧ s₀ = x.writer))
    (hs₀ : s₀.finished = false)
    (hW : ∀ q, c.enabled q = true → x.writer.step q = some (s₀.afterCall (c.step q)))
    (hwr : s₀.afterCall (c.step x.pipe) = (w, p₁)) :
    Meet x w r p₁ (x.reader.closeOwn e' x.pipe) := by
  simp only [closeOwn_reader hx.readerSide] at hR ⊢
  have hside : c.side = .writer := by
    rcases hfrom with ⟨_, hcs, _⟩ | ⟨hc, _⟩
    · exact hcs.trans hx.writerSide
    · exact hx.writerCall c hc
  -- nothing is pending unless the writer drains
  have hpend : (∀ n, c ≠ .drain n) → x.pipe.pending = [] := by
    intro hc
    apply hx.pending_eq_nil
    intro n hn
    rcases hfrom with ⟨hnone, _⟩ | ⟨hsome, _⟩
    · simp [hnone] at hn
    · exact hc n (Option.some.inj (hsome.symm.trans hn))
  have hpass := writerPass_of_enabled hside hen
  generalize hcs : c.step x.pipe = rc at hpass hwr
  cases hpass with
  | refused hc hu =>
    simp only [Script.afterCall, Prod.mk.injEq] at hwr
    obtain ⟨rfl, rfl⟩ := hwr
    have hq := WriterPass.refused hc (Pipe.unwritable_closeReader hu e')
    exact Meet.steps (writer_step_of_pass hW hq) (hR _)
  | met _ _ hw =>
    -- a read waits, so the reader makes a call and cannot close its end
    have := hx.waitingCount
    simp [hrs] at this
    omega
  | parks hu hw =>
    simp only [Script.afterCall, Prod.mk.injEq] at hwr
    obtain ⟨rfl, rfl⟩ := hwr
    -- after the close the write of no bytes fails, at once or once it notices the close
    have hclosed : (x.pipe.closeReader e').reader.isClosed = true := by simp [Pipe.closeReader]
    obtain ⟨e₁, he₁⟩ := Pipe.unwritable_isSome_of_reader hclosed
    have hq := WriterPass.refused (.inl ⟨[], rfl⟩) he₁
    have hwait := WriterPass.refused (.inr rfl) he₁
    have hnow : x.writer.step (x.pipe.closeReader e') =
        some (s₀.afterCall (.returns (.error e₁) (x.pipe.closeReader e'))) :=
      writer_step_of_pass hW hq
    have hlater : ({ s₀ with call := some .awaitRead } : Script).step (x.pipe.closeReader e') =
        some (s₀.afterCall (.returns (.error e₁) (x.pipe.closeReader e'))) := by
      rw [Script.step_with_call hs₀ hwait.enabled, hwait.step_eq]
    exact .writerAfter hnow (hR _) hlater (by simp)
  | @puts d _ hd hu =>
    simp only [Script.afterCall, Prod.mk.injEq] at hwr
    obtain ⟨rfl, rfl⟩ := hwr
    have hnil := hpend (by simp)
    -- after the close the write fails, at once or once it notices the close, dropping its bytes
    have hclosed : (x.pipe.closeReader e').reader.isClosed = true := by simp [Pipe.closeReader]
    obtain ⟨e₁, he₁⟩ := Pipe.unwritable_isSome_of_reader hclosed
    have hq : WriterPass (.write d) (x.pipe.closeReader e') _ := .refused (.inl ⟨d, rfl⟩) he₁
    have hdrop :
        WriterPass (.drain d.length) (({ x.pipe with pending := d } : Pipe).closeReader e') _ :=
      .abandoned (by simpa [Pipe.closeReader] using hd) (.inl (by simp [Pipe.closeReader]))
    -- dropping the bytes leaves the pipe as the close alone left it
    have hrest : ({ ({ x.pipe with pending := d } : Pipe).closeReader e' with pending := [] } :
        Pipe) = x.pipe.closeReader e' := by
      cases hp : x.pipe
      simp_all [Pipe.closeReader]
    have hnow : x.writer.step (x.pipe.closeReader e') =
        some (s₀.afterCall (.returns (.error e₁) (x.pipe.closeReader e'))) :=
      writer_step_of_pass hW hq
    have hlater : ({ s₀ with call := some (.drain d.length) } : Script).step
        (({ x.pipe with pending := d } : Pipe).closeReader e') =
        some (s₀.afterCall (.returns (.error e₁) (x.pipe.closeReader e'))) := by
      rw [Script.step_with_call hs₀ hdrop.enabled, hdrop.step_eq, hrest, he₁]
      rfl
    exact .writerAfter hnow (hR _) hlater (by simp)
  | @drained n _ hp =>
    simp only [Script.afterCall, Prod.mk.injEq] at hwr
    obtain ⟨rfl, rfl⟩ := hwr
    have hq : WriterPass (.drain n) (x.pipe.closeReader e') _ := .drained hp
    exact Meet.steps (writer_step_of_pass hW hq) (hR _)
  | abandoned hp hc =>
    simp only [Script.afterCall, Prod.mk.injEq] at hwr
    obtain ⟨rfl, rfl⟩ := hwr
    -- the writer drains, so its end is open and the reader end is the closed one
    have hwo : x.pipe.writer = .open := by
      rcases hfrom with ⟨hnone, _⟩ | ⟨hsome, _⟩
      · exact absurd (hx.pending_eq_nil (by simp [hnone])) hp
      · exact hx.writerOpen (by simp [hsome])
    have hrc : x.pipe.reader.isClosed = true := by
      rcases hc with h | h
      · exact h
      · simp [hwo, EndState.isClosed] at h
    rw [Pipe.closeReader_of_closed hrc]
    have hR' := hR { x.pipe with pending := [] }
    rw [Pipe.closeReader_of_closed (by simpa using hrc)] at hR'
    refine Meet.steps ?_ hR'
    rw [hW _ hen, hcs]
    rfl

/-- Both threads make a pass of a call: they commute, but for a write of some bytes, or of none,
    while the reader is about to wait: the read then takes the bytes at once or after waiting one
    round, and the write of no bytes returns once the read waits, at once or after one round. -/
theorem Coherent.join_calls (hx : Coherent x) {w r : Script} {p₁ p₂ : Pipe}
    (hw : x.writer.step x.pipe = some (w, p₁)) (hr : x.reader.step x.pipe = some (r, p₂))
    {sw : Script} {cw : Call} (henw : cw.enabled x.pipe = true)
    (hfromw : (x.writer.call = none ∧ cw.side = x.writer.side ∧ cw.waiting = false ∧
      sw.ops.length < x.writer.ops.length) ∨ (x.writer.call = some cw ∧ sw = x.writer))
    (hsw : sw.finished = false)
    (hW : ∀ q, cw.enabled q = true → x.writer.step q = some (sw.afterCall (cw.step q)))
    (hwr : sw.afterCall (cw.step x.pipe) = (w, p₁))
    {sr : Script} {cr : Call} (henr : cr.enabled x.pipe = true)
    (hfromr : (x.reader.call = none ∧ cr.side = x.reader.side ∧ cr.waiting = false ∧
      sr.ops.length < x.reader.ops.length) ∨ (x.reader.call = some cr ∧ sr = x.reader))
    (hsr : sr.finished = false)
    (hR : ∀ q, cr.enabled q = true → x.reader.step q = some (sr.afterCall (cr.step q)))
    (hrr : sr.afterCall (cr.step x.pipe) = (r, p₂)) :
    Meet x w r p₁ p₂ := by
  have hsidew : cw.side = .writer := by
    rcases hfromw with ⟨_, hcs, _⟩ | ⟨hc, _⟩
    · exact hcs.trans hx.writerSide
    · exact hx.writerCall cw hc
  have hsider : cr.side = .reader := by
    rcases hfromr with ⟨_, hcs, _⟩ | ⟨hc, _⟩
    · exact hcs.trans hx.readerSide
    · exact hx.readerCall cr hc
  have hpw := writerPass_of_enabled hsidew henw
  have hpr := readerPass_of_side (p := x.pipe) hsider
  generalize hcsw : cw.step x.pipe = rw at hpw hwr
  generalize hcsr : cr.step x.pipe = rr at hpr hrr
  -- a read that finds bytes to take leaves the writer blocked on them
  have hnotake : x.pipe.pending ≠ [] → x.pipe.reader = .open → False := fun hp hro => by
    rw [hx.writer_blocked hp hro] at hw
    cases hw
  cases hpr with
  | takes hro hp => exact (hnotake hp hro).elim
  | unusable hro hp => exact (hnotake hp hro).elim
  | takesAll hro hp => exact (hnotake hp hro).elim
  | refused _ hrc =>
    simp only [Script.afterCall, Prod.mk.injEq] at hrr
    obtain ⟨rfl, rfl⟩ := hrr
    -- the reader end is closed, so the writer cannot be putting bytes or meeting a read
    have hrclosed : x.pipe.unwritable ≠ none := fun hu => by
      simp [(Pipe.unwritable_eq_none.mp hu).2, EndState.isClosed] at hrc
    cases hpw with
    | refused hc hu =>
      simp only [Script.afterCall, Prod.mk.injEq] at hwr
      obtain ⟨rfl, rfl⟩ := hwr
      have hq : WriterPass cw (Call.wake cr.waiting x.pipe) _ := .refused hc (by simpa using hu)
      exact Meet.steps (writer_step_of_pass hW hq) hr
    | met _ hu _ => exact (hrclosed hu).elim
    | parks hu _ => exact (hrclosed hu).elim
    | puts _ hu => exact (hrclosed hu).elim
    | @drained n _ hp =>
      simp only [Script.afterCall, Prod.mk.injEq] at hwr
      obtain ⟨rfl, rfl⟩ := hwr
      have hq : WriterPass (.drain n) (Call.wake cr.waiting x.pipe) _ := .drained (by simpa using hp)
      exact Meet.steps (writer_step_of_pass hW hq) hr
    | @abandoned n _ hp hc =>
      simp only [Script.afterCall, Prod.mk.injEq] at hwr
      obtain ⟨rfl, rfl⟩ := hwr
      -- the drain drops the bytes and the read fails, in either order
      have hq : WriterPass (.drain n) (Call.wake cr.waiting x.pipe) _ :=
        .abandoned (by simpa using hp) (by simpa using hc)
      have hq' := ReaderPass.refused (p := { x.pipe with pending := [] }) hsider hrc
      refine Meet.steps (q := { Call.wake cr.waiting x.pipe with pending := [] }) ?_ ?_
      · rw [hW _ hq.enabled, hq.step_eq, @Pipe.unwritable_congr
          { Call.wake cr.waiting x.pipe with pending := [] } { x.pipe with pending := [] }
          (by simp) (by simp)]
        rfl
      · rw [hR _ (Call.enabled_of_reader_closed (p := { x.pipe with pending := [] }) hsider hrc),
          hq'.step_eq, Call.wake_drop]
        rfl
  | ends _ hro hp hwc =>
    simp only [Script.afterCall, Prod.mk.injEq] at hrr
    obtain ⟨rfl, rfl⟩ := hrr
    -- the writer end is closed, so the writer can only fail or have been drained
    have hwclosed : x.pipe.unwritable ≠ none := fun hu => by
      simp [(Pipe.unwritable_eq_none.mp hu).1] at hwc
    cases hpw with
    | refused hc hu =>
      simp only [Script.afterCall, Prod.mk.injEq] at hwr
      obtain ⟨rfl, rfl⟩ := hwr
      have hq : WriterPass cw (Call.wake cr.waiting x.pipe) _ := .refused hc (by simpa using hu)
      exact Meet.steps (writer_step_of_pass hW hq) hr
    | met _ hu _ => exact (hwclosed hu).elim
    | parks hu _ => exact (hwclosed hu).elim
    | puts _ hu => exact (hwclosed hu).elim
    | @drained n _ hp' =>
      simp only [Script.afterCall, Prod.mk.injEq] at hwr
      obtain ⟨rfl, rfl⟩ := hwr
      have hq : WriterPass (.drain n) (Call.wake cr.waiting x.pipe) _ :=
        .drained (by simpa using hp')
      exact Meet.steps (writer_step_of_pass hW hq) hr
    | abandoned hp' _ => exact (hp' hp).elim
  | waits _ hro hp hwo =>
    have hnw := Call.waiting_eq_false hsider henr hp hwo hro
    -- the read was not waiting, so no read waits
    have hzero : x.pipe.waitingReads = 0 := by
      have hcount := hx.waitingCount
      rcases hfromr with ⟨hnone, _⟩ | ⟨hsome, _⟩
      · simpa [hnone] using hcount
      · simpa [hsome, hnw] using hcount
    simp only [Script.afterCall, Prod.mk.injEq, hnw, Call.wake_false] at hrr
    obtain ⟨rfl, rfl⟩ := hrr
    cases hpw with
    | refused _ hu => simp [Pipe.unwritable, hwo, hro] at hu
    | met _ _ hw' => omega
    | parks hu _ =>
      simp only [Script.afterCall, Prod.mk.injEq] at hwr
      obtain ⟨rfl, rfl⟩ := hwr
      -- once the read waits, the write of no bytes returns, at once or after one round
      have hq : WriterPass (.write []) { x.pipe with waitingReads := x.pipe.waitingReads + 1 } _ :=
        .met (.inl rfl) (by simpa using hu) (by simp)
      have hq' : WriterPass .awaitRead { x.pipe with waitingReads := x.pipe.waitingReads + 1 } _ :=
        .met (.inr rfl) (by simpa using hu) (by simp)
      refine .writerAfter (writer_step_of_pass hW hq) hr ?_ (by simp)
      rw [Script.step_with_call hsw hq'.enabled, hq'.step_eq]
      rfl
    | @puts d _ hd hu =>
      simp only [Script.afterCall, Prod.mk.injEq] at hwr
      obtain ⟨rfl, rfl⟩ := hwr
      -- the read takes the bytes at once, or after waiting one round
      have hq : WriterPass (.write d) { x.pipe with waitingReads := x.pipe.waitingReads + 1 } _ :=
        .puts hd (by simpa using hu)
      have hnow := writer_step_of_pass hW hq
      simp only [Script.afterCall] at hnow
      have hen' := Call.enabled_of_pending (Call.side_parked hsider)
        (p := { x.pipe with pending := d, waitingReads := x.pipe.waitingReads + 1 }) hd
      refine .readerAfter
        (hR _ (Call.enabled_of_pending hsider (p := { x.pipe with pending := d }) hd)) hnow ?_
        (by simp)
      rw [Script.step_with_call hsr hen']
      exact congrArg (fun r => some (sr.afterCall r))
        (Call.step_parked hsider hnw { x.pipe with pending := d })
    | @drained n _ hp' =>
      simp only [Script.afterCall, Prod.mk.injEq] at hwr
      obtain ⟨rfl, rfl⟩ := hwr
      have hq : WriterPass (.drain n) { x.pipe with waitingReads := x.pipe.waitingReads + 1 } _ :=
        .drained hp'
      exact Meet.steps (writer_step_of_pass hW hq) hr
    | abandoned hp' _ => exact (hp' hp).elim

/-- A thread's own step, which reads of the pipe only whether its end is closed, commutes with
    any step of the writer. -/
theorem Coherent.join_reader_own (hx : Coherent x) {w r : Script} {p₁ : Pipe}
    (hw : x.writer.step x.pipe = some (w, p₁))
    (h : ∀ q, x.reader.ownClosed q = x.reader.ownClosed x.pipe → x.reader.step q = some (r, q)) :
    Meet x w r p₁ x.pipe := by
  refine Meet.steps hw (h p₁ ?_)
  simp [Script.ownClosed, hx.readerSide, (hx.writer_keeps_reader hw).1]

/-- The writer's own step commutes with any step of the reader. -/
theorem Coherent.join_writer_own (hx : Coherent x) {w r : Script} {p₂ : Pipe}
    (hr : x.reader.step x.pipe = some (r, p₂))
    (h : ∀ q, x.writer.ownClosed q = x.writer.ownClosed x.pipe → x.writer.step q = some (w, q)) :
    Meet x w r x.pipe p₂ := by
  refine Meet.steps (h p₂ ?_) hr
  simp [Script.ownClosed, hx.writerSide, hx.reader_keeps_writer hr]

/-- A step of the writer and a step of the reader from one coherent state join. -/
theorem Coherent.join_writer_reader (hx : Coherent x) {w r : Script} {p₁ p₂ : Pipe}
    (hw : x.writer.step x.pipe = some (w, p₁)) (hr : x.reader.step x.pipe = some (r, p₂)) :
    Meet x w r p₁ p₂ := by
  cases Script.uses_of_step hw with
  | own _ _ h => exact hx.join_writer_own hr h
  | shut e hws _ hW =>
    cases Script.uses_of_step hr with
    | own _ _ h => exact hx.join_reader_own hw h
    | shut e' _ _ hR =>
      -- the two ends close in either order
      have hq : x.writer.closeOwn e (x.reader.closeOwn e' x.pipe) =
          x.reader.closeOwn e' (x.writer.closeOwn e x.pipe) := by
        simp only [closeOwn_writer hx.writerSide, closeOwn_reader hx.readerSide,
          Pipe.closeWriter_closeReader]
      refine Meet.steps (hW _) ?_
      rw [hR, hq]
    | call _ _ hen hfrom hs₀ hR hrr => exact hx.join_shut_call e hws hW hen hfrom hs₀.2 hR hrr
  | call _ _ henw hfromw hsw hW hwr =>
    cases Script.uses_of_step hr with
    | own _ _ h => exact hx.join_reader_own hw h
    | shut e' hrs _ hR => exact hx.join_call_shut e' hrs hR henw hfromw hsw.2 hW hwr
    | call _ _ henr hfromr hsr hR hrr =>
      exact hx.join_calls hw hr henw hfromw hsw.2 hW hwr henr hfromr hsr.2 hR hrr

/-- The steps are locally confluent on coherent states. -/
theorem Coherent.local_confluence (hx : Coherent x) {y z : Pair} (hy : Step x y) (hz : Step x z) :
    Join (ReflTransGen Step) y z := by
  cases hy with
  | writer hw =>
    cases hz with
    | writer hw' =>
      -- a thread's step is a function of the state
      rw [hw] at hw'
      cases hw'
      exact ⟨_, .refl, .refl⟩
    | reader hr => exact (hx.join_writer_reader hw hr).join
  | reader hr =>
    cases hz with
    | writer hw =>
      obtain ⟨d, hyd, hzd⟩ := (hx.join_writer_reader hw hr).join
      exact ⟨d, hzd, hyd⟩
    | reader hr' =>
      rw [hr] at hr'
      cases hr'
      exact ⟨_, .refl, .refl⟩

/-- Newman's lemma on coherent states: any two runs from a coherent state can be continued to a
    common state.  The induction is on the measure, which every step lowers. -/
theorem Coherent.join_of_runs (hx : Coherent x) {y z : Pair} (hy : ReflTransGen Step x y)
    (hz : ReflTransGen Step x z) : Join (ReflTransGen Step) y z := by
  induction hn : x.weight using Nat.strongRecOn generalizing x y z with
  | _ n ih =>
    rcases hy.cases_head with rfl | ⟨b, hxb, hby⟩
    · exact ⟨z, hz, .refl⟩
    rcases hz.cases_head with rfl | ⟨c, hxc, hcz⟩
    · exact ⟨y, .refl, .head hxb hby⟩
    obtain ⟨d, hbd, hcd⟩ := hx.local_confluence hxb hxc
    have ihb {y' z' : Pair} (hy' : ReflTransGen Step b y') (hz' : ReflTransGen Step b z') :=
      ih _ (hn ▸ hx.weight_lt hxb) (hx.step hxb) hy' hz' rfl
    have ihc {y' z' : Pair} (hy' : ReflTransGen Step c y') (hz' : ReflTransGen Step c z') :=
      ih _ (hn ▸ hx.weight_lt hxc) (hx.step hxc) hy' hz' rfl
    obtain ⟨d₂, hyd₂, hdd₂⟩ := ihb hby hbd
    obtain ⟨d₃, hdd₃, hzd₃⟩ := ihc hcd hcz
    -- both joins continue from the common state `d`, which `b` reaches
    obtain ⟨d₄, h₂₄, h₃₄⟩ := ihb (hbd.trans hdd₂) (hbd.trans hdd₃)
    exact ⟨d₄, hyd₂.trans h₂₄, hzd₃.trans h₃₄⟩

/-- No step leaves a state where both threads have finished. -/
theorem Finished.not_step (hx : x.Finished) {y : Pair} : ¬ Step x y := by
  rintro (⟨h⟩ | ⟨h⟩)
  · simp [Script.step, hx.1] at h
  · simp [Script.step, hx.2] at h

theorem Finished.eq_of_run (hx : x.Finished) {y : Pair} (h : ReflTransGen Step x y) : x = y := by
  rcases h.cases_head with rfl | ⟨_, hxc, _⟩
  · rfl
  · exact (hx.not_step hxc).elim

/-- All interleavings of two scripts that finish end in the same state. -/
theorem Reachable.finished_eq {writerOps readerOps : List Op} {y z : Pair}
    (hy : Reachable writerOps readerOps y) (hz : Reachable writerOps readerOps z)
    (hfy : y.Finished) (hfz : z.Finished) : y = z := by
  obtain ⟨d, hyd, hzd⟩ := (coherent_start writerOps readerOps).join_of_runs hy hz
  rw [hfy.eq_of_run hyd, hfz.eq_of_run hzd]

end Pair

end Tftp
