import Tftp.Proofs.Pipe.Confluence

/-! # The first close of each end decides what follows

    An end of the pipe is closed once: a later close, with or without an error, finds it closed
    and changes nothing, so the end keeps the error of its first close through every later step
    of either thread (`Step.keeps_closed`, `keeps_closed_of_run`).  From then on:

    * nothing the end's own thread does changes the pipe (`Script.step_own_closed_pipe`), and
      every call it would make on the pipe fails with a value error, "write to closed pipe" or
      "read from closed pipe" (`Script.step_own_closed`).  A read of zero bytes makes no call:
      it returns no bytes whatever the state of the pipe (`zero_read_ignores_closed_reader`).
    * once the writer end is closed, every read completes at its next step with the writer's
      error, or else with what it gathered (`Coherent.reader_step_writer_closed`);
    * once the reader end is closed, every write completes at its next step with the reader's
      error, or a broken pipe, unless reads already took all its bytes
      (`Coherent.writer_step_reader_closed`).

    So a read that waits is released by the writer end closing, and a write that waits by the
    reader end closing.  Main statement: `Pair.closes_decide_outcomes`. -/

namespace Tftp

/-- The failure of a call on an end its own thread has closed. -/
def Side.closedFailure : Side → Failure
  | .writer => .writeToClosed
  | .reader => .readFromClosed

/-- The operation makes a call on the pipe from the side `side`: a write on the writer end, or
    on the reader end a read of a size that is nothing or a number other than zero.  A read of
    zero bytes answers at once, and one whose size is no number fails before it reaches the
    pipe. -/
def Op.CallsPipe : Op → Side → Prop
  | .write _, .writer => True
  | .read size, .reader => size = .none ∨ (size.toNumber?.isSome = true ∧ size.eqInt 0 = false)
  | _, _ => False

/-- What a read that gathered nothing gives once nothing is pending and the writer end was
    closed with `e`: the writer's error, or no bytes. -/
def Outcome.atEnd : Option Failure → Outcome
  | some f => .failed f
  | none => .read []

/-- What a write gets once the reader end was closed with `e` while the writer end is open. -/
def Failure.readerGone (e : Option Failure) : Failure := e.getD .brokenPipe

/-! ## A closed end stays closed -/

@[simp] theorem EndState.close_closed (e e' : Option Failure) :
    (EndState.closed e).close e' = .closed e := rfl

/-- A pass of a call leaves both ends as they were. -/
theorem Call.step_ends (c : Call) (p : Pipe) :
    (c.step p).pipe.writer = p.writer ∧ (c.step p).pipe.reader = p.reader := by
  cases c <;> simp only [Call.step] <;> repeat' split
  all_goals simp [CallStep.pipe]

/-- A step of a thread leaves each end as it was, or closes it. -/
theorem Script.step_ends {s s' : Script} {p p' : Pipe} (h : s.step p = some (s', p')) :
    (∃ e, p'.writer = p.writer.close e ∨ p'.writer = p.writer) ∧
      (∃ e, p'.reader = p.reader.close e ∨ p'.reader = p.reader) := by
  cases Script.uses_of_step h with
  | own => exact ⟨⟨none, .inr rfl⟩, ⟨none, .inr rfl⟩⟩
  | shut e =>
    unfold closeOwn
    split
    · exact ⟨⟨e, .inl rfl⟩, ⟨none, .inr rfl⟩⟩
    · exact ⟨⟨none, .inr rfl⟩, ⟨e, .inl rfl⟩⟩
  | call s₀ c _ _ _ _ hr =>
    obtain ⟨hw, hrd⟩ := Call.step_ends c p
    have hp' : (s₀.afterCall (c.step p)).2 = (c.step p).pipe := by
      cases c.step p <;> rfl
    rw [hr] at hp'
    simp only at hp'
    rw [hp']
    exact ⟨⟨none, .inr hw⟩, ⟨none, .inr hrd⟩⟩

namespace Pair

open Relation

variable {writerOps readerOps : List Op} {x y : Pair}

/-- A step of either thread keeps a closed end closed, with the error of its first close. -/
theorem Step.keeps_closed (h : Step x y) (e : Option Failure) :
    (x.pipe.writer = .closed e → y.pipe.writer = .closed e) ∧
      (x.pipe.reader = .closed e → y.pipe.reader = .closed e) := by
  have hends : ∀ {s s' : Script} {p : Pipe}, s.step x.pipe = some (s', p) →
      (x.pipe.writer = .closed e → p.writer = .closed e) ∧
        (x.pipe.reader = .closed e → p.reader = .closed e) := by
    intro s s' p hs
    obtain ⟨⟨ew, hw⟩, ⟨er, hr⟩⟩ := Script.step_ends hs
    refine ⟨fun hc => ?_, fun hc => ?_⟩
    · rcases hw with hw | hw <;> simp [hw, hc]
    · rcases hr with hr | hr <;> simp [hr, hc]
  cases h with
  | writer hw => exact hends hw
  | reader hr => exact hends hr

/-- Every run keeps a closed end closed, with the error of its first close. -/
theorem keeps_closed_of_run (h : ReflTransGen Step x y) (e : Option Failure) :
    (x.pipe.writer = .closed e → y.pipe.writer = .closed e) ∧
      (x.pipe.reader = .closed e → y.pipe.reader = .closed e) := by
  induction h with
  | refl => exact ⟨id, id⟩
  | tail _ hstep ih =>
    have hlast := hstep.keeps_closed e
    exact ⟨hlast.1 ∘ ih.1, hlast.2 ∘ ih.2⟩

end Pair

/-! ## What a thread does on its own closed end -/

theorem Script.closeOwn_of_ownClosed {s : Script} {p : Pipe} (h : s.ownClosed p = true)
    (e : Option Failure) : s.closeOwn e p = p := by
  unfold ownClosed at h
  unfold closeOwn
  split
  · next hs => rw [hs] at h; exact Pipe.closeWriter_of_closed h e
  · next hs => rw [hs] at h; exact Pipe.closeReader_of_closed h e

/-- A read on a closed reader end fails at once. -/
theorem Call.step_of_reader_closed {c : Call} {p : Pipe} (hs : c.side = .reader)
    (hw : c.waiting = false) (hr : p.reader.isClosed = true) :
    c.step p = .returns (.error .readFromClosed) p := by
  rw [(ReaderPass.refused hs hr).step_eq, hw, Call.wake_false]

/-- A write on a closed writer end fails at once. -/
theorem Call.write_step_of_writer_closed (d : List UInt8) {p : Pipe}
    (hw : p.writer.isClosed = true) : (Call.write d).step p = .returns (.error .writeToClosed) p := by
  obtain ⟨e, he⟩ := EndState.isClosed_eq_true.mp hw
  have hu : p.unwritable = some .writeToClosed := by simp [Pipe.unwritable, he]
  simp [Call.step, hu]

/-- A read of a size that calls on the pipe makes a call that has gathered nothing and does not
    wait yet: to the end of the stream for nothing or a negative number, else of some bytes. -/
theorem Script.begin_read_call (s : Script) (hs : s.side = .reader) {size : Value}
    (hcall : (Op.read size).CallsPipe .reader) :
    ∃ c : Call, c.side = .reader ∧ c.waiting = false ∧ c.gathered = [] ∧
      ∀ q, s.begin (.read size) q = s.afterCall (c.step q) := by
  simp only [Op.CallsPipe] at hcall
  cases size with
  | none => exact ⟨.readAll [] false, rfl, rfl, rfl, fun q => by simp [begin, hs]⟩
  | bool b =>
    cases b
    · simp [Value.toNumber?, Value.eqInt, Number.eqInt] at hcall
    · exact ⟨.read (.upTo 1) false, rfl, rfl, rfl, fun q => by
        simp [begin, hs, Value.toNumber?, Number.isNeg, Number.eqInt]⟩
  | int n =>
    have hzero : n ≠ 0 := by simpa [Value.toNumber?, Value.eqInt, Number.eqInt] using hcall
    by_cases hneg : n < 0
    · exact ⟨.readAll [] false, rfl, rfl, rfl, fun q => by
        simp [begin, hs, Value.toNumber?, Number.isNeg, hneg]⟩
    · exact ⟨.read (.upTo n.toNat) false, rfl, rfl, rfl, fun q => by
        simp [begin, hs, Value.toNumber?, Number.isNeg, Number.eqInt, hneg, hzero]⟩
  | float x =>
    have hzero : (Number.float x).eqInt 0 = false := by
      simpa [Value.toNumber?, Value.eqInt] using hcall
    cases hneg : (Number.float x).isNeg
    · exact ⟨.read .unusable false, rfl, rfl, rfl, fun q => by
        simp [begin, hs, Value.toNumber?, hneg, hzero]⟩
    · exact ⟨.readAll [] false, rfl, rfl, rfl, fun q => by
        simp [begin, hs, Value.toNumber?, hneg]⟩
  | str _ | list _ | tuple _ | dict _ => simp [Value.toNumber?] at hcall

/-- An operation begun on the thread's own closed end leaves the pipe as it is, and one that
    calls on the pipe fails with the failure of a closed end. -/
theorem Script.begin_own_closed {s : Script} {p : Pipe} (hown : s.ownClosed p = true) (op : Op) :
    (s.begin op p).2 = p ∧
      (op.CallsPipe s.side → (s.begin op p).1 = s.record (.failed s.side.closedFailure)) := by
  cases op with
  | write d =>
    cases hs : s.side with
    | writer =>
      have hw : p.writer.isClosed = true := by simpa [ownClosed, hs] using hown
      simp [begin, hs, Call.write_step_of_writer_closed d hw, afterCall, outcomeOf,
        Side.closedFailure]
    | reader => simp [begin, hs, Op.CallsPipe]
  | read size =>
    cases hs : s.side with
    | writer => simp [begin, hs, Op.CallsPipe]
    | reader =>
      have hr : p.reader.isClosed = true := by simpa [ownClosed, hs] using hown
      constructor
      · -- a read that reaches the pipe fails there; any other is answered at once
        rcases begin_read s hs size with ⟨c, hcs, hcw, -, hq⟩ | ⟨o, -, hq⟩
        · rw [hq p, Call.step_of_reader_closed hcs hcw hr]
          rfl
        · rw [hq p]
      · intro hcall
        obtain ⟨c, hcs, hcw, -, hq⟩ := begin_read_call s hs hcall
        rw [hq p, Call.step_of_reader_closed hcs hcw hr]
        rfl
  | close => simp [begin, closeOwn_of_ownClosed hown, Op.CallsPipe]
  | closeWithError e => simp [begin, closeOwn_of_ownClosed hown, Op.CallsPipe]
  | isClosed => simp [begin, Op.CallsPipe]
  | raise e => simp [begin, closeOwn_of_ownClosed hown, Op.CallsPipe]

/-- A thread that makes no call and whose own end is closed: its next operation leaves the pipe
    as it is, and fails if it calls on the pipe. -/
theorem Script.step_own_closed {s : Script} {p : Pipe} (hf : s.finished = false)
    (hc : s.call = none) (hown : s.ownClosed p = true) {op : Op} {rest : List Op}
    (hops : s.ops = op :: rest) (hcall : op.CallsPipe s.side) :
    s.step p = some ({ s with ops := rest }.record (.failed s.side.closedFailure), p) := by
  rw [step_of_begin hf hc hops]
  obtain ⟨hpipe, hrec⟩ := begin_own_closed (s := { s with ops := rest }) hown op
  exact congrArg some (Prod.ext (hrec hcall) hpipe)

/-- A thread that makes no call and whose own end is closed changes nothing in the pipe. -/
theorem Script.step_own_closed_pipe {s s' : Script} {p p' : Pipe} (hc : s.call = none)
    (hown : s.ownClosed p = true) (h : s.step p = some (s', p')) : p' = p := by
  have hf := finished_eq_false_of_step h
  cases hops : s.ops with
  | nil =>
    rw [step_of_finish hf hc hops, closeOwn_of_ownClosed hown] at h
    exact (Prod.mk.inj (Option.some.inj h)).2.symm
  | cons op rest =>
    rw [step_of_begin hf hc hops] at h
    have hpipe := (begin_own_closed (s := { s with ops := rest }) hown op).1
    rw [Option.some.inj h] at hpipe
    exact hpipe

/-! ## A closed end ends the calls of the other end -/

namespace Pair

open Relation

variable {x : Pair}

/-- A thread whose own end is closed is in no call. -/
theorem Coherent.writer_call_of_closed (hx : Coherent x) (h : x.pipe.writer.isClosed = true) :
    x.writer.call = none := by
  cases hc : x.writer.call with
  | none => rfl
  | some c => simp [hx.writerOpen (by simp [hc]), EndState.isClosed] at h

theorem Coherent.reader_call_of_closed (hx : Coherent x) (h : x.pipe.reader.isClosed = true) :
    x.reader.call = none := by
  cases hc : x.reader.call with
  | none => rfl
  | some c => simp [hx.readerOpen (by simp [hc]), EndState.isClosed] at h

/-- Once the writer end is closed with `e`, while the reader end is open, every read completes
    at the reader's next step: a read in progress with the writer's error or what it gathered,
    a read begun with the writer's error or no bytes.  Nothing is pending, since the writer
    drains nothing. -/
theorem Coherent.reader_step_writer_closed (hx : Coherent x) {e : Option Failure}
    (hw : x.pipe.writer = .closed e) (hr : x.pipe.reader = .open) :
    (∀ c, x.reader.call = some c →
      ∃ p, x.reader.step x.pipe = some (x.reader.record (Script.outcomeOf (c.ending e)), p)) ∧
    (∀ size rest, x.reader.call = none → x.reader.finished = false →
      x.reader.ops = .read size :: rest → (Op.read size).CallsPipe .reader →
      x.reader.step x.pipe = some ({ x.reader with ops := rest }.record (.atEnd e), x.pipe)) := by
  have hwc : x.pipe.writer.isClosed = true := by simp [hw, EndState.isClosed]
  have hpend : x.pipe.pending = [] := hx.pending_eq_nil (by simp [hx.writer_call_of_closed hwc])
  -- a read that finds nothing pending and the writer end closed ends
  have hends : ∀ c : Call, c.side = .reader →
      c.step x.pipe = .returns (c.ending e) (Call.wake c.waiting x.pipe) :=
    fun c hs => (ReaderPass.ends hs hr hpend hw).step_eq
  refine ⟨fun c hc => ?_, fun size rest hc hf hops hcall => ?_⟩
  · have hs := hx.readerCall c hc
    have hf : x.reader.finished = false := by
      cases hfin : x.reader.finished
      · rfl
      · simp [(hx.readerFinished hfin).1] at hc
    refine ⟨Call.wake c.waiting x.pipe, ?_⟩
    rw [Script.step_of_call hf hc (Call.enabled_of_writer_closed hs hwc), hends c hs]
    rfl
  · rw [Script.step_of_begin hf hc hops]
    have hside := hx.readerSide
    obtain ⟨c, hcs, hcw, hcg, hbegin⟩ := Script.begin_read_call { x.reader with ops := rest } hside hcall
    rw [hbegin, hends c hcs, hcw, Call.wake_false]
    cases e <;> simp [Call.ending, hcg, Script.afterCall, Script.outcomeOf, Outcome.atEnd]

/-- With the writer end open and the reader end closed, a write cannot go on, for the reader's
    error or a broken pipe. -/
theorem Pipe.unwritable_of_reader_closed {p : Pipe} {e : Option Failure} (hw : p.writer = .open)
    (hr : p.reader = .closed e) : p.unwritable = some (Failure.readerGone e) := by
  cases e <;> simp [Pipe.unwritable, hw, hr, Failure.readerGone]

/-- Once the reader end is closed with `e`, while the writer end is open, every write completes
    at the writer's next step: a write in progress whose bytes reads all took returns their
    number, and every other write, in progress or begun, fails with the reader's error or a
    broken pipe. -/
theorem Coherent.writer_step_reader_closed (hx : Coherent x) {e : Option Failure}
    (hr : x.pipe.reader = .closed e) (hw : x.pipe.writer = .open) :
    (∀ c, x.writer.call = some c →
      (∀ n, c = .drain n → x.pipe.pending = [] →
        x.writer.step x.pipe = some (x.writer.record (.wrote n), x.pipe)) ∧
      ((∀ n, c = .drain n → x.pipe.pending ≠ []) →
        ∃ p, x.writer.step x.pipe = some (x.writer.record (.failed (.readerGone e)), p))) ∧
    (∀ d rest, x.writer.call = none → x.writer.finished = false →
      x.writer.ops = .write d :: rest →
      x.writer.step x.pipe = some ({ x.writer with ops := rest }.record
        (.failed (.readerGone e)), x.pipe)) := by
  have hrc : x.pipe.reader.isClosed = true := by simp [hr, EndState.isClosed]
  have hu := Pipe.unwritable_of_reader_closed hw hr
  refine ⟨fun c hc => ?_, fun d rest hc hf hops => ?_⟩
  · have hs := hx.writerCall c hc
    have hf : x.writer.finished = false := by
      cases hfin : x.writer.finished
      · rfl
      · simp [(hx.writerFinished hfin).1] at hc
    -- every call of the writer can take its pass once the reader end is closed
    have hen : c.enabled x.pipe = true := by
      cases c with
      | write d => rfl
      | drain n => simp [Call.enabled, hrc]
      | awaitRead => simp [Call.enabled, hu]
      | read => simp [Call.side] at hs
      | readAll => simp [Call.side] at hs
    have hstep := Script.step_of_call hf hc hen
    have hpass := writerPass_of_enabled hs hen
    generalize c.step x.pipe = r at hpass hstep
    cases hpass with
    | refused hkind hu' =>
      rw [hu] at hu'
      cases hu'
      refine ⟨fun n hn _ => ?_, fun _ => ⟨x.pipe, hstep⟩⟩
      rcases hkind with ⟨d, rfl⟩ | rfl <;> cases hn
    | met _ hu' => rw [hu] at hu'; cases hu'
    | parks hu' => rw [hu] at hu'; cases hu'
    | puts _ hu' => rw [hu] at hu'; cases hu'
    | @drained n _ hp => exact ⟨fun m hm _ => by cases hm; exact hstep, fun h => absurd hp (h n rfl)⟩
    | @abandoned n _ hp _ =>
      refine ⟨fun _ _ h => absurd h hp, fun _ => ⟨{ x.pipe with pending := [] }, ?_⟩⟩
      rw [hstep]
      simp [Script.afterCall, Script.outcomeOf, hu]
  · rw [Script.step_of_begin hf hc hops]
    simp [Script.begin, hx.writerSide, Call.step, hu, Script.afterCall, Script.outcomeOf]

/-- A thread waiting in a call that cannot take its pass does not step. -/
theorem Script.step_of_blocked {s : Script} {c : Call} {p : Pipe} (hc : s.call = some c)
    (hen : c.enabled p = false) : s.step p = none := by
  cases hf : s.finished <;> simp [Script.step, hf, hc, hen]

/-- While the reader waits in a call that cannot take its pass, only the writer steps. -/
theorem Step.reader_of_blocked {y : Pair} (h : Step x y) {c : Call}
    (hc : x.reader.call = some c) (hen : c.enabled x.pipe = false) : y.reader = x.reader := by
  cases h with
  | writer => rfl
  | reader hr => simp [Script.step_of_blocked hc hen] at hr

/-- While the writer waits in a call that cannot take its pass, only the reader steps. -/
theorem Step.writer_of_blocked {y : Pair} (h : Step x y) {c : Call}
    (hc : x.writer.call = some c) (hen : c.enabled x.pipe = false) : y.writer = x.writer := by
  cases h with
  | writer hw => simp [Script.step_of_blocked hc hen] at hw
  | reader => rfl

/-- **The first close of each end decides what follows**, in every interleaving of a writer's
    operations and a reader's on the two ends of a pipe.
    (1) A closed end keeps the error of its first close through every later step, and from then
    on nothing its own thread does, closing it again included, changes the pipe.
    (2) On its own closed end, a thread's write fails with "write to closed pipe", and its read
    of a size that is nothing or a number other than zero with "read from closed pipe".
    (3) Once the writer end is closed with `e`, while the reader end is open, every read in
    progress, or begun with such a size, completes at the reader's next step: with the error `e`,
    or else with what it gathered, which is nothing for a read begun then.
    (4) Once the reader end is closed with `e`, while the writer end is open, every write in
    progress or begun completes at the writer's next step: with the error `e`, or a broken pipe
    when `e` is none, unless it is a write in progress whose bytes reads all took, which returns
    their number.
    (5) So a read that waits is released by the writer end closing, and a write that waits by
    the reader end closing: the call completes at its thread's next step. -/
theorem closes_decide_outcomes (writerOps readerOps : List Op) :
    (∀ x y e, Reachable writerOps readerOps x → ReflTransGen Step x y →
      (x.pipe.writer = .closed e → y.pipe.writer = .closed e) ∧
      (x.pipe.reader = .closed e → y.pipe.reader = .closed e)) ∧
    (∀ x w p, Reachable writerOps readerOps x → x.pipe.writer.isClosed = true →
      x.writer.step x.pipe = some (w, p) → p = x.pipe) ∧
    (∀ x r p, Reachable writerOps readerOps x → x.pipe.reader.isClosed = true →
      x.reader.step x.pipe = some (r, p) → p = x.pipe) ∧
    (∀ x op rest, Reachable writerOps readerOps x → x.pipe.writer.isClosed = true →
      x.writer.finished = false → x.writer.ops = op :: rest → op.CallsPipe .writer →
      x.writer.step x.pipe =
        some ({ x.writer with ops := rest }.record (.failed .writeToClosed), x.pipe)) ∧
    (∀ x op rest, Reachable writerOps readerOps x → x.pipe.reader.isClosed = true →
      x.reader.finished = false → x.reader.ops = op :: rest → op.CallsPipe .reader →
      x.reader.step x.pipe =
        some ({ x.reader with ops := rest }.record (.failed .readFromClosed), x.pipe)) ∧
    (∀ x e, Reachable writerOps readerOps x → x.pipe.writer = .closed e →
      x.pipe.reader = .open →
      (∀ c, x.reader.call = some c → ∃ p,
        x.reader.step x.pipe = some (x.reader.record (Script.outcomeOf (c.ending e)), p)) ∧
      (∀ size rest, x.reader.call = none → x.reader.finished = false →
        x.reader.ops = .read size :: rest → (Op.read size).CallsPipe .reader →
        x.reader.step x.pipe = some ({ x.reader with ops := rest }.record (.atEnd e), x.pipe))) ∧
    (∀ x e, Reachable writerOps readerOps x → x.pipe.reader = .closed e →
      x.pipe.writer = .open →
      (∀ c, x.writer.call = some c →
        (∀ n, c = .drain n → x.pipe.pending = [] →
          x.writer.step x.pipe = some (x.writer.record (.wrote n), x.pipe)) ∧
        ((∀ n, c = .drain n → x.pipe.pending ≠ []) →
          ∃ p, x.writer.step x.pipe = some (x.writer.record (.failed (.readerGone e)), p))) ∧
      (∀ d rest, x.writer.call = none → x.writer.finished = false →
        x.writer.ops = .write d :: rest →
        x.writer.step x.pipe =
          some ({ x.writer with ops := rest }.record (.failed (.readerGone e)), x.pipe))) ∧
    (∀ x y c, Reachable writerOps readerOps x → Step x y → x.reader.call = some c →
      c.enabled x.pipe = false → y.pipe.writer.isClosed = true →
      ∃ r p, y.reader.step y.pipe = some (r, p) ∧ r.call = none) ∧
    (∀ x y c, Reachable writerOps readerOps x → Step x y → x.writer.call = some c →
      c.enabled x.pipe = false → y.pipe.reader.isClosed = true →
      ∃ w p, y.writer.step y.pipe = some (w, p) ∧ w.call = none) := by
  refine ⟨fun x y e _ hxy => keeps_closed_of_run hxy e, ?_, ?_, ?_, ?_,
    fun x e hx hw hr => hx.coherent.reader_step_writer_closed hw hr,
    fun x e hx hr hw => hx.coherent.writer_step_reader_closed hr hw, ?_, ?_⟩
  · -- (1) the writer's own steps after its close
    intro x w p hx hc h
    have hown : x.writer.ownClosed x.pipe = true := by
      simpa [Script.ownClosed, hx.coherent.writerSide] using hc
    exact Script.step_own_closed_pipe (hx.coherent.writer_call_of_closed hc) hown h
  · -- (1) the reader's own steps after its close
    intro x r p hx hc h
    have hown : x.reader.ownClosed x.pipe = true := by
      simpa [Script.ownClosed, hx.coherent.readerSide] using hc
    exact Script.step_own_closed_pipe (hx.coherent.reader_call_of_closed hc) hown h
  · -- (2) a write on the closed writer end
    intro x op rest hx hc hf hops hcall
    have hside := hx.coherent.writerSide
    have hown : x.writer.ownClosed x.pipe = true := by simpa [Script.ownClosed, hside] using hc
    have h := Script.step_own_closed hf (hx.coherent.writer_call_of_closed hc) hown hops
      (by rwa [hside])
    rwa [show x.writer.side.closedFailure = .writeToClosed by rw [hside]; rfl] at h
  · -- (2) a read on the closed reader end
    intro x op rest hx hc hf hops hcall
    have hside := hx.coherent.readerSide
    have hown : x.reader.ownClosed x.pipe = true := by simpa [Script.ownClosed, hside] using hc
    have h := Script.step_own_closed hf (hx.coherent.reader_call_of_closed hc) hown hops
      (by rwa [hside])
    rwa [show x.reader.side.closedFailure = .readFromClosed by rw [hside]; rfl] at h
  · -- (5) a waiting read after the writer's step that closed its end
    intro x y c hx hxy hc hen hwc
    have hy : Reachable writerOps readerOps y := hx.tail hxy
    have hrd := hxy.reader_of_blocked hc hen
    have hcy : y.reader.call = some c := hrd ▸ hc
    have hro := hy.coherent.readerOpen (by simp [hcy])
    obtain ⟨e, hwe⟩ := EndState.isClosed_eq_true.mp hwc
    obtain ⟨p, hstep⟩ := (hy.coherent.reader_step_writer_closed hwe hro).1 c hcy
    exact ⟨_, p, hstep, rfl⟩
  · -- (5) a waiting write after the reader's step that closed its end
    intro x y c hx hxy hc hen hrc
    have hy : Reachable writerOps readerOps y := hx.tail hxy
    have hwr := hxy.writer_of_blocked hc hen
    have hcy : y.writer.call = some c := hwr ▸ hc
    have hwo := hy.coherent.writerOpen (by simp [hcy])
    obtain ⟨e, hre⟩ := EndState.isClosed_eq_true.mp hrc
    obtain ⟨hdrained, hfailed⟩ := (hy.coherent.writer_step_reader_closed hre hwo).1 c hcy
    by_cases hd : ∃ n, c = .drain n ∧ y.pipe.pending = []
    · obtain ⟨n, hn, hp⟩ := hd
      exact ⟨_, _, hdrained n hn hp, rfl⟩
    · obtain ⟨p, hstep⟩ := hfailed fun n hn hp => hd ⟨n, hn, hp⟩
      exact ⟨_, p, hstep, rfl⟩

/-- A read of zero bytes answers at once, without the pipe: on a closed reader end it returns
    no bytes instead of failing with "read from closed pipe". -/
theorem zero_read_ignores_closed_reader :
    let x := run [] [.close, .read (.int 0)]
    x.Finished ∧ x.pipe.reader = .closed none ∧ x.reader.results = [.closed, .read []] :=
  ⟨⟨rfl, rfl⟩, rfl, rfl⟩

end Pair

end Tftp
