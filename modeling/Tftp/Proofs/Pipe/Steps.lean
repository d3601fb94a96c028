import Tftp.Pipe.Pair
import Mathlib.Logic.Relation

/-! # One step of a pipe's thread

    Every atomic step of the two threads on a pipe is one of a few kinds, and each kind says how
    the same step goes on any other state of the pipe.  A pass of a call is classified by what it
    finds in the pipe (`WriterPass`, `ReaderPass`); a step of a script answers from its own end,
    closes its own end, or makes a pass of a call (`Script.Uses`).

    The interleavings of the two threads are `Pair.Step`.  Every state they reach is coherent
    (`Pair.Coherent`): a thread waits in a call only while its own end is open, bytes are pending
    only while the writer drains them, and the count of waiting reads is one exactly while the
    reader waits.  On coherent states every step lowers `Pair.weight`, so no interleaving runs
    forever, and one of the threads can always step until both have finished. -/

namespace Tftp

namespace EndState

theorem isClosed_eq_true {s : EndState} : s.isClosed = true ↔ ∃ e, s = .closed e := by
  cases s <;> simp [isClosed]

theorem isClosed_eq_false {s : EndState} : s.isClosed = false ↔ s = .open := by
  cases s <;> simp [isClosed]

@[simp] theorem isClosed_close (s : EndState) (e : Option Failure) :
    (s.close e).isClosed = true := by
  cases s <;> rfl

end EndState

namespace Pipe

theorem unwritable_eq_none {p : Pipe} :
    p.unwritable = none ↔ p.writer = .open ∧ p.reader = .open := by
  unfold unwritable
  split <;> simp_all

end Pipe

namespace Call

/-- The end of the pipe a call is made on. -/
def side : Call → Side
  | .read .. | .readAll .. => .reader
  | .write _ | .drain _ | .awaitRead => .writer

/-- The call is a read counted among the waiting reads. -/
def waiting : Call → Bool
  | .read _ w | .readAll _ w => w
  | _ => false

/-- The bytes a read to the end of the stream has gathered; none for any other call. -/
def gathered : Call → List UInt8
  | .readAll g _ => g
  | _ => []

/-- The same read, counted among the waiting reads. -/
def parked : Call → Call
  | .read cut _ => .read cut true
  | .readAll g _ => .readAll g true
  | c => c

/-- What a read answers once nothing is pending and the writer end was closed with `e`. -/
def ending (c : Call) : Option Failure → Except Failure Reply
  | some e => .error e
  | none => .ok (.bytes c.gathered)

theorem side_parked {c : Call} (hc : c.side = .reader) : c.parked.side = .reader := by
  cases c <;> simp_all [side, parked]

theorem waiting_parked {c : Call} (hc : c.side = .reader) : c.parked.waiting = true := by
  cases c <;> simp_all [side, parked, waiting]

@[simp] theorem wake_pending (w : Bool) (p : Pipe) : (wake w p).pending = p.pending := by
  cases w <;> rfl

@[simp] theorem wake_reader (w : Bool) (p : Pipe) : (wake w p).reader = p.reader := by
  cases w <;> rfl

@[simp] theorem wake_writer (w : Bool) (p : Pipe) : (wake w p).writer = p.writer := by
  cases w <;> rfl

@[simp] theorem wake_waitingReads (w : Bool) (p : Pipe) :
    (wake w p).waitingReads = p.waitingReads - if w then 1 else 0 := by
  cases w <;> rfl

@[simp] theorem wake_unwritable (w : Bool) (p : Pipe) : (wake w p).unwritable = p.unwritable := by
  cases w <;> rfl

end Call

/-- One pass of a writer's call, by what it finds in the pipe. -/
inductive WriterPass : Call → Pipe → CallStep → Prop
  /-- an end is closed: a write, or a write of no bytes waiting for a read, fails -/
  | refused {c p e} (hc : (∃ d, c = .write d) ∨ c = .awaitRead) (hu : p.unwritable = some e) :
      WriterPass c p (.returns (.error e) p)
  /-- a read waits: a write of no bytes returns -/
  | met {c p} (hc : c = .write [] ∨ c = .awaitRead) (hu : p.unwritable = none)
      (hw : 0 < p.waitingReads) : WriterPass c p (.returns (.ok (.count 0)) p)
  /-- no read waits: a write of no bytes waits for one -/
  | parks {p} (hu : p.unwritable = none) (hw : p.waitingReads = 0) :
      WriterPass (.write []) p (.continues .awaitRead p)
  /-- a write of some bytes puts them in the pipe -/
  | puts {d p} (hd : d ≠ []) (hu : p.unwritable = none) :
      WriterPass (.write d) p (.continues (.drain d.length) { p with pending := d })
  /-- reads took all the bytes: the write returns their number -/
  | drained {n p} (hp : p.pending = []) : WriterPass (.drain n) p (.returns (.ok (.count n)) p)
  /-- an end was closed before reads took all the bytes: the rest is dropped, the write fails -/
  | abandoned {n p} (hp : p.pending ≠ [])
      (hc : p.reader.isClosed = true ∨ p.writer.isClosed = true) :
      WriterPass (.drain n) p
        (.returns (.error (({ p with pending := [] } : Pipe).unwritable.getD .brokenPipe))
          { p with pending := [] })

/-- One pass of a reader's call, by what it finds in the pipe; a waiting read first leaves the
    count of waiting reads. -/
inductive ReaderPass : Call → Pipe → CallStep → Prop
  /-- the reader end is closed -/
  | refused {c p} (hc : c.side = .reader) (hr : p.reader.isClosed = true) :
      ReaderPass c p (.returns (.error .readFromClosed) (Call.wake c.waiting p))
  /-- a read of at most `k` bytes takes them from the write in flight -/
  | takes {k w p} (hr : p.reader = .open) (hp : p.pending ≠ []) :
      ReaderPass (.read (.upTo k) w) p (.returns (.ok (.bytes (p.pending.take k)))
        { Call.wake w p with pending := p.pending.drop k })
  /-- a read whose size is no whole number fails once there are bytes to take -/
  | unusable {w p} (hr : p.reader = .open) (hp : p.pending ≠ []) :
      ReaderPass (.read .unusable w) p (.returns (.error .unusableCut) (Call.wake w p))
  /-- a read to the end of the stream takes all of the write in flight and goes on -/
  | takesAll {g w p} (hr : p.reader = .open) (hp : p.pending ≠ []) :
      ReaderPass (.readAll g w) p
        (.continues (.readAll (g ++ p.pending) false) { Call.wake w p with pending := [] })
  /-- nothing is pending and the writer end is closed: the read ends -/
  | ends {c p e} (hc : c.side = .reader) (hr : p.reader = .open) (hp : p.pending = [])
      (hw : p.writer = .closed e) : ReaderPass c p (.returns (c.ending e) (Call.wake c.waiting p))
  /-- nothing is pending and both ends are open: the read waits -/
  | waits {c p} (hc : c.side = .reader) (hr : p.reader = .open) (hp : p.pending = [])
      (hw : p.writer = .open) :
      ReaderPass c p (.continues c.parked
        { Call.wake c.waiting p with waitingReads := (Call.wake c.waiting p).waitingReads + 1 })

namespace WriterPass

theorem step_eq {c : Call} {p : Pipe} {r : CallStep} (h : WriterPass c p r) : c.step p = r := by
  cases h with
  | refused hc hu =>
    rcases hc with ⟨d, rfl⟩ | rfl <;> simp [Call.step, hu]
  | met hc hu hw =>
    rcases hc with rfl | rfl <;> simp [Call.step, hu, hw]
  | parks hu hw => simp [Call.step, hu, hw]
  | puts hd hu => simp [Call.step, hu, hd]
  | drained hp => simp [Call.step, hp]
  | abandoned hp hc => simp [Call.step, hp, hc]

end WriterPass

namespace ReaderPass

theorem step_eq {c : Call} {p : Pipe} {r : CallStep} (h : ReaderPass c p r) : c.step p = r := by
  cases h with
  | refused hc hr =>
    obtain ⟨e, he⟩ := EndState.isClosed_eq_true.mp hr
    cases c <;> simp_all [Call.side, Call.waiting, Call.step]
  | takes hr hp => simp [Call.step, hr, hp]
  | unusable hr hp => simp [Call.step, hr, hp]
  | takesAll hr hp => simp [Call.step, hr, hp]
  | ends hc hr hp hw =>
    cases c <;> cases hw' : ‹Option Failure› <;>
      simp_all [Call.side, Call.waiting, Call.step, Call.ending, Call.gathered]
  | waits hc hr hp hw => cases c <;> simp_all [Call.side, Call.waiting, Call.step, Call.parked]

end ReaderPass

theorem WriterPass.self {c : Call} {p : Pipe} {r : CallStep} (h : WriterPass c p r) :
    WriterPass c p (c.step p) :=
  h.step_eq ▸ h

theorem ReaderPass.self {c : Call} {p : Pipe} {r : CallStep} (h : ReaderPass c p r) :
    ReaderPass c p (c.step p) :=
  h.step_eq ▸ h

/-- Every pass of an enabled writer's call is one of its kinds. -/
theorem writerPass_of_enabled {c : Call} {p : Pipe} (hs : c.side = .writer)
    (hen : c.enabled p = true) : WriterPass c p (c.step p) := by
  cases c with
  | read => simp [Call.side] at hs
  | readAll => simp [Call.side] at hs
  | write d =>
    cases hu : p.unwritable with
    | some e => exact (WriterPass.refused (.inl ⟨d, rfl⟩) hu).self
    | none =>
      by_cases hd : d = []
      · subst hd
        by_cases hw : 0 < p.waitingReads
        · exact (WriterPass.met (.inl rfl) hu hw).self
        · exact (WriterPass.parks hu (by omega)).self
      · exact (WriterPass.puts hd hu).self
  | drain n =>
    by_cases hp : p.pending = []
    · exact (WriterPass.drained hp).self
    · have hc : p.reader.isClosed = true ∨ p.writer.isClosed = true := by
        simpa [Call.enabled, hp] using hen
      exact (WriterPass.abandoned hp hc).self
  | awaitRead =>
    cases hu : p.unwritable with
    | some e => exact (WriterPass.refused (.inr rfl) hu).self
    | none =>
      have hw : 0 < p.waitingReads := by simpa [Call.enabled, hu] using hen
      exact (WriterPass.met (.inr rfl) hu hw).self

/-- Every pass of a reader's call is one of its kinds. -/
theorem readerPass_of_side {c : Call} {p : Pipe} (hs : c.side = .reader) :
    ReaderPass c p (c.step p) := by
  cases hr : p.reader.isClosed
  case true => exact (ReaderPass.refused hs hr).self
  have hro := EndState.isClosed_eq_false.mp hr
  by_cases hp : p.pending = []
  · cases hw : p.writer with
    | closed e => exact (ReaderPass.ends hs hro hp hw).self
    | _ => exact (ReaderPass.waits hs hro hp hw).self
  · cases c with
    | read cut w =>
      cases cut with
      | upTo k => exact (ReaderPass.takes hro hp).self
      | unusable => exact (ReaderPass.unusable hro hp).self
    | readAll g w => exact (ReaderPass.takesAll hro hp).self
    | _ => simp [Call.side] at hs

/-- A read that does not wait yet can always take its pass. -/
theorem Call.enabled_of_not_waiting {c : Call} {p : Pipe} (hs : c.side = .reader)
    (hw : c.waiting = false) : c.enabled p = true := by
  cases c <;> simp_all [Call.side, Call.waiting, Call.enabled]

/-- A writer's call that cannot take its pass drains bytes no read took while both ends are open,
    or waits for a read while none waits and both ends are open. -/
theorem Call.blocked_writer {c : Call} {p : Pipe} (hs : c.side = .writer)
    (h : c.enabled p = false) :
    (∃ n, c = .drain n ∧ p.pending ≠ [] ∧ p.reader = .open ∧ p.writer = .open) ∨
      (c = .awaitRead ∧ p.waitingReads = 0 ∧ p.unwritable = none) := by
  cases c with
  | drain n =>
    simp only [enabled, Bool.or_eq_false_iff, List.isEmpty_eq_false_iff,
      EndState.isClosed_eq_false] at h
    exact .inl ⟨n, rfl, h.1.1, h.1.2, h.2⟩
  | awaitRead =>
    simp only [enabled, Bool.or_eq_false_iff, decide_eq_false_iff_not, Option.isSome_eq_false_iff,
      Option.isNone_iff_eq_none] at h
    exact .inr ⟨rfl, by omega, h.2⟩
  | write => simp [enabled] at h
  | read => simp [side] at hs
  | readAll => simp [side] at hs

/-- A reader's call that cannot take its pass waits, with nothing pending and both ends open. -/
theorem Call.blocked_reader {c : Call} {p : Pipe} (hs : c.side = .reader)
    (h : c.enabled p = false) :
    c.waiting = true ∧ p.pending = [] ∧ p.writer = .open ∧ p.reader = .open := by
  cases c with
  | read cut w =>
    cases w <;> simp_all [enabled, waiting, EndState.isClosed_eq_false]
  | readAll g w =>
    cases w <;> simp_all [enabled, waiting, EndState.isClosed_eq_false]
  | _ => simp [side] at hs

namespace Script

/-- How one step of a thread uses the pipe, and how the same step goes on any other state of the
    pipe: it answers from its own end alone, it closes its own end, or it makes one pass of a
    call, begun by its next operation or resumed. -/
inductive Uses (s : Script) (p : Pipe) : Script → Pipe → Prop
  | own {s'} (hs : s.call = none)
      (hs' : s'.call = none ∧ s'.side = s.side ∧ s'.finished = false ∧
        s'.ops.length < s.ops.length)
      (h : ∀ q, s.ownClosed q = s.ownClosed p → s.step q = some (s', q)) : Uses s p s' p
  | shut {s'} (e : Option Failure) (hs : s.call = none)
      (hs' : s'.call = none ∧ s'.side = s.side ∧
        (s'.finished = true ∨ s'.finished = false ∧ s'.ops.length < s.ops.length))
      (h : ∀ q, s.step q = some (s', s.closeOwn e q)) : Uses s p s' (s.closeOwn e p)
  | call {s' p'} (s₀ : Script) (c : Call) (hen : c.enabled p = true)
      (hfrom : (s.call = none ∧ c.side = s.side ∧ c.waiting = false ∧
        s₀.ops.length < s.ops.length) ∨ (s.call = some c ∧ s₀ = s))
      (hs₀ : s₀.side = s.side ∧ s₀.finished = false)
      (h : ∀ q, c.enabled q = true → s.step q = some (s₀.afterCall (c.step q)))
      (hr : s₀.afterCall (c.step p) = (s', p')) : Uses s p s' p'

theorem step_of_call {s : Script} {c : Call} {q : Pipe} (hf : s.finished = false)
    (hc : s.call = some c) (hen : c.enabled q = true) :
    s.step q = some (s.afterCall (c.step q)) := by
  simp [step, hf, hc, hen]

theorem step_of_finish {s : Script} {q : Pipe} (hf : s.finished = false) (hc : s.call = none)
    (hops : s.ops = []) : s.step q = some ({ s with finished := true }, s.closeOwn none q) := by
  simp [step, hf, hc, hops]

theorem step_of_begin {s : Script} {q : Pipe} {op : Op} {rest : List Op}
    (hf : s.finished = false) (hc : s.call = none) (hops : s.ops = op :: rest) :
    s.step q = some ({ s with ops := rest }.begin op q) := by
  simp [step, hf, hc, hops]

/-- A reader's read either makes a call, to the end of the stream or of some bytes, that does
    not wait yet and has gathered nothing, or is answered at once without the pipe: with no bytes,
    or with a failure. -/
theorem begin_read (s : Script) (hs : s.side = .reader) (size : Value) :
    (∃ c : Call, c.side = .reader ∧ c.waiting = false ∧ c.gathered = [] ∧
      ∀ q, s.begin (.read size) q = s.afterCall (c.step q)) ∨
    ∃ o, (o = .read [] ∨ ∃ e, o = .failed e) ∧ ∀ q, s.begin (.read size) q = (s.record o, q) := by
  cases size with
  | none => exact .inl ⟨.readAll [] false, rfl, rfl, rfl, fun q => by simp [begin, hs]⟩
  | bool b =>
    cases b
    · exact .inr ⟨.read [], .inl rfl, fun q => by simp [begin, hs, Value.toNumber?, Number.isNeg,
        Number.eqInt]⟩
    · exact .inl ⟨.read (.upTo 1) false, rfl, rfl, rfl, fun q => by
        simp [begin, hs, Value.toNumber?, Number.isNeg, Number.eqInt]⟩
  | int n =>
    by_cases hneg : n < 0
    · exact .inl ⟨.readAll [] false, rfl, rfl, rfl, fun q => by
        simp [begin, hs, Value.toNumber?, Number.isNeg, hneg]⟩
    by_cases hzero : n = 0
    · exact .inr ⟨.read [], .inl rfl, fun q => by
        simp [begin, hs, Value.toNumber?, Number.isNeg, Number.eqInt, hzero]⟩
    · exact .inl ⟨.read (.upTo n.toNat) false, rfl, rfl, rfl, fun q => by
        simp [begin, hs, Value.toNumber?, Number.isNeg, Number.eqInt, hneg, hzero]⟩
  | float x =>
    cases hneg : (Number.float x).isNeg
    · cases hzero : (Number.float x).eqInt 0
      · exact .inl ⟨.read .unusable false, rfl, rfl, rfl, fun q => by
          simp [begin, hs, Value.toNumber?, hneg, hzero]⟩
      · exact .inr ⟨.read [], .inl rfl, fun q => by
          simp [begin, hs, Value.toNumber?, hneg, hzero]⟩
    · exact .inl ⟨.readAll [] false, rfl, rfl, rfl, fun q => by
        simp [begin, hs, Value.toNumber?, hneg]⟩
  | str _ | list _ | tuple _ | dict _ =>
    -- a size that is no number fails the read
    exact .inr ⟨_, .inr ⟨_, rfl⟩, fun q => by simp [begin, hs, Value.toNumber?]; rfl⟩

/-- Every step of a thread is one of the kinds of `Uses`. -/
theorem uses_of_step {s s' : Script} {p p' : Pipe} (h : s.step p = some (s', p')) :
    Uses s p s' p' := by
  cases hf : s.finished
  case true => simp [step, hf] at h
  cases hc : s.call with
  | some c =>
    have hen : c.enabled p = true := by
      cases hen : c.enabled p
      · simp [step, hf, hc, hen] at h
      · rfl
    rw [step_of_call hf hc hen] at h
    exact .call s c hen (.inr ⟨hc, rfl⟩) ⟨rfl, hf⟩ (fun q hq => step_of_call hf hc hq)
      (Option.some.inj h)
  | none =>
    cases hops : s.ops with
    | nil =>
      rw [step_of_finish hf hc hops] at h
      obtain ⟨rfl, rfl⟩ := Prod.mk.inj (Option.some.inj h)
      exact .shut none hc ⟨hc, rfl, .inl rfl⟩ (fun q => step_of_finish hf hc hops)
    | cons op rest =>
      have hstep : ∀ q, s.step q = some ({ s with ops := rest }.begin op q) :=
        fun q => step_of_begin hf hc hops
      have hlen : rest.length < s.ops.length := by simp [hops]
      rw [hstep p] at h
      replace h := Option.some.inj h
      -- a write or a read on its own end makes a call; the other operations answer at once
      cases op with
      | write d =>
        cases hside : s.side with
        | writer =>
          exact .call { s with ops := rest } (.write d) rfl
            (.inl ⟨hc, by simp [Call.side, hside], rfl, hlen⟩) ⟨rfl, hf⟩
            (fun q _ => by rw [hstep q]; simp [begin, hside]) (by simpa [begin, hside] using h)
        | reader =>
          simp only [begin, hside, Prod.mk.injEq] at h
          obtain ⟨rfl, rfl⟩ := h
          exact .own hc ⟨rfl, hside.symm, hf, hlen⟩
            (fun q _ => by rw [hstep q]; simp [begin, hside])
      | read size =>
        cases hside : s.side with
        | writer =>
          simp only [begin, hside, Prod.mk.injEq] at h
          obtain ⟨rfl, rfl⟩ := h
          exact .own hc ⟨rfl, hside.symm, hf, hlen⟩
            (fun q _ => by rw [hstep q]; simp [begin, hside])
        | reader =>
          rcases begin_read { s with ops := rest } hside size with
            ⟨c, hcs, hcw, -, hq⟩ | ⟨o, -, hq⟩
          · exact .call { s with ops := rest } c (Call.enabled_of_not_waiting hcs hcw)
              (.inl ⟨hc, by rw [hcs, hside], hcw, hlen⟩) ⟨rfl, hf⟩
              (fun q _ => by rw [hstep q, hq q]) (by rw [← hq p, h])
          · rw [hq p, Prod.mk.injEq] at h
            obtain ⟨rfl, rfl⟩ := h
            exact .own hc ⟨rfl, rfl, hf, hlen⟩ (fun q _ => by rw [hstep q, hq q])
      | close =>
        simp only [begin, Prod.mk.injEq] at h
        obtain ⟨rfl, rfl⟩ := h
        exact .shut none hc ⟨rfl, rfl, .inr ⟨hf, hlen⟩⟩ (fun q => by rw [hstep q]; rfl)
      | closeWithError e =>
        simp only [begin, Prod.mk.injEq] at h
        obtain ⟨rfl, rfl⟩ := h
        exact .shut (some e) hc ⟨rfl, rfl, .inr ⟨hf, hlen⟩⟩ (fun q => by rw [hstep q]; rfl)
      | isClosed =>
        simp only [begin, Prod.mk.injEq] at h
        obtain ⟨rfl, rfl⟩ := h
        refine .own hc ⟨rfl, rfl, hf, hlen⟩ fun q hq => ?_
        rw [hstep q]
        simp only [begin, ownClosed] at hq ⊢
        rw [hq]
      | raise e =>
        simp only [begin, Prod.mk.injEq] at h
        obtain ⟨rfl, rfl⟩ := h
        exact .shut (some e) hc ⟨rfl, rfl, .inl rfl⟩ (fun q => by rw [hstep q]; rfl)

theorem finished_eq_false_of_step {s s' : Script} {p p' : Pipe}
    (h : s.step p = some (s', p')) : s.finished = false := by
  cases hf : s.finished
  · rfl
  · simp [step, hf] at h

/-- A thread that cannot step has finished, or waits in a call that cannot take its pass. -/
theorem step_eq_none {s : Script} {p : Pipe} (h : s.step p = none) :
    s.finished = true ∨ ∃ c, s.call = some c ∧ c.enabled p = false := by
  cases hf : s.finished
  · cases hc : s.call with
    | some c =>
      cases hen : c.enabled p
      · exact .inr ⟨c, rfl, hen⟩
      · simp [step_of_call hf hc hen] at h
    | none =>
      cases hops : s.ops with
      | nil => simp [step_of_finish hf hc hops] at h
      | cons op rest => simp [step_of_begin hf hc hops] at h
  · exact .inl rfl

end Script

/-! ## The measure of a run -/

/-- What is left of a call, counted so that every pass lowers the measure of a run. -/
def Call.weight : Call → Nat
  | .write _ => 4
  | .read _ w | .readAll _ w => if w then 1 else 2
  | .drain _ | .awaitRead => 1

theorem Call.weight_pos (c : Call) : 0 < c.weight := by
  cases c <;> simp [weight] <;> split <;> omega

theorem Call.weight_le (c : Call) : c.weight ≤ 4 := by
  cases c <;> simp [weight] <;> split <;> omega

/-- What is left of a call after a pass: nothing once it returned. -/
def CallStep.weight : CallStep → Nat
  | .returns _ _ => 0
  | .continues c _ => c.weight

/-- The pipe after a pass. -/
def CallStep.pipe : CallStep → Pipe
  | .returns _ p => p
  | .continues _ p => p

/-- Bytes in flight count for the measure: a read may take them. -/
def Pipe.weight (p : Pipe) : Nat := if p.pending = [] then 0 else 2

/-- What is left of a thread: each operation, the call in progress and the closing of its end. -/
def Script.weight (s : Script) : Nat :=
  if s.finished then 0 else 1 + 4 * s.ops.length + (s.call.map Call.weight).getD 0

theorem WriterPass.weight_lt {c : Call} {p : Pipe} {r : CallStep} (h : WriterPass c p r)
    (hp : p.pending ≠ [] → ∃ n, c = .drain n) : r.weight + r.pipe.weight < c.weight + p.weight := by
  cases h with
  | refused hc _ => have := c.weight_pos; simp [CallStep.weight, CallStep.pipe]; omega
  | met hc _ _ => have := c.weight_pos; simp [CallStep.weight, CallStep.pipe]; omega
  | parks _ _ => simp [CallStep.weight, CallStep.pipe, Call.weight]
  | puts hd _ =>
    -- the writer drains nothing yet, so the pipe held no bytes
    have hnil : p.pending = [] := by
      by_cases hpe : p.pending = []
      · exact hpe
      · obtain ⟨n, hn⟩ := hp hpe
        cases hn
    simp [CallStep.weight, CallStep.pipe, Call.weight, Pipe.weight, hnil, hd]
  | drained _ => simp [CallStep.weight, CallStep.pipe, Call.weight]
  | abandoned hpe _ => simp [CallStep.weight, CallStep.pipe, Call.weight, Pipe.weight, hpe]

theorem ReaderPass.weight_lt {c : Call} {p : Pipe} {r : CallStep} (h : ReaderPass c p r)
    (hen : c.enabled p = true) : r.weight + r.pipe.weight < c.weight + p.weight := by
  cases h with
  | refused _ _ => have := c.weight_pos; simp [CallStep.weight, CallStep.pipe, Pipe.weight]; omega
  | @takes k w _ _ hp =>
    have := Call.weight_pos (.read (.upTo k) w)
    simp only [CallStep.weight, CallStep.pipe, Pipe.weight, hp, if_false]
    by_cases hd : p.pending.drop k = []
    · simp [hd]
    · simp [hd]
      omega
  | @unusable w _ _ hp =>
    have := Call.weight_pos (.read .unusable w)
    simp [CallStep.weight, CallStep.pipe, Pipe.weight, hp]; omega
  | takesAll _ hp =>
    simp [CallStep.weight, CallStep.pipe, Pipe.weight, hp, Call.weight]; split <;> omega
  | ends _ _ hp _ => have := c.weight_pos; simp [CallStep.weight, CallStep.pipe, Pipe.weight, hp]; omega
  | waits hc hr hp hw =>
    -- an enabled read that finds nothing to take was not waiting yet
    cases c with
    | read cut w =>
      cases w <;> simp_all [CallStep.weight, CallStep.pipe, Pipe.weight, Call.weight, Call.parked,
        Call.enabled, EndState.isClosed]
    | readAll g w =>
      cases w <;> simp_all [CallStep.weight, CallStep.pipe, Pipe.weight, Call.weight, Call.parked,
        Call.enabled, EndState.isClosed]
    | _ => simp [Call.side] at hc

theorem Script.weight_afterCall {s₀ : Script} (r : CallStep) (hf : s₀.finished = false) :
    (s₀.afterCall r).1.weight = 1 + 4 * s₀.ops.length + r.weight ∧ (s₀.afterCall r).2 = r.pipe := by
  cases r <;> simp [afterCall, record, weight, hf, CallStep.weight, CallStep.pipe]

@[simp] theorem Pipe.weight_closeOwn (s : Script) (e : Option Failure) (p : Pipe) :
    (s.closeOwn e p).weight = p.weight := by
  unfold Script.closeOwn
  split <;> rfl

/-- A step of a thread lowers what is left of it and of the bytes in flight, given what each pass
    of its calls does. -/
theorem Script.Uses.weight_lt {s s' : Script} {p p' : Pipe} (hu : s.Uses p s' p')
    (hf : s.finished = false) (hcall : ∀ c, s.call = some c → c.side = s.side)
    (hpass : ∀ c, c.enabled p = true → c.side = s.side → (s.call = none ∨ s.call = some c) →
      (c.step p).weight + (c.step p).pipe.weight < c.weight + p.weight) :
    s'.weight + p'.weight < s.weight + p.weight := by
  cases hu with
  | own hs hs' _ =>
    obtain ⟨hc', -, hf', hlen⟩ := hs'
    simp [Script.weight, hf, hs, hc', hf']
    omega
  | shut e hs hs' _ =>
    obtain ⟨hc', -, hfin'⟩ := hs'
    rw [Pipe.weight_closeOwn]
    rcases hfin' with hf' | ⟨hf', hlen⟩
    · unfold Script.weight
      rw [if_pos hf', if_neg (by simp [hf])]
      omega
    · simp [Script.weight, hf, hs, hc', hf']
      omega
  | call s₀ c hen hfrom hs₀ _ hr =>
    obtain ⟨hw, hpipe⟩ := Script.weight_afterCall (c.step p) hs₀.2
    rw [hr] at hw hpipe
    simp only at hw hpipe
    rw [hw, hpipe]
    rcases hfrom with ⟨hc, hside, -, hlen⟩ | ⟨hc, rfl⟩
    · have := hpass c hen hside (.inl hc)
      have := c.weight_le
      simp [Script.weight, hf, hc]
      omega
    · have := hpass c hen (hcall c hc) (.inr hc)
      simp [Script.weight, hf, hc]
      omega

namespace Pair

/-- One atomic step of either thread under the pipe's lock. -/
inductive Step : Pair → Pair → Prop
  | writer {x : Pair} {w : Script} {p : Pipe} (h : x.writer.step x.pipe = some (w, p)) :
      Step x ⟨w, x.reader, p⟩
  | reader {x : Pair} {r : Script} {p : Pipe} (h : x.reader.step x.pipe = some (r, p)) :
      Step x ⟨x.writer, r, p⟩

/-- The states that some interleaving of the two scripts reaches from their start. -/
def Reachable (writerOps readerOps : List Op) (x : Pair) : Prop :=
  Relation.ReflTransGen Step (start writerOps readerOps) x

/-- Both threads have finished. -/
def Finished (x : Pair) : Prop := x.writer.finished = true ∧ x.reader.finished = true

/-- What holds of every state the two threads reach: each thread holds its own end and makes
    only the calls of its end, waits in a call only while its end is open, and has closed its end
    once finished; bytes are pending only while the writer drains them; and the count of waiting
    reads is one exactly while the reader waits. -/
structure Coherent (x : Pair) : Prop where
  writerSide : x.writer.side = .writer
  readerSide : x.reader.side = .reader
  writerCall : ∀ c, x.writer.call = some c → c.side = .writer
  readerCall : ∀ c, x.reader.call = some c → c.side = .reader
  writerOpen : x.writer.call ≠ none → x.pipe.writer = .open
  readerOpen : x.reader.call ≠ none → x.pipe.reader = .open
  writerFinished : x.writer.finished = true → x.writer.call = none ∧ x.pipe.writer.isClosed = true
  readerFinished : x.reader.finished = true → x.reader.call = none ∧ x.pipe.reader.isClosed = true
  inFlight : x.pipe.pending ≠ [] → ∃ n, x.writer.call = some (.drain n)
  waitingCount : x.pipe.waitingReads = if x.reader.call.any Call.waiting then 1 else 0

theorem coherent_start (writerOps readerOps : List Op) : Coherent (start writerOps readerOps) := by
  refine ⟨rfl, rfl, ?_, ?_, ?_, ?_, ?_, ?_, ?_, rfl⟩ <;> simp [start, Script.start, Pipe.fresh]

namespace Coherent

variable {x : Pair}

/-- Nothing is pending unless the writer drains a write. -/
theorem pending_eq_nil (hx : Coherent x) (hc : ∀ n, x.writer.call ≠ some (.drain n)) :
    x.pipe.pending = [] := by
  by_cases hp : x.pipe.pending = []
  · exact hp
  · obtain ⟨n, hn⟩ := hx.inFlight hp
    exact absurd hn (hc n)

/-- A step of the writer keeps the state coherent once it keeps the writer's part. -/
theorem of_writer {w : Script} {p : Pipe} (hx : Coherent x) (hside : w.side = .writer)
    (hcall : ∀ c, w.call = some c → c.side = .writer) (hopen : w.call ≠ none → p.writer = .open)
    (hfin : w.finished = true → w.call = none ∧ p.writer.isClosed = true)
    (hflight : p.pending ≠ [] → ∃ n, w.call = some (.drain n))
    (hreader : p.reader = x.pipe.reader) (hwait : p.waitingReads = x.pipe.waitingReads) :
    Coherent ⟨w, x.reader, p⟩ where
  writerSide := hside
  readerSide := hx.readerSide
  writerCall := hcall
  readerCall := hx.readerCall
  writerOpen := hopen
  readerOpen h := hreader.trans (hx.readerOpen h)
  writerFinished := hfin
  readerFinished h := by simpa [hreader] using hx.readerFinished h
  inFlight := hflight
  waitingCount := hwait.trans hx.waitingCount

/-- A step of the reader keeps the state coherent once it keeps the reader's part. -/
theorem of_reader {r : Script} {p : Pipe} (hx : Coherent x) (hside : r.side = .reader)
    (hcall : ∀ c, r.call = some c → c.side = .reader) (hopen : r.call ≠ none → p.reader = .open)
    (hfin : r.finished = true → r.call = none ∧ p.reader.isClosed = true)
    (hwriter : p.writer = x.pipe.writer) (hflight : p.pending ≠ [] → x.pipe.pending ≠ [])
    (hwait : p.waitingReads = if r.call.any Call.waiting then 1 else 0) :
    Coherent ⟨x.writer, r, p⟩ where
  writerSide := hx.writerSide
  readerSide := hside
  writerCall := hx.writerCall
  readerCall := hcall
  writerOpen h := hwriter.trans (hx.writerOpen h)
  readerOpen := hopen
  writerFinished h := by simpa [hwriter] using hx.writerFinished h
  readerFinished := hfin
  inFlight h := hx.inFlight (hflight h)
  waitingCount := hwait

/-- A step of the writer keeps the state coherent. -/
theorem writer_step {w : Script} {p : Pipe} (hx : Coherent x)
    (h : x.writer.step x.pipe = some (w, p)) : Coherent ⟨w, x.reader, p⟩ := by
  cases Script.uses_of_step h with
  | own hs hs' _ =>
    obtain ⟨hc', hside', hfin', _⟩ := hs'
    exact hx.of_writer (hside'.trans hx.writerSide) (by simp [hc']) (by simp [hc'])
      (by simp [hfin']) (fun hp => absurd (hx.pending_eq_nil (by simp [hs])) hp) rfl rfl
  | shut e hs hs' _ =>
    obtain ⟨hc', hside', _⟩ := hs'
    have hclose : x.writer.closeOwn e x.pipe = x.pipe.closeWriter e := by
      simp [Script.closeOwn, hx.writerSide]
    rw [hclose]
    exact hx.of_writer (hside'.trans hx.writerSide) (by simp [hc']) (by simp [hc'])
      (fun _ => ⟨hc', by simp [Pipe.closeWriter]⟩)
      (fun hp => absurd (hx.pending_eq_nil (by simp [hs])) hp) rfl rfl
  | call s₀ c hen hfrom hs₀ _ hr =>
    have hside : c.side = .writer := by
      rcases hfrom with ⟨_, hcs, _⟩ | ⟨hc, _⟩
      · exact hcs.trans hx.writerSide
      · exact hx.writerCall c hc
    -- nothing is pending unless the call is a drain
    have hpend : (∀ n, c ≠ .drain n) → x.pipe.pending = [] := by
      intro hc
      apply hx.pending_eq_nil
      intro n hn
      rcases hfrom with ⟨hnone, _⟩ | ⟨hsome, _⟩
      · simp [hnone] at hn
      · exact hc n (Option.some.inj (hsome.symm.trans hn))
    have hs₀side : s₀.side = .writer := hs₀.1.trans hx.writerSide
    have hpass := writerPass_of_enabled hside hen
    generalize c.step x.pipe = r at hpass hr
    cases hpass with
    | refused hc hu =>
      simp only [Script.afterCall, Script.record, Prod.mk.injEq] at hr
      obtain ⟨rfl, rfl⟩ := hr
      exact hx.of_writer hs₀side (by simp) (by simp) (by simp [hs₀.2])
        (fun hp => absurd (hpend (by rcases hc with ⟨d, rfl⟩ | rfl <;> simp)) hp) rfl rfl
    | met hc hu hw =>
      simp only [Script.afterCall, Script.record, Prod.mk.injEq] at hr
      obtain ⟨rfl, rfl⟩ := hr
      exact hx.of_writer hs₀side (by simp) (by simp) (by simp [hs₀.2])
        (fun hp => absurd (hpend (by rcases hc with rfl | rfl <;> simp)) hp) rfl rfl
    | parks hu hw =>
      simp only [Script.afterCall, Prod.mk.injEq] at hr
      obtain ⟨rfl, rfl⟩ := hr
      exact hx.of_writer hs₀side (by simp [Call.side]) (fun _ => (Pipe.unwritable_eq_none.mp hu).1)
        (by simp [hs₀.2]) (fun hp => absurd (hpend (by simp)) hp) rfl rfl
    | puts hd hu =>
      simp only [Script.afterCall, Prod.mk.injEq] at hr
      obtain ⟨rfl, rfl⟩ := hr
      exact hx.of_writer hs₀side (by simp [Call.side]) (fun _ => (Pipe.unwritable_eq_none.mp hu).1)
        (by simp [hs₀.2]) (fun _ => ⟨_, rfl⟩) rfl rfl
    | drained hp =>
      simp only [Script.afterCall, Script.record, Prod.mk.injEq] at hr
      obtain ⟨rfl, rfl⟩ := hr
      exact hx.of_writer hs₀side (by simp) (by simp) (by simp [hs₀.2]) (fun h => absurd hp h) rfl rfl
    | abandoned hp hc =>
      simp only [Script.afterCall, Script.record, Prod.mk.injEq] at hr
      obtain ⟨rfl, rfl⟩ := hr
      exact hx.of_writer hs₀side (by simp) (by simp) (by simp [hs₀.2]) (by simp) rfl rfl

/-- A step of the reader keeps the state coherent. -/
theorem reader_step {r : Script} {p : Pipe} (hx : Coherent x)
    (h : x.reader.step x.pipe = some (r, p)) : Coherent ⟨x.writer, r, p⟩ := by
  cases Script.uses_of_step h with
  | own hs hs' _ =>
    obtain ⟨hc', hside', hfin', _⟩ := hs'
    exact hx.of_reader (hside'.trans hx.readerSide) (by simp [hc']) (by simp [hc'])
      (by simp [hfin']) rfl id (by simpa [hc', hs] using hx.waitingCount)
  | shut e hs hs' _ =>
    obtain ⟨hc', hside', _⟩ := hs'
    have hclose : x.reader.closeOwn e x.pipe = x.pipe.closeReader e := by
      simp [Script.closeOwn, hx.readerSide]
    rw [hclose]
    exact hx.of_reader (hside'.trans hx.readerSide) (by simp [hc']) (by simp [hc'])
      (fun _ => ⟨hc', by simp [Pipe.closeReader]⟩) rfl id
      (by simpa [hc', hs, Pipe.closeReader] using hx.waitingCount)
  | call s₀ c hen hfrom hs₀ _ hr =>
    have hside : c.side = .reader := by
      rcases hfrom with ⟨_, hcs, _⟩ | ⟨hc, _⟩
      · exact hcs.trans hx.readerSide
      · exact hx.readerCall c hc
    -- the count of waiting reads is the call's own
    have hwait : x.pipe.waitingReads = if c.waiting then 1 else 0 := by
      rcases hfrom with ⟨hnone, _, hw, _⟩ | ⟨hsome, _⟩
      · simpa [hnone, hw] using hx.waitingCount
      · simpa [hsome] using hx.waitingCount
    have hwake : (Call.wake c.waiting x.pipe).waitingReads = 0 := by
      cases hcw : c.waiting <;> simp_all
    have hs₀side : s₀.side = .reader := hs₀.1.trans hx.readerSide
    have hpass := readerPass_of_side (p := x.pipe) hside
    generalize c.step x.pipe = r' at hpass hr
    cases hpass with
    | refused _ hr' =>
      simp only [Script.afterCall, Script.record, Prod.mk.injEq] at hr
      obtain ⟨rfl, rfl⟩ := hr
      exact hx.of_reader hs₀side (by simp) (by simp) (by simp [hs₀.2]) (by simp) (by simp)
        (by simpa using hwake)
    | takes hr' hp =>
      simp only [Script.afterCall, Script.record, Prod.mk.injEq] at hr
      obtain ⟨rfl, rfl⟩ := hr
      exact hx.of_reader hs₀side (by simp) (by simp) (by simp [hs₀.2]) (by simp) (fun _ => hp)
        (by simpa [Call.waiting] using hwake)
    | unusable hr' hp =>
      simp only [Script.afterCall, Script.record, Prod.mk.injEq] at hr
      obtain ⟨rfl, rfl⟩ := hr
      exact hx.of_reader hs₀side (by simp) (by simp) (by simp [hs₀.2]) (by simp) (fun _ => hp)
        (by simpa [Call.waiting] using hwake)
    | takesAll hr' hp =>
      simp only [Script.afterCall, Prod.mk.injEq] at hr
      obtain ⟨rfl, rfl⟩ := hr
      exact hx.of_reader hs₀side (by simp [Call.side]) (fun _ => by simpa using hr')
        (by simp [hs₀.2]) (by simp) (by simp) (by simpa [Call.waiting] using hwake)
    | ends _ hr' hp hw =>
      simp only [Script.afterCall, Script.record, Prod.mk.injEq] at hr
      obtain ⟨rfl, rfl⟩ := hr
      exact hx.of_reader hs₀side (by simp) (by simp) (by simp [hs₀.2]) (by simp) (by simp)
        (by simpa using hwake)
    | waits _ hr' hp hw =>
      simp only [Script.afterCall, Prod.mk.injEq] at hr
      obtain ⟨rfl, rfl⟩ := hr
      exact hx.of_reader hs₀side (by simp [Call.side_parked hside])
        (fun _ => by simpa using hr') (by simp [hs₀.2]) (by simp) (by simp)
        (by show (Call.wake c.waiting x.pipe).waitingReads + 1 =
              if c.parked.waiting = true then 1 else 0
            rw [Call.waiting_parked hside, hwake]
            rfl)

/-- Every step keeps the state coherent. -/
theorem step {y : Pair} (hx : Coherent x) (h : Step x y) : Coherent y := by
  cases h with
  | writer h => exact hx.writer_step h
  | reader h => exact hx.reader_step h

end Coherent

/-- Every state an interleaving reaches is coherent. -/
theorem Reachable.coherent {writerOps readerOps : List Op} {x : Pair}
    (h : Reachable writerOps readerOps x) : Coherent x := by
  induction h with
  | refl => exact coherent_start writerOps readerOps
  | tail _ hstep ih => exact ih.step hstep

/-- The measure of a run: what is left of both threads and the bytes in flight. -/
def weight (x : Pair) : Nat := x.writer.weight + x.reader.weight + x.pipe.weight

/-- Every step from a coherent state lowers the measure. -/
theorem Coherent.weight_lt {x y : Pair} (hx : Coherent x) (h : Step x y) : y.weight < x.weight := by
  cases h with
  | writer h =>
    have hlt := (Script.uses_of_step h).weight_lt (Script.finished_eq_false_of_step h)
      (fun c hc => (hx.writerCall c hc).trans hx.writerSide.symm) fun c hen hside hc => by
        refine (writerPass_of_enabled (hside.trans hx.writerSide) hen).weight_lt fun hp => ?_
        obtain ⟨n, hn⟩ := hx.inFlight hp
        rcases hc with hc | hc <;> rw [hc] at hn
        · cases hn
        · exact ⟨n, Option.some.inj hn⟩
    simp only [weight] at hlt ⊢
    omega
  | reader h =>
    have hlt := (Script.uses_of_step h).weight_lt (Script.finished_eq_false_of_step h)
      (fun c hc => (hx.readerCall c hc).trans hx.readerSide.symm) fun c hen hside _ =>
        (readerPass_of_side (hside.trans hx.readerSide)).weight_lt hen
    simp only [weight] at hlt ⊢
    omega

/-- No interleaving from a coherent state runs forever. -/
theorem Coherent.no_infinite_run (f : Nat → Pair) (h0 : Coherent (f 0)) :
    ¬ ∀ n, Step (f n) (f (n + 1)) := by
  intro hf
  have hc : ∀ n, Coherent (f n) := by
    intro n
    induction n with
    | zero => exact h0
    | succ n ih => exact ih.step (hf n)
  -- the measure falls by at least one at each step
  have hw : ∀ n, (f n).weight + n ≤ (f 0).weight := by
    intro n
    induction n with
    | zero => simp
    | succ n ih =>
      have := (hc n).weight_lt (hf n)
      omega
  have := hw ((f 0).weight + 1)
  omega

/-- Some thread can step until both have finished: no coherent state has both threads blocked,
    nor one finished and the other blocked. -/
theorem Coherent.progress {x : Pair} (hx : Coherent x) (hnf : ¬ x.Finished) : ∃ y, Step x y := by
  cases hw : x.writer.step x.pipe with
  | some wp => exact ⟨_, .writer hw⟩
  | none =>
  cases hr : x.reader.step x.pipe with
  | some rp => exact ⟨_, .reader hr⟩
  | none =>
  exfalso
  rcases Script.step_eq_none hw with hwf | ⟨cw, hcw, hwen⟩ <;>
    rcases Script.step_eq_none hr with hrf | ⟨cr, hcr, hren⟩
  · exact hnf ⟨hwf, hrf⟩
  · -- the writer finished and closed its end, which ends any wait of the reader
    have hclosed := (hx.writerFinished hwf).2
    have hopen := (Call.blocked_reader (hx.readerCall cr hcr) hren).2.2.1
    simp [hopen, EndState.isClosed] at hclosed
  · -- the reader finished and closed its end, which ends any wait of the writer
    have hclosed := (hx.readerFinished hrf).2
    rcases Call.blocked_writer (hx.writerCall cw hcw) hwen with ⟨n, -, -, hro, -⟩ | ⟨-, -, hu⟩
    · simp [hro, EndState.isClosed] at hclosed
    · simp [(Pipe.unwritable_eq_none.mp hu).2, EndState.isClosed] at hclosed
  · -- both wait: the reader waits with nothing pending, so the writer waits for a read,
    -- yet the count of waiting reads is one
    obtain ⟨hwaiting, hp, -, -⟩ := Call.blocked_reader (hx.readerCall cr hcr) hren
    rcases Call.blocked_writer (hx.writerCall cw hcw) hwen with ⟨n, -, hpne, -, -⟩ | ⟨-, hzero, -⟩
    · exact hpne hp
    · have hcount := hx.waitingCount
      simp [hcr, hwaiting, hzero] at hcount

end Pair

end Tftp
