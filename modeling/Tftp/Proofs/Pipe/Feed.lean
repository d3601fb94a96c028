import Tftp.Proofs.Pipe.Advance
import Tftp.Proofs.Pipe.Closing
import Tftp.Proofs.Pipe.Conservation
import Tftp.Proofs.Progress.Termination
import Tftp.Proofs.Sender.Rule

/-! # The stream a writing handler feeds

    A handler that holds the writer's end of the pipe feeds the session one stream of bytes: the
    data of its writes up to the first operation that closes its end, and then the end that
    operation gives the stream (`Op.feed`).  At every point of a run, what the stream still holds
    is what is pending in the pipe and what the handler's operations still write, and its end is
    the error the writer's end was closed with, or will be (`Script.stream`).

    `Script.Feeds` is what keeps this so while the session's end is open: the handler is in no
    call, drains the bytes of a write, or waits with a write of no bytes for a read; bytes are
    pending only while it drains them; and it finished only after closing its end.  Each step of
    the handler keeps it and leaves the stream as it was (`Feeds.step`), and so does running it
    until it finishes or waits (`Feeds.advance`), which it does with bytes pending or its end
    closed as soon as a read waits (`Feeds.advance_ready`). -/

namespace Tftp

namespace Op

/-- The stream that a writer's operations feed: the data of its writes up to the first operation
    that closes its end, and the error that closes it, none when it is closed cleanly or the
    operations run out. -/
def feed : List Op → List UInt8 × Option Failure
  | [] => ([], none)
  | .write d :: rest => (d ++ (feed rest).1, (feed rest).2)
  | .read _ :: rest => feed rest
  | .close :: _ => ([], none)
  | .closeWithError e :: _ => ([], some e)
  | .isClosed :: rest => feed rest
  | .raise e :: _ => ([], some e)

end Op

namespace Script

/-- What the stream that the writer's thread `s` feeds still holds, and the error it ends with:
    while the writer's end is open, the bytes pending in the pipe and what the thread's operations
    still write; once it is closed, what is pending and the error it was closed with. -/
def stream (s : Script) (p : Pipe) : List UInt8 × Option Failure :=
  match p.writer with
  | .closed e => (p.pending, e)
  | .open => (p.pending ++ (Op.feed s.ops).1, (Op.feed s.ops).2)

section Stream

variable {s s' : Script} {p p' : Pipe}

theorem stream_open (hw : p.writer = .open) :
    s.stream p = (p.pending ++ (Op.feed s.ops).1, (Op.feed s.ops).2) := by
  simp [stream, hw]

theorem stream_closed {e : Option Failure} (hw : p.writer = .closed e) :
    s.stream p = (p.pending, e) := by
  simp [stream, hw]

/-- A writer's thread that feeds a reader whose end is open: it is in no call, drains the bytes
    of a write, or waits with a write of no bytes for a read; bytes are pending only while it
    drains them; once its end is closed it makes no call; and it finished only after closing its
    end. -/
structure Feeds (s : Script) (p : Pipe) : Prop where
  side : s.side = .writer
  reader : p.reader = .open
  call : s.call = none ∨ (∃ n, s.call = some (.drain n)) ∨ s.call = some .awaitRead
  pending : p.pending ≠ [] → ∃ n, s.call = some (.drain n)
  closed : p.writer.isClosed = true → s.call = none
  finished : s.finished = true → p.writer.isClosed = true

theorem Feeds.pending_nil (hf : s.Feeds p) (hc : s.call = none) : p.pending = [] := by
  cases hp : p.pending with
  | nil => rfl
  | cons b rest =>
    obtain ⟨n, hn⟩ := hf.pending (by simp [hp])
    simp [hc] at hn

/-- A call the thread is in drains the bytes of a write, or waits with a write of no bytes. -/
theorem Feeds.call_some (hf : s.Feeds p) {c : Call} (hc : s.call = some c) :
    (∃ n, c = .drain n) ∨ c = .awaitRead := by
  rcases hf.call with hnone | ⟨n, hn⟩ | hawait
  · simp [hnone] at hc
  · exact .inl ⟨n, Option.some.inj (hc.symm.trans hn)⟩
  · exact .inr (Option.some.inj (hc.symm.trans hawait))

/-- An operation that answers at once from the thread's side, recorded: the pipe is as it was,
    and so is the stream where the operation feeds nothing. -/
theorem Feeds.record (hf : s.Feeds p) (hnil : p.pending = []) (rest : List Op)
    (hrest : p.writer = .open → Op.feed rest = Op.feed s.ops) (o : Outcome) :
    ({ s with ops := rest }.record o).Feeds p ∧
      ({ s with ops := rest }.record o).stream p = s.stream p := by
  refine ⟨⟨hf.side, hf.reader, .inl rfl, fun hne => absurd hnil hne, fun _ => rfl,
    fun hfin => hf.finished hfin⟩, ?_⟩
  cases hw : p.writer with
  | closed e => simp [stream_closed hw]
  | «open» => simp [stream_open hw, Script.record, hrest hw]

/-- Closing the writer's end from no call, with the error its operations close the stream with:
    the thread makes no call from then on, and the stream is as it was. -/
theorem Feeds.close (hf : s.Feeds p) (hc : s.call = none) {e : Option Failure}
    (hfeed : p.writer = .open → Op.feed s.ops = ([], e)) (hc' : s'.call = none)
    (hside : s'.side = .writer) :
    s'.Feeds (p.closeWriter e) ∧ s'.stream (p.closeWriter e) = s.stream p := by
  have hnil := hf.pending_nil hc
  refine ⟨⟨hside, hf.reader, .inl hc', fun hne => absurd hnil hne, fun _ => hc',
    fun _ => by simp [Pipe.closeWriter]⟩, ?_⟩
  cases hw : p.writer with
  | closed e₀ =>
    have hclosed : p.closeWriter e = p :=
      Pipe.closeWriter_of_closed (by simp [hw, EndState.isClosed]) e
    rw [hclosed, stream_closed hw, stream_closed hw]
  | «open» =>
    have hclosed : (p.closeWriter e).writer = .closed e := by
      simp [Pipe.closeWriter, hw, EndState.close]
    rw [stream_closed hclosed, stream_open hw, hfeed hw]
    simp [Pipe.closeWriter, hnil]

/-- A call of the thread that can take its pass returns at once and leaves the pipe as it was:
    it is a write whose bytes reads took, or a write of no bytes that a waiting read met. -/
theorem Feeds.resume (hf : s.Feeds p) {c : Call} (hc : s.call = some c)
    (hen : c.enabled p = true) (h : s.afterCall (c.step p) = (s', p')) :
    s'.Feeds p' ∧ s'.stream p' = s.stream p ∧ p'.waitingReads = p.waitingReads := by
  have hw : p.writer = .open := by
    cases hw : p.writer with
    | «open» => rfl
    | closed e => simp [hf.closed (by simp [hw, EndState.isClosed])] at hc
  have hu : p.unwritable = none := Pipe.unwritable_eq_none.mpr ⟨hw, hf.reader⟩
  -- the call is a write in progress, so its pass is a writer's
  have hside : c.side = .writer := by
    rcases hf.call_some hc with ⟨n, rfl⟩ | rfl <;> rfl
  have hnil : p.pending = [] := by
    cases hp : p.pending with
    | nil => rfl
    | cons b rest =>
      obtain ⟨n, hn⟩ := hf.pending (by simp [hp])
      have hdrain : c = .drain n := Option.some.inj (hc.symm.trans hn)
      subst hdrain
      simp [Call.enabled, hp, hw, hf.reader, EndState.isClosed] at hen
  have hpass := writerPass_of_enabled hside hen
  generalize c.step p = r at hpass h
  cases hpass with
  | refused _ hu' => simp [hu] at hu'
  | met _ _ _ =>
    simp only [afterCall, Prod.mk.injEq] at h
    obtain ⟨rfl, rfl⟩ := h
    have hrec := hf.record hnil s.ops (fun _ => rfl) (.wrote 0)
    exact ⟨hrec.1, hrec.2, rfl⟩
  | parks _ _ => rcases hf.call_some hc with ⟨n, hn⟩ | hn <;> cases hn
  | puts _ _ => rcases hf.call_some hc with ⟨n, hn⟩ | hn <;> cases hn
  | @drained n _ _ =>
    simp only [afterCall, Prod.mk.injEq] at h
    obtain ⟨rfl, rfl⟩ := h
    have hrec := hf.record hnil s.ops (fun _ => rfl) (.wrote n)
    exact ⟨hrec.1, hrec.2, rfl⟩
  | abandoned hp _ => exact absurd hnil hp

/-- A write begins: on a closed end it fails at once; on an open one its bytes go into the pipe,
    or, with no bytes, it returns if a read waits and waits for one otherwise. -/
theorem Feeds.write (hf : s.Feeds p) (hc : s.call = none) {d : List UInt8} {rest : List Op}
    (hops : s.ops = .write d :: rest)
    (h : { s with ops := rest }.afterCall ((Call.write d).step p) = (s', p')) :
    s'.Feeds p' ∧ s'.stream p' = s.stream p ∧ p'.waitingReads = p.waitingReads := by
  have hnil := hf.pending_nil hc
  cases hw : p.writer with
  | closed e =>
    rw [Call.write_step_of_writer_closed d (by simp [hw, EndState.isClosed])] at h
    simp only [afterCall, Prod.mk.injEq] at h
    obtain ⟨rfl, rfl⟩ := h
    have hrec := hf.record hnil rest (fun hw' => by simp [hw] at hw') (.failed .writeToClosed)
    exact ⟨hrec.1, hrec.2, rfl⟩
  | «open» =>
    have hu : p.unwritable = none := Pipe.unwritable_eq_none.mpr ⟨hw, hf.reader⟩
    have hpass := @writerPass_of_enabled (.write d) p rfl rfl
    generalize (Call.write d).step p = r at hpass h
    cases hpass with
    | refused _ hu' => simp [hu] at hu'
    | met hcw _ _ =>
      -- a write of no bytes that a waiting read meets feeds nothing
      have hd : d = [] := by
        rcases hcw with hd | hd <;> cases hd
        rfl
      subst hd
      simp only [afterCall, Prod.mk.injEq] at h
      obtain ⟨rfl, rfl⟩ := h
      have hrec := hf.record hnil rest (fun _ => by simp [hops, Op.feed]) (.wrote 0)
      exact ⟨hrec.1, hrec.2, rfl⟩
    | parks _ _ =>
      simp only [afterCall, Prod.mk.injEq] at h
      obtain ⟨rfl, rfl⟩ := h
      refine ⟨⟨hf.side, hf.reader, .inr (.inr rfl), fun hne => absurd hnil hne,
        fun hcl => by simp [hw, EndState.isClosed] at hcl, hf.finished⟩, ?_, rfl⟩
      simp [stream_open hw, hops, Op.feed]
    | puts hd _ =>
      simp only [afterCall, Prod.mk.injEq] at h
      obtain ⟨rfl, rfl⟩ := h
      refine ⟨⟨hf.side, hf.reader, .inr (.inl ⟨_, rfl⟩), fun _ => ⟨_, rfl⟩,
        fun hcl => by simp [hw, EndState.isClosed] at hcl, hf.finished⟩, ?_, rfl⟩
      simp [stream, hw, hops, hnil, Op.feed]

/-- The thread begins its next operation: a write, as `Feeds.write` says; a read, which the writer's
    end does not offer, or a question whether its end is closed, answered at once; or a close, with
    or without an error, or an error raised, which closes its end. -/
theorem Feeds.begin (hf : s.Feeds p) (hc : s.call = none) {op : Op} {rest : List Op}
    (hops : s.ops = op :: rest) (h : { s with ops := rest }.begin op p = (s', p')) :
    s'.Feeds p' ∧ s'.stream p' = s.stream p ∧ p'.waitingReads = p.waitingReads := by
  have hnil := hf.pending_nil hc
  have hside : ({ s with ops := rest } : Script).side = .writer := hf.side
  cases op with
  | write d =>
    rw [begin_write_writer hside] at h
    exact hf.write hc hops h
  | read v =>
    have hread : ({ s with ops := rest } : Script).begin (.read v) p =
        ({ s with ops := rest }.record (.failed (missing .writer "read")), p) := by
      simp [Script.begin, hf.side]
    rw [hread, Prod.mk.injEq] at h
    obtain ⟨rfl, rfl⟩ := h
    have hrec := hf.record hnil rest (fun _ => by simp [hops, Op.feed])
      (.failed (missing .writer "read"))
    exact ⟨hrec.1, hrec.2, rfl⟩
  | isClosed =>
    simp only [Script.begin, Prod.mk.injEq] at h
    obtain ⟨rfl, rfl⟩ := h
    have hrec := hf.record hnil rest (fun _ => by simp [hops, Op.feed])
      (.flag ({ s with ops := rest }.ownClosed p))
    exact ⟨hrec.1, hrec.2, rfl⟩
  | close =>
    simp only [Script.begin, Pair.closeOwn_writer hside, Prod.mk.injEq] at h
    obtain ⟨rfl, rfl⟩ := h
    have hclose : ({ s with ops := rest }.record .closed).Feeds (p.closeWriter none) ∧ _ :=
      hf.close hc (fun _ => by simp [hops, Op.feed]) rfl hf.side
    exact ⟨hclose.1, hclose.2, rfl⟩
  | closeWithError e =>
    simp only [Script.begin, Pair.closeOwn_writer hside, Prod.mk.injEq] at h
    obtain ⟨rfl, rfl⟩ := h
    have hclose : ({ s with ops := rest }.record .closed).Feeds (p.closeWriter (some e)) ∧ _ :=
      hf.close hc (fun _ => by simp [hops, Op.feed]) rfl hf.side
    exact ⟨hclose.1, hclose.2, rfl⟩
  | raise e =>
    simp only [Script.begin, Pair.closeOwn_writer hside, Prod.mk.injEq] at h
    obtain ⟨rfl, rfl⟩ := h
    have hclose : ({ { s with ops := rest }.record (.raised e) with finished := true }).Feeds
        (p.closeWriter (some e)) ∧ _ :=
      hf.close hc (fun _ => by simp [hops, Op.feed]) rfl hf.side
    exact ⟨hclose.1, hclose.2, rfl⟩

/-- Every step of a thread that feeds a reader keeps it feeding, and leaves the stream and the
    count of waiting reads as they were. -/
theorem Feeds.step (hf : s.Feeds p) (h : s.step p = some (s', p')) :
    s'.Feeds p' ∧ s'.stream p' = s.stream p ∧ p'.waitingReads = p.waitingReads := by
  have hfin := finished_eq_false_of_step h
  cases hc : s.call with
  | some c =>
    have hen : c.enabled p = true := by
      cases hen : c.enabled p
      · simp [Script.step, hfin, hc, hen] at h
      · rfl
    rw [step_of_call hfin hc hen] at h
    exact hf.resume hc hen (Option.some.inj h)
  | none =>
    cases hops : s.ops with
    | nil =>
      rw [step_of_finish hfin hc hops] at h
      obtain ⟨rfl, rfl⟩ := Prod.mk.inj (Option.some.inj h)
      have hclose : ({ s with finished := true }).Feeds (p.closeWriter none) ∧ _ :=
        hf.close hc (fun _ => by simp [hops, Op.feed]) hc hf.side
      rw [Pair.closeOwn_writer hf.side]
      exact ⟨hclose.1, hclose.2, rfl⟩
    | cons op rest =>
      rw [step_of_begin hfin hc hops] at h
      exact hf.begin hc hops (Option.some.inj h)

/-- Running the thread for some steps keeps it feeding, with the stream and the count of waiting
    reads as they were.  The induction is on the steps, each of which `Feeds.step` covers. -/
theorem Feeds.settle (hf : s.Feeds p) (n : Nat) :
    (s.settle n p).1.Feeds (s.settle n p).2 ∧
      (s.settle n p).1.stream (s.settle n p).2 = s.stream p ∧
      (s.settle n p).2.waitingReads = p.waitingReads := by
  induction n generalizing s p with
  | zero => exact ⟨hf, rfl, rfl⟩
  | succ n ih =>
    cases hs : s.step p with
    | none =>
      rw [settle_of_stuck hs]
      exact ⟨hf, rfl, rfl⟩
    | some sp =>
      obtain ⟨s', p'⟩ := sp
      obtain ⟨hf', hstream, hwaiting⟩ := hf.step hs
      obtain ⟨hf'', hstream', hwaiting'⟩ := ih hf'
      rw [settle_of_step hs]
      exact ⟨hf'', hstream'.trans hstream, hwaiting'.trans hwaiting⟩

theorem Feeds.advance (hf : s.Feeds p) :
    (s.advance p).1.Feeds (s.advance p).2 ∧
      (s.advance p).1.stream (s.advance p).2 = s.stream p ∧
      (s.advance p).2.waitingReads = p.waitingReads :=
  hf.settle s.budget

/-- While a read waits, running the thread until it finishes or waits leaves bytes pending or its
    end closed: a write of no bytes returns to a waiting read, so the thread can only stop in a
    write whose bytes are pending, or once it finished, which closed its end. -/
theorem Feeds.advance_ready (hf : s.Feeds p) (hw : 0 < p.waitingReads) :
    (s.advance p).2.pending ≠ [] ∨ (s.advance p).2.writer.isClosed = true := by
  obtain ⟨hf', -, hwaiting⟩ := hf.advance
  rcases step_eq_none (advance_stops s p) with hfin | ⟨c, hc, hen⟩
  · exact .inr (hf'.finished hfin)
  · have hside : c.side = .writer := by
      rcases hf'.call_some hc with ⟨n, rfl⟩ | rfl <;> rfl
    rcases Call.blocked_writer hside hen with ⟨n, -, hp, -, -⟩ | ⟨-, hnone, -⟩
    · exact .inl hp
    · omega

theorem Feeds.wake (hf : s.Feeds p) (w : Bool) : s.Feeds (Call.wake w p) :=
  ⟨hf.side, by simp [hf.reader], hf.call, by simpa using hf.pending, by simpa using hf.closed,
    by simpa using hf.finished⟩

@[simp] theorem stream_wake (w : Bool) : s.stream (Call.wake w p) = s.stream p := by
  simp [stream]

end Stream

end Script

/-! ## A read takes from the stream -/

/-- What a read of at most `k` bytes may return from a stream that still holds `σ.1` and ends with
    the error `σ.2`: bytes that begin the stream, at most `k` of them, and none only when it asked
    for none or the stream is over and ended cleanly; or, once it is over, the error it ended
    with. -/
def Takes (σ : List UInt8 × Option Failure) (k : Nat) : Except Failure Reply → Prop
  | .ok (.bytes b) => b <+: σ.1 ∧ b.length ≤ k ∧ (b = [] → k = 0 ∨ σ = ([], none))
  | .ok (.count _) => False
  | .error e => σ = ([], some e)

/-- The bytes a read returned, none when it failed. -/
def bytesRead : Except Failure Reply → List UInt8
  | .ok (.bytes b) => b
  | _ => []

/-- Taking the first bytes of the write in flight leaves its rest ahead of what comes after it. -/
theorem drop_append_take_length {α : Type} (l m : List α) (k : Nat) :
    (l ++ m).drop (l.take k).length = l.drop k ++ m := by
  rw [List.length_take, List.drop_append_of_le_length (Nat.min_le_right _ _)]
  by_cases hk : k ≤ l.length
  · rw [Nat.min_eq_left hk]
  · rw [Nat.min_eq_right (by omega), List.drop_length, List.drop_eq_nil_of_le (by omega)]

namespace Script

variable {s : Script} {p : Pipe}

/-- A pass of a read of at most `k` bytes, once bytes are pending or the writer's end is closed,
    returns what the stream allows, and the thread goes on feeding what is left of the stream. -/
theorem Feeds.read_returns (hf : s.Feeds p) (k : Nat) (w : Bool)
    (hready : p.pending ≠ [] ∨ p.writer.isClosed = true) :
    ∃ r p', (Call.read (.upTo k) w).step p = .returns r p' ∧ Takes (s.stream p) k r ∧
      s.Feeds p' ∧ s.stream p' = ((s.stream p).1.drop (bytesRead r).length, (s.stream p).2) ∧
      p'.waitingReads = (Call.wake w p).waitingReads := by
  have hpass := @readerPass_of_side (.read (.upTo k) w) p rfl
  generalize (Call.read (.upTo k) w).step p = r at hpass ⊢
  cases hpass with
  | refused _ hr => simp [hf.reader, EndState.isClosed] at hr
  | takes _ hp =>
    -- the write in flight is drained, so the writer's end is open
    have hw : p.writer = .open := by
      obtain ⟨n, hn⟩ := hf.pending hp
      cases hw : p.writer with
      | «open» => rfl
      | closed e => simp [hf.closed (by simp [hw, EndState.isClosed])] at hn
    have hw' : ({ Call.wake w p with pending := p.pending.drop k } : Pipe).writer = .open := by
      simpa using hw
    refine ⟨_, _, rfl, ⟨?_, List.length_take_le _ _, fun hnil => ?_⟩,
      ⟨hf.side, by simp [hf.reader], hf.call, fun _ => hf.pending hp,
        by simp [hw, EndState.isClosed], fun hfin => by simpa using hf.finished hfin⟩, ?_, rfl⟩
    · rw [stream_open hw]
      exact (List.take_prefix k _).trans (List.prefix_append _ _)
    · rcases List.take_eq_nil_iff.mp hnil with hk | hnil'
      · exact .inl hk
      · exact absurd hnil' hp
    · rw [stream_open hw, stream_open hw']
      simp only [bytesRead, drop_append_take_length]
  | @ends _ _ e _ _ hp hw =>
    -- nothing is pending and the writer's end is closed: the stream is over
    rw [stream_closed hw]
    refine ⟨_, _, rfl, ?_, hf.wake w, ?_, rfl⟩
    · cases e <;> simp [Takes, Call.ending, Call.gathered, hp]
    · rw [stream_wake, stream_closed hw]
      cases e <;> simp [Call.ending, Call.gathered, bytesRead, hp]
  | waits _ _ hp hw => simp [hp, hw, EndState.isClosed] at hready

theorem Feeds.withWaiting (hf : s.Feeds p) (n : Nat) : s.Feeds { p with waitingReads := n } :=
  ⟨hf.side, hf.reader, hf.call, hf.pending, hf.closed, hf.finished⟩

@[simp] theorem stream_withWaiting (n : Nat) :
    s.stream { p with waitingReads := n } = s.stream p := by
  simp [stream]

end Script

/-! ## The world answers reads from the stream -/

namespace World

/-- The stream the world's handler feeds. -/
def stream (w : World) : List UInt8 × Option Failure := w.handler.stream w.pipe

/-- The world's handler feeds the session's end, and no read waits. -/
structure Feeds (w : World) : Prop where
  handler : w.handler.Feeds w.pipe
  idle : w.pipe.waitingReads = 0

theorem perform_returns {c : Call} {w : World} {r : Except Failure Reply} {p : Pipe} (n : Nat)
    (hen : c.enabled w.pipe = true) (h : c.step w.pipe = .returns r p) :
    perform (n + 1) c w = (r, { w with pipe := p }) := by
  simp [perform, hen, h]

theorem perform_continues {c c' : Call} {w : World} {p : Pipe} (n : Nat)
    (hen : c.enabled w.pipe = true) (h : c.step w.pipe = .continues c' p) :
    perform (n + 1) c w = perform n c' { w with pipe := p } := by
  simp [perform, hen, h]

theorem perform_waits {c : Call} {w : World} (n : Nat) (hen : c.enabled w.pipe = false) :
    perform (n + 1) c w = perform n c
      { w with handler := (w.handler.advance w.pipe).1, pipe := (w.handler.advance w.pipe).2 } := by
  simp [perform, hen]

/-- The world answers a read of at most `k` bytes from the handler's stream, within its rounds:
    at once when bytes are pending or the writer's end is closed; otherwise the read waits, the
    handler runs until it puts bytes in the pipe or closes its end, and the read takes its pass
    then.  The handler goes on feeding what is left of the stream, and no read waits. -/
theorem Feeds.perform_read {w : World} (hw : w.Feeds) (k n : Nat) :
    Takes w.stream k (perform (n + 3) (.read (.upTo k) false) w).1 ∧
      (perform (n + 3) (.read (.upTo k) false) w).2.Feeds ∧
      (perform (n + 3) (.read (.upTo k) false) w).2.stream =
        (w.stream.1.drop (bytesRead (perform (n + 3) (.read (.upTo k) false) w).1).length,
          w.stream.2) := by
  obtain ⟨hf, hidle⟩ := hw
  by_cases hready : w.pipe.pending ≠ [] ∨ w.pipe.writer.isClosed = true
  · obtain ⟨r, p', hstep, htakes, hf', hstream, hwaiting⟩ := hf.read_returns k false hready
    rw [perform_returns (n + 2) rfl hstep]
    exact ⟨htakes, ⟨hf', by simpa [hidle] using hwaiting⟩, hstream⟩
  · -- nothing to take yet: the read waits, counted among the waiting reads
    have hp : w.pipe.pending = [] := by
      by_cases hp : w.pipe.pending = []
      · exact hp
      · exact absurd (.inl hp) hready
    have hwo : w.pipe.writer = .open := by
      cases hwo : w.pipe.writer with
      | «open» => rfl
      | closed e => exact absurd (.inr (by simp [hwo, EndState.isClosed])) hready
    have hstep : (Call.read (.upTo k) false).step w.pipe =
        .continues (.read (.upTo k) true) { w.pipe with waitingReads := 1 } := by
      simp [Call.step, Call.wake, hf.reader, hp, hwo, hidle]
    have hen : (Call.read (.upTo k) true).enabled { w.pipe with waitingReads := 1 } = false := by
      simp [Call.enabled, hp, hwo, hf.reader, EndState.isClosed]
    -- the handler runs until it puts bytes in the pipe or closes its end
    have hf₁ := hf.withWaiting 1
    obtain ⟨hf₂, hstream₂, hwaiting₂⟩ := hf₁.advance
    have hready₂ := hf₁.advance_ready (by simp)
    have hen₂ : (Call.read (.upTo k) true).enabled
        (w.handler.advance { w.pipe with waitingReads := 1 }).2 = true := by
      rcases hready₂ with hp₂ | hw₂
      · simp [Call.enabled, hp₂]
      · simp [Call.enabled, hw₂]
    obtain ⟨r, p', hstep₂, htakes, hf', hstream, hwaiting⟩ :=
      hf₂.read_returns k true hready₂
    rw [perform_continues (n + 2) rfl hstep, perform_waits (n + 1) hen]
    rw [perform_returns n hen₂ hstep₂]
    simp only [stream, Script.stream_withWaiting] at hstream₂ ⊢
    rw [hstream₂] at htakes hstream
    refine ⟨htakes, ⟨hf', ?_⟩, hstream⟩
    simp [hwaiting, Call.wake, hwaiting₂]

theorem receive_keeps_pipe (w : World) (t : Number) (ph : Option Phase) :
    (w.receive t ph).2.pipe = w.pipe ∧ (w.receive t ph).2.handler = w.handler := by
  unfold World.receive
  cases w.events <;> exact ⟨rfl, rfl⟩

end World

/-! ## Runs whose reads take from the stream -/

/-- The request makes no call on the pipe but a fresh read of at most some bytes, and leaves the
    session's end of the pipe open. -/
def Request.OnlyReads : Request → Prop
  | .stream (.read (.upTo _) false) => True
  | .stream _ => False
  | .closeStream _ => False
  | _ => True

/-- The exchange, if it is a fresh read of at most `k` bytes, got what a read may take from the
    stream `σ`. -/
def Exchange.TakesFrom (σ : List UInt8 × Option Failure) (e : Exchange) : Prop :=
  ∀ k, e.1 = .stream (.read (.upTo k) false) → ∃ r, e.2 = .streamed r ∧ Takes σ k r

/-- What the reads of the exchanges `h` leave of the stream `σ`. -/
def leftAfter (σ : List UInt8 × Option Failure) (h : List Exchange) :
    List UInt8 × Option Failure :=
  (σ.1.drop (readBytes h).length, σ.2)

@[simp] theorem leftAfter_nil (σ : List UInt8 × Option Failure) : leftAfter σ [] = σ := rfl

theorem leftAfter_append (σ : List UInt8 × Option Failure) (h t : List Exchange) :
    leftAfter σ (h ++ t) = leftAfter (leftAfter σ h) t := by
  simp [leftAfter, List.drop_drop]

theorem readBytes_read (cut : Cut) (w : Bool) (r : Except Failure Reply) :
    readBytes [(.stream (.read cut w), .streamed r)] = bytesRead r := by
  rcases r with e | b | n <;> simp [readBytes_cons, bytesRead, Exchange.read?]

/-- Every read of the exchanges `H`, up to the first exchange in which the session did anything
    else on its end of the pipe, took from what the reads before it left of the stream `σ`. -/
def ReadsFrom (σ : List UInt8 × Option Failure) (H : List Exchange) : Prop :=
  ∀ A e B, H = A ++ e :: B → (∀ e' ∈ A, e'.1.OnlyReads) → e.TakesFrom (leftAfter σ A)

/-- The reads of a run that goes on: those of its first part, and, while the session only read,
    those of the rest from what the first part left of the stream. -/
theorem readsFrom_append (σ : List UInt8 × Option Failure) (h t : List Exchange) :
    ReadsFrom σ (h ++ t) ↔
      ReadsFrom σ h ∧ ((∀ e ∈ h, e.1.OnlyReads) → ReadsFrom (leftAfter σ h) t) := by
  refine (forall_split_append (P := fun A e _ => (∀ e' ∈ A, e'.1.OnlyReads) →
    e.TakesFrom (leftAfter σ A)) h t).trans ?_
  refine and_congr Iff.rfl ⟨fun hright hh A e B ht hA => ?_, fun hright A e B ht hA => ?_⟩
  · rw [← leftAfter_append]
    exact hright A e B ht fun e' he' => (List.mem_append.mp he').elim (hh e') (hA e')
  · have hh : ∀ e' ∈ h, e'.1.OnlyReads := fun e' he' => hA e' (List.mem_append_left A he')
    rw [leftAfter_append]
    exact hright hh A e B ht fun e' he' => hA e' (List.mem_append_right h he')

theorem readsFrom_singleton (σ : List UInt8 × Option Failure) (e : Exchange) :
    ReadsFrom σ [e] ↔ e.TakesFrom σ := by
  refine (forall_split_singleton (P := fun A e _ => (∀ e' ∈ A, e'.1.OnlyReads) →
    e.TakesFrom (leftAfter σ A)) e).trans ?_
  simp

/-- The answers of a run kept to the pipe's sizes, and its reads took from the stream `σ`. -/
def Streamed (σ : List UInt8 × Option Failure) (H : List Exchange) : Prop :=
  (∀ e ∈ H, e.FitsPipe) ∧ ReadsFrom σ H

namespace World

/-- The world's answer to a request that only reads: a read takes from the handler's stream and
    leaves the handler feeding what is left of it; any other such request leaves the pipe and the
    handler alone. -/
theorem Feeds.answer {w : World} (hw : w.Feeds) {r : Request} (hr : r.OnlyReads) :
    Exchange.TakesFrom w.stream (r, (w.answer r).1) ∧ (w.answer r).2.Feeds ∧
      (w.answer r).2.stream = leftAfter w.stream [(r, (w.answer r).1)] := by
  -- the requests that make no call keep the pipe and the handler
  have hquiet : ∀ w' : World, w'.pipe = w.pipe → w'.handler = w.handler →
      (∀ k, r ≠ .stream (.read (.upTo k) false)) → readBytes [(r, (w.answer r).1)] = [] →
      Exchange.TakesFrom w.stream (r, (w.answer r).1) ∧ w'.Feeds ∧
        w'.stream = leftAfter w.stream [(r, (w.answer r).1)] := by
    intro w' hp hh hnr hnone
    refine ⟨fun k hk => absurd hk (hnr k),
      ⟨by rw [hp, hh]; exact hw.handler, by rw [hp]; exact hw.idle⟩, ?_⟩
    simp [leftAfter, hnone, stream, hp, hh]
  cases r with
  | stream c =>
    cases c with
    | read cut waiting =>
      cases cut with
      | upTo k =>
        cases waiting with
        | «false» =>
          obtain ⟨htakes, hfeeds, hstream⟩ := hw.perform_read k 13
          refine ⟨fun k' hk' => ?_, hfeeds, ?_⟩
          · cases hk'
            exact ⟨_, rfl, htakes⟩
          · show (perform 16 (.read (.upTo k) false) w).2.stream = leftAfter w.stream
              [(.stream (.read (.upTo k) false),
                .streamed (perform 16 (.read (.upTo k) false) w).1)]
            rw [hstream, leftAfter, readBytes_read]
        | «true» => exact hr.elim
      | unusable => exact hr.elim
    | _ => exact hr.elim
  | closeStream e => exact hr.elim
  | now => exact hquiet _ rfl rfl (fun _ h => Request.noConfusion h) rfl
  | localAddress => exact hquiet _ rfl rfl (fun _ h => Request.noConfusion h) rfl
  | send bytes target => exact hquiet _ rfl rfl (fun _ h => Request.noConfusion h) rfl
  | receive t ph =>
    exact hquiet _ (receive_keeps_pipe w t ph).1 (receive_keeps_pipe w t ph).2
      (fun _ h => Request.noConfusion h) rfl
  | closeSocket => exact hquiet _ rfl rfl (fun _ h => Request.noConfusion h) rfl
  | report stats => exact hquiet _ rfl rfl (fun _ h => Request.noConfusion h) rfl

/-- The world feeds the stream `σ` to the session: the answers so far kept to the pipe's sizes
    and read from `σ`, and while the session has only read from its end, the handler feeds what
    those reads left of `σ`, with no read waiting. -/
structure Feeding (σ : List UInt8 × Option Failure) (w : World) (h : List Exchange) : Prop where
  streamed : Streamed σ h
  feeds : (∀ e ∈ h, e.1.OnlyReads) → w.Feeds ∧ w.stream = leftAfter σ h

/-- Every answer of the world keeps it feeding the stream, and keeps the run to the pipe's sizes
    and its reads to the stream. -/
theorem feeding_answers (σ : List UInt8 × Option Failure) :
    Answers (Streamed σ) (Feeding σ) := by
  intro w h r hw
  have hfits : ∀ e ∈ h ++ [(r, (w.answer r).1)], e.FitsPipe := by
    intro e he
    rcases List.mem_append.mp he with he | he
    · exact hw.streamed.1 e he
    · rw [List.mem_singleton.mp he]
      exact answer_fitsPipe w r
  -- the exchange reads from what the run left of the stream, if the run only read so far
  have hreads : ReadsFrom σ (h ++ [(r, (w.answer r).1)]) := by
    refine (readsFrom_append σ h _).mpr ⟨hw.streamed.2, fun hh => ?_⟩
    rw [readsFrom_singleton]
    by_cases hr : r.OnlyReads
    · have hfed := hw.feeds hh
      rw [← hfed.2]
      exact (hfed.1.answer hr).1
    · intro k hk
      have hk' : r = .stream (.read (.upTo k) false) := hk
      rw [hk'] at hr
      exact absurd trivial hr
  refine ⟨⟨hfits, hreads⟩, ⟨⟨hfits, hreads⟩, fun hq => ?_⟩⟩
  have hh : ∀ e ∈ h, e.1.OnlyReads := fun e he => hq e (List.mem_append_left _ he)
  have hr : r.OnlyReads := hq _ (List.mem_append_right h (List.mem_singleton_self _))
  obtain ⟨hfeeds, hstream⟩ := hw.feeds hh
  obtain ⟨-, hfeeds', hstream'⟩ := hfeeds.answer hr
  rw [hstream', hstream, leftAfter_append]
  exact ⟨hfeeds', rfl⟩

/-- A fresh world whose handler writes with the operations `ops` feeds the stream they feed. -/
theorem feeding_fresh (clock : Number) (events : List NetEvent) (failingSends : List Nat)
    (localAddress : Option Address) (defaultSource : Address) (ops : List Op) :
    Feeding (Op.feed ops)
      (World.fresh clock events failingSends localAddress defaultSource (Script.start .writer ops))
      [] := by
  refine ⟨⟨by simp, fun A e B h => by simp at h⟩, fun _ => ⟨⟨?_, rfl⟩, ?_⟩⟩
  · exact ⟨rfl, rfl, .inl rfl, fun h => absurd rfl h, fun h => absurd h Bool.false_ne_true,
      fun h => absurd h Bool.false_ne_true⟩
  · simp [stream, Script.stream, World.fresh, Pipe.fresh, Script.start]

end World

end Tftp
