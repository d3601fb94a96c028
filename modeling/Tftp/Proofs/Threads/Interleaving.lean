import Tftp.Proofs.Threads.Embedding
import Tftp.Proofs.Threads.Closing
import Tftp.Proofs.Progress.Termination
import Tftp.Proofs.Pipe.Advance
import Tftp.Proofs.Reach
import Tftp.Proofs.Pipe.Closing
import Mathlib.Order.RelClasses
import Mathlib.Order.WellFounded

/-! # Every interleaving of a session's thread with its handler's

    The two threads of a transfer step in any order (`Duo.Step`).  What every state they reach
    from the start of a session keeps is `Duo.Sound`: the scripts on the pipe are coherent, the
    session's call under way reads no stream to its end, and some history of exchanges led the
    program to where its thread stands, in a steady world, with the session's end of the pipe
    closed exactly when the history closed it.  It rests on three promises of the session's
    program (`Program.UsesPipe`): it makes fresh calls on its own end only, only while that end
    is open, and it has closed the end by the time it is done.  Each step keeps `Sound`
    (`Duo.Sound.step`).

    On sound states every step lowers a measure: the place of the session's thread in its
    program, then the weight of the scripts on the pipe (`Duo.Sound.below`).  So no
    interleaving goes on for ever, two runs from a sound state can be continued to a common
    state (`Duo.Sound.join_of_runs`, Newman's lemma on that measure), and no sound state is
    stuck before both threads are over (`Duo.Sound.progress`). -/

namespace Tftp

@[simp] theorem Side.other_other (σ : Side) : σ.other.other = σ := by
  cases σ <;> rfl

/-! ## What a pass of the session's call does -/

namespace Call

/-- The call reads to the end of the stream; a session never makes one. -/
def readsAll : Call → Bool
  | .readAll _ _ => true
  | _ => false

/-- A call that reads no stream to its end has as many passes left on every pipe. -/
theorem passes_congr {c : Call} (h : c.readsAll = false) (p q : Pipe) :
    c.passes p = c.passes q := by
  cases c <;> simp_all [readsAll, passes]

/-- A call goes on as a call of its own kind: a read as a read, a write as a write. -/
theorem readsAll_continues {c c' : Call} {p p' : Pipe} (h : c.step p = .continues c' p') :
    c'.readsAll = c.readsAll := by
  cases c <;> simp only [Call.step] at h <;> (repeat' split at h) <;>
    simp only [CallStep.continues.injEq, reduceCtorEq] at h <;>
    obtain ⟨rfl, -⟩ := h <;> rfl

end Call

/-- A call that a session may begin is fresh on its end: no read to the end of the stream, not
    yet waiting, and on the end `σ`. -/
theorem Request.Opens.fresh {σ : Side} {c : Call} (h : (Request.stream c).Opens σ) :
    c.readsAll = false ∧ c.waiting = false ∧ c.side = σ := by
  rcases c with ⟨cut, _ | _⟩ | ⟨g, w⟩ | d | n | _ <;>
    simp_all [Request.Opens, Call.readsAll, Call.waiting, Call.side]

/-! ## The session's end of the pipe -/

/-- The end `σ` of the pipe is closed. -/
def Pipe.closedAt (p : Pipe) : Side → Bool
  | .writer => p.writer.isClosed
  | .reader => p.reader.isClosed

theorem Pipe.closedAt_step (c : Call) (p : Pipe) (σ : Side) :
    (c.step p).pipe.closedAt σ = p.closedAt σ := by
  obtain ⟨hw, hr⟩ := c.step_ends p
  cases σ <;> simp [Pipe.closedAt, hr, hw]

theorem Pipe.closedAt_closeOwn {S : Script} {σ : Side} (hS : S.side = σ) (e : Option Failure)
    (p : Pipe) : (S.closeOwn e p).closedAt σ = true := by
  cases σ
  · rw [Pair.closeOwn_writer hS]
    exact EndState.isClosed_close p.writer e
  · rw [Pair.closeOwn_reader hS]
    exact EndState.isClosed_close p.reader e

theorem Shut.append_iff {h : List Exchange} {e : Exchange} (he : e.streamClose? = none) :
    Shut (h ++ [e]) ↔ Shut h := by
  simp [Shut, List.filterMap_append, he]

theorem Shut.closeStream (h : List Exchange) (e : Option Failure) (x : Response) :
    Shut (h ++ [(.closeStream e, x)]) := by
  simp [Shut, List.filterMap_append, Exchange.streamClose?]

/-- Exact surroundings were exact at every point before. -/
theorem Exact.of_prefix {E : Nat} {pre h : List Exchange} (hx : Exact E h) (hp : pre <+: h) :
    Exact E pre := by
  obtain ⟨t, rfl⟩ := hp
  refine ⟨?_, ((clocked_append _ pre t).mp hx.2).1⟩
  have := hx.1
  rw [arrivals_append] at this
  omega

namespace World

variable {E : Nat} {w : World} {h : List Exchange}

theorem Steady.exact (hw : Steady E w h) : Exact E h :=
  ⟨by have := hw.events; omega, hw.clocked⟩

/-- Steadiness reads the events and the clock of the world alone. -/
theorem Steady.frame (hw : Steady E w h) {w' : World} (hev : w'.events = w.events)
    (hclk : w'.clock = w.clock) : Steady E w' h where
  events := by rw [hev]; exact hw.events
  whole := by rw [hev]; exact hw.whole
  clocked := hw.clocked
  clock := by rw [hclk]; exact hw.clock

/-- An exchange that reads no clock and receives nothing, whatever its answer, keeps steady a
    world that keeps its events and clock. -/
theorem Steady.untimed (hw : Steady E w h) {r : Request} (hr : r.timed = false) (x : Response)
    {w' : World} (hev : w'.events = w.events) (hclk : w'.clock = w.clock) :
    Steady E w' (h ++ [(r, x)]) := by
  have harr : arrivals (h ++ [(r, x)]) = arrivals h := by
    rw [arrivals_append, arrivals_untimed hr, Nat.add_zero]
  have hg : Gauge.of (h ++ [(r, x)]) = Gauge.of h := by
    rw [Gauge.of_concat, Gauge.after_untimed _ hr]
  refine ⟨?_, ?_, (clocked_concat _ _).mpr ⟨hw.clocked, Gauge.allows_untimed _ hr _⟩, ?_⟩
  · rw [harr, hev]
    exact hw.events
  · rw [hev]
    exact hw.whole
  · rw [hg, hclk]
    exact hw.clock

end World

/-! ## The promises of the session's program -/

namespace Program

variable {α : Type}

/-- Every program a run reaches asks only what the whole program may ask. -/
theorem Asks.reaches {P : Request → Prop} {p q : Program α} {H : List Exchange} (hp : p.Asks P)
    (hr : p.Reaches H q) : q.Asks P := by
  induction hr with
  | refl => exact hp
  | step r k x _ ih => exact ih (hp.2 x)

/-- A run that has come to a request goes on with its answer. -/
theorem Reaches.answer {p : Program α} {H : List Exchange} {r : Request}
    {k : Response → Program α} (hr : p.Reaches H (.ask r k)) (x : Response) :
    p.Reaches (H ++ [(r, x)]) (k x) :=
  hr.trans (.step r k x (.refl _))

/-- What a session's program promises about the pipe, whatever the answers: it begins only fresh
    calls on its own end `σ`, only while that end is open, and in exact surroundings of at most
    `E` datagrams it has closed the end by the time it is done. -/
structure UsesPipe (σ : Side) (E : Nat) (P₀ : Program α) : Prop where
  asks : P₀.Asks (Request.Opens σ)
  callsWhileOpen : P₀.Always (fun _ => True) (fun _ H => CallsWhileOpen H) []
  shuts : P₀.Always (Exact E) (fun _ H => Shut H) []

end Program

/-! ## The session's script beside the handler's -/

namespace Thread

variable {α : Type} {σ : Side}

/-- A request that neither calls nor closes the pipe is nothing to the session's script. -/
theorem script_quiet {r : Request} (hr : r.callsPipe = false) (hc : ∀ e, r ≠ .closeStream e)
    (k : Response → Program α) : (Thread.runs (.ask r k)).script σ = ⟨σ, [], none, [], false⟩ := by
  cases r with
  | stream c => simp [Request.callsPipe] at hr
  | closeStream e => exact absurd rfl (hc e)
  | _ => rfl

theorem script_call {q : Program α} {c : Call} (h : ((Thread.runs q).script σ).call = some c) :
    ∃ k, q = .ask (.stream c) k := by
  rcases q with a | ⟨r, k⟩
  · simp [script] at h
  · cases r <;> simp [script] at h
    exact ⟨k, by rw [h]⟩

theorem script_finished {q : Program α} (h : ((Thread.runs q).script σ).finished = true) :
    ∃ a, q = .done a := by
  rcases q with a | ⟨r, k⟩
  · exact ⟨a, rfl⟩
  · cases r <;> simp [script] at h

/-- A pass of the call that goes on is a step of the script to the script of the call. -/
theorem script_continues {t : Thread α} {c c' : Call} {k : Response → Program α} {q q' : Pipe}
    (ht : t.call? = some (c, k)) (hen : c.enabled q = true) (hcs : c.step q = .continues c' q') :
    (t.script σ).step q = some ((Thread.calls c' k).script σ, q') := by
  rw [script_step_of_call ht, if_pos hen, hcs, script_of_call ht]
  rfl

/-- A pass of the call that returns is a step of the script to one with no call under way. -/
theorem script_returns {t : Thread α} {c : Call} {k : Response → Program α} {q q' : Pipe}
    {res : Except Failure Reply} (ht : t.call? = some (c, k)) (hen : c.enabled q = true)
    (hcs : c.step q = .returns res q') :
    (t.script σ).step q = some (⟨σ, [], none, [Script.outcomeOf res], false⟩, q') := by
  rw [script_step_of_call ht, if_pos hen, hcs, script_of_call ht]
  rfl

/-- The exchanges `H` led the program `P₀` to where the thread stands: to the program it runs,
    or to the request of the call it is making. -/
def Reached (P₀ : Program α) (H : List Exchange) : Thread α → Prop
  | .runs p => P₀.Reaches H p
  | .calls _ k => ∃ c₀, P₀.Reaches H (.ask (.stream c₀) k)

theorem Reached.call {P₀ : Program α} {H : List Exchange} {t : Thread α} {c : Call}
    {k : Response → Program α} (ht : t.call? = some (c, k)) (hr : t.Reached P₀ H) :
    ∃ c₀, P₀.Reaches H (.ask (.stream c₀) k) := by
  rcases call?_eq_some ht with rfl | rfl
  · exact ⟨c, hr⟩
  · exact hr

end Thread

namespace Pair

variable {α : Type} {σ : Side} {hd S : Script} {p : Pipe}

/-- A step of either script on the pipe: the handler's or the session's. -/
theorem Step.place_cases {H : Side} {y : Pair} (h : Step (place H hd S p) y) :
    (∃ h q, hd.step p = some (h, q)) ∨ ∃ s q, S.step p = some (s, q) := by
  cases H with
  | writer =>
    cases h with
    | writer h => exact .inl ⟨_, _, h⟩
    | reader h => exact .inr ⟨_, _, h⟩
  | reader =>
    cases h with
    | writer h => exact .inr ⟨_, _, h⟩
    | reader h => exact .inl ⟨_, _, h⟩

/-- The handler's steps leave the session's end as it was. -/
theorem Coherent.handler_keeps (hx : (place σ.other hd S p).Coherent) {h : Script} {q : Pipe}
    (hs : hd.step p = some (h, q)) : q.closedAt σ = p.closedAt σ := by
  cases σ with
  | writer => simp [Pipe.closedAt, Coherent.reader_keeps_writer hx hs]
  | reader => simp [Pipe.closedAt, (Coherent.writer_keeps_reader hx hs).1]

/-- On coherent scripts, a session's script with no call under way may give way to any other of
    its side whose call, if any, is fresh on an open end, and which has closed its end if it
    finished. -/
theorem Coherent.swap {S' : Script} (hx : (place σ.other hd S p).Coherent) (hS : S.call = none)
    (hside : S'.side = σ)
    (hcall : ∀ c, S'.call = some c → c.side = σ ∧ c.waiting = false ∧ p.closedAt σ = false)
    (hfin : S'.finished = true → S'.call = none ∧ p.closedAt σ = true) :
    (place σ.other hd S' p).Coherent := by
  -- the new script calls its end only while it is open
  have hopen : S'.call ≠ none → p.closedAt σ = false := fun hne => by
    obtain ⟨c, hc⟩ := Option.ne_none_iff_exists'.mp hne
    exact (hcall c hc).2.2
  cases σ with
  | writer =>
    exact { writerSide := hside, readerSide := hx.readerSide
            writerCall := fun c hc => (hcall c hc).1, readerCall := hx.readerCall
            writerOpen := fun hne => EndState.isClosed_eq_false.mp (hopen hne)
            readerOpen := hx.readerOpen
            writerFinished := hfin, readerFinished := hx.readerFinished
            inFlight := fun hp => absurd (hx.pending_eq_nil fun n => by simp [place, Side.other, hS]) hp
            waitingCount := hx.waitingCount }
  | reader =>
    -- the count of waiting reads stays at none: the new read, if any, is not waiting yet
    have hwaiting : S'.call.any Call.waiting = false := by
      cases hc : S'.call with
      | none => rfl
      | some c => simpa using (hcall c hc).2.1
    have hcount := hx.waitingCount
    simp only [place, Side.other, hS, Option.any_none] at hcount
    exact { writerSide := hx.writerSide, readerSide := hside
            writerCall := hx.writerCall, readerCall := fun c hc => (hcall c hc).1
            writerOpen := hx.writerOpen
            readerOpen := fun hne => EndState.isClosed_eq_false.mp (hopen hne)
            writerFinished := hx.writerFinished, readerFinished := hfin
            inFlight := hx.inFlight
            waitingCount := by simp only [place, Side.other, hwaiting]; exact hcount }

/-- On coherent scripts, a session's script with no call under way may give way to the script
    of a program that calls its end only when the call is fresh and the end open, and that is done
    only once the end is closed. -/
theorem Coherent.to_runs {q : Program α} (hx : (place σ.other hd S p).Coherent)
    (hS : S.call = none)
    (hcall : ∀ c k, q = .ask (.stream c) k → (Request.stream c).Opens σ ∧ p.closedAt σ = false)
    (hdone : ∀ a, q = .done a → p.closedAt σ = true) :
    (place σ.other hd ((Thread.runs q).script σ) p).Coherent := by
  apply hx.swap hS (Thread.script_side σ _)
  · intro c hc
    obtain ⟨k, rfl⟩ := Thread.script_call hc
    obtain ⟨hopens, hclosed⟩ := hcall c k rfl
    obtain ⟨-, hwaiting, hside⟩ := hopens.fresh
    exact ⟨hside, hwaiting, hclosed⟩
  · intro hfin
    obtain ⟨a, rfl⟩ := Thread.script_finished hfin
    exact ⟨rfl, hdone a rfl⟩

/-- Where a program that keeps its promises about the pipe has come after the exchanges `H`,
    whose session's end is closed exactly when the pipe's is, its script may take the place of a
    session's script with no call under way. -/
theorem Coherent.to_reached {E : Nat} {P₀ q : Program α} {H : List Exchange}
    (hP : P₀.UsesPipe σ E) (hx : (place σ.other hd S p).Coherent) (hS : S.call = none)
    (hr : P₀.Reaches H q) (hexact : Exact E H) (hshut : Shut H ↔ p.closedAt σ = true) :
    (place σ.other hd ((Thread.runs q).script σ) p).Coherent := by
  apply hx.to_runs hS
  · intro c k hq
    rw [hq] at hr
    refine ⟨(hP.asks.reaches hr).1, ?_⟩
    have hopen := Program.not_shut_of_call hP.callsWhileOpen hr
    rw [hshut] at hopen
    simpa using hopen
  · intro a hq
    rw [hq] at hr
    have hclosed := hP.shuts.reaches_done hr fun pre hpre _ => by
      rw [List.nil_append]
      exact hexact.of_prefix hpre
    rw [List.nil_append, hshut] at hclosed
    exact hclosed

end Pair

/-! ## What every interleaving keeps -/

namespace Duo

open Relation

variable {α : Type} {σ : Side} {E : Nat} {P₀ : Program α}

/-- What every state the threads reach from the start of the program `P₀` keeps, the session
    holding the end `σ` of the pipe in a world of at most `E` datagrams: the handler holds the
    other end; the two scripts on the pipe are coherent; a call under way reads no stream to its
    end; and some exchanges led `P₀` to where the thread stands, keep the world steady, and
    closed the session's end exactly when the pipe's end `σ` is closed. -/
structure Sound (σ : Side) (E : Nat) (P₀ : Program α) (x : Duo α) : Prop where
  side : x.world.handler.side = σ.other
  coherent : (Pair.place σ.other x.world.handler (x.thread.script σ) x.world.pipe).Coherent
  plain : ∀ c k, x.thread = .calls c k → c.readsAll = false
  history : ∃ H, x.thread.Reached P₀ H ∧ World.Steady E x.world H ∧
    (Shut H ↔ x.world.pipe.closedAt σ = true)

theorem Sound.pair_eq {x : Duo α} (hx : Sound σ E P₀ x) :
    x.pair = Pair.place σ.other x.world.handler (x.thread.script σ) x.world.pipe := by
  rw [Duo.pair, hx.side, Side.other_other]

/-- The call a sound thread makes reads no stream to its end. -/
theorem Sound.call_plain {t : Thread α} {w : World} {c : Call} {k : Response → Program α}
    (hP : P₀.UsesPipe σ E) (hx : Sound σ E P₀ ⟨t, w⟩) (ht : t.call? = some (c, k)) :
    c.readsAll = false := by
  rcases Thread.call?_eq_some ht with rfl | rfl
  · obtain ⟨H, hreach, -⟩ := hx.history
    exact ((hP.asks.reaches hreach).1).fresh.1
  · exact hx.plain c k rfl

section Steps

variable {t : Thread α} {w : World}

/-- A thread back in its program is sound where its script may take the place of one with no call
    under way: the handler holds the other end, and some exchanges led the program there, keep
    the world steady and closed the session's end exactly when the pipe's end `σ` is closed. -/
theorem Sound.of_runs (hP : P₀.UsesPipe σ E) {q : Program α} {S : Script} {H : List Exchange}
    (hside : w.handler.side = σ.other) (hco : (Pair.place σ.other w.handler S w.pipe).Coherent)
    (hS : S.call = none) (hr : P₀.Reaches H q) (hsteady : World.Steady E w H)
    (hshut : Shut H ↔ w.pipe.closedAt σ = true) : Sound σ E P₀ ⟨.runs q, w⟩ :=
  ⟨hside, hco.to_reached hP hS hr hsteady.exact hshut, (fun _ _ h => by cases h), H, hr,
    hsteady, hshut⟩

theorem Sound.handler {h : Script} {p : Pipe} (hx : Sound σ E P₀ ⟨t, w⟩)
    (hs : w.handler.step w.pipe = some (h, p)) :
    Sound σ E P₀ ⟨t, { w with handler := h, pipe := p }⟩ := by
  obtain ⟨hside, hco, hplain, H, hreach, hsteady, hshut⟩ := hx
  refine ⟨(Script.side_of_step hs).trans hside, hco.step (Pair.Step.of_handler hs), hplain, H,
    hreach, hsteady.frame rfl rfl, ?_⟩
  show Shut H ↔ p.closedAt σ = true
  rw [hshut, hco.handler_keeps hs]

theorem Sound.answer (hP : P₀.UsesPipe σ E) {r : Request} {k : Response → Program α}
    (hx : Sound σ E P₀ ⟨.runs (.ask r k), w⟩) (hr : r.callsPipe = false) :
    Sound σ E P₀ ⟨.runs (k (w.answer r).1), (w.answer r).2⟩ := by
  obtain ⟨hside, hco, -, H, hreach, hsteady, hshut⟩ := hx
  obtain ⟨-, hsteady'⟩ := World.steady_answers w H r hsteady
  have hreach' := Program.Reaches.answer hreach (w.answer r).1
  by_cases hc : ∃ e, r = .closeStream e
  · obtain ⟨e, rfl⟩ := hc
    -- the session closes its end: a step of its script
    have hS : (⟨σ, [], none, [], false⟩ : Script).side = w.handler.side.other := by
      rw [hside, Side.other_other]
    have hclosed := Pipe.closedAt_closeOwn (S := ⟨σ, [], none, [], false⟩) rfl e w.pipe
    have hshut' := Shut.closeStream H e (w.answer (.closeStream e)).1
    have hco₁ := hco.step (Pair.Step.of_session (Thread.script_step_closeStream σ e k w.pipe))
    rw [World.answer_closeStream w e hS] at hsteady' hreach' hshut' ⊢
    exact Sound.of_runs hP hside hco₁ rfl hreach' hsteady' (iff_of_true hshut' hclosed)
  · have hc' : ∀ e, r ≠ .closeStream e := fun e he => hc ⟨e, he⟩
    obtain ⟨hhd, hpipe, -⟩ := World.answer_frame hr hc' w w.handler w.pipe
    have hquiet : Shut (H ++ [(r, (w.answer r).1)]) ↔ Shut H :=
      Shut.append_iff (by cases r <;> simp_all [Exchange.streamClose?])
    have hshut' : Shut (H ++ [(r, (w.answer r).1)]) ↔ (w.answer r).2.pipe.closedAt σ = true := by
      rw [hquiet, hshut, hpipe]
    rw [Thread.script_quiet hr hc', ← hhd, ← hpipe] at hco
    exact Sound.of_runs hP (hhd ▸ hside) hco rfl hreach' hsteady' hshut'

theorem Sound.pass (hP : P₀.UsesPipe σ E) {c : Call} {k : Response → Program α}
    (hx : Sound σ E P₀ ⟨t, w⟩) (ht : t.call? = some (c, k)) (hen : c.enabled w.pipe = true) :
    Sound σ E P₀ ⟨(Thread.resume k (c.step w.pipe)).1,
      { w with pipe := (Thread.resume k (c.step w.pipe)).2 }⟩ := by
  have hplain := hx.call_plain hP ht
  obtain ⟨hside, hco, -, H, hreach, hsteady, hshut⟩ := hx
  obtain ⟨c₀, hreach₀⟩ := Thread.Reached.call ht hreach
  have hends := Pipe.closedAt_step c w.pipe σ
  cases hcs : c.step w.pipe with
  | continues c' q =>
    rw [hcs] at hends
    have hco₁ := hco.step (Pair.Step.of_session (Thread.script_continues ht hen hcs))
    refine ⟨hside, hco₁, fun c'' k' h => ?_, H, ⟨c₀, hreach₀⟩, hsteady.frame rfl rfl, ?_⟩
    · cases h
      exact (Call.readsAll_continues hcs).trans hplain
    · show Shut H ↔ q.closedAt σ = true
      rw [hshut, ← hends]
      rfl
  | returns res q =>
    rw [hcs] at hends
    have hco₁ := hco.step (Pair.Step.of_session (Thread.script_returns ht hen hcs))
    -- the call's exchange is untimed and leaves the session's end as it was
    have hreach' := Program.Reaches.answer hreach₀ (.streamed res)
    have hsteady' : World.Steady E { w with pipe := q } (H ++ [(.stream c₀, .streamed res)]) :=
      hsteady.untimed rfl (.streamed res) rfl rfl
    have hshut' : Shut (H ++ [(.stream c₀, .streamed res)]) ↔ q.closedAt σ = true := by
      rw [Shut.append_iff rfl, hshut, ← hends]
      rfl
    exact Sound.of_runs hP hside hco₁ rfl hreach' hsteady' hshut'

end Steps

/-- Every step keeps a state sound. -/
theorem Sound.step (hP : P₀.UsesPipe σ E) {x y : Duo α} (hx : Sound σ E P₀ x) (h : Step x y) :
    Sound σ E P₀ y := by
  cases h with
  | answer hr => exact hx.answer hP hr
  | pass ht hen => exact hx.pass hP ht hen
  | handler hs => exact hx.handler hs

theorem Sound.run (hP : P₀.UsesPipe σ E) {x y : Duo α} (hx : Sound σ E P₀ x)
    (h : ReflTransGen Step x y) : Sound σ E P₀ y := by
  induction h with
  | refl => exact hx
  | tail _ hstep ih => exact ih.step hP hstep

/-! ## The measure of an interleaving -/

end Duo

namespace Thread

variable {α : Type}

/-- Where the session's thread stands in its program: at a program, or in a call whose return
    goes on with `k`. -/
inductive Place (α : Type) where
  | program (p : Program α)
  | call (k : Response → Program α)

/-- The place of the thread after one of its steps: past a request, into its call, or back from
    the call. -/
inductive Place.Lt : Place α → Place α → Prop
  | answered (r : Request) (k : Response → Program α) (x : Response) :
      Lt (.program (k x)) (.program (.ask r k))
  | enters (r : Request) (k : Response → Program α) : Lt (.call k) (.program (.ask r k))
  | returns (k : Response → Program α) (x : Response) : Lt (.program (k x)) (.call k)

/-- A thread steps back only finitely often: the induction is on the program, whose every
    answer is a smaller program. -/
theorem Place.lt_wf : WellFounded (@Place.Lt α) := by
  have hcall : ∀ k : Response → Program α, (∀ x, Acc Lt (.program (k x))) → Acc Lt (.call k) :=
    fun k hk => ⟨_, fun y hy => by cases hy; exact hk _⟩
  have hprog : ∀ p : Program α, Acc Lt (.program p) := by
    intro p
    induction p with
    | done a => exact ⟨_, fun y hy => by cases hy⟩
    | ask r k ih =>
      refine ⟨_, fun y hy => ?_⟩
      cases hy with
      | answered => exact ih _
      | enters => exact hcall k ih
  refine ⟨fun x => ?_⟩
  cases x with
  | program p => exact hprog p
  | call k => exact hcall k fun x => hprog (k x)

/-- The place of the session's thread. -/
def place : Thread α → Place α
  | .runs p => .program p
  | .calls _ k => .call k

end Thread

namespace Duo

open Relation

variable {α : Type} {σ : Side} {E : Nat} {P₀ : Program α}

/-- The measure of a state: the place of the session's thread, then the weight of the scripts on
    the pipe. -/
def rank (x : Duo α) : Thread.Place α × Nat := (x.thread.place, x.pair.weight)

/-- The state `y` is below `x` in the measure. -/
def Below : Duo α → Duo α → Prop := InvImage (Prod.Lex Thread.Place.Lt (· < ·)) rank

theorem below_wf : WellFounded (@Below α) :=
  InvImage.wf rank (Thread.Place.lt_wf.prod_lex wellFounded_lt)

/-- A state whose thread stands where it stood, with lighter scripts on the pipe, is below. -/
theorem below_of_weight {x y : Duo α} (hplace : y.thread.place = x.thread.place)
    (hw : y.pair.weight < x.pair.weight) : Below y x := by
  unfold Below InvImage rank
  rw [hplace]
  exact .right _ hw

/-- Every step from a sound state lowers the measure: a step of the session's thread moves it on
    in its program, or keeps it in its call and lowers the weight of the scripts, as does every
    step of the handler. -/
theorem Sound.below (hP : P₀.UsesPipe σ E) {x y : Duo α} (hx : Sound σ E P₀ x) (h : Step x y) :
    Below y x := by
  have hy := hx.step hP h
  cases h with
  | answer => exact .left _ _ (.answered _ _ _)
  | @pass t c k w ht hen =>
    rcases Thread.call?_eq_some ht with rfl | rfl
    · cases c.step w.pipe with
      | returns => exact .left _ _ (.answered _ _ _)
      | continues => exact .left _ _ (.enters _ _)
    · cases hcs : c.step w.pipe with
      | returns => exact .left _ _ (.returns _ _)
      | continues c' q =>
        -- the call goes on: a step of the session's script on the pipe
        rw [hcs] at hy
        refine below_of_weight rfl ?_
        rw [hy.pair_eq, hx.pair_eq]
        exact hx.coherent.weight_lt (Pair.Step.of_session (Thread.script_continues rfl hen hcs))
  | handler hs =>
    refine below_of_weight rfl ?_
    rw [hy.pair_eq, hx.pair_eq]
    exact hx.coherent.weight_lt (Pair.Step.of_handler hs)

/-- No interleaving from a sound state steps for ever. -/
theorem Sound.no_infinite_run (hP : P₀.UsesPipe σ E) (f : Nat → Duo α)
    (h0 : Sound σ E P₀ (f 0)) : ¬ ∀ n, Step (f n) (f (n + 1)) := by
  intro hf
  have hs : ∀ n, Sound σ E P₀ (f n) := by
    intro n
    induction n with
    | zero => exact h0
    | succ n ih => exact ih.step hP (hf n)
  obtain ⟨n, hn⟩ := @WellFounded.not_rel_apply_succ _ Below ⟨below_wf⟩ f
  exact hn ((hs n).below hP (hf n))

/-! ## Runs from a sound state meet again -/

/-- Two steps from a sound state meet again. -/
theorem Sound.local_join {x y z : Duo α} (hx : Sound σ E P₀ x) (hy : Step x y) (hz : Step x z) :
    Join (ReflTransGen Step) y z :=
  Duo.local_join (by rw [hx.pair_eq]; exact hx.coherent) hy hz

/-- Newman's lemma on sound states: any two runs from a sound state can be continued to a common
    state.  The induction is on the measure, which every step lowers. -/
theorem Sound.join_of_runs (hP : P₀.UsesPipe σ E) {x y z : Duo α} (hx : Sound σ E P₀ x)
    (hy : ReflTransGen Step x y) (hz : ReflTransGen Step x z) : Join (ReflTransGen Step) y z := by
  induction x using WellFounded.induction below_wf generalizing y z with
  | _ x ih =>
    rcases hy.cases_head with rfl | ⟨b, hxb, hby⟩
    · exact ⟨z, hz, .refl⟩
    rcases hz.cases_head with rfl | ⟨c, hxc, hcz⟩
    · exact ⟨y, .refl, .head hxb hby⟩
    obtain ⟨d, hbd, hcd⟩ := hx.local_join hxb hxc
    have ihb {y' z' : Duo α} (hy' : ReflTransGen Step b y') (hz' : ReflTransGen Step b z') :=
      ih b (hx.below hP hxb) (hx.step hP hxb) hy' hz'
    have ihc {y' z' : Duo α} (hy' : ReflTransGen Step c y') (hz' : ReflTransGen Step c z') :=
      ih c (hx.below hP hxc) (hx.step hP hxc) hy' hz'
    obtain ⟨d₂, hyd₂, hdd₂⟩ := ihb hby hbd
    obtain ⟨d₃, hdd₃, hzd₃⟩ := ihc hcd hcz
    -- both joins continue from the common state `d`, which `b` reaches
    obtain ⟨d₄, h₂₄, h₃₄⟩ := ihb (hbd.trans hdd₂) (hbd.trans hdd₃)
    exact ⟨d₄, hyd₂.trans h₂₄, hzd₃.trans h₃₄⟩

/-! ## No sound state is stuck -/

/-- No step leaves a state where both threads are over. -/
theorem Final.not_step {x y : Duo α} (hx : x.Final) : ¬ Step x y := by
  obtain ⟨⟨a, ht⟩, hfin⟩ := hx
  obtain ⟨t, w⟩ := x
  obtain rfl : t = .runs (.done a) := ht
  dsimp only at hfin
  intro h
  cases h with
  | pass hc => simp [Thread.call?] at hc
  | handler hs => simp [Script.step, hfin] at hs

theorem Final.eq_of_run {x y : Duo α} (hx : x.Final) (h : ReflTransGen Step x y) : x = y := by
  rcases h.cases_head with rfl | ⟨_, hxc, _⟩
  · rfl
  · exact (hx.not_step hxc).elim

/-- Some thread can step until both are over: the session's thread is not done and can answer
    or pass, or it waits or is done, and then the handler's script can step, since the scripts on
    the pipe are coherent and not both finished. -/
theorem Sound.progress {t : Thread α} {w : World} (hx : Sound σ E P₀ ⟨t, w⟩)
    (hnf : ¬ Final ⟨t, w⟩) : ∃ y, Step ⟨t, w⟩ y := by
  -- where the session's script cannot step, the handler's can
  have hhandler : (t.script σ).step w.pipe = none →
      ¬ (Pair.place σ.other w.handler (t.script σ) w.pipe).Finished → ∃ y, Step ⟨t, w⟩ y := by
    intro hs hnfin
    obtain ⟨y, hy⟩ := hx.coherent.progress hnfin
    rcases hy.place_cases with ⟨h, q, hh⟩ | ⟨s, q, hs'⟩
    · exact ⟨_, .handler hh⟩
    · rw [hs] at hs'
      cases hs'
  cases hcall : t.call? with
  | some ck =>
    obtain ⟨c, k⟩ := ck
    by_cases hen : c.enabled w.pipe = true
    · exact ⟨_, .pass hcall hen⟩
    · apply hhandler (by rw [Thread.script_step_of_call hcall, if_neg hen])
      rw [Pair.finished_place, Thread.script_of_call hcall]
      simp
  | none =>
    rcases t with (⟨a⟩ | ⟨r, k⟩) | ⟨c, k⟩
    · -- the program is done and its script finished, so the handler has not
      apply hhandler (by simp [Thread.script, Script.step])
      rw [Pair.finished_place]
      rintro ⟨hfin, -⟩
      exact hnf ⟨⟨a, rfl⟩, hfin⟩
    · have hr : r.callsPipe = false := by
        cases r <;> simp_all [Thread.call?, Request.callsPipe]
      exact ⟨_, .answer hr⟩
    · simp [Thread.call?] at hcall

end Duo

end Tftp
