import Tftp.Proofs.Threads.Interleaving
import Tftp.Proofs.Dispatch

/-! # The scheduled run is one interleaving, and every interleaving ends as it does

    `Transfer.run` schedules the two threads one way: each call of the session on the pipe takes
    its passes while it can, and while it waits the handler advances; once the session is over,
    the handler advances to its end.  Each of these is a run of `Duo.Step`: an advance is a run
    of the handler's steps (`Duo.advance_steps`), a call is a run of passes and advances that
    `World.perform` finishes within its fuel (`Duo.Sound.perform_run`), since after an advance a
    waiting call is enabled again, and so the world's run of the whole program is a run of the
    threads (`Duo.Sound.world_run`).

    Main statement (`Transfer.threads_end_alike`): in exact surroundings the transfer ends, and
    for every interleaving of its threads, no state is stuck before both are over, no run goes on
    for ever, and every run can still reach, and once both threads are over has reached, the
    state the scheduled run ends in: the same datagrams, session, failure, statistics and
    handler results.  Exact surroundings count time in whole numbers, of seconds or of any finer
    unit: counted in a unit `c` times smaller, a transfer is the same run with its times `c`
    times larger (`Transfer.run_scale`), so a timer of half a second is a timer of 1 on a clock
    of half seconds. -/

namespace Tftp

namespace Duo

open Relation

variable {α : Type} {σ : Side} {E : Nat} {P₀ : Program α}

/-- Settling the handler's script is a run of the handler's steps. -/
theorem settle_steps (t : Thread α) (w : World) (n : Nat) :
    ReflTransGen Step ⟨t, w⟩
      ⟨t, { w with handler := (w.handler.settle n w.pipe).1, pipe := (w.handler.settle n w.pipe).2 }⟩ := by
  induction n generalizing w with
  | zero => exact .refl
  | succ n ih =>
    cases hs : w.handler.step w.pipe with
    | none => rw [Script.settle_of_stuck hs]
    | some hp =>
      obtain ⟨h, p⟩ := hp
      rw [Script.settle_of_step hs]
      exact .head (.handler hs) (ih { w with handler := h, pipe := p })

/-- An advance of the handler is a run of its steps. -/
theorem advance_steps (t : Thread α) (w : World) :
    ReflTransGen Step ⟨t, w⟩
      ⟨t, { w with handler := (w.handler.advance w.pipe).1, pipe := (w.handler.advance w.pipe).2 }⟩ :=
  settle_steps t w _

/-- Once the handler can take no step, a sound thread in a call can take its pass: the two
    threads never wait together. -/
theorem Sound.enabled_of_stuck {t : Thread α} {w : World} {c : Call} {k : Response → Program α}
    (hx : Sound σ E P₀ ⟨t, w⟩) (ht : t.call? = some (c, k))
    (hstuck : w.handler.step w.pipe = none) : c.enabled w.pipe = true := by
  have hnf : ¬ Final ⟨t, w⟩ := by
    rintro ⟨⟨a, rfl⟩, -⟩
    simp [Thread.call?] at ht
  obtain ⟨y, hy⟩ := hx.progress hnf
  cases hy with
  | answer hr =>
    rcases Thread.call?_eq_some ht with h | h <;> cases h
    simp [Request.callsPipe] at hr
  | pass ht' hen =>
    rw [ht] at ht'
    obtain ⟨rfl, rfl⟩ := Prod.mk.inj (Option.some.inj ht')
    exact hen
  | handler hs =>
    rw [hstuck] at hs
    cases hs

/-- One round of `World.perform`: the pass of an enabled call, or an advance of the handler. -/
theorem perform_step_eq_returns {c : Call} {w : World} {n : Nat} {res : Except Failure Reply}
    {q : Pipe} (hen : c.enabled w.pipe = true) (hcs : c.step w.pipe = .returns res q) :
    World.perform (n + 1) c w = (res, { w with pipe := q }) := by
  simp [World.perform, hen, hcs]

theorem perform_step_eq_continues {c c' : Call} {w : World} {n : Nat} {q : Pipe}
    (hen : c.enabled w.pipe = true) (hcs : c.step w.pipe = .continues c' q) :
    World.perform (n + 1) c w = World.perform n c' { w with pipe := q } := by
  simp [World.perform, hen, hcs]

theorem perform_step_eq_advance {c : Call} {w : World} {n : Nat} (hen : ¬ c.enabled w.pipe = true) :
    World.perform (n + 1) c w = World.perform n c
      { w with handler := (w.handler.advance w.pipe).1, pipe := (w.handler.advance w.pipe).2 } := by
  simp only [World.perform, hen, if_false, Bool.false_eq_true]

/-- A call of a sound thread, carried by `World.perform` with fuel for two rounds a pass and one
    more if the call waits now, is a run of the threads to the program going on from what the
    call returned.  The induction is on the fuel: a pass that goes on leaves fewer passes, and an
    advance of the handler leaves the call enabled. -/
theorem Sound.perform_run (hP : P₀.UsesPipe σ E) {n : Nat} {t : Thread α} {w : World} {c : Call}
    {k : Response → Program α} (hx : Sound σ E P₀ ⟨t, w⟩) (ht : t.call? = some (c, k))
    (hn : 2 * c.passes w.pipe + (if c.enabled w.pipe then 0 else 1) ≤ n) :
    ReflTransGen Step ⟨t, w⟩
      ⟨.runs (k (.streamed (World.perform n c w).1)), (World.perform n c w).2⟩ := by
  induction n generalizing t w c with
  | zero =>
    have := (c.passes_bounds w.pipe).1
    omega
  | succ n ih =>
    by_cases hen : c.enabled w.pipe = true
    · rw [if_pos hen] at hn
      cases hcs : c.step w.pipe with
      | returns res q =>
        rw [perform_step_eq_returns hen hcs]
        exact .single (Step.pass_to ht hen (by rw [hcs]; rfl))
      | continues c' q =>
        rw [perform_step_eq_continues hen hcs]
        have hstep : Step ⟨t, w⟩ ⟨.calls c' k, { w with pipe := q }⟩ :=
          Step.pass_to ht hen (by rw [hcs]; rfl)
        have hless := (Call.passes_lt hen hcs).2
        refine .head hstep (ih (hx.step hP hstep) rfl ?_)
        dsimp only
        split <;> omega
    · rw [if_neg hen] at hn
      rw [perform_step_eq_advance hen]
      have hrun := advance_steps t w
      have hx' := hx.run hP hrun
      -- the advance leaves the handler stuck, so the call can take its pass
      have hen' := hx'.enabled_of_stuck ht (Script.advance_stops _ _)
      have hpasses := Call.passes_congr (hx.call_plain hP ht) w.pipe (w.handler.advance w.pipe).2
      refine hrun.trans (ih hx' ht ?_)
      dsimp only at hen' ⊢
      rw [if_pos hen']
      omega

/-- The world's answer to a call on the pipe is the call carried with the fuel of sixteen
    rounds. -/
theorem answer_stream (w : World) (c : Call) :
    w.answer (.stream c) = (.streamed (World.perform 16 c w).1, (World.perform 16 c w).2) := rfl

/-- The world's run of a sound thread's program is a run of the two threads, to the program done
    with the value of the world's run. -/
theorem Sound.world_run (hP : P₀.UsesPipe σ E) :
    ∀ (p : Program α) (w : World), Sound σ E P₀ ⟨.runs p, w⟩ →
      ReflTransGen Step ⟨.runs p, w⟩ ⟨.runs (.done (World.run p w).1), (World.run p w).2⟩
  | .done _, _, _ => .refl
  | .ask r k, w, hx => by
    rw [World.run_ask]
    cases hr : r.callsPipe with
    | false =>
      have hstep := Step.answer (k := k) (w := w) hr
      exact .head hstep (Sound.world_run hP _ _ (hx.step hP hstep))
    | true =>
      obtain ⟨c, rfl⟩ : ∃ c, r = .stream c := by
        cases r <;> simp_all [Request.callsPipe]
      -- sixteen rounds cover the at most three passes of a call and an advance before each
      have hfuel : 2 * c.passes w.pipe + (if c.enabled w.pipe then 0 else 1) ≤ 16 := by
        have := (c.passes_bounds w.pipe).2
        split <;> omega
      have hrun := hx.perform_run hP rfl hfuel
      rw [answer_stream]
      exact hrun.trans (Sound.world_run hP _ _ (hx.run hP hrun))

/-- Once the session is done, the handler's first advance finishes it, and the second changes
    nothing: letting the handler finish is a run of its steps to a state where both threads are
    over. -/
theorem Sound.finish (hP : P₀.UsesPipe σ E) {a : α} {w : World}
    (hx : Sound σ E P₀ ⟨.runs (.done a), w⟩) :
    ReflTransGen Step ⟨.runs (.done a), w⟩ ⟨.runs (.done a), w.finishHandler⟩ ∧
      Final ⟨.runs (.done a), w.finishHandler⟩ := by
  set w₁ : World :=
    { w with handler := (w.handler.advance w.pipe).1, pipe := (w.handler.advance w.pipe).2 }
  have hrun : ReflTransGen Step ⟨.runs (.done a), w⟩ ⟨.runs (.done a), w₁⟩ := advance_steps _ w
  have hstuck : w₁.handler.step w₁.pipe = none := Script.advance_stops _ _
  -- a handler stuck before it finished would leave the threads stuck before both are over
  have hfin : w₁.handler.finished = true := by
    by_contra hnf
    obtain ⟨y, hy⟩ := (hx.run hP hrun).progress fun hF => hnf hF.2
    cases hy with
    | pass ht => simp [Thread.call?] at ht
    | handler hs =>
      rw [hstuck] at hs
      cases hs
  have hagain : w₁.handler.advance w₁.pipe = (w₁.handler, w₁.pipe) :=
    Script.settle_of_stuck hstuck _
  have hw : w.finishHandler =
      { w₁ with handler := (w₁.handler.advance w₁.pipe).1, pipe := (w₁.handler.advance w₁.pipe).2 } :=
    rfl
  rw [hw, hagain]
  exact ⟨hrun, ⟨a, rfl⟩, hfin⟩

/-- The start of a program with a fresh handler on a fresh pipe, in a world whose clock reads
    whole seconds and whose datagrams come after whole delays, is sound. -/
theorem sound_start {w : World} (hP : P₀.UsesPipe σ w.events.length) (ops : List Op)
    (hclock : ∃ c, w.clock = .int c) (hwhole : ∀ e ∈ w.events, e.Whole)
    (hpipe : w.pipe = Pipe.fresh) (hhandler : w.handler = Script.start σ.other ops) :
    Sound σ w.events.length P₀ ⟨.runs P₀, w⟩ := by
  have hshut : Shut [] ↔ Pipe.fresh.closedAt σ = true := by
    cases σ <;> simp [Shut, Pipe.closedAt, Pipe.fresh, EndState.isClosed]
  -- before its first request the session's script is one that has not begun
  have hco : (Pair.place σ.other (Script.start σ.other ops) (Script.start σ []) Pipe.fresh).Coherent := by
    cases σ
    · exact Pair.coherent_start [] ops
    · exact Pair.coherent_start ops []
  rw [← hhandler, ← hpipe] at hco
  rw [← hpipe] at hshut
  exact Sound.of_runs hP (by rw [hhandler]; rfl) hco rfl (.refl _)
    (Transfer.steady_start w hclock hwhole) hshut

end Duo

namespace Setup

/-- A session's program keeps its promises about the pipe when its timer counts whole seconds. -/
theorem program_usesPipe (st : Setup) (hsec : ∃ d, st.policy.seconds = .int d) (fuel E : Nat) :
    (st.program fuel).UsesPipe st.kind.side E :=
  ⟨st.program_asks fuel, st.program_calls_while_open fuel,
    (st.program_shuts hsec fuel).mono fun _ _ h => h.1⟩

end Setup

namespace Transfer

open Relation

/-- A transfer's threads end alike in every interleaving.  Take any setup of a session, sender or
    receiver, client or server, with a timer in whole seconds, any events of the network whose
    datagrams come after whole delays, any failing sends, and any script of the handler, and a
    clock that starts at whole seconds.  Then the transfer runs to an end, with its dally; from
    every state some interleaving of the session's thread and the handler's reaches, some thread
    can step until both are over, so the two never wait for each other at once; no interleaving
    steps for ever; and every interleaving can still reach, and once both threads are over has
    reached, the state the scheduled run ends in, with the same datagrams sent, session, failure,
    statistics and handler results. -/
theorem threads_end_alike (st : Setup) (clock : Int) (events : List NetEvent)
    (failing : List Nat) (localAddr : Option Address) (source : Address) (ops : List Op)
    (hwhole : ∀ e ∈ events, e.Whole) (hsec : ∃ d, st.policy.seconds = .int d) :
    let w := World.fresh (.int clock) events failing localAddr source
      (.start (handlerSide st.kind) ops)
    ∃ t, run st w = .ok t ∧ t.ended = true ∧
      (∀ x, ReflTransGen Duo.Step (threads st w) x → ¬ x.Final → ∃ y, Duo.Step x y) ∧
      (∀ f : Nat → Duo (Except Failure (Ending × Session)), f 0 = threads st w →
        ¬ ∀ n, Duo.Step (f n) (f (n + 1))) ∧
      (∀ x, ReflTransGen Duo.Step (threads st w) x → ReflTransGen Duo.Step x t.settled) ∧
      (∀ x, ReflTransGen Duo.Step (threads st w) x → x.Final → x = t.settled) := by
  intro w
  have hclock : ∃ c, w.clock = .int c := ⟨clock, rfl⟩
  have hP := st.program_usesPipe hsec (bound w.events.length st.policy.retries) w.events.length
  have hstart : Duo.Sound st.kind.side w.events.length _ (threads st w) :=
    Duo.sound_start hP ops hclock hwhole rfl (by simp [w, World.fresh, handlerSide_eq])
  -- in exact surroundings the session is created and its program ends with a value
  have hres := (World.run_always World.steady_answers _ w []
    (st.program_shuts hsec (bound w.events.length st.policy.retries)) (steady_start w hclock hwhole)).2
  -- the scheduled run is a run of the two threads
  have hworld := Duo.Sound.world_run hP _ w hstart
  obtain ⟨ending, s, hres⟩ := hres
  have hpair : World.run (st.program (bound w.events.length st.policy.retries)) w =
      (.ok (ending, s), (World.run (st.program (bound w.events.length st.policy.retries)) w).2) := by
    rw [← hres]
  generalize (World.run (st.program (bound w.events.length st.policy.retries)) w).2 = w' at hpair
  have hrun_eq : run st w = .ok ⟨ending, s, w'.finishHandler⟩ := by
    simp only [run, hpair]
  rw [hpair] at hworld
  obtain ⟨hfinish, hfinal⟩ := (hstart.run hP hworld).finish hP
  have hsettled : ReflTransGen Duo.Step (threads st w) (settled ⟨ending, s, w'.finishHandler⟩) :=
    hworld.trans hfinish
  have hfinal : (settled ⟨ending, s, w'.finishHandler⟩).Final := hfinal
  refine ⟨⟨ending, s, w'.finishHandler⟩, hrun_eq, ?_, fun x hx hnf => ?_, fun f h0 => ?_,
    fun x hx => ?_, fun x hx hfx => ?_⟩
  · exact (run_ends_within_bound st w hclock hwhole hsec).2 _ hrun_eq
  · obtain ⟨t', w''⟩ := x
    exact (hstart.run hP hx).progress hnf
  · exact Duo.Sound.no_infinite_run hP f (h0 ▸ hstart)
  · -- the common continuation of the two runs is the final state itself
    obtain ⟨d, hxd, hsd⟩ := hstart.join_of_runs hP hx hsettled
    rw [hfinal.eq_of_run hsd]
    exact hxd
  · obtain ⟨d, hxd, hsd⟩ := hstart.join_of_runs hP hx hsettled
    rw [hfx.eq_of_run hxd, hfinal.eq_of_run hsd]

/-- A sender client whose peer stays silent and whose handler writes nothing: the transfer ends,
    and every interleaving of its threads can still reach the state the scheduled run ends in. -/
theorem silent_sender_threads_end_alike :
    ∃ t, run ⟨.sender, true, ⟨⟨[104]⟩, 69⟩, .str ⟨[102]⟩, .str ⟨[111]⟩, ⟨2, .number (.int 1)⟩, none⟩
        (World.fresh (.int 0) [] [] none ⟨⟨[104]⟩, 69⟩ (.start .writer [])) = .ok t ∧
      t.ended = true ∧
      ∀ x, ReflTransGen Duo.Step
        (threads ⟨.sender, true, ⟨⟨[104]⟩, 69⟩, .str ⟨[102]⟩, .str ⟨[111]⟩, ⟨2, .number (.int 1)⟩,
          none⟩ (World.fresh (.int 0) [] [] none ⟨⟨[104]⟩, 69⟩ (.start .writer []))) x →
        ReflTransGen Duo.Step x t.settled := by
  obtain ⟨t, hrun, hended, -, -, hsettled, -⟩ :=
    threads_end_alike ⟨.sender, true, ⟨⟨[104]⟩, 69⟩, .str ⟨[102]⟩, .str ⟨[111]⟩,
      ⟨2, .number (.int 1)⟩, none⟩ 0 [] [] none ⟨⟨[104]⟩, 69⟩ [] (by simp) ⟨1, rfl⟩
  exact ⟨t, hrun, hended, hsettled⟩

end Transfer

end Tftp
