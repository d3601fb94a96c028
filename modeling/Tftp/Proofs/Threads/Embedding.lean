import Tftp.Simulation.Threads
import Tftp.Proofs.Pipe.Confluence
import Tftp.Proofs.Threads.Calls

/-! # The session's thread as a script on its end of the pipe

    On the pipe the session's thread is a script of a special kind: it makes one call at a time,
    or closes its end, and between two of these it talks to the network alone.  `Thread.script`
    is that script: the call the thread is making or is about to make, the closing of its end,
    nothing, or a finished script once the program is done.  `Duo.pair` puts it with the
    handler's script on their pipe, each on its end (`Pair.place`).

    A pass of the session's call is the step of its script on the pipe, and so is the closing of
    its end; every other request leaves the pipe and the handler alone (`World.answer_frame`).
    So the pipe's rules for two scripts say how a step of either thread goes on after a step of
    the other (`Rejoin`), and two steps of the threads from one state meet again whenever the
    scripts on the pipe are coherent (`Duo.local_join`). -/

namespace Tftp

/-- The operation that closes a script's end, cleanly or with an error. -/
def Op.closing : Option Failure → Op
  | none => .close
  | some e => .closeWithError e

theorem Script.side_of_step {s s' : Script} {p p' : Pipe} (h : s.step p = some (s', p')) :
    s'.side = s.side := by
  cases Script.uses_of_step h with
  | own _ hs' _ => exact hs'.2.1
  | shut _ _ hs' _ => exact hs'.2.1
  | call s₀ c _ _ hs₀ _ hr =>
    -- a pass leaves the script it started from with its side
    cases hcs : c.step p <;> rw [hcs] at hr <;> simp only [Script.afterCall, Script.record,
      Prod.mk.injEq] at hr <;> rw [← hr.1] <;> exact hs₀.1

theorem Script.outcomeOf_injective {r r' : Except Failure Reply}
    (h : Script.outcomeOf r = Script.outcomeOf r') : r = r' := by
  rcases r with e | (b | n) <;> rcases r' with e' | (b' | n') <;>
    simp_all [Script.outcomeOf]

namespace Thread

variable {α : Type} {t : Thread α} {c : Call} {k : Response → Program α}

/-- The session's thread as a script on its end `σ` of the pipe: making its call, about to close
    its end, doing neither, or finished once its program is done. -/
def script (σ : Side) : Thread α → Script
  | .calls c _ => ⟨σ, [], some c, [], false⟩
  | .runs (.ask (.stream c) _) => ⟨σ, [], some c, [], false⟩
  | .runs (.ask (.closeStream e) _) => ⟨σ, [Op.closing e], none, [], false⟩
  | .runs (.ask _ _) => ⟨σ, [], none, [], false⟩
  | .runs (.done _) => ⟨σ, [], none, [], true⟩

@[simp] theorem script_side (σ : Side) (t : Thread α) : (t.script σ).side = σ := by
  unfold script
  split <;> rfl

theorem call?_eq_some {t : Thread α} (ht : t.call? = some (c, k)) :
    t = .runs (.ask (.stream c) k) ∨ t = .calls c k := by
  rcases t with (_ | ⟨r, k'⟩) | ⟨c', k'⟩
  · simp [call?] at ht
  · cases r <;> simp only [call?, reduceCtorEq, Option.some.injEq, Prod.mk.injEq] at ht
    obtain ⟨rfl, rfl⟩ := ht
    exact .inl rfl
  · simp only [call?, Option.some.injEq, Prod.mk.injEq] at ht
    obtain ⟨rfl, rfl⟩ := ht
    exact .inr rfl

/-- A thread in a call, or about to make one, is the script of that call. -/
theorem script_of_call (ht : t.call? = some (c, k)) (σ : Side) :
    t.script σ = ⟨σ, [], some c, [], false⟩ := by
  rcases call?_eq_some ht with rfl | rfl <;> rfl

/-- The script of a thread in a call takes the call's pass once the call is enabled, and
    waits until then. -/
theorem script_step_of_call (ht : t.call? = some (c, k)) (σ : Side) (q : Pipe) :
    (t.script σ).step q =
      if c.enabled q then some ((t.script σ).afterCall (c.step q)) else none := by
  rw [script_of_call ht]
  simp [Script.step]

theorem script_step_eq_some (ht : t.call? = some (c, k)) {σ : Side} {q q' : Pipe} {s : Script}
    (h : (t.script σ).step q = some (s, q')) :
    c.enabled q = true ∧ (t.script σ).afterCall (c.step q) = (s, q') := by
  rw [script_step_of_call ht] at h
  cases hen : c.enabled q
  · simp [hen] at h
  · simp only [hen, if_true, Option.some.injEq] at h
    exact ⟨rfl, h⟩

/-- After a pass the script holds the pipe the thread holds, and while the call goes on the
    script is the thread's own. -/
theorem afterCall_snd (σ : Side) (t : Thread α) (cs : CallStep) :
    ((t.script σ).afterCall cs).2 = (resume k cs).2 := by
  cases cs <;> rfl

theorem afterCall_continues (ht : t.call? = some (c, k)) (σ : Side) (c' : Call) (p : Pipe) :
    ((t.script σ).afterCall (.continues c' p)).1 = (Thread.calls c' k).script σ := by
  rw [script_of_call ht]
  rfl

/-- Passes that leave the script alike leave the thread alike. -/
theorem resume_eq_of_afterCall {t t' : Thread α} {σ : Side} {cs cs' : CallStep}
    (ht : t.call? = some (c, k)) {c' : Call} (ht' : t'.call? = some (c', k))
    (h : ((t.script σ).afterCall cs).1 = ((t'.script σ).afterCall cs').1) :
    (resume k cs).1 = (resume k cs').1 := by
  rw [script_of_call ht, script_of_call ht'] at h
  cases cs with
  | returns r p =>
    cases cs' with
    | returns r' p' =>
      have ho : Script.outcomeOf r = Script.outcomeOf r' := by
        simpa [Script.afterCall, Script.record] using h
      rw [Script.outcomeOf_injective ho]
      rfl
    | continues c'' p' => simp [Script.afterCall, Script.record] at h
  | continues c₁ p =>
    cases cs' with
    | returns r' p' => simp [Script.afterCall, Script.record] at h
    | continues c₂ p' =>
      have hc : c₁ = c₂ := by simpa [Script.afterCall] using h
      rw [hc]
      rfl

/-- The script of a thread about to close its end closes it. -/
theorem script_step_closeStream (σ : Side) (e : Option Failure) (k : Response → Program α)
    (q : Pipe) :
    ((Thread.runs (.ask (.closeStream e) k)).script σ).step q =
      some (⟨σ, [], none, [.closed], false⟩, (⟨σ, [], none, [], false⟩ : Script).closeOwn e q) := by
  cases e <;> rfl

end Thread

namespace World

/-- A request that neither calls nor closes the pipe leaves the pipe and the handler alone, and
    its answer does not depend on them. -/
theorem answer_frame {r : Request} (hr : r.callsPipe = false) (he : ∀ e, r ≠ .closeStream e)
    (w : World) (h : Script) (p : Pipe) :
    (w.answer r).2.handler = w.handler ∧ (w.answer r).2.pipe = w.pipe ∧
      { w with handler := h, pipe := p }.answer r =
        ((w.answer r).1, { (w.answer r).2 with handler := h, pipe := p }) := by
  obtain ⟨events, used, clock, sends, failing, local?, source, records, pipe, handler, reports⟩ := w
  cases r with
  | now | localAddress | closeSocket | report _ | send _ _ => exact ⟨rfl, rfl, rfl⟩
  | receive t ph => cases events <;> exact ⟨rfl, rfl, rfl⟩
  | stream c => simp [Request.callsPipe] at hr
  | closeStream e => exact absurd rfl (he e)

/-- Closing the session's end is closing the end of any script on the side the handler does
    not hold. -/
theorem answer_closeStream (w : World) (e : Option Failure) {S : Script}
    (hS : S.side = w.handler.side.other) :
    w.answer (.closeStream e) = (.ok, { w with pipe := S.closeOwn e w.pipe }) := by
  show (Response.ok, w.closeSessionEnd e) = _
  unfold closeSessionEnd Script.closeOwn
  rw [hS]
  cases w.handler.side <;> rfl

end World

/-! ## Both scripts on the pipe -/

/-- The handler's script and the session's on their pipe, each on its end: the handler holds the
    end `H`. -/
def Pair.place (H : Side) (handler session : Script) (p : Pipe) : Pair :=
  match H with
  | .writer => ⟨handler, session, p⟩
  | .reader => ⟨session, handler, p⟩

/-- The two threads' scripts on their pipe. -/
def Duo.pair {α : Type} (x : Duo α) : Pair :=
  Pair.place x.world.handler.side x.world.handler (x.thread.script x.world.handler.side.other)
    x.world.pipe

/-- How a step of the session's script `S`, to `s` on the pipe `p₁`, and a step of the handler's
    script `Hd`, to `h` on `p₂`, both from one pipe, meet again: each takes on the other's pipe
    the step it took, or one of them, whose step went on with a call, takes one more step of that
    call after the other's step. -/
inductive Rejoin (S Hd s h : Script) (p₁ p₂ : Pipe) : Prop
  | steps {q : Pipe} (hs : S.step p₂ = some (s, q)) (hh : Hd.step p₁ = some (h, q))
  | handlerAfter {h' : Script} {p₃ q : Pipe} (hh₁ : Hd.step p₁ = some (h', q))
      (hs : S.step p₂ = some (s, p₃)) (hh₂ : h.step p₃ = some (h', q)) (hcall : h.call ≠ none)
  | sessionAfter {s' : Script} {p₃ q : Pipe} (hs₁ : S.step p₂ = some (s', q))
      (hh : Hd.step p₁ = some (h, p₃)) (hs₂ : s.step p₃ = some (s', q)) (hcall : s.call ≠ none)

namespace Pair

@[simp] theorem place_pipe (H : Side) (hd S : Script) (p : Pipe) : (place H hd S p).pipe = p := by
  cases H <;> rfl

theorem finished_place {H : Side} {hd S : Script} {p : Pipe} :
    (place H hd S p).Finished ↔ hd.finished = true ∧ S.finished = true := by
  cases H
  · exact Iff.rfl
  · exact and_comm

/-- A step of the handler's script is a step of the two scripts. -/
theorem Step.of_handler {H : Side} {hd h S : Script} {p q : Pipe} (hs : hd.step p = some (h, q)) :
    Step (place H hd S p) (place H h S q) := by
  cases H
  · exact .writer hs
  · exact .reader hs

/-- A step of the session's script is a step of the two scripts. -/
theorem Step.of_session {H : Side} {hd S s : Script} {p q : Pipe} (hs : S.step p = some (s, q)) :
    Step (place H hd S p) (place H hd s q) := by
  cases H
  · exact .reader hs
  · exact .writer hs

/-- On coherent scripts a step of the session's and a step of the handler's meet again. -/
theorem Coherent.rejoin {H : Side} {hd S s h : Script} {p p₁ p₂ : Pipe}
    (hx : (place H hd S p).Coherent) (hs : S.step p = some (s, p₁))
    (hh : hd.step p = some (h, p₂)) : Rejoin S hd s h p₁ p₂ := by
  cases H with
  | writer =>
    cases hx.join_writer_reader hh hs with
    | steps hw hr => exact .steps hr hw
    | readerAfter hr₁ hw hr₂ hc => exact .sessionAfter hr₁ hw hr₂ hc
    | writerAfter hw₁ hr hw₂ hc => exact .handlerAfter hw₁ hr hw₂ hc
  | reader =>
    cases hx.join_writer_reader hs hh with
    | steps hw hr => exact .steps hw hr
    | readerAfter hr₁ hw hr₂ hc => exact .handlerAfter hr₁ hw hr₂ hc
    | writerAfter hw₁ hr hw₂ hc => exact .sessionAfter hw₁ hr hw₂ hc

end Pair

/-! ## Steps of the two threads from one state -/

namespace Duo

open Relation

variable {α : Type}

theorem pair_eq (t : Thread α) (w : World) :
    (Duo.pair ⟨t, w⟩) = Pair.place w.handler.side w.handler (t.script w.handler.side.other) w.pipe :=
  rfl

/-- A pass of the session's call to the thread and the pipe that `resume` gives. -/
theorem Step.pass_to {t t' : Thread α} {c : Call} {k : Response → Program α} {w : World}
    {q : Pipe} (ht : t.call? = some (c, k)) (hen : c.enabled w.pipe = true)
    (hres : Thread.resume k (c.step w.pipe) = (t', q)) :
    Step ⟨t, w⟩ ⟨t', { w with pipe := q }⟩ := by
  have := Step.pass (w := w) ht hen
  rwa [hres] at this

/-- A step of the session's script in a call is a pass of the call, to the thread that every
    pass leaving the script alike gives. -/
theorem Step.of_script {t t₀ : Thread α} {c c₀ : Call} {k : Response → Program α} {w : World}
    {σ : Side} {s : Script} {q : Pipe} {cs₀ : CallStep} (ht : t.call? = some (c, k))
    (ht₀ : t₀.call? = some (c₀, k)) (h : (t.script σ).step w.pipe = some (s, q))
    (h₀ : ((t₀.script σ).afterCall cs₀).1 = s) :
    Step ⟨t, w⟩ ⟨(Thread.resume k cs₀).1, { w with pipe := q }⟩ := by
  obtain ⟨hen, hafter⟩ := Thread.script_step_eq_some ht h
  have hq : (Thread.resume k (c.step w.pipe)).2 = q := by
    rw [← Thread.afterCall_snd (k := k) σ t, hafter]
  have ht' : (Thread.resume k (c.step w.pipe)).1 = (Thread.resume k cs₀).1 :=
    Thread.resume_eq_of_afterCall ht ht₀ ((congrArg Prod.fst hafter).trans h₀.symm)
  exact Step.pass_to ht hen (Prod.ext ht' hq)

/-- The session closes its end, the one the handler does not hold, on the pipe it finds. -/
theorem Step.close_to {e : Option Failure} {k : Response → Program α} {w : World} {S : Script}
    (hS : S.side = w.handler.side.other) :
    Step ⟨.runs (.ask (.closeStream e) k), w⟩ ⟨.runs (k .ok), { w with pipe := S.closeOwn e w.pipe }⟩ := by
  have := Step.answer (k := k) (w := w) (r := .closeStream e) rfl
  rwa [World.answer_closeStream w e hS] at this

/-- The session's pass and a step of the handler meet again. -/
theorem join_pass_handler {t : Thread α} {w : World} {c : Call} {k : Response → Program α}
    {h : Script} {p₂ : Pipe} (hx : (Duo.pair ⟨t, w⟩).Coherent) (ht : t.call? = some (c, k))
    (hen : c.enabled w.pipe = true) (hh : w.handler.step w.pipe = some (h, p₂)) :
    Join (ReflTransGen Step)
      ⟨(Thread.resume k (c.step w.pipe)).1, { w with pipe := (Thread.resume k (c.step w.pipe)).2 }⟩
      ⟨t, { w with handler := h, pipe := p₂ }⟩ := by
  set σ := w.handler.side.other
  -- the pass is the step of the session's script
  have hS : (t.script σ).step w.pipe = some ((t.script σ).afterCall (c.step w.pipe)) := by
    rw [Thread.script_step_of_call ht, if_pos hen]
  have hp₁ : ((t.script σ).afterCall (c.step w.pipe)).2 = (Thread.resume k (c.step w.pipe)).2 :=
    Thread.afterCall_snd σ t _
  generalize hsp : (t.script σ).afterCall (c.step w.pipe) = sp at hS hp₁
  obtain ⟨s, p₁⟩ := sp
  have hs : ((t.script σ).afterCall (c.step w.pipe)).1 = s := congrArg Prod.fst hsp
  rw [pair_eq] at hx
  cases hx.rejoin hS hh with
  | steps hs₂ hh₁ =>
    -- each thread takes on the other's pipe the step it took
    exact ⟨_, .single (.handler (w := { w with pipe := _ }) (hp₁ ▸ hh₁)),
      .single (Step.of_script (w := { w with handler := h, pipe := p₂ }) ht ht hs₂ hs)⟩
  | handlerAfter hh₁ hs₂ hh₂ _ =>
    -- the handler takes one more step after the session's pass
    exact ⟨_, .single (.handler (w := { w with pipe := _ }) (hp₁ ▸ hh₁)),
      .head (Step.of_script (w := { w with handler := h, pipe := p₂ }) ht ht hs₂ hs)
        (.single (.handler (w := { w with handler := h, pipe := _ }) hh₂))⟩
  | sessionAfter hs₁ hh₂ hs₂ hcall =>
    -- the session's call went on; it takes its next pass after the handler's step
    cases hcs : c.step w.pipe with
    | returns r q =>
      rw [hcs] at hsp
      simp only [Script.afterCall, Script.record, Prod.mk.injEq] at hsp
      exact absurd (by rw [← hsp.1]) hcall
    | continues c' q =>
      have hs' : s = (Thread.calls c' k).script σ := by
        rw [← hs, hcs, Thread.afterCall_continues ht σ c' q]
      rw [hs'] at hs₂
      have hq : p₁ = q := by rw [hcs] at hp₁; exact hp₁
      rw [hq] at hh₂
      have hc' : (Thread.calls c' k).call? = some (c', k) := rfl
      obtain ⟨_, hafter₂⟩ := Thread.script_step_eq_some hc' hs₂
      exact ⟨_, .head (.handler (w := { w with pipe := q }) hh₂)
          (.single (Step.of_script (w := { w with handler := h, pipe := _ }) hc' hc' hs₂
            (congrArg Prod.fst hafter₂))),
        .single (Step.of_script (w := { w with handler := h, pipe := p₂ }) ht hc' hs₁
          (congrArg Prod.fst hafter₂))⟩

/-- The session's closing of its end and a step of the handler meet again. -/
theorem join_close_handler {e : Option Failure} {k : Response → Program α} {w : World}
    {h : Script} {p₂ : Pipe} (hx : (Duo.pair ⟨.runs (.ask (.closeStream e) k), w⟩).Coherent)
    (hh : w.handler.step w.pipe = some (h, p₂)) :
    Join (ReflTransGen Step)
      ⟨.runs (k (w.answer (.closeStream e)).1), (w.answer (.closeStream e)).2⟩
      ⟨.runs (.ask (.closeStream e) k), { w with handler := h, pipe := p₂ }⟩ := by
  have hside : h.side = w.handler.side := Script.side_of_step hh
  set σ := w.handler.side.other
  let S₀ : Script := ⟨σ, [], none, [], false⟩
  have hS₀ : S₀.side = h.side.other := by rw [hside]
  rw [World.answer_closeStream w e (S := S₀) rfl]
  rw [pair_eq] at hx
  -- wherever the session closes its end, its script closes it the same way
  have hclose : ∀ q q', ((Thread.runs (.ask (.closeStream e) k)).script σ).step q =
      some (⟨σ, [], none, [.closed], false⟩, q') → q' = S₀.closeOwn e q := by
    intro q q' hq
    rw [Thread.script_step_closeStream] at hq
    exact (Prod.mk.inj (Option.some.inj hq)).2.symm
  cases hx.rejoin (Thread.script_step_closeStream σ e k w.pipe) hh with
  | steps hs₂ hh₁ =>
    rw [hclose _ _ hs₂] at hh₁
    exact ⟨_, .single (.handler (w := { w with pipe := _ }) hh₁),
      .single (Step.close_to (w := { w with handler := h, pipe := p₂ }) hS₀)⟩
  | handlerAfter hh₁ hs₂ hh₂ _ =>
    rw [hclose _ _ hs₂] at hh₂
    exact ⟨_, .single (.handler (w := { w with pipe := _ }) hh₁),
      .head (Step.close_to (w := { w with handler := h, pipe := p₂ }) hS₀)
        (.single (.handler (w := { w with handler := h, pipe := _ }) hh₂))⟩
  | sessionAfter _ _ _ hcall => exact absurd rfl hcall

/-- A request that leaves the pipe alone and a step of the handler commute. -/
theorem join_answer_handler {r : Request} {k : Response → Program α} {w : World} {h : Script}
    {p₂ : Pipe} (hr : r.callsPipe = false) (hc : ∀ e, r ≠ .closeStream e)
    (hh : w.handler.step w.pipe = some (h, p₂)) :
    Join (ReflTransGen Step) ⟨.runs (k (w.answer r).1), (w.answer r).2⟩
      ⟨.runs (.ask r k), { w with handler := h, pipe := p₂ }⟩ := by
  obtain ⟨hhd, hpipe, hanswer⟩ := World.answer_frame hr hc w h p₂
  have hh' : (w.answer r).2.handler.step (w.answer r).2.pipe = some (h, p₂) := by
    rw [hhd, hpipe]
    exact hh
  have hz := Step.answer (k := k) (w := { w with handler := h, pipe := p₂ }) hr
  rw [hanswer] at hz
  exact ⟨_, .single (.handler hh'), .single hz⟩

/-- Two steps of the threads from a state whose scripts on the pipe are coherent meet again. -/
theorem local_join {x y z : Duo α} (hx : x.pair.Coherent) (hy : Step x y) (hz : Step x z) :
    Join (ReflTransGen Step) y z := by
  cases hy with
  | @answer r k w hr =>
    cases hz with
    | answer => exact ⟨_, .refl, .refl⟩
    | pass ht => cases r <;> simp_all [Thread.call?, Request.callsPipe]
    | handler hh =>
      by_cases hc : ∃ e, r = .closeStream e
      · obtain ⟨e, rfl⟩ := hc
        exact join_close_handler hx hh
      · exact join_answer_handler hr (fun e he => hc ⟨e, he⟩) hh
  | @pass t c k w ht hen =>
    cases hz with
    | answer hr =>
      rcases Thread.call?_eq_some ht with h | h <;> cases h
      simp [Request.callsPipe] at hr
    | pass ht' =>
      rw [ht] at ht'
      obtain ⟨rfl, rfl⟩ := Prod.mk.inj (Option.some.inj ht')
      exact ⟨_, .refl, .refl⟩
    | handler hh => exact join_pass_handler hx ht hen hh
  | @handler t w h p hh =>
    cases hz with
    | @answer r k _ hr =>
      -- the same two steps as above, taken in the other order
      suffices hj : Join (ReflTransGen Step) ⟨.runs (k (w.answer r).1), (w.answer r).2⟩
          ⟨.runs (.ask r k), { w with handler := h, pipe := p }⟩ by
        obtain ⟨d, hyd, hzd⟩ := hj
        exact ⟨d, hzd, hyd⟩
      by_cases hc : ∃ e, r = .closeStream e
      · obtain ⟨e, rfl⟩ := hc
        exact join_close_handler hx hh
      · exact join_answer_handler hr (fun e he => hc ⟨e, he⟩) hh
    | pass ht hen =>
      obtain ⟨d, hyd, hzd⟩ := join_pass_handler hx ht hen hh
      exact ⟨d, hzd, hyd⟩
    | handler hh' =>
      rw [hh] at hh'
      obtain ⟨rfl, rfl⟩ := Prod.mk.inj (Option.some.inj hh')
      exact ⟨_, .refl, .refl⟩

end Duo

end Tftp
