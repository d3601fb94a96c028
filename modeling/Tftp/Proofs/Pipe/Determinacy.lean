import Tftp.Proofs.Pipe.Confluence

/-! # The results of two scripts on a pipe do not depend on timing

    `Pair.run` lets the writer go until it finishes or waits, then the reader, round after round.
    A round is a run of atomic steps, and until both threads have finished it takes at least one
    of them, which lowers `Pair.weight`; the budget of rounds covers the weight of the start, so
    `Pair.run` ends with both threads finished.  Main statement (`interleavings_end_alike`): no
    reachable state is stuck, no interleaving goes on for ever, and every interleaving can still
    reach, and when both threads have finished has reached, the state of `Pair.run`: the same
    results on each side and the same closed ends. -/

namespace Tftp

namespace Script

theorem settle_of_step {s s' : Script} {p p' : Pipe} (h : s.step p = some (s', p')) (n : Nat) :
    s.settle (n + 1) p = s'.settle n p' := by
  simp [settle, h]

theorem settle_of_stuck {s : Script} {p : Pipe} (h : s.step p = none) (n : Nat) :
    s.settle n p = (s, p) := by
  cases n <;> simp [settle, h]

theorem advance_eq (s : Script) (p : Pipe) :
    s.advance p = s.settle (3 * s.ops.length + 5 + 1) p := rfl

end Script

namespace Pair

open Relation

variable {x : Pair}

/-- Settling the writer is a run of the writer's steps. -/
theorem settle_writer (n : Nat) (w r : Script) (p : Pipe) :
    ReflTransGen Step ⟨w, r, p⟩ ⟨(w.settle n p).1, r, (w.settle n p).2⟩ := by
  induction n generalizing w p with
  | zero => exact .refl
  | succ n ih =>
    cases h : w.step p with
    | none =>
      rw [Script.settle_of_stuck h]
    | some wp =>
      obtain ⟨w', p'⟩ := wp
      rw [Script.settle_of_step h]
      exact .head (.writer h) (ih w' p')

/-- Settling the reader is a run of the reader's steps. -/
theorem settle_reader (n : Nat) (w r : Script) (p : Pipe) :
    ReflTransGen Step ⟨w, r, p⟩ ⟨w, (r.settle n p).1, (r.settle n p).2⟩ := by
  induction n generalizing r p with
  | zero => exact .refl
  | succ n ih =>
    cases h : r.step p with
    | none =>
      rw [Script.settle_of_stuck h]
    | some rp =>
      obtain ⟨r', p'⟩ := rp
      rw [Script.settle_of_step h]
      exact .head (.reader h) (ih r' p')

theorem round_eq (x : Pair) : x.round =
    ⟨(x.writer.advance x.pipe).1, (x.reader.advance (x.writer.advance x.pipe).2).1,
      (x.reader.advance (x.writer.advance x.pipe).2).2⟩ := rfl

/-- A round is a run: the writer's steps, then the reader's. -/
theorem round_run (x : Pair) : ReflTransGen Step x x.round := by
  rw [round_eq]
  exact (settle_writer _ x.writer x.reader x.pipe).trans (settle_reader _ _ x.reader _)

theorem Coherent.of_run (hx : Coherent x) {y : Pair} (h : ReflTransGen Step x y) : Coherent y := by
  induction h with
  | refl => exact hx
  | tail _ hstep ih => exact ih.step hstep

theorem Coherent.weight_le (hx : Coherent x) {y : Pair} (h : ReflTransGen Step x y) :
    y.weight ≤ x.weight := by
  induction h with
  | refl => exact Nat.le_refl _
  | tail hxb hstep ih =>
    exact Nat.le_of_lt (Nat.lt_of_lt_of_le ((hx.of_run hxb).weight_lt hstep) ih)

/-- Until both threads have finished, a round takes a first step, by the writer if it can step,
    else by the reader, which then can. -/
theorem Coherent.round_first_step (hx : Coherent x) (hnf : ¬ x.Finished) :
    ∃ y, Step x y ∧ ReflTransGen Step y x.round := by
  cases hw : x.writer.step x.pipe with
  | some wp =>
    obtain ⟨w', p'⟩ := wp
    refine ⟨⟨w', x.reader, p'⟩, .writer hw, ?_⟩
    rw [round_eq, Script.advance_eq x.writer, Script.settle_of_step hw]
    exact (settle_writer _ w' x.reader p').trans (settle_reader _ _ x.reader _)
  | none =>
    obtain ⟨y, hy⟩ := hx.progress hnf
    cases hy with
    | writer h => rw [hw] at h; cases h
    | @reader r' p' hr =>
      refine ⟨⟨x.writer, r', p'⟩, .reader hr, ?_⟩
      rw [round_eq, Script.advance_eq x.writer, Script.settle_of_stuck hw,
        Script.advance_eq x.reader, Script.settle_of_step hr]
      exact settle_reader _ x.writer r' p'

theorem Coherent.round_weight_lt (hx : Coherent x) (hnf : ¬ x.Finished) :
    x.round.weight < x.weight := by
  obtain ⟨y, hxy, hyr⟩ := hx.round_first_step hnf
  calc x.round.weight ≤ y.weight := (hx.step hxy).weight_le hyr
    _ < x.weight := hx.weight_lt hxy

theorem finished_of_weight_eq_zero (h : x.weight = 0) : x.Finished := by
  simp only [weight, Script.weight] at h
  constructor
  · by_cases hf : x.writer.finished = true
    · exact hf
    · simp [hf] at h
  · by_cases hf : x.reader.finished = true
    · exact hf
    · simp [hf] at h

/-- Rounds as many as the weight bring a coherent state to one where both threads have
    finished, by a run.  The induction is on the rounds, each of which lowers the weight. -/
theorem Coherent.rounds_finished (hx : Coherent x) (fuel : Nat) (hle : x.weight ≤ fuel) :
    (rounds fuel x).Finished ∧ ReflTransGen Step x (rounds fuel x) := by
  induction fuel generalizing x with
  | zero => exact ⟨finished_of_weight_eq_zero (Nat.le_zero.mp hle), .refl⟩
  | succ n ih =>
    simp only [rounds]
    split
    case isTrue hf => exact ⟨by simpa [Finished] using hf, .refl⟩
    case isFalse hf =>
      have hnf : ¬ x.Finished := fun h => hf (by simp [h.1, h.2])
      have hround := round_run x
      have hlt := hx.round_weight_lt hnf
      obtain ⟨hfin, hrun⟩ := ih (hx.of_run hround) (by omega)
      exact ⟨hfin, hround.trans hrun⟩

theorem weight_start (writerOps readerOps : List Op) :
    (start writerOps readerOps).weight = 4 * (writerOps.length + readerOps.length) + 2 := by
  have hw : (Script.start .writer writerOps).weight = 1 + 4 * writerOps.length := by
    simp [Script.weight, Script.start]
  have hr : (Script.start .reader readerOps).weight = 1 + 4 * readerOps.length := by
    simp [Script.weight, Script.start]
  simp only [weight, start, hw, hr, Pipe.weight, Pipe.fresh, if_true]
  omega

/-- `Pair.run` is an interleaving of the two scripts, and it ends with both threads finished. -/
theorem run_reachable_finished (writerOps readerOps : List Op) :
    Reachable writerOps readerOps (run writerOps readerOps) ∧
      (run writerOps readerOps).Finished := by
  have hle : (start writerOps readerOps).weight ≤ (start writerOps readerOps).budget := by
    rw [weight_start]
    simp only [budget, start, Script.start]
    omega
  obtain ⟨hfin, hrun⟩ := (coherent_start writerOps readerOps).rounds_finished _ hle
  exact ⟨hrun, hfin⟩

/-- The pipe's threads cannot deadlock and their results do not depend on timing: from every
    state an interleaving reaches, some thread can step until both have finished; no
    interleaving steps for ever; and every interleaving can still reach, and once both threads
    have finished has reached, the state `Pair.run` computes, with the same results on each
    side and the same closed ends. -/
theorem interleavings_end_alike (writerOps readerOps : List Op) :
    (∀ x, Reachable writerOps readerOps x → ¬ x.Finished → ∃ y, Step x y) ∧
    (∀ f : Nat → Pair, Reachable writerOps readerOps (f 0) → ¬ ∀ n, Step (f n) (f (n + 1))) ∧
    (∀ x, Reachable writerOps readerOps x → ReflTransGen Step x (run writerOps readerOps)) ∧
    (∀ x, Reachable writerOps readerOps x → x.Finished → x = run writerOps readerOps) := by
  obtain ⟨hrun, hfin⟩ := run_reachable_finished writerOps readerOps
  refine ⟨fun x hx hnf => hx.coherent.progress hnf,
    fun f h0 => Coherent.no_infinite_run f h0.coherent, fun x hx => ?_,
    fun x hx hfx => hx.finished_eq hrun hfx hfin⟩
  -- the run's state is final, so the common continuation of the two ends there
  obtain ⟨d, hxd, hrd⟩ := (coherent_start writerOps readerOps).join_of_runs hx hrun
  rw [hfin.eq_of_run hrd]
  exact hxd

end Pair

end Tftp
