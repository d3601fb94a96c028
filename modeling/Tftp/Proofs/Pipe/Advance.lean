import Tftp.Proofs.Pipe.Determinacy

/-! # An advance runs a script until it finishes or waits

    `Script.advance` lets a script take steps while the other end of the pipe stands still, with
    a budget of three steps for each operation and six more.  The budget is enough: on a pipe
    that only the script itself changes, each operation takes at most three steps, a call in
    progress at most three more, and closing the end one.  Main statement
    (`Script.advance_stops`): an advance always ends with the script finished or waiting in a
    call that cannot take its pass.

    The count is `Call.passes`, how many more passes a call can take while the other end stands
    still.  Every pass of an enabled call that goes on leaves a call with fewer passes, and at
    most two. -/

namespace Tftp

namespace Call

/-- How many more passes a call can take while the other end stands still: a read to the end
    of the stream that finds bytes takes them, then waits, then ends; a fresh read or write may
    wait once; a waiting call returns at its next pass. -/
def passes (c : Call) (p : Pipe) : Nat :=
  match c with
  | .write _ => 2
  | .read _ w => if w then 1 else 2
  | .readAll _ w => if p.pending = [] then (if w then 1 else 2) else 3
  | .drain _ | .awaitRead => 1

theorem passes_bounds (c : Call) (p : Pipe) : 1 ≤ c.passes p ∧ c.passes p ≤ 3 := by
  cases c with
  | read _ w => cases w <;> simp [passes]
  | readAll _ w => cases w <;> by_cases hp : p.pending = [] <;> simp [passes, hp]
  | _ => simp [passes]

/-- A pass of an enabled call that goes on leaves a call with fewer passes, and at most two:
    a write puts its bytes or waits for a read, a read waits, and a read to the end of the
    stream takes the bytes in flight or waits. -/
theorem passes_lt {c c' : Call} {p p' : Pipe} (hen : c.enabled p = true)
    (h : c.step p = .continues c' p') : c'.passes p' ≤ 2 ∧ c'.passes p' < c.passes p := by
  cases c with
  | write d =>
    have hpass := writerPass_of_enabled (c := .write d) rfl hen
    rw [h] at hpass
    cases hpass <;> simp [passes]
  | drain n =>
    have hpass := writerPass_of_enabled (c := .drain n) rfl hen
    rw [h] at hpass
    cases hpass
  | awaitRead =>
    have hpass := writerPass_of_enabled (c := .awaitRead) rfl hen
    rw [h] at hpass
    cases hpass
  | read cut w =>
    have hpass := readerPass_of_side (c := .read cut w) (p := p) rfl
    rw [h] at hpass
    cases hpass with
    | waits hc hr hp hw =>
      -- an enabled read that finds nothing to take was not waiting yet
      have hnw := waiting_eq_false hc hen hp hw hr
      simp only [waiting] at hnw
      simp [passes, parked, hnw]
  | readAll g w =>
    have hpass := readerPass_of_side (c := .readAll g w) (p := p) rfl
    rw [h] at hpass
    cases hpass with
    | takesAll hr hp => simp [passes, hp]
    | waits hc hr hp hw =>
      have hnw := waiting_eq_false hc hen hp hw hr
      simp only [waiting] at hnw
      simp [passes, parked, hnw, hp]

end Call

namespace Script

/-- The steps a script can still take while the other end stands still: three for each
    operation, the passes of its call, and one to close its end. -/
def potential (s : Script) (p : Pipe) : Nat :=
  if s.finished then 0 else 3 * s.ops.length + (s.call.map (·.passes p)).getD 0 + 1

/-- Every step of a script lowers its potential, whatever the pipe: an operation that begins
    leaves a call of at most two passes, and a pass that goes on leaves fewer. -/
theorem potential_lt {s s' : Script} {p p' : Pipe} (h : s.step p = some (s', p')) :
    s'.potential p' < s.potential p := by
  have hf := finished_eq_false_of_step h
  cases uses_of_step h with
  | own hs hs' _ =>
    obtain ⟨hc', -, hf', hlen⟩ := hs'
    simp only [potential, hf, hs, hc', hf', Option.map_none, Option.getD_none,
      Bool.false_eq_true, ↓reduceIte]
    omega
  | shut e hs hs' _ =>
    obtain ⟨hc', -, hfin'⟩ := hs'
    rcases hfin' with hf' | ⟨hf', hlen⟩
    · simp [potential, hf, hf']
    · simp only [potential, hf, hs, hc', hf', Option.map_none, Option.getD_none,
        Bool.false_eq_true, ↓reduceIte]
      omega
  | call s₀ c hen hfrom hs₀ _ hr =>
    -- the script after the pass, by whether the call returned or goes on
    cases hstep : c.step p with
    | returns r q =>
      rw [hstep] at hr
      simp only [afterCall, record, Prod.mk.injEq] at hr
      obtain ⟨rfl, rfl⟩ := hr
      have := c.passes_bounds p
      rcases hfrom with ⟨hc, -, -, hlen⟩ | ⟨hc, rfl⟩
      · simp only [potential, hf, hc, hs₀.2, Bool.false_eq_true, ↓reduceIte,
          Option.map_none, Option.getD_none]
        omega
      · simp only [potential, hf, hc, Bool.false_eq_true, ↓reduceIte, Option.map_none,
          Option.getD_none, Option.map_some, Option.getD_some]
        omega
    | continues c' q =>
      rw [hstep] at hr
      simp only [afterCall, Prod.mk.injEq] at hr
      obtain ⟨rfl, rfl⟩ := hr
      have hlt := Call.passes_lt hen hstep
      rcases hfrom with ⟨hc, -, -, hlen⟩ | ⟨hc, rfl⟩
      · simp only [potential, hf, hc, hs₀.2, Bool.false_eq_true, ↓reduceIte, Option.map_none,
          Option.getD_none, Option.map_some, Option.getD_some]
        omega
      · simp only [potential, hf, hc, Bool.false_eq_true, ↓reduceIte, Option.map_some,
          Option.getD_some]
        omega

theorem potential_lt_budget (s : Script) (p : Pipe) : s.potential p < s.budget := by
  unfold potential budget
  split
  · omega
  · cases s.call with
    | none => simp
    | some c =>
      have := (c.passes_bounds p).2
      simp only [Option.map_some, Option.getD_some]
      omega

/-- Settling with at least as many steps as the potential ends with the script finished or
    waiting.  The induction is on the steps, each of which lowers the potential. -/
theorem settle_stops {n : Nat} {s : Script} {p : Pipe} (hn : s.potential p ≤ n) :
    (s.settle n p).1.step (s.settle n p).2 = none := by
  induction n generalizing s p with
  | zero =>
    -- a script with no potential has finished
    cases hf : s.finished
    · simp [potential, hf] at hn
    · simp [settle, step, hf]
  | succ n ih =>
    cases hs : s.step p with
    | none => rw [settle_of_stuck hs]; exact hs
    | some sp =>
      obtain ⟨s', p'⟩ := sp
      rw [settle_of_step hs]
      have := potential_lt hs
      exact ih (by omega)

/-- An advance ends with the script finished or waiting in a call that cannot take its pass. -/
theorem advance_stops (s : Script) (p : Pipe) : (s.advance p).1.step (s.advance p).2 = none :=
  settle_stops (Nat.le_of_lt (potential_lt_budget s p))

end Script

end Tftp
