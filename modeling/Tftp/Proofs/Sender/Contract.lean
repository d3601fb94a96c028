import Tftp.Proofs.Sender.Session

/-! # The sender's contract

    Every run of a sending session, from its creation to its end, keeps the sender's contract
    (`SenderContract`), whatever the network answers, however the handler splits its writes and
    however many steps the session is given, as long as each read from the pipe returns at most
    the bytes it asked for (`Exchange.FitsPipe`, which the pipe keeps: `World.answer_fitsPipe`).

    * `run_spec`: the whole run of a fresh sender, assembled from the specifications of its
      opening, its steps, its failure and its closing.
    * `sender_keeps_stream_contract`: the contract for every sending session a setup creates. -/

namespace Tftp

namespace Sending

open Session

variable {ok : List Exchange → Prop} {st : Setup} {s : Session} {h : List Exchange}

/-- Opening the transfer leaves a fresh sender ready or waiting, or fails the run. -/
theorem start_spec (hf : Fresh st s h) : Wp ok start (Stepped st) s h := by
  unfold start
  rw [wp_bind, wp_get]
  dsimp only
  rw [hf.role]
  exact startSending_spec hf

/-- A step of the transfer keeps a sender ready, waiting or done, or fails the run. -/
theorem stepOnce_spec (hok : ∀ H, ok H → ∀ e ∈ H, e.FitsPipe)
    (hs : Ready st s h ∨ Waiting st s h) : Wp ok stepOnce (Stepped st) s h := by
  have hrole : ∃ x, s.role = .sender x := by
    rcases hs with hr | hw
    · exact ⟨_, hr.agrees.role⟩
    · exact ⟨_, hw.agrees.role⟩
  obtain ⟨x, hx⟩ := hrole
  unfold stepOnce
  rw [wp_bind, wp_get]
  dsimp only
  rw [hx]
  exact sendOnce_spec hok hs

/-- The loop keeps a sender ready, waiting or done until it stops, or fails the run: a done
    sender has ended, so only a ready or waiting one steps. -/
theorem loop_spec (hok : ∀ H, ok H → ∀ e ∈ H, e.FitsPipe) (fuel : Nat)
    (hs : Stepped st (.ok ()) s h) :
    Wp ok (loop fuel) (fun r s' h' => Stepped st (r.map fun _ => ()) s' h') s h := by
  refine Wp.mono ?_ (@wp_loop ok (Stepped st (.ok ())) (fun e => Stepped st (.error e)) ?step
    fuel s h hs)
  case step =>
    rintro s h (hr | hw | hd) hend
    · apply Wp.mono _ (stepOnce_spec hok (.inl hr))
      rintro (e | _) s' h' hq <;> exact hq
    · apply Wp.mono _ (stepOnce_spec hok (.inr hw))
      rintro (e | _) s' h' hq <;> exact hq
    · simp [ended, hd.phase] at hend
  rintro (e | _) s' h' hq <;> exact hq

/-- The whole run of a fresh sender keeps the sender's contract. -/
theorem run_spec (hok : ∀ H, ok H → ∀ e ∈ H, e.FitsPipe) (hf : Fresh st s h) (fuel : Nat) :
    Wp ok (run fuel) (fun _ s' h' => Concluded st s' h') s h := by
  refine @wp_run ok s h fuel (Stepped st (.ok ())) (fun e => Stepped st (.error e))
    (fun s h => Failing st h ∧ s.phase = some .failed) (Concluded st) ?_ ?_ ?_ ?_
  · apply Wp.mono _ (start_spec hf)
    rintro (e | _) s' h' hq <;> exact hq
  · intro s h hs
    apply Wp.mono _ (loop_spec hok fuel hs)
    rintro (e | _) s' h' hq <;> exact hq
  · intro e s h hfail
    exact fail_spec hfail e.toFault
  · intro s h hs
    exact close_spec fuel hs

end Sending

/-- The session a sender's setup creates is fresh: counters at zero, the setup's peer, and a run
    of clock readings and the socket's address. -/
theorem Setup.fresh_sender (client : Bool) (peer : Address) (filename mode : Value)
    (policy : RetryPolicy) (expiry : Number) (x₀ x₁ x₂ : Response) :
    Sending.Fresh ⟨.sender, client, peer, filename, mode, policy, none⟩
      (Setup.initial ⟨.sender, client, peer, filename, mode, policy, none⟩ expiry x₁ x₂)
      [(.now, x₀), (.localAddress, x₁), (.now, x₂)] :=
  ⟨rfl, rfl, rfl, rfl, rfl, rfl, by simp⟩

/-- Every run of a sending session keeps the sender's contract, whatever the network answers
    and however the handler splits its writes, as long as each read from the pipe returns at
    most the bytes it asked for.  The session reads from the pipe only once the peer
    acknowledged its last block, or a client's request; a server reads its first block before it
    waits for any datagram.  Each DATA it sends once its last block was acknowledged is the next
    block: numbered one more than the last, from 1 and wrapping from 65535 to 0, holding exactly
    the bytes read since the last block, after full blocks only, and full itself unless the
    stream ended; any other DATA it sends is its last block again.  It ends done exactly when its
    last block was short and acknowledged, and then it read the whole stream and sent all of it.
    A session that cannot be created keeps to the rule and does not finish. -/
theorem sender_keeps_stream_contract (client : Bool) (peer : Address) (filename mode : Value)
    (policy : RetryPolicy) (fuel : Nat) :
    (Setup.program ⟨.sender, client, peer, filename, mode, policy, none⟩ fuel).Always
      (fun H => ∀ e ∈ H, e.FitsPipe) (fun r H => match r with
        | .ok (_, s) => SenderContract client peer (s.phase = some .done) H
        | .error _ => SenderContract client peer False H) [] := by
  apply Setup.always_program
  · intro x _
    refine ⟨FollowsRule.of_isQuiet (by simp), iff_of_false id fun hdone => ?_, False.elim⟩
    simp [Pushed.start, Pushed.lastShort] at hdone
  · intro x₀ expiry x₁ x₂ _
    apply Session.Wp.mono _ (Sending.run_spec (fun _ hH => hH)
      (Setup.fresh_sender client peer filename mode policy expiry x₀ x₁ x₂) fuel)
    rintro (e | _ | _) s' h' hc <;> exact hc

end Tftp
