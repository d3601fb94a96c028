import Tftp.Proofs.Receiver.Closing
import Tftp.Proofs.Clock

/-! # The receiver's contract

    Every run of a receiving session, from its creation to its end, keeps the receiver's contract
    (`ReceiverContract`), whatever the network and the handler answer and however many steps it
    is given: the handler is written the handshake and then exactly the payloads the rule
    delivers, each datagram and each acknowledgement is answered by the rule, and a session that
    ends done acknowledged the last block and closed the pipe cleanly.

    Whether it ends done turns on the clock.  A session that acknowledged a short last block can
    still fail when the clock reading after the acknowledgement is too large to restart the
    timer, and the contract says exactly that: a session that does not end done could not
    restart its timer after any acknowledgement of a last block.  A clock that reads doubles
    never gives such a reading once the timeout has a double, so there the session ends done
    exactly when it acknowledged the last block.

    * `run_spec`: the whole run of a fresh receiver, assembled from the specifications of its
      opening, its steps, its failure and its closing.
    * `Setup.receiver_always_contract`: the contract for every receiving session a setup
      creates, whatever the surroundings answer.
    * `receiver_keeps_stream_contract`: under a clock that reads doubles, the contract, and done
      exactly when the last block was acknowledged. -/

namespace Tftp

variable {st : Setup} {s : Session} {h : List Exchange}

namespace Session

variable {ok : List Exchange → Prop}

/-- Opening the transfer leaves a fresh receiver waiting for data, or failed. -/
theorem start_spec (hf : Fresh st s h) : Wp ok start (Stepped st) s h := by
  unfold start
  rw [wp_bind, wp_get]
  dsimp only
  rw [hf.role]
  apply Wp.mono _ (startReceiving_spec hf)
  rintro (e | _) s' h' hq
  · exact hq
  · exact Or.inl hq

/-- A step of the transfer keeps a waiting receiver waiting, finishes it, or fails it. -/
theorem stepOnce_spec (ha : Awaiting st s h) : Wp ok stepOnce (Stepped st) s h := by
  unfold stepOnce
  rw [wp_bind, wp_get]
  dsimp only
  rw [ha.agrees.role]
  exact receiveOnce_spec ha

/-- The loop keeps a receiver waiting or finished until it stops, or fails it: a finished
    receiver has ended, so only a waiting one steps. -/
theorem loop_spec (fuel : Nat) (hs : Stepped st (.ok ()) s h) :
    Wp ok (loop fuel) (fun r s' h' => Stepped st (r.map fun _ => ()) s' h') s h := by
  refine Wp.mono ?_ (@wp_loop ok (Stepped st (.ok ())) (fun e => Stepped st (.error e)) ?step
    fuel s h hs)
  case step =>
    rintro s h (ha | hf) hend
    · apply Wp.mono _ (stepOnce_spec ha)
      rintro (e | _) s' h' hq <;> exact hq
    · simp [ended, hf.phase] at hend
  rintro (e | _) s' h' hq <;> exact hq

/-- The whole run of a fresh receiver keeps the receiver's contract. -/
theorem run_spec (hf : Fresh st s h) (fuel : Nat) :
    Wp ok (run fuel) (fun _ s' h' => Concluded st s' h') s h := by
  refine @wp_run ok s h fuel (Stepped st (.ok ())) (fun e => Stepped st (.error e))
    (fun s h => Failing st h ∧ s.phase = some .failed) (Concluded st) ?_ ?_ ?_ ?_
  · apply Wp.mono _ (start_spec hf)
    rintro (e | _) s' h' hq <;> exact hq
  · intro s h hs
    apply Wp.mono _ (loop_spec fuel hs)
    rintro (e | _) s' h' hq <;> exact hq
  · intro e s h hfail
    exact fail_spec hfail e.toFault
  · intro s h hs
    exact close_spec fuel hs

end Session

/-- The session a receiver's setup creates is fresh: counters at zero, the setup's peer, and a
    run of clock readings and the socket's address. -/
theorem Setup.fresh_initial (client : Bool) (peer : Address) (filename mode : Value)
    (policy : RetryPolicy) (expiry : Number) (x₀ x₁ x₂ : Response) :
    Fresh ⟨.receiver, client, peer, filename, mode, policy, none⟩
      (Setup.initial ⟨.receiver, client, peer, filename, mode, policy, none⟩ expiry x₁ x₂)
      [(.now, x₀), (.localAddress, x₁), (.now, x₂)] := by
  refine ⟨rfl, rfl, rfl, rfl, rfl, rfl, rfl, ?_, ?_⟩
  · simp
  · simp [Exchange.streamClose?]

/-- Every run of a receiving session keeps the receiver's contract, whatever the surroundings
    answer: its writes to the handler are the handshake and then the payloads the rule
    delivers, once each and in order; each datagram is answered by the rule's verdict on it; each
    acknowledgement follows the writes, all returned, of what it acknowledges; a session that
    ends done acknowledged the last block and then closed the pipe without a fault, writing
    nothing more; one that does not could not restart its timer after any acknowledgement of a
    last block.  A session that cannot be created writes and sends nothing. -/
theorem Setup.receiver_always_contract (ok : List Exchange → Prop) (client : Bool)
    (peer : Address) (filename mode : Value) (policy : RetryPolicy) (fuel : Nat) :
    (Setup.program ⟨.receiver, client, peer, filename, mode, policy, none⟩ fuel).Always ok
      (fun r H => match r with
        | .ok (_, s) => ReceiverContract client peer policy.seconds (s.phase = some .done) H
        | .error _ => writes H = [] ∧ ∀ e ∈ H, e.deed? = none) [] := by
  apply Setup.always_program
  · intro x _
    exact ⟨rfl, by simp⟩
  · intro x₀ expiry x₁ x₂ _
    apply Session.Wp.mono _
      (Session.run_spec (Setup.fresh_initial client peer filename mode policy expiry x₀ x₁ x₂) fuel)
    rintro (e | _ | _) s' h' hc <;> exact hc

/-- A run whose readings are doubles, with a timeout that has a double, restarts its timer after
    every acknowledgement: none both acknowledged the last block and failed to restart after it. -/
theorem TimerFailsAfterLastAck.not_acksLast {client : Bool} {d₀ : Delivered} {seconds : Number}
    {H : List Exchange} {d : Float} (htf : TimerFailsAfterLastAck client d₀ seconds H)
    (hl : AcksLast client d₀ H) (hsec : seconds.toFloat? = some d)
    (hH : Session.DoubleReadings H) : False := by
  obtain ⟨A, e, B, rfl, hat⟩ := hl
  obtain ⟨t, B', rfl, hnone⟩ := htf A e B rfl hat
  obtain ⟨u, rfl⟩ := hH t (by simp)
  simp [Setup.clockOf, hsec] at hnone

/-- Under a clock that reads doubles, every run of a receiving session keeps the receiver's
    contract (`Setup.receiver_always_contract`), and it ends done exactly when it acknowledged a
    short last block after writing every payload it delivered.  A session that cannot be created
    writes and sends nothing. -/
theorem receiver_keeps_stream_contract (client : Bool) (peer : Address) (filename mode : Value)
    (policy : RetryPolicy) (fuel : Nat) {ok : List Exchange → Prop}
    (hclock : Session.DoubleClock ok) :
    (Setup.program ⟨.receiver, client, peer, filename, mode, policy, none⟩ fuel).Always ok
      (fun r H => match r with
        | .ok (_, s) => ReceiverContract client peer policy.seconds (s.phase = some .done) H ∧
            (s.phase = some .done ↔ AcksLast client (Delivered.start client peer) H)
        | .error _ => writes H = [] ∧ ∀ e ∈ H, e.deed? = none) [] := by
  have hall := ((Setup.receiver_always_contract ok client peer filename mode policy fuel).and
    (Setup.always_seconds_fit _ fuel hclock)).seen
  apply Program.Always.mono _ hall
  rintro (e | ⟨_, s⟩) H ⟨⟨hc, hfit⟩, δ, hδ, hseen⟩
  · exact hc
  · rw [List.nil_append] at hδ
    subst hδ
    obtain ⟨d, hd⟩ := hfit _ s rfl
    -- done gives the acknowledgement; without done the timer could not restart after it
    refine ⟨hc, fun hdone => (hc.finished hdone).1, fun hacks => ?_⟩
    by_cases hdone : s.phase = some .done
    · exact hdone
    · exact ((hc.unfinished hdone).not_acksLast hacks hd (hclock.readings hseen)).elim

/-- A client that receives, under the documented clock, keeps the contract. -/
theorem readClient_keeps_stream_contract :
    Session.DoubleClock Session.Documented ∧
      (Setup.program ⟨.receiver, true, default, .none, .none, default, none⟩ 3).Always
        Session.Documented (fun r H => match r with
          | .ok (_, s) => ReceiverContract true default (default : RetryPolicy).seconds
              (s.phase = some .done) H ∧
              (s.phase = some .done ↔ AcksLast true (Delivered.start true default) H)
          | .error _ => writes H = [] ∧ ∀ e ∈ H, e.deed? = none) [] :=
  ⟨Session.doubleClock_documented,
    receiver_keeps_stream_contract true default .none .none default 3
      Session.doubleClock_documented⟩

end Tftp
