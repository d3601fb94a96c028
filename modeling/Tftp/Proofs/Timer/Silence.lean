import Tftp.Proofs.Timer.Run

/-! # A silent peer: the budget spent, then the timeout

    Surroundings in which the peer stays silent (`Silent`): every datagram goes out, every
    receive waits out its timeout, and the clock reads whole seconds, never going back and moving
    on by at least the time each receive waited.  There a session that waits for its peer, with
    a datagram to resend and a timer in whole seconds, lets the timer run out in every step; it
    resends the datagram while its budget lasts and then fails with the timeout
    (`wp_loop_silent`).  A client opens with its request, so a silent peer gets that request
    exactly `retries + 1` times, and the session ends with the timeout
    (`silent_peer_gets_request_retries_times`).  `Timer.Unheeded` lifts the whole seconds and
    the silence: any clock that reads doubles, and any datagrams the session has no use for. -/

namespace Tftp

/-- The datagram an exchange sent, with its target. -/
def Exchange.sent? : Exchange → Option (List UInt8 × Address)
  | (.send bytes target, _) => some (bytes, target)
  | _ => none

/-- The least clock reading after an exchange, from the least reading `c` before it: a reading
    in whole seconds sets it, and a receive that waited `w` whole seconds moves it on by `w`. -/
def Exchange.clockAfter (c : Int) : Exchange → Int
  | (.now, .time (.int t)) => t
  | (.receive (.int w) _, _) => c + w
  | _ => c

/-- How silent surroundings answer, at the least clock reading `c`: a send goes out, a receive
    waits out its timeout, and the clock reads whole seconds no earlier than `c`.  The pipe and
    the rest answer as they may. -/
def Exchange.Hushed (c : Int) : Exchange → Prop
  | (.now, x) => ∃ t, x = .time (.int t) ∧ c ≤ t
  | (.receive _ _, x) => x = .timedOut
  | (.send _ _, x) => x = .sent
  | _ => True

/-- Surroundings of a peer that stays silent, from the least clock reading `c` on. -/
def Silent : Int → List Exchange → Prop
  | _, [] => True
  | c, e :: rest => Exchange.Hushed c e ∧ Silent (Exchange.clockAfter c e) rest

/-- The least clock reading after the exchanges `h`. -/
def Silent.clock (c : Int) (h : List Exchange) : Int :=
  h.foldl Exchange.clockAfter c

theorem silent_append (c : Int) (h δ : List Exchange) :
    Silent c (h ++ δ) ↔ Silent c h ∧ Silent (Silent.clock c h) δ := by
  induction h generalizing c with
  | nil => simp [Silent, Silent.clock]
  | cons e rest ih =>
    simp only [List.cons_append, Silent, Silent.clock, List.foldl_cons, ih]
    exact and_assoc.symm

/-- The answer to the last exchange of silent surroundings. -/
theorem Silent.last {c : Int} {h : List Exchange} {e : Exchange} (hs : Silent c (h ++ [e])) :
    Exchange.Hushed (Silent.clock c h) e :=
  ((silent_append c h [e]).mp hs).2.1

@[simp] theorem Silent.clock_append (c : Int) (h δ : List Exchange) :
    Silent.clock c (h ++ δ) = Silent.clock (Silent.clock c h) δ :=
  List.foldl_append

@[simp] theorem Silent.clock_nil (c : Int) : Silent.clock c [] = c := rfl

@[simp] theorem Silent.clock_cons (c : Int) (e : Exchange) (δ : List Exchange) :
    Silent.clock c (e :: δ) = Silent.clock (Exchange.clockAfter c e) δ := rfl

namespace Session

variable {s : Session} {h : List Exchange} {c₀ : Int}

/-! ## One step -/

/-- In silent surroundings the clock reads whole seconds, no earlier than it may. -/
theorem wp_timeLeft_silent {e : Int} (hexp : s.expiry = .int e)
    {Q : Except Failure Number → Session → List Exchange → Prop}
    (hQ : ∀ a, Silent.clock c₀ h ≤ a → Q (.ok (.int (e - a))) s (h ++ [(.now, .time (.int a))])) :
    Wp (Silent c₀) timeLeft Q s h := by
  rw [wp_timeLeft]
  intro x hx
  obtain ⟨a, rfl, ha⟩ := hx.last
  rw [hexp]
  exact hQ a ha

/-- In silent surroundings a datagram that can be written goes out. -/
theorem wp_send_silent {p : Draft} {bytes : List UInt8} (henc : p.encode = .ok bytes)
    {Q : Except Failure Unit → Session → List Exchange → Prop}
    (hQ : Q (.ok ()) s.countSent (h ++ [(.send bytes s.peer, .sent)])) :
    Wp (Silent c₀) (send p) Q s h := by
  apply wp_send_of_encode henc
  · intro reason hfail
    exact absurd hfail.last (by simp [Exchange.Hushed])
  · intro y _ hy
    obtain rfl : y = .sent := hy.last
    exact hQ

/-- In silent surroundings a timer in whole seconds restarts a timeout after the reading. -/
theorem wp_resetTimeout_silent {d : Int} (hsec : s.policy.seconds = .int d)
    {Q : Except Failure Unit → Session → List Exchange → Prop}
    (hQ : ∀ t, Q (.ok ()) { s with expiry := .int (t + d) } (h ++ [(.now, .time (.int t))])) :
    Wp (Silent c₀) resetTimeout Q s h := by
  rw [wp_resetTimeout]
  intro x hx
  obtain ⟨t, rfl, _⟩ := hx.last
  rw [hsec]
  exact hQ t

/-- A receive in silent surroundings gets nothing, and the clock has passed the expiry after it:
    it waited out the time the timer had left, or the timer had already run out. -/
theorem wp_receive_silent {e : Int} (hexp : s.expiry = .int e)
    {Q : Except Failure (Option Packet) → Session → List Exchange → Prop}
    (hQ : ∀ δ, δ.filterMap Exchange.sent? = [] → e ≤ Silent.clock c₀ (h ++ δ) →
      Q (.ok none) s (h ++ δ)) :
    Wp (Silent c₀) receive Q s h := by
  unfold receive
  rw [wp_bind]
  apply wp_timeLeft_silent hexp
  intro a _
  dsimp only
  by_cases hpast : e - a ≤ 0
  · -- the timer has run out: nothing is asked
    rw [if_pos (by simp [Number.isNonpos, hpast])]
    exact hQ _ rfl (by simp only [Silent.clock_append, Silent.clock_cons, Silent.clock_nil, Exchange.clockAfter]; omega)
  · rw [if_neg (by simp [Number.isNonpos, hpast]), wp_bind, wp_get]
    dsimp only
    rw [wp_bind, wp_ask]
    intro y hy
    obtain rfl : y = .timedOut := hy.last
    have hδ := hQ [(.now, .time (.int a)), (.receive (.int (e - a)) s.phase, .timedOut)] rfl
      (by simp only [Silent.clock_append, Silent.clock_cons, Silent.clock_nil, Exchange.clockAfter]; omega)
    rw [List.append_assoc, List.singleton_append]
    exact hδ

/-- A fresh transmission in silent surroundings goes out and restarts the timer. -/
theorem wp_transmit_silent {d : Int} {p : Draft} {bytes : List UInt8}
    (hsec : s.policy.seconds = .int d) (henc : p.encode = .ok bytes)
    {Q : Except Failure Unit → Session → List Exchange → Prop}
    (hQ : ∀ t, Q (.ok ())
      { s.countSent with lastPacket := some p, retransmits := 0, expiry := .int (t + d) }
      (h ++ [(.send bytes s.peer, .sent), (.now, .time (.int t))])) :
    Wp (Silent c₀) (transmit p) Q s h := by
  rw [wp_transmit]
  apply wp_send_silent henc
  dsimp only
  refine wp_resetTimeout_silent (d := d) ?_ fun t => ?_
  · exact hsec
  · simpa using hQ t

/-- Once the clock has passed the expiry, a session still waiting resends its datagram while the
    budget lasts and restarts the timer, or fails with the timeout. -/
theorem wp_expire_silent {e d : Int} {p : Draft} {bytes : List UInt8} (ph : Phase)
    (hph : s.phase = some ph) (hexp : s.expiry = .int e) (hsec : s.policy.seconds = .int d)
    (hp : s.lastPacket = some p) (henc : p.encode = .ok bytes) (hpast : e ≤ Silent.clock c₀ h)
    {Q : Except Failure Unit → Session → List Exchange → Prop}
    (hresend : s.retransmits < s.policy.retries → ∀ δ t,
      δ.filterMap Exchange.sent? = [(bytes, s.peer)] →
      Q (.ok ()) { s.countSent.countRetransmit with expiry := .int (t + d) } (h ++ δ))
    (htimeout : ¬s.retransmits < s.policy.retries → ∀ δ,
      δ.filterMap Exchange.sent? = [] → Q (.error (timeoutFailure s.retransmits)) s (h ++ δ)) :
    Wp (Silent c₀) (do
      if (← get).phase == some ph then
        if (← timeLeft).isNonpos then handleTimeout) Q s h := by
  rw [wp_check_waiting hph, wp_bind]
  apply wp_timeLeft_silent hexp
  intro b hb
  dsimp only
  rw [if_pos (by simp [Number.isNonpos]; omega), wp_handleTimeout]
  refine ⟨fun hlt => ?_, fun hge => htimeout hge _ rfl⟩
  rw [wp_retransmit, hp]
  dsimp only
  apply wp_send_silent henc
  dsimp only
  refine wp_resetTimeout_silent (d := d) ?_ fun t => ?_
  · exact hsec
  · simpa using hresend hlt [(.now, .time (.int b)), (.send bytes s.peer, .sent),
      (.now, .time (.int t))] t rfl

/-- A step of a session that waits, in silent surroundings: the timer runs out, and the session
    resends while its budget lasts, or fails with the timeout. -/
theorem wp_stepOnce_silent {e d : Int} {p : Draft} {bytes : List UInt8}
    (hwait : s.phase = some s.kind.waitPhase) (hexp : s.expiry = .int e)
    (hsec : s.policy.seconds = .int d) (hp : s.lastPacket = some p) (henc : p.encode = .ok bytes)
    {Q : Except Failure Unit → Session → List Exchange → Prop}
    (hresend : s.retransmits < s.policy.retries → ∀ δ t,
      δ.filterMap Exchange.sent? = [(bytes, s.peer)] →
      Q (.ok ()) { s.countSent.countRetransmit with expiry := .int (t + d) } (h ++ δ))
    (htimeout : ¬s.retransmits < s.policy.retries → ∀ δ,
      δ.filterMap Exchange.sent? = [] → Q (.error (timeoutFailure s.retransmits)) s (h ++ δ)) :
    Wp (Silent c₀) stepOnce Q s h := by
  -- the rest of the step, after a receive that got nothing
  have hexpire : ∀ ph, s.phase = some ph → ∀ δ, δ.filterMap Exchange.sent? = [] →
      e ≤ Silent.clock c₀ (h ++ δ) →
      Wp (Silent c₀) (do
        if (← get).phase == some ph then
          if (← timeLeft).isNonpos then handleTimeout) Q s (h ++ δ) := by
    intro ph hph δ hδ hpast
    apply wp_expire_silent ph hph hexp hsec hp henc hpast
    · intro hlt δ' t hδ'
      simpa using hresend hlt (δ ++ δ') t (by simp [hδ, hδ'])
    · intro hge δ' hδ'
      simpa using htimeout hge (δ ++ δ') (by simp [hδ, hδ'])
  unfold stepOnce
  rw [wp_bind, wp_get]
  dsimp only
  cases hrole : s.role with
  | sender x =>
    have hph : s.phase = some .awaitAck := by simpa [kind, hrole, RoleKind.waitPhase] using hwait
    unfold sendOnce
    rw [wp_bind, wp_get]
    dsimp only
    rw [if_neg (by simp [hph]), wp_bind]
    exact wp_receive_silent hexp fun δ hδ hpast => hexpire _ hph δ hδ hpast
  | receiver x =>
    have hph : s.phase = some .awaitData := by simpa [kind, hrole, RoleKind.waitPhase] using hwait
    unfold receiveOnce
    rw [wp_bind]
    exact wp_receive_silent hexp fun δ hδ hpast => hexpire _ hph δ hδ hpast

theorem ended_of_wait (hwait : s.phase = some s.kind.waitPhase) : s.ended = false := by
  unfold ended
  rw [hwait]
  cases s.kind <;> rfl

/-! ## The loop -/

/-- A session that waits for its peer with the datagram `p` to resend, its timer in whole seconds
    of timeout `d`, and `n` resends left in its budget. -/
structure Awaits (s : Session) (p : Draft) (d : Int) (n : Nat) : Prop where
  wait : s.phase = some s.kind.waitPhase
  seconds : s.policy.seconds = .int d
  packet : s.lastPacket = some p
  expiry : ∃ e, s.expiry = .int e
  budget : s.policy.retries = s.retransmits + n

/-- After a resend, the session waits on with one resend less left. -/
theorem Awaits.resent {p : Draft} {d : Int} {n : Nat} (hw : Awaits s p d (n + 1)) (t : Int) :
    Awaits { s.countSent.countRetransmit with expiry := .int (t + d) } p d n where
  wait := by
    rw [kind_eq_of_role rfl]
    exact hw.wait
  seconds := hw.seconds
  packet := hw.packet
  expiry := ⟨t + d, rfl⟩
  budget := by
    simp only [countRetransmit, countSent]
    have := hw.budget
    omega

/-- In silent surroundings, a session that waits with a datagram to resend resends it once in
    each step while its budget lasts, then fails with the timeout: within any bound of steps
    above the budget left, the loop sends the datagram exactly as many times as the budget had
    left. -/
theorem wp_loop_silent {p : Draft} {bytes : List UInt8} {d : Int} (henc : p.encode = .ok bytes) :
    ∀ n fuel s h, Awaits s p d n → n < fuel →
      Wp (Silent c₀) (loop fuel) (fun r s' h' =>
        r = .error (timeoutFailure s.policy.retries) ∧ s'.role = s.role ∧ s'.policy = s.policy ∧
        s'.phase = s.phase ∧ s'.error = s.error ∧
        ∃ δ, h' = h ++ δ ∧ δ.filterMap Exchange.sent? = List.replicate n (bytes, s.peer)) s h := by
  intro n
  induction n with
  | zero =>
    intro fuel s h hw hfuel
    obtain ⟨e, hexp⟩ := hw.expiry
    obtain ⟨m, rfl⟩ : ∃ m, fuel = m + 1 := ⟨fuel - 1, by omega⟩
    unfold loop
    rw [wp_bind, wp_get]
    dsimp only
    rw [ended_of_wait hw.wait, if_neg Bool.false_ne_true, wp_bind]
    apply wp_stepOnce_silent hw.wait hexp hw.seconds hw.packet henc
    · intro hlt
      have := hw.budget
      omega
    · -- the budget is spent: the timeout, after no further send
      intro _ δ hδ
      exact ⟨by rw [hw.budget]; rfl, rfl, rfl, rfl, rfl, δ, rfl, by simp [hδ]⟩
  | succ k ih =>
    intro fuel s h hw hfuel
    obtain ⟨e, hexp⟩ := hw.expiry
    obtain ⟨m, rfl⟩ : ∃ m, fuel = m + 1 := ⟨fuel - 1, by omega⟩
    unfold loop
    rw [wp_bind, wp_get]
    dsimp only
    rw [ended_of_wait hw.wait, if_neg Bool.false_ne_true, wp_bind]
    apply wp_stepOnce_silent hw.wait hexp hw.seconds hw.packet henc
    · -- one resend, then the rest of the budget from the session that made it
      intro _ δ t hδ
      dsimp only
      apply Wp.mono _ (ih m _ _ (hw.resent t) (by omega))
      rintro r s' h' ⟨hr, hrole, hpol, hphase, herr, δ', rfl, hδ'⟩
      refine ⟨hr, hrole, hpol, hphase, herr, δ ++ δ', by simp, ?_⟩
      rw [List.filterMap_append, hδ, hδ', List.replicate_succ]
      rfl
    · intro hge
      have := hw.budget
      omega

/-! ## A client's run -/

/-- The request a session opens its transfer with, as a client: a write request for a sender, a
    read request for a receiver. -/
def request (s : Session) : Draft :=
  match s.role with
  | .sender _ => .wrq s.filename s.mode
  | .receiver _ => .rrq s.filename s.mode

/-- In silent surroundings a client opens with its request, a fresh transmission, and then waits
    with the request to resend and its whole budget left. -/
theorem wp_start_silent {d : Int} {bytes : List UInt8} (hclient : s.client = true)
    (hsec : s.policy.seconds = .int d) (henc : s.request.encode = .ok bytes)
    {Q : Except Failure Unit → Session → List Exchange → Prop}
    (hQ : ∀ s' δ, Awaits s' s.request d s.policy.retries → s'.role = s.role →
      s'.policy = s.policy → s'.peer = s.peer → s'.error = s.error →
      δ.filterMap Exchange.sent? = [(bytes, s.peer)] → Q (.ok ()) s' (h ++ δ)) :
    Wp (Silent c₀) start Q s h := by
  -- the request goes out, and the session waits in the phase of its role
  have hopen : ∀ ph, s.kind.waitPhase = ph →
      Wp (Silent c₀) (do
        transmit s.request
        modify fun s => { s with phase := some ph }) Q s h := by
    intro ph hph
    rw [wp_bind]
    apply wp_transmit_silent hsec henc
    intro t
    rw [wp_modify]
    refine hQ _ _ ⟨?_, hsec, rfl, ⟨t + d, rfl⟩, by simp⟩ rfl rfl rfl rfl rfl
    show some ph = some s.kind.waitPhase
    rw [hph]
  unfold start
  rw [wp_bind, wp_get]
  dsimp only
  cases hrole : s.role with
  | sender x =>
    unfold startSending
    rw [wp_bind, wp_get]
    dsimp only
    rw [if_pos hclient]
    have hreq : s.request = .wrq s.filename s.mode := by simp [request, hrole]
    exact hreq ▸ hopen .awaitAck (by simp [kind, hrole, RoleKind.waitPhase])
  | receiver x =>
    unfold startReceiving
    rw [wp_bind, wp_get]
    dsimp only
    rw [if_pos hclient]
    have hreq : s.request = .rrq s.filename s.mode := by simp [request, hrole]
    exact hreq ▸ hopen .awaitData (by simp [kind, hrole, RoleKind.waitPhase])

/-- Closing a failed session sends nothing and keeps its fault. -/
theorem wp_close_failed {ok : List Exchange → Prop} (fuel : Nat) (hph : s.phase = some .failed)
    {Q : Except Failure Unit → Session → List Exchange → Prop}
    (hQ : ∀ s' δ, s'.error = s.error → δ.filterMap Exchange.sent? = [] → Q (.ok ()) s' (h ++ δ)) :
    Wp ok (close fuel) Q s h := by
  unfold close
  rw [wp_bind, wp_get]
  simp only []
  split
  · next hphase =>
    rw [hph] at hphase
    cases hphase
  · apply wp_finish
    intro x₁ x₂ x₃ x₄
    exact hQ _ _ rfl rfl

/-- A client in silent surroundings sends its request `retries + 1` times, then fails with the
    timeout and closes, within any bound of steps above its budget. -/
theorem wp_run_silent {d : Int} {bytes : List UInt8} (fuel : Nat) (hclient : s.client = true)
    (hsec : s.policy.seconds = .int d) (henc : s.request.encode = .ok bytes)
    (hfuel : s.policy.retries < fuel) :
    Wp (Silent c₀) (run fuel) (fun r s' h' => r = .ok true ∧
      s'.error = some (timeoutFailure s.policy.retries).toFault ∧
      ∃ δ, h' = h ++ δ ∧
        δ.filterMap Exchange.sent? = List.replicate (s.policy.retries + 1) (bytes, s.peer)) s h := by
  unfold run
  rw [wp_bind, wp_tryCatch, wp_bind, wp_tryCatch, wp_bind]
  apply wp_start_silent hclient hsec henc
  intro s₁ δ₁ hw _ hpol₁ hpeer₁ _ hδ₁
  dsimp only
  apply Wp.mono _ (wp_loop_silent henc _ fuel s₁ _ hw hfuel)
  rintro r s₂ h₂ ⟨rfl, _, hpol₂, _, _, δ₂, rfl, hδ₂⟩
  -- the timeout ends the session with its fault, without a report to the peer
  dsimp only
  rw [wp_bind, wp_fail]
  refine ⟨fun hk => absurd hk (by simp [timeoutFailure, Failure.ofKind, Failure.toFault,
    Fault.make, Fault.build]), fun _ => ?_⟩
  -- the transfer gave `true`, and the failed session closes
  dsimp only
  rw [wp_pure]
  dsimp only
  rw [wp_pure]
  dsimp only
  rw [wp_bind]
  apply wp_close_failed fuel rfl
  intro s' δ herr hδ
  refine ⟨rfl, by rw [herr, hpol₁]; rfl, δ₁ ++ δ₂ ++ δ, by simp, ?_⟩
  rw [List.filterMap_append, List.filterMap_append, hδ₁, hδ₂, hδ, hpeer₁]
  simp [List.replicate_succ]

end Session

namespace Setup

/-- The request a client of the setup opens its transfer with. -/
def request (st : Setup) : Draft :=
  match st.kind with
  | .sender => .wrq st.filename st.mode
  | .receiver => .rrq st.filename st.mode

theorem request_initial (st : Setup) (expiry : Number) (x₁ x₂ : Response) :
    (st.initial expiry x₁ x₂).request = st.request := by
  obtain ⟨kind, client, peer, filename, mode, policy, initialBlock⟩ := st
  cases kind <;> cases initialBlock <;> rfl

/-- A silent clock reads whole seconds, so a timer in whole seconds always starts. -/
theorem add_silent_ne_none {c₀ d : Int} {x : Response} (hx : Silent c₀ [(.now, x)]) :
    (clockOf x).add? (.int d) ≠ none := by
  obtain ⟨⟨t, rfl, _⟩, _⟩ := hx
  simp [clockOf, Number.add?]

/-- A client whose peer stays silent sends its request `retries + 1` times and nothing else,
    then ends with the timeout, within any bound of steps above its budget. -/
theorem silent_peer_gets_request_retries_times (st : Setup) (fuel : Nat) {c₀ d : Int}
    {bytes : List UInt8} (hclient : st.client = true) (hsec : st.policy.seconds = .int d)
    (henc : st.request.encode = .ok bytes) (hfuel : st.policy.retries < fuel) :
    (st.program fuel).Always (Silent c₀) (fun res H =>
      H.filterMap Exchange.sent? = List.replicate (st.policy.retries + 1) (bytes, st.peer) ∧
      ∃ s, res = .ok (.closed, s) ∧
        s.error = some (Session.timeoutFailure st.policy.retries).toFault) [] := by
  apply always_program_seen
  · -- the creation cannot fail: a silent clock gives the timer a whole second to start from
    intro x hx hadd
    rw [hsec] at hadd
    exact absurd hadd (add_silent_ne_none hx)
  · intro x₀ expiry x₁ x₂ _ _
    have henc' : (st.initial expiry x₁ x₂).request.encode = .ok bytes := by
      rw [request_initial]
      exact henc
    apply Session.Wp.mono _ (Session.wp_run_silent fuel hclient hsec henc' hfuel)
    rintro r s' h' ⟨rfl, herr, δ, rfl, hδ⟩
    -- the creation's exchanges send nothing
    exact ⟨hδ, s', rfl, herr⟩

end Setup

end Tftp
