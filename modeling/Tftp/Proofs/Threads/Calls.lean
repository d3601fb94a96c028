import Tftp.Proofs.Progress.Exact
import Tftp.Proofs.Transfer.Blocks
import Tftp.Proofs.Pipe.Steps

/-! # A session calls only its own end of the pipe, afresh

    A session makes calls on its end of the pipe only to read a block, as a sender, or to hand a
    payload to the handler, as a receiver; each call starts afresh, not yet counted among the
    waiting reads.  Every other request leaves the pipe alone, but for closing the session's end.

    `Session.CallsOwn K` is what every step of a session of the role `K` keeps: the role, and that
    every call so far opened the session's end afresh.  Main statement (`Setup.program_asks`):
    whatever the answers, every request of a whole session makes no call on the pipe or a fresh
    call on the session's own end. -/

namespace Tftp

/-- The other end of the pipe. -/
def Side.other : Side → Side
  | .writer => .reader
  | .reader => .writer

/-- The end of the pipe a session of a role holds: a sender reads what its handler writes, and a
    receiver writes what its handler reads. -/
def RoleKind.side : RoleKind → Side
  | .sender => .reader
  | .receiver => .writer

/-- The request makes no call on the pipe, or a call that begins on the end `side`: a read of
    some bytes, not waiting yet, on the reader's end, or a write on the writer's end. -/
def Request.Opens (side : Side) : Request → Prop
  | .stream (.read _ false) => side = .reader
  | .stream (.write _) => side = .writer
  | .stream _ => False
  | _ => True

namespace Program

/-- Every request the program can make, whatever the answers, satisfies `P`. -/
def Asks {α : Type} (P : Request → Prop) : Program α → Prop
  | .done _ => True
  | .ask r k => P r ∧ ∀ x, (k x).Asks P

/-- A program all of whose runs make only requests that satisfy `P` makes no other request. -/
theorem asks_of_always {α : Type} {P : Request → Prop} {post : α → List Exchange → Prop}
    (hpost : ∀ a H, post a H → ∀ e ∈ H, P e.1) :
    ∀ (p : Program α) (h : List Exchange), p.Always (fun _ => True) post h → p.Asks P
  | .done _, _, _ => trivial
  | .ask r k, h, hp => by
    refine ⟨?_, fun x => asks_of_always hpost (k x) _ (hp x trivial)⟩
    -- some run goes on after the request, and its end records the request
    obtain ⟨a, rest, -, hend⟩ := Always.exists_quiet_end (fun _ _ _ => trivial) (hp r.quiet trivial)
      trivial
    exact hpost a _ hend (r, r.quiet) (by simp)

end Program

namespace Session

variable {α : Type} {ok : List Exchange → Prop} {K : RoleKind}

/-- A session of the role `K` every call of which so far opened its own end afresh. -/
def CallsOwn (K : RoleKind) (s : Session) (h : List Exchange) : Prop :=
  s.kind = K ∧ ∀ e ∈ h, e.1.Opens K.side

theorem CallsOwn.append {s s' : Session} {h δ : List Exchange} (hc : CallsOwn K s h)
    (hk : s'.kind = s.kind) (hδ : ∀ e ∈ δ, e.1.Opens K.side) : CallsOwn K s' (h ++ δ) :=
  ⟨hk.trans hc.1, fun e he => (List.mem_append.mp he).elim (hc.2 e) (hδ e)⟩

/-! ## The shared steps -/

theorem callsOwn_ask {r : Request} (hr : r.Opens K.side) : Keeps ok (CallsOwn K) (ask r) :=
  keeps_ask fun _ _ x _ hc => hc.append rfl (by simpa using hr)

theorem callsOwn_modify {f : Session → Session} (hf : ∀ s, (f s).kind = s.kind) :
    Keeps ok (CallsOwn K) (modify f) :=
  keeps_modify fun s _ hc => ⟨(hf s).trans hc.1, hc.2⟩

theorem callsOwn_now : Keeps ok (CallsOwn K) now :=
  (callsOwn_ask (r := .now) trivial).bind fun x => by cases x <;> exact keeps_pure _

theorem callsOwn_updateStats (f : Stats → Stats) : Keeps ok (CallsOwn K) (updateStats f) :=
  callsOwn_modify (by intro; rfl)

theorem callsOwn_resetTimeout : Keeps ok (CallsOwn K) resetTimeout :=
  callsOwn_now.bind fun _ => keeps_get.bind fun _ => by
    split
    · exact callsOwn_modify (by intro; rfl)
    · exact keeps_throw _

theorem callsOwn_timeLeft : Keeps ok (CallsOwn K) timeLeft :=
  callsOwn_now.bind fun _ => keeps_get.bind fun _ => by
    split
    · exact keeps_pure _
    · exact keeps_throw _

theorem callsOwn_send (p : Draft) : Keeps ok (CallsOwn K) (send p) := by
  intro s h hc
  rw [wp_send]
  split
  · exact hc
  · intro x _
    split
    · exact hc.append rfl (by simp [Request.Opens])
    · exact hc.append rfl (by simp [Request.Opens])

theorem callsOwn_transmit (p : Draft) : Keeps ok (CallsOwn K) (transmit p) :=
  (callsOwn_send p).seq ((callsOwn_modify (by intro; rfl)).seq callsOwn_resetTimeout)

theorem callsOwn_retransmit : Keeps ok (CallsOwn K) retransmit := by
  intro s h hc
  rw [wp_retransmit]
  split
  · apply Wp.mono _ (callsOwn_send _ s h hc)
    rintro (e | _) s₁ h₁ hc₁
    · exact hc₁
    · exact callsOwn_resetTimeout _ _ ⟨hc₁.1, hc₁.2⟩
  · exact callsOwn_resetTimeout _ _ ⟨hc.1, hc.2⟩

theorem callsOwn_handleTimeout : Keeps ok (CallsOwn K) handleTimeout :=
  keeps_get.bind fun _ => Keeps.ite callsOwn_retransmit (keeps_throw _)

theorem callsOwn_receive : Keeps ok (CallsOwn K) receive := by
  intro s h hc
  apply wp_receive
  intro r s' δ hr
  -- a receive reads the clock, waits, and at most refuses a foreign source; it may pin the peer
  cases hr <;> exact hc.append (by simp [kind]) (by simp [Request.Opens])

theorem callsOwn_transmitError (f : Fault) : Keeps ok (CallsOwn K) (transmitError f) :=
  Keeps.tryCatch (callsOwn_send _) fun _ => Keeps.ite (keeps_pure _) (keeps_throw _)

theorem callsOwn_fail (f : Fault) : Keeps ok (CallsOwn K) (fail f) :=
  (callsOwn_modify (by intro; rfl)).seq
    (Keeps.ite (callsOwn_transmitError f) (keeps_pure _))

theorem callsOwn_finish : Keeps ok (CallsOwn K) finish :=
  keeps_get.bind fun s => (callsOwn_ask (r := .closeStream (s.error.map .fault)) trivial).discard.seq
    ((callsOwn_ask (r := .closeSocket) trivial).discard.seq (callsOwn_now.bind fun _ =>
      (callsOwn_modify (by intro; rfl)).seq (keeps_get.bind fun s' =>
        (callsOwn_ask (r := .report s'.stats) trivial).discard)))

/-! ## A sender -/

theorem callsOwn_sender : Keeps ok (CallsOwn K) sender :=
  keeps_get.bind fun s => by
    cases s.role <;> exact keeps_pure _

theorem callsOwn_updateSender (f : Sender → Sender) : Keeps ok (CallsOwn K) (updateSender f) :=
  callsOwn_modify fun s => by
    cases hr : s.role <;> simp [hr, kind]

theorem callsOwn_startSending : Keeps ok (CallsOwn K) startSending :=
  keeps_get.bind fun _ => Keeps.ite ((callsOwn_transmit _).seq (callsOwn_modify (by intro; rfl)))
    (callsOwn_modify (by intro; rfl))

/-- Reading a block makes fresh reads of the reader's end. -/
theorem callsOwn_gather (g : List UInt8) (fuel : Nat) :
    Keeps ok (CallsOwn .sender) (gather g fuel) := by
  induction fuel generalizing g with
  | zero => exact keeps_pure _
  | succ n ih =>
    unfold gather
    refine Keeps.ite (keeps_pure _) ((callsOwn_ask ?_).bind fun x => ?_)
    · rfl
    split
    · exact keeps_pure _
    · exact ih _
    · exact keeps_throw _
    · exact keeps_pure _

theorem callsOwn_nextBlock : Keeps ok (CallsOwn .sender) nextBlock :=
  callsOwn_sender.bind fun _ => (keeps_ofExcept _).bind fun _ =>
    (callsOwn_updateSender _).seq ((callsOwn_gather _ _).bind fun _ => callsOwn_updateSender _)

theorem callsOwn_transmitData : Keeps ok (CallsOwn K) transmitData := by
  unfold transmitData
  refine callsOwn_sender.bind fun _ => (callsOwn_transmit _).seq ((callsOwn_updateStats _).seq ?_)
  simp only []
  exact Keeps.ite ((callsOwn_updateSender _).seq (callsOwn_modify (by intro; rfl)))
    (callsOwn_modify (by intro; rfl))

theorem callsOwn_handleAck (block : Int) : Keeps ok (CallsOwn K) (handleAck block) := by
  unfold handleAck
  refine callsOwn_sender.bind fun x => ?_
  apply Keeps.ite ((keeps_ofExcept _).discard.seq (keeps_pure _))
  -- the phase a sender enters once the block in flight is acknowledged
  have hnext : Keeps ok (CallsOwn K) (if x.awaitingLastAck = true then
      modify fun s => { s with phase := some Phase.done }
    else modify fun s => { s with phase := some Phase.awaitData }) :=
    Keeps.ite (callsOwn_modify (by intro; rfl)) (callsOwn_modify (by intro; rfl))
  simp only []
  exact Keeps.ite ((callsOwn_updateStats _).seq hnext) hnext

/-- The rest of a step that waited: resend if the timer expired while still waiting. -/
theorem callsOwn_expire (ph : Phase) : Keeps ok (CallsOwn K) (do
      if (← get).phase == some ph then
        if (← timeLeft).isNonpos then handleTimeout) :=
  keeps_get.bind fun _ => Keeps.ite
    (callsOwn_timeLeft.bind fun _ => Keeps.ite callsOwn_handleTimeout (keeps_pure _))
    (keeps_pure _)

theorem callsOwn_sendOnce : Keeps ok (CallsOwn .sender) sendOnce := by
  unfold sendOnce
  refine keeps_get.bind fun _ => Keeps.ite (callsOwn_nextBlock.seq callsOwn_transmitData) ?_
  refine callsOwn_receive.bind fun r => ?_
  split
  · exact (callsOwn_handleAck _).seq (callsOwn_expire .awaitAck)
  · exact callsOwn_expire .awaitAck

/-! ## A receiver -/

theorem callsOwn_receiver : Keeps ok (CallsOwn K) receiver :=
  keeps_get.bind fun s => by
    cases s.role <;> exact keeps_pure _

theorem callsOwn_updateReceiver (f : Receiver → Receiver) :
    Keeps ok (CallsOwn K) (updateReceiver f) :=
  callsOwn_modify fun s => by
    cases hr : s.role <;> simp [hr, kind]

/-- Handing a payload to the handler makes a fresh write on the writer's end. -/
theorem callsOwn_deliver (payload : List UInt8) :
    Keeps ok (CallsOwn .receiver) (deliver payload) := by
  unfold deliver
  refine (callsOwn_ask ?_).bind fun _ => ?_
  · rfl
  split
  · exact keeps_throw _
  · exact keeps_pure _

theorem callsOwn_startReceiving : Keeps ok (CallsOwn .receiver) startReceiving := by
  unfold startReceiving
  refine keeps_get.bind fun _ => ?_
  have henter : Keeps ok (CallsOwn .receiver)
      (modify fun s => { s with phase := some Phase.awaitData }) :=
    callsOwn_modify (by intro; rfl)
  simp only []
  exact Keeps.ite ((callsOwn_transmit _).seq henter)
    ((callsOwn_deliver _).seq ((callsOwn_transmit _).seq henter))

theorem callsOwn_handleData (block : Int) (payload : List UInt8) :
    Keeps ok (CallsOwn .receiver) (handleData block payload) := by
  unfold handleData
  refine callsOwn_receiver.bind fun _ => (keeps_ofExcept _).bind fun _ => ?_
  apply Keeps.ite _ (Keeps.ite (callsOwn_send _) (keeps_ofExcept _).discard)
  refine (callsOwn_deliver _).seq ((callsOwn_updateReceiver _).seq
    ((callsOwn_updateStats _).seq ((callsOwn_transmit _).seq ?_)))
  exact Keeps.ite (callsOwn_modify (by intro; rfl)) (keeps_pure _)

theorem callsOwn_receiveOnce : Keeps ok (CallsOwn .receiver) receiveOnce := by
  unfold receiveOnce
  refine callsOwn_receive.bind fun r => ?_
  split
  · exact (callsOwn_handleData _ _).seq (callsOwn_expire .awaitData)
  · exact callsOwn_expire .awaitData

theorem callsOwn_dallyFor (fuel : Nat) : Keeps ok (CallsOwn K) (dallyFor fuel) := by
  induction fuel with
  | zero => exact keeps_pure _
  | succ n ih =>
    unfold dallyFor
    refine callsOwn_timeLeft.bind fun _ => Keeps.ite (keeps_pure _) ?_
    have hcatch : ∀ {β : Type} (b : β) (e : Failure),
        Keeps ok (CallsOwn K) (if e.isFault = true then pure b else throw e : SessionM β) :=
      fun b _ => Keeps.ite (keeps_pure b) (keeps_throw _)
    refine (Keeps.tryCatch (callsOwn_receive.map _) fun e => hcatch _ e).bind fun got => ?_
    split
    · exact keeps_pure _
    · refine callsOwn_receiver.bind fun _ => Keeps.ite ?_ ih
      exact (Keeps.tryCatch ((callsOwn_send _).seq (keeps_pure _)) fun e => hcatch _ e).bind
        fun _ => Keeps.ite (keeps_pure _) ih
    · exact ih

theorem callsOwn_dally (fuel : Nat) : Keeps ok (CallsOwn K) (dally fuel) :=
  (callsOwn_ask (r := .closeStream none) trivial).discard.seq
    (callsOwn_resetTimeout.seq (callsOwn_dallyFor fuel))

/-! ## Either role -/

/-- The role a session of the role `K` holds. -/
theorem CallsOwn.role {s : Session} {h : List Exchange} (hc : CallsOwn K s h) :
    (∃ x, s.role = .sender x ∧ K = .sender) ∨ (∃ x, s.role = .receiver x ∧ K = .receiver) := by
  rcases hrole : s.role with x | x
  · exact .inl ⟨x, rfl, by rw [← hc.1]; simp [kind, hrole]⟩
  · exact .inr ⟨x, rfl, by rw [← hc.1]; simp [kind, hrole]⟩

theorem callsOwn_start : Keeps ok (CallsOwn K) start := by
  intro s h hc
  unfold start
  rw [wp_bind, wp_get]
  rcases hc.role with ⟨x, hr, rfl⟩ | ⟨x, hr, rfl⟩ <;> simp only [hr]
  · exact callsOwn_startSending s h hc
  · exact callsOwn_startReceiving s h hc

theorem callsOwn_stepOnce : Keeps ok (CallsOwn K) stepOnce := by
  intro s h hc
  unfold stepOnce
  rw [wp_bind, wp_get]
  rcases hc.role with ⟨x, hr, rfl⟩ | ⟨x, hr, rfl⟩ <;> simp only [hr]
  · exact callsOwn_sendOnce s h hc
  · exact callsOwn_receiveOnce s h hc

theorem callsOwn_loop (fuel : Nat) : Keeps ok (CallsOwn K) (loop fuel) := by
  induction fuel with
  | zero => exact keeps_pure _
  | succ n ih => exact keeps_get.bind fun _ => Keeps.ite (keeps_pure _) (callsOwn_stepOnce.seq ih)

theorem callsOwn_close (fuel : Nat) : Keeps ok (CallsOwn K) (close fuel) := by
  unfold close
  refine keeps_get.bind fun s => ?_
  simp only []
  split
  · exact (callsOwn_dally fuel).seq callsOwn_finish
  · exact callsOwn_finish

theorem callsOwn_run (fuel : Nat) : Keeps ok (CallsOwn K) (run fuel) := by
  refine (Keeps.tryCatch ?_ fun _ => keeps_pure _).bind fun o => (callsOwn_close fuel).seq ?_
  · refine (Keeps.tryCatch (callsOwn_start.seq (callsOwn_loop fuel)) fun e => ?_).bind
      fun _ => keeps_pure _
    exact (callsOwn_fail _).seq (keeps_pure _)
  · split
    · exact keeps_pure _
    · exact keeps_throw _

end Session

namespace Setup

theorem kind_initial (st : Setup) (expiry : Number) (x₁ x₂ : Response) :
    (st.initial expiry x₁ x₂).kind = st.kind := by
  unfold initial Session.kind
  cases st.kind <;> cases st.initialBlock <;> rfl

/-- Whatever the answers, every request of a whole session makes no call on the pipe or a fresh
    call on the session's own end. -/
theorem program_asks (st : Setup) (fuel : Nat) :
    (st.program fuel).Asks (Request.Opens st.kind.side) := by
  apply @Program.asks_of_always _ _ (fun _ H => ∀ e ∈ H, e.1.Opens st.kind.side)
    (fun _ _ h => h)
  apply always_program
  · intro x _
    simp [Request.Opens]
  · intro x₀ expiry x₁ x₂ _
    refine Session.Wp.mono (fun _ _ _ hc => hc.2) (Session.callsOwn_run fuel _ _ ⟨?_, ?_⟩)
    · exact kind_initial st expiry x₁ x₂
    · simp [Request.Opens]

end Setup

end Tftp
