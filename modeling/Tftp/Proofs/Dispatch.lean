import Tftp.Simulation.Server
import Tftp.Proofs.Grammar
import Tftp.Proofs.Threads.Calls

/-! # What the server does with a datagram

    The listener answers each datagram on its own, in one of three ways, chosen by the packet the
    datagram decodes as (`Listener.Answers`):

    * a read or write request starts one transfer for the file name and mode it names, whatever
      options follow them, with the source as the peer; the listener sends nothing itself, and a
      transfer that cannot start (its socket does not bind, or its session cannot be created) is
      let go;
    * any other packet is answered with one ERROR 4, "Expected a read or write request", sent
      from the listener to the source; whether that send fails changes nothing else;
    * a datagram that does not decode changes nothing.

    A transfer pairs the request with a session and a handler on the two ends of one pipe
    (`Listener.Starts`): a read request with a sending session, which only reads its end, and the
    read handler on the writer end; a write request with a receiving session, which only writes
    its end, and the write handler on the reader end.  The handler's end is closed when the
    handler is over: cleanly when it ran out of operations, with the error it raised otherwise
    (`Script.finishing_step`).

    Main statement: `Listener.answer_dispatches`. -/

namespace Tftp

namespace Server

/-- The role that serves a packet, with the file name and mode, when the packet is a request: a
    read request is served by a sender, a write request by a receiver. -/
def requestOf : Packet → Option (RoleKind × String × String)
  | .rrq filename mode => some (.sender, filename, mode)
  | .wrq filename mode => some (.receiver, filename, mode)
  | _ => none

/-- The refusal is always written, and reads back as ERROR 4 with its message. -/
theorem refusal_reads_back :
    ∃ reply, refusal.encode = .ok reply ∧
      Packet.decode reply = .ok (.error ErrorCode.illegalOperation
        "Expected a read or write request") := by
  have htext : ∃ text, refusal.encode = .ok ([0, 5, 0, 4] ++ text ++ [0]) ∧
      (0 : UInt8) ∉ text ∧ Text.decodeLatin1 text = "Expected a read or write request" :=
    ⟨_, rfl, by decide, by decide⟩
  obtain ⟨text, henc, hnul, hmsg⟩ := htext
  refine ⟨_, henc, Packet.decode_complete ?_⟩
  have hreads := @Packet.Reads.error 0 5 0 4 text [] rfl hnul
  have hcode : ((wordValue 0 4 : Nat) : Int) = ErrorCode.illegalOperation := rfl
  rw [hmsg, hcode] at hreads
  simpa using hreads

/-- The listener's choice follows the packet: a request is served by the role it asks for, any
    other packet is refused, and a datagram that is no packet is ignored. -/
theorem dispatch_of_decode {d : List UInt8} :
    (∀ m, Packet.decode d = .error m → dispatch d = .ignore) ∧
    (∀ p kind filename mode, Packet.decode d = .ok p → requestOf p = some (kind, filename, mode) →
      dispatch d = .serve kind filename mode) ∧
    (∀ p reply, Packet.decode d = .ok p → requestOf p = none → refusal.encode = .ok reply →
      dispatch d = .refuse reply) := by
  refine ⟨fun m hd => by simp [dispatch, hd], fun p kind filename mode hd hp => ?_,
    fun p reply hd hp henc => ?_⟩
  · cases p <;> simp only [requestOf, reduceCtorEq, Option.some.injEq, Prod.mk.injEq] at hp
    · obtain ⟨rfl, rfl, rfl⟩ := hp
      simp [dispatch, hd]
    · obtain ⟨rfl, rfl, rfl⟩ := hp
      simp [dispatch, hd]
  · cases p <;> simp only [requestOf, reduceCtorEq] at hp <;> simp [dispatch, hd, henc]

end Server

/-- A read request's transfer has its handler on the writer end, a write request's on the reader
    end: the end the session does not call. -/
@[simp] theorem Transfer.handlerSide_eq (kind : RoleKind) :
    Transfer.handlerSide kind = kind.side.other := by
  cases kind <;> rfl

namespace Handlers

variable (h : Handlers)

/-- A read request goes to the read handler, and to a handler that refuses it when none is
    configured. -/
@[simp] theorem pick_sender : h.pick .sender = (h.onRead.getD (Server.refusingHandler .sender), h.onRead.isSome) := by
  unfold pick
  cases h.onRead <;> rfl

/-- A write request goes to the write handler, and to a handler that refuses it when none is
    configured. -/
@[simp] theorem pick_receiver : h.pick .receiver = (h.onWrite.getD (Server.refusingHandler .receiver), h.onWrite.isSome) := by
  unfold pick
  cases h.onWrite <;> rfl

end Handlers

namespace Listener

/-- The transfer served for a request: the session of the request's role, set up as a server for
    its file name and mode with the requester as its peer, run against a socket that follows
    `events` and fails the sends at `failing`, with the handler for the role on the other end of
    the pipe. -/
def Serves (handlers : Handlers) (policy : RetryPolicy) (localAddress : Address) (clock : Number)
    (sv : Served) : Prop :=
  sv.handlerCalled = (handlers.pick sv.kind).2 ∧
  ∃ events failing, Transfer.run (Server.setup sv.kind sv.filename sv.mode sv.peer policy)
    (World.fresh clock events failing (some localAddress) sv.peer
      (Script.start sv.kind.side.other (handlers.pick sv.kind).1)) = .ok sv.transfer

/-- What starting the transfer of a request does: it spends one socket script, and serves the
    request when the socket binds and the session can be created; otherwise nothing starts. -/
def Starts (handlers : Handlers) (policy : RetryPolicy) (localAddress : Address)
    (clock : Number) (kind : RoleKind) (filename mode : String) (peer : Address) (l : Listener) :
    Option Served × Listener → Prop
  | (some sv, l') => l' = { l with sockets := l.sockets.tail } ∧
      sv.kind = kind ∧ sv.filename = filename ∧ sv.mode = mode ∧ sv.peer = peer ∧
      Serves handlers policy localAddress clock sv
  | (none, l') => l' = { l with sockets := l.sockets.tail } ∧
      ((∃ reason, l.sockets.head? = some (.unbound reason)) ∨
        ∃ events failing e, l.sockets.head?.getD (.scripted [] []) = .scripted events failing ∧
          Transfer.run (Server.setup kind filename mode peer policy)
            (World.fresh clock events failing (some localAddress) peer
              (Script.start kind.side.other (handlers.pick kind).1)) = .error e)

variable (l : Listener) (handlers : Handlers) (policy : RetryPolicy) (localAddress : Address)
  (clock : Number)

/-- Starting a transfer does what `Starts` says. -/
theorem start_starts (kind : RoleKind) (filename mode : String) (peer : Address) :
    Starts handlers policy localAddress clock kind filename mode peer l
      (l.start handlers policy localAddress clock kind filename mode peer) := by
  unfold start
  cases hs : l.sockets with
  | nil =>
    -- no script is left for the socket: it binds, and no datagram ever comes
    dsimp only
    split
    · next t hrun =>
      rw [Transfer.handlerSide_eq] at hrun
      exact ⟨by simp [hs], rfl, rfl, rfl, rfl, rfl, [], [], hrun⟩
    · next e hrun =>
      rw [Transfer.handlerSide_eq] at hrun
      exact ⟨by simp [hs], .inr ⟨[], [], e, by simp [hs], hrun⟩⟩
  | cons script rest =>
    cases script with
    | unbound reason => exact ⟨by simp [hs], .inl ⟨reason, by simp [hs]⟩⟩
    | scripted events failing =>
      dsimp only
      split
      · next t hrun =>
        rw [Transfer.handlerSide_eq] at hrun
        exact ⟨by simp [hs], rfl, rfl, rfl, rfl, rfl, events, failing, hrun⟩
      · next e hrun =>
        rw [Transfer.handlerSide_eq] at hrun
        exact ⟨by simp [hs], .inr ⟨events, failing, e, by simp [hs], hrun⟩⟩

/-- What answering the datagram `d` from `source` does to the listener `l`, by the packet `d`
    decodes as: nothing for a datagram that is no packet; for a request, the start of one
    transfer for the role, file name and mode it asks for, and no send of its own; for any other
    packet, one send of ERROR 4 to the source, which fails at the listener's failing positions, and
    nothing else. -/
def Answers (start : RoleKind → String → String → Option Served × Listener) (d : List UInt8)
    (source : Address) : Reception × Listener → Prop
  | (r, l') =>
    match Packet.decode d with
    | .error _ => r.listenerSent = [] ∧ r.session = none ∧ l' = l
    | .ok p =>
      match Server.requestOf p with
      | some (kind, filename, mode) => r.listenerSent = [] ∧ (r.session, l') = start kind filename mode
      | none =>
        (∃ reply, Packet.decode reply = .ok (.error ErrorCode.illegalOperation
            "Expected a read or write request") ∧
          r.listenerSent = [.sent reply source (l.failingSends.contains l.sends)]) ∧
        r.session = none ∧ l' = { l with sends := l.sends + 1 }

/-- Answering a datagram does what `Answers` says. -/
theorem answer_answers (d : List UInt8) (source : Address) :
    Answers l (fun kind filename mode =>
        l.start handlers policy localAddress clock kind filename mode source) d source
      (l.answer handlers policy localAddress clock d source) := by
  obtain ⟨hignore, hserve, hrefuse⟩ := Server.dispatch_of_decode (d := d)
  obtain ⟨reply, henc, hreply⟩ := Server.refusal_reads_back
  unfold Answers
  cases hd : Packet.decode d with
  | error m =>
    simp [answer, hignore m hd]
  | ok p =>
    dsimp only
    cases hp : Server.requestOf p with
    | some req =>
      obtain ⟨kind, filename, mode⟩ := req
      simp [answer, hserve p kind filename mode hd hp]
    | none =>
      simp only [answer, hrefuse p reply hd hp henc]
      exact ⟨⟨reply, hreply, rfl⟩, trivial, trivial⟩

/-- The answer depends on the datagram only through the packet it decodes as. -/
theorem answer_eq_of_decode {d d' : List UInt8} (h : Packet.decode d = Packet.decode d')
    (source : Address) :
    l.answer handlers policy localAddress clock d source =
      l.answer handlers policy localAddress clock d' source := by
  simp only [answer, Server.dispatch, h]

/-- Options after the mode of a request change nothing: the request is answered as the same
    request without them. -/
theorem answer_ignores_options {hi lo : UInt8} {f m : List UInt8}
    (hop : wordValue hi lo = 1 ∨ wordValue hi lo = 2) (hf : (0 : UInt8) ∉ f) (hm : (0 : UInt8) ∉ m)
    (rest : List UInt8) (source : Address) :
    l.answer handlers policy localAddress clock (hi :: lo :: (f ++ 0 :: (m ++ 0 :: rest))) source =
      l.answer handlers policy localAddress clock (hi :: lo :: (f ++ 0 :: (m ++ [0]))) source := by
  apply answer_eq_of_decode
  rcases hop with hop | hop
  · rw [Packet.decode_complete (.rrq rest hop hf hm), Packet.decode_complete (.rrq [] hop hf hm)]
  · rw [Packet.decode_complete (.wrq rest hop hf hm), Packet.decode_complete (.wrq [] hop hf hm)]

end Listener

namespace Script

theorem afterCall_finished (s : Script) (r : CallStep) : (s.afterCall r).1.finished = s.finished := by
  cases r <;> rfl

/-- Every operation but one that raises leaves a script as finished as it was. -/
theorem begin_finished (s : Script) {op : Op} (hop : ∀ e, op ≠ .raise e) (q : Pipe) :
    (s.begin op q).1.finished = s.finished := by
  cases op with
  | write d => cases hs : s.side <;> simp [begin, hs, afterCall_finished, record]
  | read size =>
    cases hs : s.side with
    | writer => simp [begin, hs, record]
    | reader =>
      rcases begin_read s hs size with ⟨c, -, -, -, hq⟩ | ⟨o, -, hq⟩
      · rw [hq q, afterCall_finished]
      · rw [hq q]
        rfl
  | close | closeWithError _ | isClosed => rfl
  | raise e => exact absurd rfl (hop e)

/-- The step that finishes a script is the one after its last operation, which closes its end
    cleanly, or an operation that raises, which closes its end with that error. -/
theorem finishing_step {s s' : Script} {p p' : Pipe} (h : s.step p = some (s', p'))
    (hfin : s'.finished = true) :
    s.call = none ∧
      ((s.ops = [] ∧ p' = s.closeOwn none p ∧ s'.results = s.results) ∨
        ∃ e rest, s.ops = .raise e :: rest ∧ p' = s.closeOwn (some e) p ∧
          s'.results = s.results ++ [.raised e]) := by
  have hf := finished_eq_false_of_step h
  cases hc : s.call with
  | some c =>
    -- a pass of a call keeps the script going
    have hen : c.enabled p = true := by
      cases hen : c.enabled p
      · simp [step, hf, hc, hen] at h
      · rfl
    rw [step_of_call hf hc hen, Option.some.injEq] at h
    have hgoing : s'.finished = s.finished := by rw [← afterCall_finished s (c.step p), h]
    rw [hgoing, hf] at hfin
    cases hfin
  | none =>
    refine ⟨rfl, ?_⟩
    cases hops : s.ops with
    | nil =>
      rw [step_of_finish hf hc hops, Option.some.injEq, Prod.mk.injEq] at h
      obtain ⟨rfl, rfl⟩ := h
      exact .inl ⟨rfl, rfl, rfl⟩
    | cons op rest =>
      rw [step_of_begin hf hc hops, Option.some.injEq] at h
      by_cases hraise : ∃ e, op = .raise e
      · obtain ⟨e, rfl⟩ := hraise
        simp only [begin, Prod.mk.injEq] at h
        obtain ⟨rfl, rfl⟩ := h
        exact .inr ⟨e, rest, rfl, rfl, rfl⟩
      · -- any other operation keeps the script going
        have hgoing : s'.finished = s.finished := by
          rw [← begin_finished { s with ops := rest } (fun e he => hraise ⟨e, he⟩) p, h]
        rw [hgoing, hf] at hfin
        cases hfin

end Script

namespace Listener

/-- **Server dispatch.**  For every datagram from every source, whatever state the listener is
    in, answering it does what `Answers` says: it starts exactly one transfer for a request, for
    the file name and mode the request names, and nothing else; it sends exactly one ERROR 4,
    "Expected a read or write request", to the source for any other packet, and does nothing
    else whether that send fails or not; and it does nothing at all for a datagram that is no
    packet.  Options after a request's mode change nothing.  Starting a transfer spends one
    socket and runs the session of the request's role as a server for its file name and mode
    with the requester as its peer, against the handler for that role on the other end of the
    pipe, or starts nothing when the socket does not bind or the session cannot be created; the
    session calls only its own end, so a sender reads the pipe the read handler writes and a
    receiver writes the pipe the write handler reads.  A handler's end is closed by the step
    that finishes it: cleanly when it ran out of operations, with the error it raised
    otherwise. -/
theorem answer_dispatches :
    (∀ (l : Listener) (handlers : Handlers) (policy : RetryPolicy) (localAddress : Address)
        (clock : Number) (d : List UInt8) (source : Address),
      Answers l (fun kind filename mode =>
          l.start handlers policy localAddress clock kind filename mode source) d source
        (l.answer handlers policy localAddress clock d source)) ∧
    (∀ (l : Listener) (handlers : Handlers) (policy : RetryPolicy) (localAddress : Address)
        (clock : Number) (hi lo : UInt8) (f m rest : List UInt8) (source : Address),
      (wordValue hi lo = 1 ∨ wordValue hi lo = 2) → (0 : UInt8) ∉ f → (0 : UInt8) ∉ m →
      l.answer handlers policy localAddress clock (hi :: lo :: (f ++ 0 :: (m ++ 0 :: rest)))
          source =
        l.answer handlers policy localAddress clock (hi :: lo :: (f ++ 0 :: (m ++ [0]))) source) ∧
    (∀ (l : Listener) (handlers : Handlers) (policy : RetryPolicy) (localAddress : Address)
        (clock : Number) (kind : RoleKind) (filename mode : String) (peer : Address),
      Starts handlers policy localAddress clock kind filename mode peer l
        (l.start handlers policy localAddress clock kind filename mode peer) ∧
      ∀ fuel, ((Server.setup kind filename mode peer policy).program fuel).Asks
        (Request.Opens kind.side)) ∧
    (∀ (s s' : Script) (p p' : Pipe), s.step p = some (s', p') → s'.finished = true →
      s.call = none ∧
        ((s.ops = [] ∧ p' = s.closeOwn none p ∧ s'.results = s.results) ∨
          ∃ e rest, s.ops = .raise e :: rest ∧ p' = s.closeOwn (some e) p ∧
            s'.results = s.results ++ [.raised e])) :=
  ⟨fun l handlers policy localAddress clock d source =>
      answer_answers l handlers policy localAddress clock d source,
    fun l handlers policy localAddress clock _ _ _ _ rest source hop hf hm =>
      answer_ignores_options l handlers policy localAddress clock hop hf hm rest source,
    fun l handlers policy localAddress clock kind filename mode peer =>
      ⟨start_starts l handlers policy localAddress clock kind filename mode peer,
        fun fuel => Setup.program_asks (Server.setup kind filename mode peer policy) fuel⟩,
    fun _ _ _ _ h hfin => Script.finishing_step h hfin⟩

/-- A read request with an option after its mode is answered as the bare request, and a server
    with no read handler refuses it: the refusing handler's only step raises and closes the writer
    end with that error. -/
theorem unsupported_read_closes_with_its_error :
    (wordValue 0 1 = 1 ∨ wordValue 0 1 = 2) ∧ (0 : UInt8) ∉ [102] ∧ (0 : UInt8) ∉ [111] ∧
    (default : Listener).answer default default default 0 [0, 1, 102, 0, 111, 0, 98, 0, 49, 0]
        default = (default : Listener).answer default default default 0 [0, 1, 102, 0, 111, 0]
          default ∧
    ∃ s' p', (Script.start .writer (Server.refusingHandler .sender)).step Pipe.fresh = some (s', p') ∧
      s'.finished = true ∧
      (Script.start .writer (Server.refusingHandler .sender)).call = none ∧
      (((Script.start .writer (Server.refusingHandler .sender)).ops = [] ∧
          p' = (Script.start .writer (Server.refusingHandler .sender)).closeOwn none Pipe.fresh ∧
          s'.results = (Script.start .writer (Server.refusingHandler .sender)).results) ∨
        ∃ e rest, (Script.start .writer (Server.refusingHandler .sender)).ops = .raise e :: rest ∧
          p' = (Script.start .writer (Server.refusingHandler .sender)).closeOwn (some e) Pipe.fresh ∧
          s'.results = (Script.start .writer (Server.refusingHandler .sender)).results ++
            [.raised e]) :=
  ⟨.inl rfl, by decide, by decide,
    answer_dispatches.2.1 default default default default 0 0 1 [102] [111] [98, 0, 49, 0] default
      (.inl rfl) (by decide) (by decide),
    _, _, rfl, rfl, answer_dispatches.2.2.2 _ _ _ _ rfl rfl⟩

end Listener

end Tftp
