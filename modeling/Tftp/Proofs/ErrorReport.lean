import Tftp.Proofs.Pinning

/-! # Only a handler's failure is reported to the peer

    A session fails with a fault of its handler exactly when a call on its own end of the pipe
    raised: a sender's read of a block, or a receiver's write of a payload, of the empty
    handshake or of the empty last block.  The fault carries the error's text, or the name of
    its class when the text is empty, and the error's code.  The session then sends its peer an
    ERROR with that code and that text as the wire gives it back (`Text.readBack`), right after
    the call and as its last datagram, when the code is a word; with any other code it sends
    nothing more.  No other failure is reported, and every other ERROR the session sends refuses
    a foreign source.

    On an end of the pipe that is open, a call raises only when the other end was closed: a read
    of some bytes when nothing is pending and the writer end was closed with that very error, a
    write when the reader end was closed, in any way, before all its bytes were taken.

    `Session.Clean` is what holds until the session fails.  A `Steady` step keeps it whichever
    way it ends and raises no fault of the handler; a step that `Tracks` keeps it or raises, and
    raises a fault of the handler only as the failure of the pipe call it made last.  Main
    statement (`Setup.handler_failures_reported`): every run of a whole session either had no
    pipe call raise, did not fail with a fault of its handler and sent its peer no ERROR, or had
    exactly one call of its own raise and reported it as above. -/

namespace Tftp

/-! ## ERROR datagrams -/

/-- The datagram opens with the opcode of an ERROR. -/
def opensError : List UInt8 → Bool
  | 0 :: 5 :: _ => true
  | _ => false

/-- The draft is an ERROR. -/
def Draft.isError : Draft → Bool
  | .error _ _ => true
  | _ => false

namespace Draft

/-- A draft is written as a datagram that opens with the ERROR opcode just when it is an ERROR. -/
theorem opensError_encode {d : Draft} {bytes : List UInt8} (h : d.encode = .ok bytes) :
    opensError bytes = d.isError := by
  cases d with
  | rrq f m =>
    obtain ⟨rest, rfl⟩ := request_encode_prefix h
    rfl
  | wrq f m =>
    obtain ⟨rest, rfl⟩ := request_encode_prefix h
    rfl
  | data b p =>
    simp only [encode, bind, Except.bind] at h
    split at h
    · cases h
    · split at h
      · cases h
      · split at h
        · cases h
        · cases h
          rfl
  | ack b =>
    simp only [encode, bind, Except.bind] at h
    split at h
    · cases h
    · split at h
      · cases h
      · cases h
        rfl
  | error c m =>
    obtain ⟨rest, rfl⟩ := error_encode_prefix h
    rfl
  | other v => cases h

/-- An ERROR is written only when its code is a number that is a whole word. -/
theorem error_encode_code {code message : Value} {bytes : List UInt8}
    (h : (Draft.error code message).encode = .ok bytes) :
    ∃ n, code.toNumber? = some (.int n) ∧ FitsWord n := by
  simp only [encode, checkField] at h
  cases hn : code.toNumber? with
  | none => simp [hn, bind, Except.bind] at h
  | some n =>
    cases n with
    | float x =>
      by_cases hx : 0 ≤ x ∧ x ≤ 65535 <;> simp [hn, hx, bind, Except.bind, wholeField] at h
    | int i =>
      by_cases hfit : FitsWord i
      · exact ⟨i, rfl, hfit⟩
      · have hout : decide (0 ≤ i ∧ i ≤ maxBlockNumber) = false := decide_eq_false hfit
        simp [hn, hout, bind, Except.bind] at h

/-- An ERROR whose code is a number that is a whole word is written as the ERROR of that
    integer. -/
theorem error_encode_of_toNumber {code message : Value} {n : Int}
    (hn : code.toNumber? = some (.int n)) (hfit : FitsWord n) :
    (Draft.error code message).encode = (Draft.error (.int n) message).encode := by
  have hfit' : decide (0 ≤ n ∧ n ≤ maxBlockNumber) = true := decide_eq_true hfit
  simp only [encode, checkField, hn]
  simp only [Value.toNumber?, hfit', if_true]

end Draft

namespace Failure

theorem toHandlerFault_code (X : Failure) : X.toHandlerFault.code = X.errorCode := rfl

/-- The message of a handler's fault: the failure's text, or the name of its class when the
    text is empty. -/
theorem toHandlerFault_message (X : Failure) :
    X.toHandlerFault.message = .str (if X.text.isEmpty then Text.ofString X.name else X.text) :=
  rfl

/-- The ERROR that reports a handler's failure `X` is written just when its code is a word, and
    it reads back with that code and the fault's message as the wire gives it back. -/
theorem report_encode (X : Failure) :
    (∀ bytes, (Draft.error X.toHandlerFault.code X.toHandlerFault.message).encode = .ok bytes →
      ∃ n m, X.errorCode.toNumber? = some (.int n) ∧ FitsWord n ∧
        Packet.decode bytes = .ok (.error n m) ∧
        Text.ofString m = (if X.text.isEmpty then Text.ofString X.name else X.text).readBack) ∧
    (∀ n, X.errorCode.toNumber? = some (.int n) → FitsWord n →
      ∃ bytes, (Draft.error X.toHandlerFault.code X.toHandlerFault.message).encode = .ok bytes) := by
  rw [toHandlerFault_code, toHandlerFault_message]
  refine ⟨fun bytes h => ?_, fun n hn hfit => ?_⟩
  · obtain ⟨n, hn, hfit⟩ := Draft.error_encode_code h
    rw [Draft.error_encode_of_toNumber hn hfit] at h
    obtain ⟨m, hdec, hm⟩ := (error_round_trip n _).2.2 bytes h
    exact ⟨n, m, hn, hfit, hdec, hm⟩
  · rw [Draft.error_encode_of_toNumber hn hfit]
    exact (error_round_trip n _).1.mpr hfit

/-- A failure that is no fault is no failure of a handler. -/
theorem toFault_kind_of_isFault {e : Failure} (he : e.isFault = false) :
    e.toFault.kind ≠ .handlerFailure := by
  rw [toFault_kind_of_host he]
  decide

end Failure

/-! ## Calls that raised -/

namespace Call

/-- A read of some bytes on an open reader end raises just when nothing is pending and the writer
    end was closed with that very error. -/
theorem read_raises_iff {k : Nat} {w : Bool} {p : Pipe} {X : Failure} (hr : p.reader = .open) :
    (∃ p', (Call.read (.upTo k) w).step p = .returns (.error X) p') ↔
      p.pending = [] ∧ p.writer = .closed (some X) := by
  simp only [step, wake_reader, hr, wake_pending, wake_writer]
  cases hp : p.pending with
  | cons b bs => simp
  | nil =>
    rcases hw : p.writer with _ | _ | e <;> simp

/-- The calls of a write in progress: not begun, draining its bytes, or waiting for a read. -/
def Writing : Call → Prop
  | .write _ | .drain _ | .awaitRead => True
  | _ => False

/-- A write on an open writer end raises just when the reader end was closed, in any way, before
    the write's bytes were all taken: with the reader's error, or as a broken pipe. -/
theorem write_raises_iff {c : Call} {p : Pipe} {X : Failure} (hc : c.Writing)
    (hw : p.writer = .open) :
    (∃ p', c.step p = .returns (.error X) p') ↔
      (∃ e, p.reader = .closed e ∧ X = e.getD .brokenPipe) ∧ ∀ n, c = .drain n → p.pending ≠ [] := by
  -- with the writer end open, the reader end alone decides whether a write may go on
  have hopen : p.reader = .open → p.unwritable = none := fun hr => by
    simp [Pipe.unwritable, hw, hr]
  have hclosed : ∀ e, p.reader = .closed e → p.unwritable = some (e.getD .brokenPipe) := by
    intro e hr
    rcases e with _ | e <;> simp [Pipe.unwritable, hw, hr]
  cases c with
  | write data =>
    simp only [step]
    rcases hr : p.reader with _ | e
    · simp only [hopen hr, reduceCtorEq, false_and, exists_false, iff_false]
      split
      · split <;> simp
      · simp
    · simp [hclosed e hr, eq_comm]
  | drain n =>
    simp only [step]
    rcases hr : p.reader with _ | e
    · simp only [hw, EndState.isClosed, Bool.or_self, Bool.false_eq_true, if_false,
        reduceCtorEq, false_and, exists_false, iff_false]
      split <;> simp
    · simp only [hw, EndState.isClosed, Bool.true_or, if_true, Pipe.unwritable]
      rcases e with _ | e <;> cases hp : p.pending <;> simp [eq_comm]
  | awaitRead =>
    simp only [step]
    rcases hr : p.reader with _ | e
    · simp only [hopen hr, reduceCtorEq, false_and, exists_false, iff_false]
      split <;> simp
    · simp [hclosed e hr, eq_comm]
  | _ => exact hc.elim

end Call

/-- The calls a session of the role makes on its end of the pipe: a sender reads some bytes, a
    receiver writes, each call afresh. -/
def RoleKind.Calls : RoleKind → Call → Prop
  | .sender, c => ∃ k, 0 < k ∧ c = .read (.upTo k) false
  | .receiver, c => ∃ data, c = .write data

/-- A call that some role makes, on the end of the pipe that a session of the role `K` opens, is
    one of `K`'s. -/
theorem RoleKind.calls_of_opens {K K' : RoleKind} {c : Call} (hc : K'.Calls c)
    (ho : (Request.stream c).Opens K.side) : K.Calls c := by
  cases K' <;> cases K
  · exact hc
  · obtain ⟨k, -, rfl⟩ := hc
    simp [Request.Opens, RoleKind.side] at ho
  · obtain ⟨data, rfl⟩ := hc
    simp [Request.Opens, RoleKind.side] at ho
  · exact hc

namespace Exchange

/-- The ERROR datagram the exchange sent to `a`. -/
def errorTo? (a : Address) : Exchange → Option (List UInt8)
  | (.send bytes target, _) => if opensError bytes = true ∧ target = a then some bytes else none
  | _ => none

/-- The call the exchange made on the pipe, and the failure it raised. -/
def callFailure? : Exchange → Option (Call × Failure)
  | (.stream c, .streamed (.error X)) => some (c, X)
  | _ => none

/-- An exchange sends no ERROR to `a` when every ERROR it sends goes elsewhere. -/
theorem errorTo?_eq_none {y : Exchange} {a : Address}
    (hy : ∀ bytes target, y.sent? = some (bytes, target) → opensError bytes = true → target ≠ a) :
    y.errorTo? a = none := by
  obtain ⟨r, x⟩ := y
  cases r with
  | send bytes target =>
    simp only [errorTo?]
    split
    · next h => exact absurd h.2 (hy bytes target rfl h.1)
    · rfl
  | _ => rfl

end Exchange

namespace Session

/-! ## Before the session fails -/

/-- What holds until the session fails: no fault, no call on the pipe that raised, a draft to
    resend that is no ERROR, and every ERROR sent so far went, with the peer pinned, to a source
    other than the peer. -/
structure Clean (s : Session) (h : List Exchange) : Prop where
  error : s.error = none
  calls : ∀ y ∈ h, y.callFailure? = none
  resend : ∀ p, s.lastPacket = some p → p.isError = false
  refusals : ∀ y ∈ h, ∀ bytes target, y.sent? = some (bytes, target) → opensError bytes = true →
    s.pinned = true ∧ target ≠ s.peer

namespace Clean

variable {s s' : Session} {h : List Exchange}

/-- One more exchange that raised no call, and sends an ERROR, if any, to a foreign source. -/
theorem push (hc : Clean s h) {y : Exchange} (hy : y.callFailure? = none)
    (hs : ∀ bytes target, y.sent? = some (bytes, target) → opensError bytes = true →
      s.pinned = true ∧ target ≠ s.peer) : Clean s (h ++ [y]) where
  error := hc.error
  calls := fun y' hy' => (List.mem_append.mp hy').elim (hc.calls y') fun hy' => by
    rw [List.mem_singleton.mp hy']
    exact hy
  resend := hc.resend
  refusals := fun y' hy' => (List.mem_append.mp hy').elim (hc.refusals y') fun hy' => by
    rw [List.mem_singleton.mp hy']
    exact hs

/-- A request that neither sends nor calls the pipe. -/
theorem quiet (hc : Clean s h) {r : Request} (hs : ∀ bytes target, r ≠ .send bytes target)
    (hcall : ∀ c, r ≠ .stream c) (x : Response) : Clean s (h ++ [(r, x)]) := by
  refine hc.push ?_ fun bytes target hsent => absurd ?_ (hs bytes target)
  · cases r with
    | stream c => exact absurd rfl (hcall c)
    | _ => rfl
  · cases r <;> simp_all [Exchange.sent?]

/-- A datagram sent that is no ERROR. -/
theorem send (hc : Clean s h) {bytes : List UInt8} (hb : opensError bytes = false)
    (target : Address) (x : Response) : Clean s (h ++ [(.send bytes target, x)]) :=
  hc.push rfl fun _ _ hsent he => by
    simp only [Exchange.sent?, Option.some.injEq, Prod.mk.injEq] at hsent
    rw [← hsent.1, hb] at he
    cases he

/-- A change of the session that keeps its fault, its draft to resend and its pinned peer. -/
theorem congr (hc : Clean s h) (herr : s'.error = s.error) (hlast : s'.lastPacket = s.lastPacket)
    (hpin : s'.pinned = s.pinned) (hpeer : s'.peer = s.peer) : Clean s' h where
  error := herr.trans hc.error
  calls := hc.calls
  resend := fun p hp => hc.resend p (hlast ▸ hp)
  refusals := fun y hy bytes target hsent he => by
    rw [hpin, hpeer]
    exact hc.refusals y hy bytes target hsent he

/-- Pinning the peer: a session not pinned yet sent no ERROR. -/
theorem pinTo (hc : Clean s h) (source : Address) : Clean (s.pinTo source) h := by
  by_cases hpin : s.pinned
  · rwa [show s.pinTo source = s by simp [Session.pinTo, hpin]]
  · have herr : (s.pinTo source).error = s.error := by
      unfold Session.pinTo
      split <;> rfl
    exact {
      error := herr.trans hc.error
      calls := hc.calls
      resend := fun p hp => hc.resend p (by simpa using hp)
      refusals := fun y hy bytes target hsent he =>
        absurd (hc.refusals y hy bytes target hsent he).1 hpin }

end Clean

variable {α β : Type} {ok : List Exchange → Prop}

/-- A step that keeps `Clean` whichever way it ends, and raises no fault of the handler. -/
structure Steady (ok : List Exchange → Prop) (m : SessionM α) : Prop where
  keeps : Keeps ok Clean m
  raises : RaisesOnly ok (fun e => e.toFault.kind ≠ .handlerFailure) m

/-- How a step before the session fails ends: keeping `Clean`, raising some other failure with
    `Clean` kept, or raising the fault of the handler for the call on the pipe that the step made
    last, after exchanges that kept `Clean`. -/
def Settled : Except Failure α → Session → List Exchange → Prop
  | .ok _, s, h => Clean s h
  | .error e, s, h => (e.toFault.kind ≠ .handlerFailure ∧ Clean s h) ∨
      ∃ A c X, h = A ++ [(.stream c, .streamed (.error X))] ∧ (∃ K : RoleKind, K.Calls c) ∧
        e = handlerFailure X ∧ Clean s A

/-- Every run of the step `m` from a state that is `Clean` ends as `Settled` says. -/
def Tracks (ok : List Exchange → Prop) (m : SessionM α) : Prop :=
  ∀ s h, Clean s h → Wp ok m (fun r s' h' => Settled r s' h') s h

section Closure

variable {m : SessionM α} {f : α → SessionM β}

theorem steady_pure (a : α) : Steady ok (pure a) := ⟨keeps_pure a, raisesOnly_pure a⟩

theorem steady_get : Steady ok get := ⟨keeps_get, raisesOnly_get⟩

theorem steady_throw {e : Failure} (he : e.toFault.kind ≠ .handlerFailure) :
    Steady ok (throw e : SessionM α) :=
  ⟨keeps_throw e, raisesOnly_throw he⟩

theorem steady_ofExcept {x : Except Failure α} (hx : ∀ e, x = .error e → e.isFault = false) :
    Steady ok (MonadExcept.ofExcept x) := by
  cases x with
  | error e => exact steady_throw (Failure.toFault_kind_of_isFault (hx e rfl))
  | ok a => exact steady_pure a

theorem steady_modify {f : Session → Session} (hf : ∀ s h, Clean s h → Clean (f s) h) :
    Steady ok (modify f) :=
  ⟨keeps_modify hf, fun _ _ _ he => by cases he⟩

/-- A change of the session that keeps its fault, its draft to resend and its pinned peer. -/
theorem steady_modify_frame {f : Session → Session}
    (hf : ∀ s, (f s).error = s.error ∧ (f s).lastPacket = s.lastPacket ∧
      (f s).pinned = s.pinned ∧ (f s).peer = s.peer) :
    Steady ok (modify f) :=
  steady_modify fun s _ hc => hc.congr (hf s).1 (hf s).2.1 (hf s).2.2.1 (hf s).2.2.2

theorem steady_ask {r : Request} (hr : ∀ s h x, Clean s h → Clean s (h ++ [(r, x)])) :
    Steady ok (ask r) :=
  ⟨keeps_ask fun s h x _ hc => hr s h x hc, fun _ _ => by
    rw [wp_ask]
    intro _ _ _ he
    cases he⟩

theorem Steady.bind (hm : Steady ok m) (hf : ∀ a, Steady ok (f a)) : Steady ok (m >>= f) :=
  ⟨hm.keeps.bind fun a => (hf a).keeps, hm.raises.bind fun a => (hf a).raises⟩

theorem Steady.seq {m' : SessionM β} (hm : Steady ok m) (hm' : Steady ok m') :
    Steady ok (m >>= fun _ => m') :=
  hm.bind fun _ => hm'

theorem Steady.ite {c : Prop} [Decidable c] {a b : SessionM α} (ha : Steady ok a)
    (hb : Steady ok b) : Steady ok (if c then a else b) := by
  split
  · exact ha
  · exact hb

theorem Steady.discard (hm : Steady ok m) : Steady ok (discard m) :=
  hm.seq (steady_pure _)

theorem Steady.map (g : α → β) (hm : Steady ok m) : Steady ok (g <$> m) :=
  hm.bind fun a => steady_pure (g a)

theorem Steady.tryCatch {handler : Failure → SessionM α} (hm : Steady ok m)
    (hh : ∀ e, Steady ok (handler e)) : Steady ok (tryCatch m handler) :=
  ⟨hm.keeps.tryCatch fun e => (hh e).keeps, RaisesOnly.tryCatch fun e => (hh e).raises⟩

theorem Steady.tracks (hm : Steady ok m) : Tracks ok m := fun s h hc =>
  Wp.mono (fun r _ _ ⟨hc', hr⟩ => by
    cases r with
    | ok _ => exact hc'
    | error e => exact .inl ⟨hr e rfl, hc'⟩) (Wp.and (hm.keeps s h hc) (hm.raises s h))

theorem Tracks.bind (hm : Tracks ok m) (hf : ∀ a, Tracks ok (f a)) : Tracks ok (m >>= f) := by
  intro s h hc
  rw [wp_bind]
  apply Wp.mono _ (hm s h hc)
  rintro (e | a) s' h' hend
  · exact hend
  · exact hf a s' h' hend

theorem Tracks.seq {m' : SessionM β} (hm : Tracks ok m) (hm' : Tracks ok m') :
    Tracks ok (m >>= fun _ => m') :=
  hm.bind fun _ => hm'

theorem Tracks.ite {c : Prop} [Decidable c] {a b : SessionM α} (ha : Tracks ok a)
    (hb : Tracks ok b) : Tracks ok (if c then a else b) := by
  split
  · exact ha
  · exact hb

/-- A call of a role on the pipe, whose failure the step raises at once as the handler's. -/
theorem tracks_call {K : RoleKind} {c : Call} (hc : K.Calls c) {g : Response → SessionM α}
    (hraise : ∀ X, g (.streamed (.error X)) = throw (handlerFailure X))
    (hrest : ∀ x, (∀ X, x ≠ .streamed (.error X)) → Tracks ok (g x)) :
    Tracks ok (ask (.stream c) >>= g) := by
  intro s h hcl
  rw [wp_bind, wp_ask]
  intro x _
  dsimp only
  by_cases hx : ∃ X, x = .streamed (.error X)
  · obtain ⟨X, rfl⟩ := hx
    rw [hraise]
    exact .inr ⟨h, c, X, rfl, ⟨K, hc⟩, rfl, hcl⟩
  · push Not at hx
    -- an answer that is no failure leaves nothing that raised
    have hnone : Exchange.callFailure? (.stream c, x) = none := by
      rcases x with _ | _ | _ | _ | _ | _ | _ | _ | (X | _)
      all_goals first | rfl | exact absurd rfl (hx X)
    exact hrest x hx s _ (hcl.push hnone fun _ _ hsent => by simp [Exchange.sent?] at hsent)

end Closure

/-! ## The shared steps -/

theorem steady_now : Steady ok now :=
  (steady_ask fun _ _ x hc => hc.quiet (r := .now) nofun nofun x).bind fun x => by
    cases x <;> exact steady_pure _

theorem steady_updateStats (f : Stats → Stats) : Steady ok (updateStats f) :=
  steady_modify_frame fun _ => ⟨rfl, rfl, rfl, rfl⟩

theorem steady_resetTimeout : Steady ok resetTimeout :=
  steady_now.bind fun _ => steady_get.bind fun _ => by
    split
    · exact steady_modify_frame fun _ => ⟨rfl, rfl, rfl, rfl⟩
    · exact steady_throw (by decide)

theorem steady_timeLeft : Steady ok timeLeft :=
  steady_now.bind fun _ => steady_get.bind fun _ => by
    split
    · exact steady_pure _
    · exact steady_throw (by decide)

/-- A send raises only the codec's error or a transport failure. -/
theorem raisesOnly_send (p : Draft) :
    RaisesOnly ok (fun e => e.toFault.kind ≠ .handlerFailure) (send p) := by
  intro s h
  rw [wp_send]
  split
  · intro e he
    cases he
    simp
  · intro x _
    split
    · intro e he
      cases he
      simp [sendFailure]
    · intro e he
      cases he

theorem steady_send {p : Draft} (hp : p.isError = false) : Steady ok (send p) := by
  refine ⟨fun s h hc => ?_, raisesOnly_send p⟩
  rw [wp_send]
  split
  · exact hc
  · next bytes henc =>
    intro x _
    have hc' := hc.send (by rw [Draft.opensError_encode henc, hp]) s.peer x
    split
    · exact hc'
    · exact hc'.congr rfl rfl rfl rfl

/-- A fresh transmission of a draft that is no ERROR leaves it to resend. -/
theorem steady_transmit {p : Draft} (hp : p.isError = false) : Steady ok (transmit p) :=
  (steady_send hp).seq ((steady_modify (by
    intro _ _ hc
    exact ⟨hc.error, hc.calls, fun q hq => (Option.some.inj hq : p = q) ▸ hp, hc.refusals⟩)).seq
      steady_resetTimeout)

theorem steady_retransmit : Steady ok retransmit := by
  have hrest : Steady ok (do
      modify fun s => { s with retransmits := s.retransmits + 1,
                               totalRetransmits := s.totalRetransmits + 1 }
      resetTimeout) :=
    (steady_modify_frame (by intro; exact ⟨rfl, rfl, rfl, rfl⟩)).seq steady_resetTimeout
  refine ⟨fun s h hc => ?_, raisesOnly_get.bind fun s => ?_⟩
  · unfold retransmit
    rw [wp_bind, wp_get]
    dsimp only
    -- the draft to resend is no ERROR
    split
    · next p hlast => exact ((steady_send (hc.resend p hlast)).bind fun _ => hrest).keeps s h hc
    · exact hrest.keeps s h hc
  · dsimp only
    split
    · exact (raisesOnly_send _).bind fun _ => hrest.raises
    · exact hrest.raises

theorem steady_handleTimeout : Steady ok handleTimeout :=
  steady_get.bind fun _ => Steady.ite steady_retransmit (steady_throw (by simp))

/-- The rest of a step that waited: resend if the timer expired while still waiting. -/
theorem steady_expire (ph : Phase) : Steady ok (do
      if (← get).phase == some ph then
        if (← timeLeft).isNonpos then handleTimeout) :=
  steady_get.bind fun _ => Steady.ite
    (steady_timeLeft.bind fun _ => Steady.ite steady_handleTimeout (steady_pure _)) (steady_pure _)

/-! ## Receiving -/

section Receive

/-- A receive keeps `Clean`: the refusal of a foreign source is its only ERROR, and it goes out
    with the peer pinned. -/
theorem keeps_receive : Keeps ok Clean receive := by
  intro s h hc
  apply wp_receive
  intro r s' δ hr
  have hnow : ∀ x, Clean s (h ++ [(.now, x)]) := fun x => hc.quiet (r := .now) nofun nofun x
  have hwait : ∀ x t y, Clean s (h ++ [(.now, x), (.receive t s.phase, y)]) := fun x t y => by
    simpa using (hnow x).quiet (r := .receive t s.phase) nofun nofun y
  cases hr with
  | unreadable x _ => exact hnow x
  | expired x _ _ _ => exact hnow x
  | failed x t f _ _ => exact hwait x t _
  | silent x t y _ _ _ _ => exact hwait x t y
  | foreign x t bytes source p refusal z _ _ _ hpin hsrc _ =>
    have := (hwait x t (.datagram bytes source)).push (y := (.send refusal source, z)) rfl
      fun _ _ hsent _ => by
        simp only [Exchange.sent?, Option.some.injEq, Prod.mk.injEq] at hsent
        rw [← hsent.2]
        exact ⟨hpin, hsrc⟩
    simpa using this
  | aborted x t bytes source code message _ _ _ _ => exact (hwait x t _).pinTo source
  | packet x t bytes source p _ _ _ _ _ => exact (hwait x t _).pinTo source

/-- A receive raises a transport failure, what the socket raised, the abort of an ERROR from the
    peer, or a clock reading too large; with a socket that raises only errors of the host, none
    of them is a fault of the handler. -/
theorem raisesOnly_receive (hok : HostSocket ok) :
    RaisesOnly ok (fun e => e.toFault.kind ≠ .handlerFailure) receive := by
  intro s h
  apply Wp.mono _ (Wp.extends (wp_receive (Q := fun r s' h' => ∃ δ, h' = h ++ δ ∧ Receives s r s' δ)
    fun r s' δ hr => ⟨δ, rfl, hr⟩))
  rintro r s' h' ⟨⟨δ, rfl, hr⟩, δ', hδ', hlast⟩ e rfl
  cases hr with
  | unreadable => decide
  | failed x t f _ _ =>
    apply receiveFailure_toFault_kind
    rcases hlast with rfl | hlast
    · simp at hδ'
    · exact hok (h ++ [(.now, x)]) t s.phase f (by simpa using hlast)
  | aborted => simp

theorem steady_receive (hok : HostSocket ok) : Steady ok receive :=
  ⟨keeps_receive, raisesOnly_receive hok⟩

end Receive

/-! ## A sender -/

theorem steady_sender : Steady ok sender :=
  steady_get.bind fun s => by
    cases s.role <;> exact steady_pure _

theorem steady_updateSender (f : Sender → Sender) : Steady ok (updateSender f) :=
  steady_modify_frame fun s => by
    split <;> exact ⟨rfl, rfl, rfl, rfl⟩

/-- Entering a phase. -/
theorem steady_enter (ph : Phase) : Steady ok (modify fun s => { s with phase := some ph }) :=
  steady_modify_frame fun _ => ⟨rfl, rfl, rfl, rfl⟩

/-- Reading a block: a read that raised is the last exchange, and the sender raises its
    failure as the handler's. -/
theorem tracks_gather (g : List UInt8) (fuel : Nat) : Tracks ok (gather g fuel) := by
  induction fuel generalizing g with
  | zero => exact (steady_pure _).tracks
  | succ n ih =>
    unfold gather
    split
    · exact (steady_pure _).tracks
    · next hlt =>
      refine tracks_call (K := .sender) ⟨_, by omega, rfl⟩ (fun _ => rfl) fun x hx => ?_
      split
      · exact (steady_pure _).tracks
      · exact ih _
      · next X => exact absurd rfl (hx X)
      · exact (steady_pure _).tracks

theorem tracks_nextBlock : Tracks ok nextBlock :=
  steady_sender.tracks.bind fun _ => (steady_ofExcept fun _ => Value.succ_isFault).tracks.bind
    fun _ => (steady_updateSender _).tracks.seq
      ((tracks_gather _ _).bind fun _ => (steady_updateSender _).tracks)

theorem steady_transmitData : Steady ok transmitData := by
  unfold transmitData
  refine steady_sender.bind fun _ =>
    (steady_transmit rfl).seq ((steady_updateStats _).seq ?_)
  simp only []
  exact Steady.ite ((steady_updateSender _).seq (steady_enter _)) (steady_enter _)

theorem steady_handleAck (block : Int) : Steady ok (handleAck block) := by
  unfold handleAck
  refine steady_sender.bind fun x => ?_
  apply Steady.ite ((steady_ofExcept fun _ => Value.decimal_isFault).discard.seq (steady_pure _))
  have hnext : Steady ok (if x.awaitingLastAck = true then
      modify fun s => { s with phase := some Phase.done }
    else modify fun s => { s with phase := some Phase.awaitData }) :=
    Steady.ite (steady_enter _) (steady_enter _)
  simp only []
  exact Steady.ite ((steady_updateStats _).seq hnext) hnext

theorem tracks_sendOnce (hok : HostSocket ok) : Tracks ok sendOnce := by
  unfold sendOnce
  refine steady_get.tracks.bind fun _ => Tracks.ite (tracks_nextBlock.seq steady_transmitData.tracks)
    ((steady_receive hok).bind fun p => ?_).tracks
  split
  · exact (steady_handleAck _).seq (steady_expire _)
  · exact steady_expire _

/-! ## A receiver -/

theorem steady_receiver : Steady ok receiver :=
  steady_get.bind fun s => by
    cases s.role <;> exact steady_pure _

theorem steady_updateReceiver (f : Receiver → Receiver) : Steady ok (updateReceiver f) :=
  steady_modify_frame fun s => by
    split <;> exact ⟨rfl, rfl, rfl, rfl⟩

/-- Handing a payload over: a write that raised is the last exchange, and the receiver raises its
    failure as the handler's. -/
theorem tracks_deliver (payload : List UInt8) : Tracks ok (deliver payload) := by
  unfold deliver
  refine tracks_call (K := .receiver) ⟨payload, rfl⟩ (fun _ => rfl) fun x hx => ?_
  split
  · next X => exact absurd rfl (hx X)
  · exact (steady_pure _).tracks

theorem tracks_handleData (block : Int) (payload : List UInt8) :
    Tracks ok (handleData block payload) := by
  unfold handleData
  refine steady_receiver.tracks.bind fun _ =>
    (steady_ofExcept fun _ => Value.succ_isFault).tracks.bind fun _ => ?_
  refine Tracks.ite ((tracks_deliver _).seq ?_)
    (Steady.ite (steady_send rfl) (steady_ofExcept fun _ => Value.decimal_isFault).discard).tracks
  exact ((steady_updateReceiver _).seq ((steady_updateStats _).seq
    ((steady_transmit rfl).seq (Steady.ite (steady_enter _) (steady_pure _))))).tracks

theorem tracks_receiveOnce (hok : HostSocket ok) : Tracks ok receiveOnce := by
  unfold receiveOnce
  refine (steady_receive hok).tracks.bind fun p => ?_
  split
  · exact (tracks_handleData _ _).seq (steady_expire _).tracks
  · exact (steady_expire _).tracks

/-! ## Either role -/

theorem steady_startSending : Steady ok startSending := by
  unfold startSending
  exact steady_get.bind fun _ =>
    Steady.ite ((steady_transmit rfl).seq (steady_enter _)) (steady_enter _)

theorem tracks_startReceiving : Tracks ok startReceiving := by
  unfold startReceiving
  refine steady_get.tracks.bind fun _ => ?_
  dsimp only
  split
  · exact ((steady_transmit rfl).seq (steady_enter _)).tracks
  · exact (tracks_deliver _).seq ((steady_transmit rfl).seq (steady_enter _)).tracks

theorem tracks_start : Tracks ok start := by
  unfold start
  refine steady_get.tracks.bind fun s => ?_
  split
  · exact steady_startSending.tracks
  · exact tracks_startReceiving

theorem tracks_stepOnce (hok : HostSocket ok) : Tracks ok stepOnce := by
  unfold stepOnce
  refine steady_get.tracks.bind fun s => ?_
  split
  · exact tracks_sendOnce hok
  · exact tracks_receiveOnce hok

/-! ## The dally -/

theorem keeps_dallyFor (hok : HostSocket ok) (fuel : Nat) : Keeps ok Clean (dallyFor fuel) := by
  -- the dally's handlers swallow faults and raise the rest, from wherever the failure left off
  have hcatch : ∀ {γ : Type} (b : γ) (e : Failure),
      Keeps ok Clean (if e.isFault = true then pure b else throw e : SessionM γ) :=
    fun b e => Keeps.ite (keeps_pure b) (keeps_throw e)
  induction fuel with
  | zero => exact keeps_pure _
  | succ n ih =>
    unfold dallyFor
    refine steady_timeLeft.keeps.bind fun _ => Keeps.ite (keeps_pure _) ?_
    refine (((steady_receive hok).map _).keeps.tryCatch fun e => hcatch _ e).bind fun got => ?_
    split
    · exact keeps_pure _
    · refine steady_receiver.keeps.bind fun _ => Keeps.ite ?_ ih
      exact (((steady_send rfl).seq (steady_pure _)).keeps.tryCatch fun e => hcatch _ e).bind
        fun _ => Keeps.ite (keeps_pure _) ih
    · exact ih

theorem keeps_dally (hok : HostSocket ok) (fuel : Nat) : Keeps ok Clean (dally fuel) :=
  (steady_ask fun _ _ x hc => hc.quiet (r := .closeStream none) nofun nofun x).discard.keeps.seq
    (steady_resetTimeout.keeps.seq (keeps_dallyFor hok fuel))

/-! ## How a run accounts for its handler -/

/-- A run in which no call on the pipe raised: the session did not fail with a fault of its
    handler, and sent its peer no ERROR. -/
structure Unreported (s : Session) (H : List Exchange) : Prop where
  calls : ∀ y ∈ H, y.callFailure? = none
  fault : ∀ f, s.error = some f → f.kind ≠ .handlerFailure
  silent : ∀ y ∈ H, y.errorTo? s.peer = none

/-- A run whose call on the pipe raised `X` after the exchanges `A`, with the exchanges `B` after
    it: before the call, no call raised and no ERROR went to the peer; after it, none raised
    either; the session failed with the handler's fault for `X`; when the code of `X` is a word,
    the ERROR with that code and with the fault's message as the wire gives it back went to the
    peer right after the call, and no datagram followed it; with any other code, no datagram
    followed the call at all. -/
structure Reports (s : Session) (A : List Exchange) (X : Failure) (B : List Exchange) : Prop where
  before : ∀ y ∈ A, y.callFailure? = none ∧ y.errorTo? s.peer = none
  after : ∀ y ∈ B, y.callFailure? = none
  fault : s.error = some X.toHandlerFault
  sent : ∀ n, X.errorCode.toNumber? = some (.int n) → FitsWord n →
    ∃ bytes m y, ∃ B' : List Exchange, B = (.send bytes s.peer, y) :: B' ∧
      Packet.decode bytes = .ok (.error n m) ∧
      Text.ofString m = (if X.text.isEmpty then Text.ofString X.name else X.text).readBack ∧
      ∀ z ∈ B', z.sent? = none
  unsent : (∀ n, X.errorCode.toNumber? = some (.int n) → ¬ FitsWord n) → ∀ z ∈ B, z.sent? = none

/-- A run either had no call on the pipe raise, or had one that some role makes raise and
    reported it. -/
def Accounts (s : Session) (H : List Exchange) : Prop :=
  Unreported s H ∨ ∃ A c X B, H = A ++ (.stream c, .streamed (.error X)) :: B ∧
    (∃ K : RoleKind, K.Calls c) ∧ Reports s A X B

section Account

variable {s s' : Session} {h A B δ : List Exchange} {X : Failure}

/-- The exchanges after the failure neither call the pipe nor send. -/
def Inert (δ : List Exchange) : Prop := ∀ y ∈ δ, y.callFailure? = none ∧ y.sent? = none

/-- Until the session fails, no ERROR went to the peer. -/
theorem Clean.silent (hc : Clean s h) (hpeer : s'.peer = s.peer) :
    ∀ y ∈ h, y.errorTo? s'.peer = none :=
  fun y hy => Exchange.errorTo?_eq_none fun bytes target hsent he => by
    rw [hpeer]
    exact (hc.refusals y hy bytes target hsent he).2

theorem Clean.unreported (hc : Clean s h) (herr : ∀ f, s'.error = some f → f.kind ≠ .handlerFailure)
    (hpeer : s'.peer = s.peer) : Unreported s' h :=
  ⟨hc.calls, herr, hc.silent hpeer⟩

theorem Unreported.append (hu : Unreported s h) (herr : s'.error = s.error)
    (hpeer : s'.peer = s.peer) (hδ : Inert δ) : Unreported s' (h ++ δ) where
  calls := fun y hy => (List.mem_append.mp hy).elim (hu.calls y) fun hy => (hδ y hy).1
  fault := fun f hf => hu.fault f (herr ▸ hf)
  silent := fun y hy => (List.mem_append.mp hy).elim (fun hy => hpeer ▸ hu.silent y hy)
    fun hy => Exchange.errorTo?_eq_none fun _ _ hsent => by simp [(hδ y hy).2] at hsent

theorem Reports.append (hr : Reports s A X B) (herr : s'.error = s.error)
    (hpeer : s'.peer = s.peer) (hδ : Inert δ) : Reports s' A X (B ++ δ) where
  before := fun y hy => hpeer ▸ hr.before y hy
  after := fun y hy => (List.mem_append.mp hy).elim (hr.after y) fun hy => (hδ y hy).1
  fault := herr.trans hr.fault
  sent := fun n hn hfit => by
    obtain ⟨bytes, m, y, B', rfl, hdec, hm, hB'⟩ := hr.sent n hn hfit
    refine ⟨bytes, m, y, B' ++ δ, by rw [hpeer]; rfl, hdec, hm, fun z hz => ?_⟩
    exact (List.mem_append.mp hz).elim (hB' z) fun hz => (hδ z hz).2
  unsent := fun hn z hz => (List.mem_append.mp hz).elim (hr.unsent hn z) fun hz => (hδ z hz).2

theorem Accounts.append (ha : Accounts s h) (herr : s'.error = s.error)
    (hpeer : s'.peer = s.peer) (hδ : Inert δ) : Accounts s' (h ++ δ) := by
  rcases ha with hu | ⟨A, c, X, B, rfl, hc, hr⟩
  · exact .inl (hu.append herr hpeer hδ)
  · exact .inr ⟨A, c, X, B ++ δ, by simp, hc, hr.append herr hpeer hδ⟩

/-- The report of the handler's failure `X`, sent to the peer right after the call. -/
theorem Clean.reports_sent (hc : Clean s A) (herr : s'.error = some X.toHandlerFault)
    (hpeer : s'.peer = s.peer) {bytes : List UInt8}
    (henc : (Draft.error X.toHandlerFault.code X.toHandlerFault.message).encode = .ok bytes)
    (y : Response) : Reports s' A X [(.send bytes s.peer, y)] where
  before := fun y hy => ⟨hc.calls y hy, hc.silent hpeer y hy⟩
  after := by simp [Exchange.callFailure?]
  fault := herr
  sent := fun n hn _ => by
    obtain ⟨n', m, hn', -, hdec, hm⟩ := (Failure.report_encode X).1 bytes henc
    obtain rfl : n = n' := by simpa [hn] using hn'
    exact ⟨bytes, m, y, [], by rw [hpeer], hdec, hm, by simp⟩
  unsent := fun hn => by
    obtain ⟨n, m, hn', hfit, -⟩ := (Failure.report_encode X).1 bytes henc
    exact absurd hfit (hn n hn')

/-- The report of the handler's failure `X`, which cannot be written: nothing is sent. -/
theorem Clean.reports_unsent (hc : Clean s A) (herr : s'.error = some X.toHandlerFault)
    (hpeer : s'.peer = s.peer) {e : EncodeError}
    (henc : (Draft.error X.toHandlerFault.code X.toHandlerFault.message).encode = .error e) :
    Reports s' A X [] where
  before := fun y hy => ⟨hc.calls y hy, hc.silent hpeer y hy⟩
  after := by simp
  fault := herr
  sent := fun n hn hfit => by
    obtain ⟨bytes, henc'⟩ := (Failure.report_encode X).2 n hn hfit
    rw [henc] at henc'
    cases henc'
  unsent := by simp

end Account

/-! ## A whole session -/

section Run

variable {s : Session} {h : List Exchange}

/-- Failing records the fault: a failure of another kind is not reported; the handler's failure
    for the call that raised last is reported to the peer, if it can be written. -/
theorem wp_fail_reports {e : Failure} (hend : Settled (.error e : Except Failure Unit) s h) :
    Wp ok (fail e.toFault) (fun _ s' h' => s'.phase = some .failed ∧ Accounts s' h') s h := by
  rw [wp_fail]
  rcases hend with ⟨hk, hc⟩ | ⟨A, c, X, rfl, hcall, rfl, hc⟩
  · exact ⟨fun hk' => absurd hk' hk, fun _ =>
      ⟨rfl, .inl (hc.unreported (fun f hf => by cases hf; exact hk) rfl)⟩⟩
  · refine ⟨fun _ => ?_, fun hk => absurd rfl hk⟩
    have hfault : (handlerFailure X).toFault = X.toHandlerFault := rfl
    rw [hfault, wp_transmitError, wp_send]
    -- the report is the one datagram after the call, or there is none
    have hsplit : ∀ B, A ++ [(.stream c, .streamed (.error X))] ++ B =
        A ++ (.stream c, .streamed (.error X)) :: B := by simp
    split
    · next e henc =>
      have hr : Reports (s.failWith X.toHandlerFault) A X [] := hc.reports_unsent rfl rfl henc
      dsimp only
      split <;> exact ⟨rfl, .inr ⟨A, c, X, [], by simp, hcall, hr⟩⟩
    · next bytes henc =>
      intro y _
      have hr : Reports (s.failWith X.toHandlerFault) A X [(.send bytes s.peer, y)] :=
        hc.reports_sent (by rfl) (by rfl) henc y
      have hr' : Reports (s.failWith X.toHandlerFault).countSent A X [(.send bytes s.peer, y)] :=
        hc.reports_sent (by rfl) (by rfl) henc y
      split
      · dsimp only
        split <;> exact ⟨rfl, .inr ⟨A, c, X, _, hsplit _, hcall, hr⟩⟩
      · exact ⟨rfl, .inr ⟨A, c, X, _, hsplit _, hcall, hr'⟩⟩

theorem keeps_finish : Keeps ok Clean finish := by
  intro s h hc
  apply wp_finish
  intro x₁ x₂ x₃ x₄
  have := ((((hc.quiet (r := .closeStream (s.error.map .fault)) nofun nofun x₁).quiet
    (r := .closeSocket) nofun nofun x₂).quiet (r := .now) nofun nofun x₃).quiet
      (r := .report (s.closedAt (Setup.clockOf x₃)).stats) nofun nofun x₄)
  have hc' : Clean (s.closedAt (Setup.clockOf x₃)) _ := this.congr rfl rfl rfl rfl
  simpa using hc'

/-- The last steps of a session that failed add nothing to its account. -/
theorem wp_finish_accounts (ha : Accounts s h) :
    Wp ok finish (fun _ s' h' => Accounts s' h') s h :=
  wp_finish fun _ _ _ _ => ha.append rfl rfl (by
    intro y hy
    simp only [List.mem_cons, List.not_mem_nil, or_false] at hy
    rcases hy with rfl | rfl | rfl | rfl <;> exact ⟨rfl, rfl⟩)

/-- Closing: a session that is still `Clean` dallies if it is a receiver that is done and stays
    `Clean`; a session that failed only finishes. -/
theorem wp_close_accounts (hok : HostSocket ok) (fuel : Nat)
    (hs : Clean s h ∨ (s.phase = some .failed ∧ Accounts s h)) :
    Wp ok (close fuel) (fun _ s' h' => Accounts s' h') s h := by
  have hacc : ∀ s h, Clean s h → Accounts s h :=
    fun _ _ hc => .inl (hc.unreported (by simp [hc.error]) rfl)
  have hclean : ∀ s h, Clean s h → Wp ok finish (fun _ s' h' => Accounts s' h') s h :=
    fun s h hc => Wp.mono (fun _ s' h' hc' => hacc s' h' hc') (keeps_finish s h hc)
  unfold close
  rw [wp_bind, wp_get]
  dsimp only
  split
  · next x hph =>
    have hc : Clean s h := hs.resolve_right fun ⟨hf, _⟩ => by
      rw [hph] at hf
      cases hf
    rw [wp_bind]
    refine Wp.mono (fun r s₁ h₁ hc₁ => ?_) (keeps_dally hok fuel s h hc)
    cases r
    · exact hacc s₁ h₁ hc₁
    · exact hclean s₁ h₁ hc₁
  · rcases hs with hc | ⟨-, ha⟩
    · exact hclean s h hc
    · exact wp_finish_accounts ha

/-- A run of a session from a `Clean` state accounts for its handler. -/
theorem wp_run_accounts (hok : HostSocket ok) (fuel : Nat) (hc : Clean s h) :
    Wp ok (run fuel) (fun _ s' h' => Accounts s' h') s h := by
  refine @wp_run ok s h fuel Clean (fun e => Settled (.error e : Except Failure Unit))
    (fun s h => s.phase = some .failed ∧ Accounts s h) Accounts ?start ?loop ?fail ?close
  case start =>
    exact Wp.mono (fun r _ _ hend => by cases r <;> exact hend) (tracks_start s h hc)
  case loop =>
    exact wp_loop (fun s h hc _ => Wp.mono (fun r _ _ hend => by cases r <;> exact hend)
      (tracks_stepOnce hok s h hc)) fuel
  case fail => exact fun _ _ _ hend => wp_fail_reports hend
  case close => exact fun _ _ hs => wp_close_accounts hok fuel hs

end Run

/-- A freshly created session is `Clean`. -/
theorem Clean.initial (st : Setup) (expiry : Number) (x₀ x₁ x₂ : Response) :
    Clean (st.initial expiry x₁ x₂) [(.now, x₀), (.localAddress, x₁), (.now, x₂)] where
  error := rfl
  calls := by simp [Exchange.callFailure?]
  resend := fun _ hp => by cases hp
  refusals := by simp [Exchange.sent?]

/-- The account of a run whose requests open the end of the pipe of the role `K`: the call that
    raised, if one did, is one of `K`'s. -/
theorem Accounts.of_opens {K : RoleKind} {s : Session} {H : List Exchange} (ha : Accounts s H)
    (hopens : ∀ y ∈ H, y.1.Opens K.side) :
    Unreported s H ∨ ∃ A c X B, H = A ++ (.stream c, .streamed (.error X)) :: B ∧
      K.Calls c ∧ Reports s A X B := by
  rcases ha with hu | ⟨A, c, X, B, rfl, ⟨K', hc⟩, hr⟩
  · exact .inl hu
  · exact .inr ⟨A, c, X, B, rfl, RoleKind.calls_of_opens hc
      (hopens (.stream c, .streamed (.error X)) (by simp)), hr⟩

end Session

namespace Setup

/-- Only a handler's failure is reported to the peer, whatever the network answers, as long as
    the socket fails only with errors of the host.  Every run of a whole session either had no
    call on its pipe raise, did not fail with a fault of its handler and sent its peer no ERROR
    (a peer's abort, a timeout, a transport failure or any other failure is not reported), or
    had exactly one call of its own raise a failure `X`, a sender's read of some bytes or a
    receiver's write; the session then failed with the handler's fault for `X`, sent its peer no
    ERROR before, and, when the code of `X` is a word, sent right after the call the one ERROR
    to its peer, with that code and the fault's message as the wire gives it back, as its last
    datagram.  On its own end of the pipe, open, a read of some bytes raises just when nothing is
    pending and the writer end was closed with that error; a write raises just when the reader
    end was closed, in any way, before all its bytes were taken. -/
theorem handler_failures_reported {ok : List Exchange → Prop} (st : Setup) (fuel : Nat)
    (hok : Session.HostSocket ok) :
    (st.program fuel).Always ok (fun r H => ∀ e s, r = .ok (e, s) →
      Session.Unreported s H ∨ ∃ A c X B, H = A ++ (.stream c, .streamed (.error X)) :: B ∧
        st.kind.Calls c ∧ Session.Reports s A X B) [] ∧
    (∀ k w (p : Pipe) X, p.reader = .open →
      ((∃ p', (Call.read (.upTo k) w).step p = .returns (.error X) p') ↔
        p.pending = [] ∧ p.writer = .closed (some X))) ∧
    (∀ (c : Call) (p : Pipe) X, c.Writing → p.writer = .open →
      ((∃ p', c.step p = .returns (.error X) p') ↔
        (∃ e, p.reader = .closed e ∧ X = e.getD .brokenPipe) ∧
          ∀ n, c = .drain n → p.pending ≠ [])) := by
  refine ⟨?_, fun _ _ _ _ hr => Call.read_raises_iff hr, fun _ _ _ hc hw => Call.write_raises_iff hc hw⟩
  apply always_program
  · intro x _ e s hr
    cases hr
  · intro x₀ expiry x₁ x₂ _
    have hown : Session.CallsOwn st.kind (st.initial expiry x₁ x₂)
        [(.now, x₀), (.localAddress, x₁), (.now, x₂)] :=
      ⟨kind_initial st expiry x₁ x₂, by simp [Request.Opens]⟩
    refine Session.Wp.mono ?_ (Session.Wp.and
      (Session.wp_run_accounts hok fuel (Session.Clean.initial st expiry x₀ x₁ x₂))
      (Session.callsOwn_run fuel _ _ hown))
    rintro (e | (_ | _)) s' h' ⟨hacc, hown'⟩ e' s hr <;>
      simp only [conclude, Except.ok.injEq, Prod.mk.injEq] at hr <;>
      obtain ⟨-, rfl⟩ := hr <;> exact hacc.of_opens hown'.2

/-- A server sending a file. -/
def sendServer : Setup := { (default : Setup) with kind := .sender }

/-- A server sending a file in surroundings whose socket fails only with errors of the host. -/
theorem sendServer_reports_handler_failures :
    Session.HostSocket Session.hostFailures ∧
      ((sendServer.program 4).Always Session.hostFailures (fun r H => ∀ e s, r = .ok (e, s) →
        Session.Unreported s H ∨ ∃ A c X B, H = A ++ (.stream c, .streamed (.error X)) :: B ∧
          sendServer.kind.Calls c ∧ Session.Reports s A X B) [] ∧
      (∀ k w (p : Pipe) X, p.reader = .open →
        ((∃ p', (Call.read (.upTo k) w).step p = .returns (.error X) p') ↔
          p.pending = [] ∧ p.writer = .closed (some X))) ∧
      (∀ (c : Call) (p : Pipe) X, c.Writing → p.writer = .open →
        ((∃ p', c.step p = .returns (.error X) p') ↔
          (∃ e, p.reader = .closed e ∧ X = e.getD .brokenPipe) ∧
            ∀ n, c = .drain n → p.pending ≠ []))) :=
  ⟨Session.hostSocket_hostFailures,
    handler_failures_reported sendServer 4 Session.hostSocket_hostFailures⟩

end Setup

end Tftp
