import Tftp.Session.Sender
import Tftp.Session.Receiver

/-! # A whole session

    `Setup.program` is a session from its creation to its end, as a program.  It opens the
    transfer, then steps until the transfer is done or failed.  A fault ends the session with
    that fault; any other failure ends it with a general fault carrying the failure's text.  In
    every case the session then closes its end of the pipe and its socket and reports its
    statistics; a receiver that is done dallies first.  A failure while it dallies, other than a
    fault, escapes the session before it closes.

    The timer starts when the session is created; a clock reading too large to start it from
    fails the creation, and there is no session.

    The loops of a session end because the network's answers run out; the program takes a bound
    on the number of steps, and reports whether the session ended within it. -/

namespace Tftp

/-- The two roles, before any block is counted. -/
inductive RoleKind where
  | sender
  | receiver
  deriving DecidableEq, Repr, Inhabited

/-- How the run of a session came to an end. -/
inductive Ending where
  /-- the session ended and closed -/
  | closed
  /-- a failure escaped the session, which did not close -/
  | escaped (failure : Failure)
  /-- the bound on its steps ran out -/
  | unfinished
  deriving Inhabited

/-- How a session is set up. -/
structure Setup where
  kind : RoleKind
  /-- the session opens the transfer with a request -/
  client : Bool
  peer : Address
  filename : Value
  mode : Value
  policy : RetryPolicy
  /-- where the block counter starts, if not at 0; a receiver then counts the block as
      delivered -/
  initialBlock : Option Value
  deriving Inhabited

namespace Session

/-- Open the transfer. -/
def start : SessionM Unit := do
  match (← get).role with
  | .sender _ => startSending
  | .receiver _ => startReceiving

/-- One step of the transfer. -/
def stepOnce : SessionM Unit := do
  match (← get).role with
  | .sender _ => sendOnce
  | .receiver _ => receiveOnce

/-- Step until the transfer has ended, at most `fuel` steps; whether it ended. -/
def loop : Nat → SessionM Bool
  | 0 => pure false
  | fuel + 1 => do
    if (← get).ended then return true
    stepOnce
    loop fuel

/-- Close the session: a receiver that is done dallies first. -/
def close (fuel : Nat) : SessionM Unit := do
  let s ← get
  match s.role, s.phase with
  | .receiver _, some .done => dally fuel
  | _, _ => pure ()
  finish

/-- The transfer from its opening to its end, within `fuel` steps per loop; whether it ended.
    A failure ends the session with its fault; the session is closed in every case, also when
    ending it with the fault fails in turn, and that failure then escapes. -/
def run (fuel : Nat) : SessionM Bool := do
  let outcome ← tryCatch
    (do
      let ended ← tryCatch (do start; loop fuel) fun e => do
        fail e.toFault
        pure true
      pure (Except.ok ended))
    fun e => pure (Except.error e)
  close fuel
  match outcome with
  | .ok ended => pure ended
  | .error e => throw e

end Session

namespace Setup

/-- The reading of a clock answer. -/
def clockOf : Response → Number
  | .time t => t
  | _ => 0

/-- The session a setup creates: its timer starts a timeout after the creation time, and the
    statistics record the socket's local address and the creation time.  A timer that cannot
    be started fails the creation. -/
def create (st : Setup) : Program (Except Failure Session) := do
  let t₀ ← Program.call .now
  match (clockOf t₀).add? st.policy.seconds with
  | none => pure (.error Failure.tooLarge)
  | some expiry =>
    let address ← Program.call .localAddress
    let t₁ ← Program.call .now
    let local? := match address with
      | .address a => a
      | _ => none
    let role : Role := match st.kind, st.initialBlock with
      | .sender, b => .sender ⟨b.getD (.int 0), none, false⟩
      | .receiver, none => .receiver ⟨.int 0, false⟩
      | .receiver, some b => .receiver ⟨b, true⟩
    let stats : Stats :=
      ⟨st.peer, local?, st.filename, st.mode, none, 0, 0, 0, 0, 0, clockOf t₁, none⟩
    pure (.ok ⟨role, st.client, st.peer, !st.client, st.filename, st.mode, st.policy, none, 0, 0,
      none, expiry, none, stats⟩)

/-- The whole session as a program: how its run came to an end and its final state, or the
    failure that kept it from being created. -/
def program (st : Setup) (fuel : Nat) : Program (Except Failure (Ending × Session)) := do
  match ← st.create with
  | .error e => pure (.error e)
  | .ok s =>
    let (r, s') ← ((Session.run fuel).run).run s
    match r with
    | .ok true => pure (.ok (.closed, s'))
    | .ok false => pure (.ok (.unfinished, s'))
    | .error e => pure (.ok (.escaped e, s'))

end Setup

end Tftp
