import Tftp.Simulation.World
import Tftp.Session.Run

/-! # A transfer against a scripted world

    `Transfer.run` creates a session from its setup and runs it in a scripted world whose
    handler holds the other end of the pipe: the writer end for a sender, the reader end for a
    receiver.  Each loop of the session is bounded by the number of events and the retry budget,
    which is more than any session needs: every event is answered in at most one step, and
    between two events the session resends at most `retries` times before it fails. -/

namespace Tftp

/-- A session run in a scripted world, with the world after it. -/
structure Transfer where
  /-- how the run of the session came to an end -/
  ending : Ending
  session : Session
  world : World
  deriving Inhabited

namespace Transfer

/-- The end of the pipe a handler holds for a session of a role. -/
def handlerSide : RoleKind → Side
  | .sender => .writer
  | .receiver => .reader

/-- A bound on the steps of each loop of a session. -/
def bound (events retries : Nat) : Nat := (events + 2) * (retries + 4) + 16

/-- Create the session of a setup and run it in a world, then let the handler finish; or the
    failure that kept the session from being created. -/
def run (setup : Setup) (world : World) : Except Failure Transfer :=
  let fuel := bound world.events.length setup.policy.retries
  match World.run (setup.program fuel) world with
  | (.error e, _) => .error e
  | (.ok (ending, s), w) => .ok ⟨ending, s, w.finishHandler⟩

/-- What the caller of a transfer gets back: the statistics, or the failure that escaped the
    session, or else the fault that ended it. -/
def result (t : Transfer) : Except Failure Stats :=
  match t.ending, t.session.error with
  | .escaped e, _ => .error e
  | _, some f => .error (.fault f)
  | _, none => .ok t.session.stats

/-- The session ran to an end within its bound, closed or not. -/
def ended (t : Transfer) : Bool :=
  match t.ending with
  | .unfinished => false
  | _ => true

end Transfer

end Tftp
