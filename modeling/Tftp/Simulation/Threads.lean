import Tftp.Simulation.Transfer
import Mathlib.Logic.Relation

/-! # The session's thread and the handler's

    A transfer runs in two threads: the session's, which makes the session's requests, and the
    handler's, which works through its script on the other end of the pipe.  They share the pipe
    and nothing else.  `Transfer.run` schedules them one way: the session's thread runs, and
    each time a call of it on the pipe has to wait, the handler's thread runs until it finishes
    or waits in turn; once the session is over, the handler runs to its end.

    `Duo.Step` is one atomic step of either thread, in any order.  The session's thread has a
    request that leaves the pipe alone answered by the world, or takes a pass of its call on the
    pipe once the call is enabled; the handler's thread takes a step of its script.  Both
    threads are over once the session's program is done and the handler's script has
    finished. -/

namespace Tftp

/-- The request is a call on the pipe. -/
def Request.callsPipe : Request → Bool
  | .stream _ => true
  | _ => false

/-- The session's thread: a program about to make its next request, or a call on the session's
    end of the pipe under way, with the program that goes on from what the call returns. -/
inductive Thread (α : Type) where
  | runs (p : Program α)
  | calls (c : Call) (k : Response → Program α)

namespace Thread

variable {α : Type}

/-- The call the thread is about to make or is making, with the program that goes on from it. -/
def call? : Thread α → Option (Call × (Response → Program α))
  | .runs (.ask (.stream c) k) => some (c, k)
  | .calls c k => some (c, k)
  | _ => none

/-- The thread after a pass of its call: back in the program with what the call returned, or
    still in the call. -/
def resume (k : Response → Program α) : CallStep → Thread α × Pipe
  | .returns r p => (.runs (k (.streamed r)), p)
  | .continues c p => (.calls c k, p)

end Thread

/-- The two threads of a transfer and the world they share; the handler's thread is the
    world's script. -/
structure Duo (α : Type) where
  thread : Thread α
  world : World

namespace Duo

variable {α : Type}

/-- One atomic step of either thread. -/
inductive Step : Duo α → Duo α → Prop
  /-- the session makes a request that is no call on the pipe, and the world answers it -/
  | answer {r : Request} {k : Response → Program α} {w : World} (hr : r.callsPipe = false) :
      Step ⟨.runs (.ask r k), w⟩ ⟨.runs (k (w.answer r).1), (w.answer r).2⟩
  /-- the session's call takes a pass on the pipe, which it can once the call is enabled -/
  | pass {t : Thread α} {c : Call} {k : Response → Program α} {w : World}
      (ht : t.call? = some (c, k)) (hen : c.enabled w.pipe = true) :
      Step ⟨t, w⟩ ⟨(Thread.resume k (c.step w.pipe)).1,
        { w with pipe := (Thread.resume k (c.step w.pipe)).2 }⟩
  /-- the handler takes a step of its script -/
  | handler {t : Thread α} {w : World} {h : Script} {p : Pipe}
      (hs : w.handler.step w.pipe = some (h, p)) :
      Step ⟨t, w⟩ ⟨t, { w with handler := h, pipe := p }⟩

/-- Both threads are over: the session's program is done and the handler's script finished. -/
def Final (x : Duo α) : Prop :=
  (∃ a, x.thread = .runs (.done a)) ∧ x.world.handler.finished = true

end Duo

namespace Transfer

/-- The session of a setup and the handler of a world as two threads, before either steps; the
    session's loops have the bound that `run` gives them. -/
def threads (setup : Setup) (world : World) : Duo (Except Failure (Ending × Session)) :=
  ⟨.runs (setup.program (bound world.events.length setup.policy.retries)), world⟩

/-- The two threads once a transfer is over: the session's program done with how it ended and
    the session, in the world the transfer leaves. -/
def settled (t : Transfer) : Duo (Except Failure (Ending × Session)) :=
  ⟨.runs (.done (.ok (t.ending, t.session))), t.world⟩

end Transfer

end Tftp
