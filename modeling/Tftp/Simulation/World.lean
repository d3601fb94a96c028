import Tftp.Session.Program
import Tftp.Pipe.Script
import Tftp.Simulation.Network

/-! # A scripted world for a session

    A session can be run against a world that answers its requests from a script: a list of
    network events, one per receive, a set of send calls that fail, and a handler script on the
    other end of the pipe.  The world keeps a clock, which moves as the network's events say,
    and it records every socket call, each receive before its event is delivered.  Once the
    events run out, every receive times out.

    A pipe call of the session takes its atomic steps while it can; while it waits, the handler
    runs until it finishes or waits itself.  When the session is over, the handler runs to its
    end. -/

namespace Tftp

/-- A record of one socket call. -/
inductive SocketRecord where
  /-- a datagram sent, or a send that failed -/
  | sent (datagram : List UInt8) (target : Address) (failed : Bool)
  /-- a receive: the event that answered it (none once the script ran out), the timeout asked
      for and the phase the session stood in -/
  | received (event : Option Nat) (timeout : Number) (phase : Option Phase)
  /-- the socket was closed -/
  | closed
  deriving Inhabited

/-- The world a session runs in. -/
structure World where
  /-- the events not yet used -/
  events : List NetEvent
  /-- how many events were used -/
  used : Nat
  clock : Number
  /-- how many send calls were made -/
  sends : Nat
  /-- the positions of the send calls that fail, counting from 0 -/
  failingSends : List Nat
  localAddress : Option Address
  /-- where a datagram comes from when its event names no source -/
  defaultSource : Address
  records : List SocketRecord
  pipe : Pipe
  handler : Script
  /-- the statistics the session reported -/
  reports : List Stats
  deriving Inhabited

namespace World

/-- A world before the session's first request, its clock at `clock`; the handler holds the
    other end of the pipe. -/
def fresh (clock : Number) (events : List NetEvent) (failingSends : List Nat)
    (localAddress : Option Address) (defaultSource : Address) (handler : Script) : World :=
  ⟨events, 0, clock, 0, failingSends, localAddress, defaultSource, [], Pipe.fresh, handler, []⟩

/-- Record a socket call. -/
def record (w : World) (r : SocketRecord) : World :=
  { w with records := w.records ++ [r] }

/-- Send a datagram: the call fails if its position is among the failing ones. -/
def send (w : World) (bytes : List UInt8) (target : Address) : Response × World :=
  let failed := w.failingSends.contains w.sends
  let w' := { w.record (.sent bytes target failed) with sends := w.sends + 1 }
  (if failed then .sendFailed "send failed" else .sent, w')

/-- Receive: the next event is delivered, or a timeout once the events ran out. -/
def receive (w : World) (timeout : Number) (phase : Option Phase) : Response × World :=
  let (event, w') := match w.events with
    | [] => (NetEvent.timeout, w.record (.received none timeout phase))
    | e :: rest => (e, { w.record (.received (some w.used) timeout phase) with
                          events := rest, used := w.used + 1 })
  let (delivery, clock) := event.deliver w'.clock timeout w.defaultSource
  let response : Response := match delivery with
    | .timedOut => .timedOut
    | .arrived bytes source => .datagram bytes source
    | .failed f => .receiveFailed f
  (response, { w' with clock := clock })

/-- Close the session's end of the pipe: the end the handler does not hold. -/
def closeSessionEnd (w : World) (e : Option Failure) : World :=
  match w.handler.side with
  | .writer => { w with pipe := w.pipe.closeReader e }
  | .reader => { w with pipe := w.pipe.closeWriter e }

/-- The failure of a call that can never return; the rendezvous rules it out. -/
def stuck : Failure := Failure.ofHost .runtime "pipe call cannot return"

/-- Carry a call of the session to its return, at most `fuel` rounds: the call steps while it
    can, and while it waits the handler runs. -/
def perform : Nat → Call → World → Except Failure Reply × World
  | 0, _, w => (.error stuck, w)
  | fuel + 1, c, w =>
    if c.enabled w.pipe then
      match c.step w.pipe with
      | .returns r p => (r, { w with pipe := p })
      | .continues c' p => perform fuel c' { w with pipe := p }
    else
      let (h, p) := w.handler.advance w.pipe
      perform fuel c { w with handler := h, pipe := p }

/-- The world's answer to a request. -/
def answer (w : World) : Request → Response × World
  | .now => (.time w.clock, w)
  | .localAddress => (.address w.localAddress, w)
  | .send bytes target => w.send bytes target
  | .receive timeout phase => w.receive timeout phase
  | .closeSocket => (.ok, w.record .closed)
  | .stream c =>
    let (r, w') := perform 16 c w
    (.streamed r, w')
  | .closeStream e => (.ok, w.closeSessionEnd e)
  | .report stats => (.ok, { w with reports := w.reports ++ [stats] })

/-- Run a program in the world, answering each request in turn. -/
def run {α : Type} : Program α → World → α × World
  | .done a, w => (a, w)
  | .ask r k, w =>
    let (resp, w') := w.answer r
    run (k resp) w'

/-- Let the handler run to its end once the session is over. -/
def finishHandler (w : World) : World :=
  let (h, p) := w.handler.advance w.pipe
  let (h, p) := h.advance p
  { w with handler := h, pipe := p }

end World

end Tftp
