import Tftp.Server
import Tftp.Simulation.Transfer

/-! # A server against scripted sockets

    A server receives datagrams on its listener one by one, each on a clock reset to 0 that the
    datagram's delay moves; a receive of the listener that fails ends the server with that
    failure.  Each session it starts asks for a socket of its own; the `i`-th socket it asks for
    follows the `i`-th socket script, which may refuse to be bound, in which case no session
    starts.  A session that cannot be created does not start either, and its socket is spent.
    Sends from the listener fail at the positions given, counted over all datagrams.  Each
    session and its handler run to their end before the next datagram, on the clock of the
    datagram that started it. -/

namespace Tftp

/-- How a transfer socket that a server asks for behaves. -/
inductive SocketScript where
  /-- binding the socket fails, for a reason -/
  | unbound (reason : String)
  /-- the socket answers receives from events; sends at the given positions fail -/
  | scripted (events : List NetEvent) (failingSends : List Nat)
  deriving Inhabited

/-- The handlers of a server: operations for read requests and for write requests, when it
    serves them. -/
structure Handlers where
  onRead : Option (List Op)
  onWrite : Option (List Op)
  deriving Inhabited

/-- A session that a datagram started, with the request it serves. -/
structure Served where
  kind : RoleKind
  filename : String
  mode : String
  peer : Address
  /-- a configured handler was called for the request -/
  handlerCalled : Bool
  transfer : Transfer
  deriving Inhabited

/-- What one datagram on the listener led to. -/
structure Reception where
  /-- the listener's sends -/
  listenerSent : List SocketRecord
  session : Option Served
  deriving Inhabited

namespace Handlers

/-- The handler for a request of a role, and whether it is a configured one. -/
def pick (h : Handlers) (kind : RoleKind) : List Op × Bool :=
  let configured := match kind with
    | .sender => h.onRead
    | .receiver => h.onWrite
  match configured with
  | some ops => (ops, true)
  | none => (Server.refusingHandler kind, false)

end Handlers

/-- The state of a scripted server between datagrams. -/
structure Listener where
  /-- the scripts of the sockets not yet asked for -/
  sockets : List SocketScript
  /-- how many sends the listener made -/
  sends : Nat
  failingSends : List Nat
  deriving Inhabited

namespace Listener

/-- Start the session that serves a request, on the next socket, at `clock`. -/
def start (l : Listener) (handlers : Handlers) (policy : RetryPolicy) (localAddress : Address)
    (clock : Number) (kind : RoleKind) (filename mode : String) (peer : Address) :
    Option Served × Listener :=
  let (script, rest) := match l.sockets with
    | [] => (SocketScript.scripted [] [], [])
    | s :: rest => (s, rest)
  let l' := { l with sockets := rest }
  match script with
  | .unbound _ => (none, l')
  | .scripted events failing =>
    let (ops, called) := handlers.pick kind
    let world := World.fresh clock events failing (some localAddress) peer
      (Script.start (Transfer.handlerSide kind) ops)
    match Transfer.run (Server.setup kind filename mode peer policy) world with
    | .ok t => (some ⟨kind, filename, mode, peer, called, t⟩, l')
    | .error _ => (none, l')

/-- Answer one datagram from `source` that arrived at `clock`. -/
def answer (l : Listener) (handlers : Handlers) (policy : RetryPolicy) (localAddress : Address)
    (clock : Number) (datagram : List UInt8) (source : Address) : Reception × Listener :=
  match Server.dispatch datagram with
  | .ignore => (⟨[], none⟩, l)
  | .refuse reply =>
    let failed := l.failingSends.contains l.sends
    (⟨[.sent reply source failed], none⟩, { l with sends := l.sends + 1 })
  | .serve kind filename mode =>
    let (served, l') := l.start handlers policy localAddress clock kind filename mode source
    (⟨[], served⟩, l')

/-- Receive the next event on the listener, on a clock reset to 0, and answer its datagram;
    a timeout or any other failure of the receive is the server's failure. -/
def receive (l : Listener) (handlers : Handlers) (policy : RetryPolicy) (localAddress : Address)
    (defaultSource : Address) (e : NetEvent) : Except Failure (Reception × Listener) :=
  match e.deliver 0 0 defaultSource with
  | (.timedOut, _) => .error (.host .timeout none)
  | (.failed f, _) => .error f
  | (.arrived bytes source, clock) => .ok (l.answer handlers policy localAddress clock bytes source)

/-- Receive events one after the other, up to the first failure. -/
def receiveAll (handlers : Handlers) (policy : RetryPolicy) (localAddress defaultSource : Address) :
    Listener → List NetEvent → Except Failure (List Reception)
  | _, [] => .ok []
  | l, e :: rest => do
    let (r, l') ← l.receive handlers policy localAddress defaultSource e
    let rs ← receiveAll handlers policy localAddress defaultSource l' rest
    pure (r :: rs)

end Listener

end Tftp
