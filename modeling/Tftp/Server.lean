import Tftp.Session.Run
import Tftp.Pipe.Script

/-! # The server

    A server listens for requests.  A datagram that does not decode is ignored.  A read request
    starts a sending session and a write request a receiving one, each on a socket of its own,
    with the requester as its peer from the start; a handler produces or consumes the file on
    the other end of the pipe.  Any other packet is answered from the listener with ERROR 4,
    "Expected a read or write request", and a failure to send that answer is ignored.

    A server that was given no handler for a kind of request refuses it: the handler raises
    that such requests are not supported, which the session reports to the peer. -/

namespace Tftp

namespace Server

/-- What the listener does with one datagram. -/
inductive Dispatch where
  /-- drop it: it is no packet -/
  | ignore
  /-- answer it from the listener with this datagram -/
  | refuse (reply : List UInt8)
  /-- start a session of a role for a file in a mode -/
  | serve (kind : RoleKind) (filename mode : String)
  deriving Inhabited

/-- The answer to a packet that is no request. -/
def refusal : Packet := .error ErrorCode.illegalOperation "Expected a read or write request"

/-- What the listener does with a datagram. -/
def dispatch (datagram : List UInt8) : Dispatch :=
  match Packet.decode datagram with
  | .error _ => .ignore
  | .ok (.rrq filename mode) => .serve .sender filename mode
  | .ok (.wrq filename mode) => .serve .receiver filename mode
  | .ok _ =>
    match refusal.encode with
    | .ok reply => .refuse reply
    | .error _ => .ignore

/-- The session that serves a request from `peer`. -/
def setup (kind : RoleKind) (filename mode : String) (peer : Address) (policy : RetryPolicy) :
    Setup :=
  ⟨kind, false, peer, .str filename, .str mode, policy, none⟩

/-- The handler of a server that serves no requests of a kind. -/
def refusingHandler : RoleKind → List Op
  | .sender => [.raise (Failure.ofHost .notImplemented "read requests are not supported")]
  | .receiver => [.raise (Failure.ofHost .notImplemented "write requests are not supported")]

end Server

end Tftp
