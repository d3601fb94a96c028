import Tftp.Session.Run

/-! # The client

    A client downloads a file with a read request (`get`) or uploads one with a write request
    (`put`).  Each transfer runs a session that opens it with the request to the server's
    address; the server answers from a port of its own, to which the session then pins.  A
    download hands the file to a handler that reads it from the pipe, an upload takes it from a
    handler that writes it into the pipe.  Without a mode the transfer is in octet mode. -/

namespace Tftp

/-- What a client asks the server for. -/
inductive Method where
  /-- download a file -/
  | get
  /-- upload a file -/
  | put
  deriving DecidableEq, Repr, Inhabited

namespace Client

/-- The role of the client's session: a download receives, an upload sends. -/
def roleOf : Method → RoleKind
  | .get => .receiver
  | .put => .sender

/-- The session of a client transfer of `filename` with the server at `server`. -/
def setup (method : Method) (server : Address) (filename : Value) (mode : Option Value)
    (policy : RetryPolicy) : Setup :=
  ⟨roleOf method, true, server, filename, mode.getD (.str modeOctet), policy, none⟩

end Client

end Tftp
