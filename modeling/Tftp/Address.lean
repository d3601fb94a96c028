import Tftp.Fault

/-! # Addresses

    A UDP endpoint is a host and a port; messages show it as the literal pair `('host', port)`. -/

namespace Tftp

/-- A UDP endpoint. -/
structure Address where
  host : Text
  port : Int
  deriving DecidableEq, Inhabited

namespace Address

/-- The literal pair of host and port. -/
def literal (a : Address) : String :=
  "(" ++ Literal.quote a.host ++ ", " ++ toString a.port ++ ")"

end Address

end Tftp
