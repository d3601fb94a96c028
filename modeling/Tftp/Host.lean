import Tftp.Ip
import Tftp.Fault
import Tftp.Text.Idna

/-! # Binding a socket on the host

    A server binds its socket to a numeric address of the host it runs on.  The host here has a
    single network interface, the loopback `lo` with index 1, which carries the IPv4 block
    127.0.0.0/8 and no IPv6 address at all, and it lets sockets bind IPv4 addresses that are not
    its own (non-local binding), but not IPv6 ones.

    Binding takes two steps.  First the zone of an IPv6 address is resolved: for a link-scoped
    address it may name an interface; otherwise it must be a decimal index below `2 ^ 32`.  The
    resolved index is not handed on: the socket is bound with no interface.  Then the kernel
    checks the address:

    * IPv4: any address is accepted where non-local binding is allowed; otherwise the block
      0.0.0.0/8 (the unspecified address included), the limited broadcast address and multicast
      224.0.0.0/4 are accepted, and any other address must be local.
    * IPv6: the unspecified address `::` is accepted, and an IPv4-mapped address `::ffff:a.b.c.d`
      follows the IPv4 rule.  A link-scoped address needs an interface, and none is given; any
      other multicast address is accepted; any other address must be local.

    An address is link-scoped when it is link-local unicast (fe80::/10) or multicast (ff00::/8)
    whose scope, the low four bits of its second byte, is the interface (1) or the link (2),
    whatever its flags. -/

namespace Tftp

/-- A network interface: its name and index. -/
structure Interface where
  name : String
  index : Nat
  deriving DecidableEq, Repr

/-- An address block: the address and the length of its prefix in bits. -/
structure Block where
  base : Nat
  prefixLength : Nat
  deriving DecidableEq, Repr

/-- The block holds the address of `width` bits. -/
def Block.holds (b : Block) (width : Nat) (a : Nat) : Bool :=
  let unit := Nat.pow 2 (width - b.prefixLength)
  a / unit == b.base / unit

/-- The machine a server runs on: its interfaces, the addresses local to it, and whether it
    lets a socket bind an IPv4 address that is not local. -/
structure Host where
  interfaces : List Interface
  local4 : List Block
  local6 : List Block
  nonlocalBind4 : Bool
  deriving Repr

/-- Why a bind fails. -/
inductive BindError where
  /-- the address is not the host's -/
  | unavailable
  /-- the address needs an interface -/
  | needsInterface
  /-- the zone names no interface and is no index -/
  | unknownZone
  deriving DecidableEq, Repr

/-- The error as the host reports it. -/
def BindError.failure : BindError → Failure
  | .unavailable => Failure.ofHost .os "[Errno 99] Cannot assign requested address"
  | .needsInterface => Failure.ofHost .os "[Errno 22] Invalid argument"
  | .unknownZone => Failure.ofHost .addressLookup "[Errno -2] Name or service not known"

namespace Host

/-- A host with only the loopback interface and no IPv6 address, which binds IPv4 addresses that
    are not its own. -/
def loopbackOnly : Host :=
  ⟨[⟨"lo", 1⟩], [⟨0x7F000000, 8⟩], [], true⟩

/-- The first 16 bits of an IPv6 address. -/
def lead (a : Nat) : Nat := a / Nat.pow 2 112

/-- An IPv6 multicast address. -/
def isMulticast (a : Nat) : Bool := lead a / 256 == 0xFF

/-- An IPv6 address that only means something on one interface: link-local unicast, or
    multicast whose scope is the interface or the link. -/
def linkScoped (a : Nat) : Bool :=
  a / Nat.pow 2 118 == 0xFE80 / 64 || (isMulticast a && (lead a % 16 == 1 || lead a % 16 == 2))

/-- The code point is an ASCII digit. -/
def isDigit (n : Nat) : Bool := '0'.toNat ≤ n && n ≤ '9'.toNat

/-- The value of a text of decimal digits. -/
def decimal (t : Text) : Nat :=
  t.points.foldl (fun v n => v * 10 + (n - '0'.toNat)) 0

/-- A zone resolves: it names an interface where the address allows it, or it is a decimal
    index below `2 ^ 32`. -/
def resolves (h : Host) (a : Nat) (zone : Text) : Bool :=
  (linkScoped a && h.interfaces.any (Text.ofString ·.name == zone))
    || (!zone.isEmpty && zone.points.all isDigit && decimal zone < Nat.pow 2 32)

/-- The IPv4 rule: any address where non-local binding is allowed; otherwise the zero block, the
    limited broadcast address, multicast, or a local address. -/
def accepts4 (h : Host) (a : Nat) : Bool :=
  h.nonlocalBind4 || a / Nat.pow 2 24 == 0 || a == 0xFFFFFFFF || a / Nat.pow 2 28 == 0xE
    || h.local4.any (·.holds 32 a)

/-- Check an address for a socket to bind to. -/
def bind (h : Host) : Ip → Except BindError Unit
  | .v4 a => if h.accepts4 a then .ok () else .error .unavailable
  | .v6 a zone =>
    if zone.any (fun z => !h.resolves a z) then .error .unknownZone
    else if a == 0 then .ok ()
    else if a / Nat.pow 2 32 == 0xFFFF then
      if h.accepts4 (a % Nat.pow 2 32) then .ok () else .error .unavailable
    else if linkScoped a then .error .needsInterface
    else if isMulticast a then .ok ()
    else if h.local6.any (·.holds 128 a) then .ok ()
    else .error .unavailable

/-- Bind a server to an address: the family of its socket, or why the address is no numeric
    address or cannot be bound.  The socket is bound to the address as the resolver reads it:
    its ASCII form (`Idna.nameToAscii`), which must exist and hold no NUL, and which must be a
    numeric address again; a zone that IDNA changed names no interface. -/
def listen (h : Host) (address : Text) : Except Failure Family :=
  match Ip.parse? address with
  | none =>
    .error (Failure.ofHost .value (Literal.quote address ++ " does not appear to be an IPv4 or IPv6 address"))
  | some ip =>
    match Idna.nameToAscii address with
    | none => .error (Failure.ofHost .type "encoding of hostname failed")
    | some name =>
      if name.contains 0 then .error (Failure.ofHost .type "host name must not contain null character")
      else
        match Ip.parse? ⟨name⟩ with
        | none => .error BindError.unknownZone.failure
        | some resolved =>
          match h.bind resolved with
          | .ok () => .ok ip.family
          | .error e => .error e.failure

end Host

end Tftp
