import Tftp.Protocol

/-! # Packets

    The five packets of RFC 1350.  A read or write request names a file and a transfer mode; a
    DATA packet carries a block number and up to 512 bytes; an ACK acknowledges a block; an ERROR
    packet carries an error code and a message.  Numbers are held as integers so that a caller
    may ask for any, and the encoder refuses those that do not fit 16 bits.  Every integer on
    the wire is a big-endian 16-bit word. -/

namespace Tftp

/-- A TFTP packet. -/
inductive Packet where
  | rrq (filename mode : String)
  | wrq (filename mode : String)
  | data (block : Int) (payload : List UInt8)
  | ack (block : Int)
  | error (code : Int) (message : String)
  deriving Inhabited, BEq

namespace Packet

/-- The kind of the packet. -/
def opcode : Packet → Opcode
  | .rrq .. => .rrq
  | .wrq .. => .wrq
  | .data .. => .data
  | .ack .. => .ack
  | .error .. => .error

/-- A DATA packet shorter than a full block ends a transfer. -/
def isLast : Packet → Bool
  | .data _ payload => payload.length < blockSize
  | _ => false

end Packet

/-- The big-endian 16-bit word of `n`, for `n < 65536`. -/
def word (n : Nat) : List UInt8 :=
  [(n / 256).toUInt8, (n % 256).toUInt8]

/-- The value of a big-endian 16-bit word. -/
def wordValue (hi lo : UInt8) : Nat :=
  hi.toNat * 256 + lo.toNat

end Tftp
