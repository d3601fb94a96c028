import Tftp.Packet.Basic
import Tftp.Fault
import Tftp.Text.Latin1

/-! # Reading packets

    `Packet.decode` reads a datagram.  The first word is the opcode.  A request holds two
    NUL-terminated Latin-1 texts, the file name and the mode, and anything after them (request
    options) is ignored.  DATA holds a block number and at most 512 bytes of payload; ACK holds a
    block number and trailing bytes are ignored; ERROR holds a code and a NUL-terminated message.
    Every other datagram is malformed, and the malformation says why. -/

namespace Tftp

/-- Why a datagram is no packet. -/
inductive Malformation where
  | tooShort (size : Nat)
  | unknownOpcode (code : Nat)
  | missingNul
  | dataTooShort (size : Nat)
  | ackTooShort (size : Nat)
  | errorTooShort (size : Nat)
  | payloadTooLong (size : Nat)
  deriving DecidableEq, Repr

namespace Malformation

/-- The message of a malformation. -/
def message : Malformation → String
  | .tooShort n => "packet too short: " ++ toString n ++ " bytes"
  | .unknownOpcode c => "unknown opcode " ++ toString c
  | .missingNul => "missing NUL terminator"
  | .dataTooShort n => "DATA packet too short: " ++ toString n ++ " bytes"
  | .ackTooShort n => "ACK packet too short: " ++ toString n ++ " bytes"
  | .errorTooShort n => "ERROR packet too short: " ++ toString n ++ " bytes"
  | .payloadTooLong n => "DATA payload too long: " ++ toString n ++ " bytes"

/-- The fault a malformation raises, with code 4 (illegal operation). -/
def fault (m : Malformation) : Fault :=
  Fault.make .malformedPacket m.message none

end Malformation

/-- The bytes before the first NUL, read as Latin-1, and the bytes after it. -/
def splitText (bs : List UInt8) : Except Malformation (String × List UInt8) :=
  match bs.idxOf? 0 with
  | none => .error .missingNul
  | some i => .ok (Text.decodeLatin1 (bs.take i), bs.drop (i + 1))

namespace Packet

/-- The two texts of a request and the packet they make. -/
def decodeRequest (make : String → String → Packet) (body : List UInt8) :
    Except Malformation Packet := do
  let (filename, rest) ← splitText body
  let (mode, _) ← splitText rest
  pure (make filename mode)

/-- The packet a datagram holds, or why it holds none. -/
def decode (d : List UInt8) : Except Malformation Packet :=
  match d with
  | hi :: lo :: body =>
    match Opcode.ofCode? (wordValue hi lo) with
    | none => .error (.unknownOpcode (wordValue hi lo))
    | some .rrq => decodeRequest .rrq body
    | some .wrq => decodeRequest .wrq body
    | some .data =>
      match body with
      | b1 :: b2 :: payload =>
        if payload.length > blockSize then .error (.payloadTooLong payload.length)
        else .ok (.data (wordValue b1 b2) payload)
      | _ => .error (.dataTooShort d.length)
    | some .ack =>
      match body with
      | b1 :: b2 :: _ => .ok (.ack (wordValue b1 b2))
      | _ => .error (.ackTooShort d.length)
    | some .error =>
      match body with
      | c1 :: c2 :: text@(_ :: _) => do
        let (message, _) ← splitText text
        pure (.error (wordValue c1 c2) message)
      | _ => .error (.errorTooShort d.length)
  | _ => .error (.tooShort d.length)

end Packet

end Tftp
