import Tftp.Packet.Basic
import Tftp.Fault
import Tftp.Text.Latin1

/-! # Writing packets

    `Packet.encode` writes a packet as a datagram or names the first field that cannot be written.
    Requests write the file name and then the mode, each in Latin-1 and closed by a NUL, so
    neither may hold a NUL or a character beyond Latin-1.  DATA and ACK check that the block
    number fits 16 bits, and DATA then that the payload fits a block.  ERROR checks its code;
    its message is never refused: a NUL becomes a space and a character beyond Latin-1 a question
    mark. -/

namespace Tftp

/-- Why a packet, or what was offered as one, cannot be written. -/
inductive EncodeError where
  /-- a 16-bit field holds a number outside 0..65535, shown as a literal -/
  | outOfRange (field : String) (shown : String)
  /-- a payload longer than a block -/
  | oversized (size : Nat)
  /-- a request text holds a NUL; the text is shown as a literal -/
  | nulByte (shown : String)
  /-- a request text holds characters beyond Latin-1, from `start` up to `stop` -/
  | unwritable (text : Text) (start stop : Nat)
  /-- the object offered is no packet, shown as a literal -/
  | notPacket (shown : String)
  /-- a 16-bit field holds something that is no number -/
  | notComparable (typeName : String)
  /-- a 16-bit field holds a number that is no integer -/
  | notInteger
  /-- a request text is something that holds no characters -/
  | notIterable (typeName : String)
  /-- a text field is something that cannot be written as text -/
  | noAttribute (typeName : String) (member : String)

namespace EncodeError

/-- The error as a failure of the host: its class and its text. -/
def failure : EncodeError → Failure
  | .outOfRange field shown => Failure.ofHost .value (field ++ " out of range: " ++ shown)
  | .oversized n => Failure.ofHost .value ("payload of " ++ toString n ++ " bytes exceeds the block size")
  | .nulByte shown => Failure.ofHost .value ("NUL byte in " ++ shown)
  | .unwritable text start stop =>
    let what :=
      if stop = start + 1 then
        "character '" ++ Literal.hexEscape (text.points.getD start 0) ++ "' in position "
          ++ toString start
      else "characters in position " ++ toString start ++ "-" ++ toString (stop - 1)
    Failure.ofHost .unicodeEncode ("'latin-1' codec can't encode " ++ what ++ ": ordinal not in range(256)")
  | .notPacket shown => Failure.ofHost .type ("not a TFTP packet: " ++ shown)
  | .notComparable t => Failure.ofHost .type ("'<=' not supported between instances of 'int' and '" ++ t ++ "'")
  | .notInteger => Failure.ofHost .packing "required argument is not an integer"
  | .notIterable t => Failure.ofHost .type ("argument of type '" ++ t ++ "' is not iterable")
  | .noAttribute t a => Failure.ofHost .attribute ("'" ++ t ++ "' object has no attribute '" ++ a ++ "'")

end EncodeError

/-- A 16-bit field holds an integer in 0..65535. -/
def checkWord (field : String) (n : Int) : Except EncodeError Nat :=
  if 0 ≤ n ∧ n ≤ maxBlockNumber then .ok n.toNat else .error (.outOfRange field (toString n))

/-- A request text in Latin-1, closed by a NUL. -/
def encodeRequestText (t : Text) : Except EncodeError (List UInt8) :=
  if t.contains '\x00' then .error (.nulByte (Literal.quote t))
  else
    match t.encodeLatin1 with
    | .error (start, stop) => .error (.unwritable t start stop)
    | .ok bytes => .ok (bytes ++ [0])

/-- An ERROR message, closed by a NUL: a NUL in it becomes a space and a code point beyond
    Latin-1 a question mark. -/
def encodeMessage (t : Text) : List UInt8 :=
  Text.encodeLatin1Lossy ⟨t.points.map fun n => if n = 0 then 32 else n⟩ ++ [0]

namespace Packet

/-- The datagram of a packet, or the first field that cannot be written. -/
def encode : Packet → Except EncodeError (List UInt8)
  | .rrq filename mode => do
    let f ← encodeRequestText filename
    let m ← encodeRequestText mode
    pure (word Opcode.rrq.code ++ f ++ m)
  | .wrq filename mode => do
    let f ← encodeRequestText filename
    let m ← encodeRequestText mode
    pure (word Opcode.wrq.code ++ f ++ m)
  | .data block payload => do
    let b ← checkWord "block number" block
    if payload.length > blockSize then throw (.oversized payload.length)
    pure (word Opcode.data.code ++ word b ++ payload)
  | .ack block => do
    let b ← checkWord "block number" block
    pure (word Opcode.ack.code ++ word b)
  | .error code message => do
    let c ← checkWord "error code" code
    pure (word Opcode.error.code ++ word c ++ encodeMessage message)

end Packet

end Tftp
