import Tftp.Packet.Encode

/-! # Packets assembled by a caller

    A caller may assemble a packet from values of any kind, or offer something that is no packet
    at all.  `Draft.encode` checks such a draft in the order in which the fields are written and
    reports the first field that cannot be: a number outside 16 bits, then (for DATA) an
    oversized payload, then a number that is no integer; a request text that holds a NUL or
    characters beyond Latin-1, or that is no text; an ERROR message that is no text.  A draft
    whose fields are all of the right kind encodes as the packet it stands for. -/

namespace Tftp

/-- A packet as a caller assembles it, with fields of any kind, or another object. -/
inductive Draft where
  | rrq (filename mode : Value)
  | wrq (filename mode : Value)
  | data (block : Value) (payload : List UInt8)
  | ack (block : Value)
  | error (code : Value) (message : Value)
  | other (v : Value)

namespace Draft

/-- A 16-bit field is a number within 0..65535. -/
def checkField (field : String) (v : Value) : Except EncodeError Number :=
  match v.toNumber? with
  | none => .error (.notComparable v.typeName)
  | some n =>
    let inRange := match n with
      | .int i => decide (0 ≤ i ∧ i ≤ maxBlockNumber)
      | .float x => 0 ≤ x && x ≤ 65535
    if inRange then .ok n else .error (.outOfRange field (Literal.value v))

/-- A number in range is written as a word only when it is an integer. -/
def wholeField : Number → Except EncodeError Nat
  | .int i => .ok i.toNat
  | .float _ => .error .notInteger

/-- The value holds a NUL among its characters, items or keys. -/
def holdsNul : Value → Bool
  | .str s => s.contains '\x00'
  | .list items => items.any fun v => match v with | .str s => s == Text.ofString "\x00" | _ => false
  | .tuple items => items.any fun v => match v with | .str s => s == Text.ofString "\x00" | _ => false
  | .dict entries => entries.any fun e => e.1 == "\x00"
  | _ => false

/-- A request field written as text. -/
def requestText (v : Value) : Except EncodeError (List UInt8) :=
  match v with
  | .str s => encodeRequestText s
  | .list _ | .tuple _ | .dict _ =>
    if holdsNul v then .error (.nulByte (Literal.value v)) else .error (.noAttribute v.typeName "encode")
  | _ => .error (.notIterable v.typeName)

/-- The datagram of a draft, or the first field that cannot be written. -/
def encode : Draft → Except EncodeError (List UInt8)
  | .rrq filename mode => do
    let f ← requestText filename
    let m ← requestText mode
    pure (word Opcode.rrq.code ++ f ++ m)
  | .wrq filename mode => do
    let f ← requestText filename
    let m ← requestText mode
    pure (word Opcode.wrq.code ++ f ++ m)
  | .data block payload => do
    let n ← checkField "block number" block
    if payload.length > blockSize then throw (.oversized payload.length)
    let b ← wholeField n
    pure (word Opcode.data.code ++ word b ++ payload)
  | .ack block => do
    let b ← wholeField (← checkField "block number" block)
    pure (word Opcode.ack.code ++ word b)
  | .error code message => do
    let c ← wholeField (← checkField "error code" code)
    match message with
    | .str s => pure (word Opcode.error.code ++ word c ++ encodeMessage s)
    | v => throw (.noAttribute v.typeName "replace")
  | .other v => .error (.notPacket (Literal.value v))

/-- The draft of a packet, its numbers and texts as values. -/
def ofPacket : Packet → Draft
  | .rrq filename mode => .rrq (.str filename) (.str mode)
  | .wrq filename mode => .wrq (.str filename) (.str mode)
  | .data block payload => .data (.int block) payload
  | .ack block => .ack (.int block)
  | .error code message => .error (.int code) (.str message)

end Draft

end Tftp
