import Tftp.Packet.Draft
import Tftp.Address

/-! # A scripted network

    A scripted socket answers each receive with the next event of its script: nothing arrives
    in time, the socket fails, or a datagram arrives.  A datagram's content is either given as
    bytes or drafted as a packet, which is written only when the datagram arrives; a draft that
    cannot be written fails that receive.  A datagram that names no content is empty.

    The clock moves when a receive times out, by the timeout the receiver asked for, and when a
    datagram comes late, by its delay.  A delay may be given as any value: a number moves the
    clock (a flag counts as 0 or 1), anything else cannot be added to it; a double and an integer
    too large for a double cannot be added either.  A failed move leaves the clock as it was and
    fails the receive. -/

namespace Tftp

/-- What a datagram holds: bytes, or a packet drafted by the script. -/
inductive Payload where
  | bytes (b : List UInt8)
  | packet (d : Draft)
  deriving Inhabited

/-- The bytes of a datagram, or why its draft cannot be written. -/
def Payload.encode : Payload → Except Failure (List UInt8)
  | .bytes b => .ok b
  | .packet d => d.encode.mapError EncodeError.failure

/-- What the network does at one receive. -/
inductive NetEvent where
  /-- nothing arrives in time -/
  | timeout
  /-- the socket fails, for a reason -/
  | failure (reason : Value)
  /-- a datagram arrives after `delay` seconds, from `source` or else from the default source -/
  | datagram (payload : Payload) (source : Option Address) (delay : Value)
  deriving Inhabited

namespace Number

/-- The name of the kind of a number. -/
def typeName : Number → String
  | .int _ => "int"
  | .float _ => "float"

/-- A clock moved by `amount` seconds. -/
def advance (clock : Number) (amount : Number) : Except Failure Number :=
  match clock.add? amount with
  | some t => .ok t
  | none => .error Failure.tooLarge

/-- A clock moved by an amount given as a value. -/
def advanceBy (clock : Number) (amount : Value) : Except Failure Number :=
  match amount.toNumber? with
  | some n => clock.advance n
  | none => .error (Failure.ofHost .type ("unsupported operand type(s) for +=: '"
      ++ clock.typeName ++ "' and '" ++ amount.typeName ++ "'"))

end Number

/-- What one receive delivers. -/
inductive Delivery where
  /-- nothing arrived in time -/
  | timedOut
  /-- a datagram arrived from a source -/
  | arrived (bytes : List UInt8) (source : Address)
  /-- the receive failed -/
  | failed (failure : Failure)
  deriving Inhabited

/-- What an event delivers to a receive that waits `timeout` seconds, with the clock after it. -/
def NetEvent.deliver (clock timeout : Number) (defaultSource : Address) :
    NetEvent → Delivery × Number
  | .timeout =>
    match clock.advance timeout with
    | .ok t => (.timedOut, t)
    | .error f => (.failed f, clock)
  | .failure reason => (.failed (.host .os (some reason)), clock)
  | .datagram payload source delay =>
    match clock.advanceBy delay with
    | .error f => (.failed f, clock)
    | .ok t =>
      match payload.encode with
      | .error f => (.failed f, t)
      | .ok bytes => (.arrived bytes (source.getD defaultSource), t)

end Tftp
