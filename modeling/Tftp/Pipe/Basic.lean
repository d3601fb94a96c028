import Tftp.Fault

/-! # The rendezvous pipe

    A pipe joins a writer thread and a reader thread with no buffer.  A write parks its bytes in
    the pipe and returns only once reads have taken all of them; a read takes at most what
    remains of the one write in flight.  A write of no bytes returns once a read is waiting, and
    that read goes on waiting.  Each end is closed once, cleanly or with an error; closing it
    again changes nothing.  After the writer closed, a read that finds nothing pending returns
    no bytes or raises the writer's error; after the reader closed, every write raises the
    reader's error, or a broken pipe.

    The shared state is `Pipe`.  A call on an end goes through atomic steps (`Call.step`), each
    one pass of the call's loop under the pipe's lock, and a call that has to wait is `enabled`
    again only when the other end changed what it waits for. -/

namespace Tftp

/-- One end of the pipe: open, or closed with or without an error. -/
inductive EndState where
  | open
  | closed (error : Option Failure)
  deriving Inhabited

namespace EndState

/-- The end is closed. -/
def isClosed : EndState → Bool
  | .open => false
  | .closed _ => true

/-- Closing an end: the first close decides, a later one changes nothing. -/
def close (e : Option Failure) : EndState → EndState
  | .open => .closed e
  | s => s

end EndState

/-- The state shared by the two ends. -/
structure Pipe where
  /-- the unread rest of the write in flight; empty when no write is in flight -/
  pending : List UInt8
  /-- how many reads wait for bytes -/
  waitingReads : Nat
  reader : EndState
  writer : EndState
  deriving Inhabited

/-- Reading from a closed reader end. -/
def Failure.readFromClosed : Failure := Failure.ofHost .value "read from closed pipe"

/-- Writing to a closed writer end. -/
def Failure.writeToClosed : Failure := Failure.ofHost .value "write to closed pipe"

/-- Writing after the reader end was closed without an error. -/
def Failure.brokenPipe : Failure := Failure.ofHost .brokenPipe "read end of the pipe is closed"

namespace Pipe

/-- A new pipe: nothing pending, both ends open. -/
def fresh : Pipe := ⟨[], 0, .open, .open⟩

/-- Why a write cannot go on: the writer end is closed, or the reader end is, with its error or
    as a broken pipe. -/
def unwritable (p : Pipe) : Option Failure :=
  match p.writer, p.reader with
  | .closed _, _ => some .writeToClosed
  | .open, .closed (some e) => some e
  | .open, .closed none => some .brokenPipe
  | .open, .open => none

/-- Close the reader end. -/
def closeReader (e : Option Failure) (p : Pipe) : Pipe := { p with reader := p.reader.close e }

/-- Close the writer end. -/
def closeWriter (e : Option Failure) (p : Pipe) : Pipe := { p with writer := p.writer.close e }

end Pipe

/-- How much of the write in flight a read takes: at most a number of bytes, or nothing at all
    because its size is no whole number, which fails the read once there are bytes to take. -/
inductive Cut where
  | upTo (size : Nat)
  | unusable
  deriving Inhabited

/-- Taking bytes with a size that is no whole number. -/
def Failure.unusableCut : Failure :=
  Failure.ofHost .type "slice indices must be integers or None or have an __index__ method"

/-- A call on one end of the pipe that may have to wait for the other end. -/
inductive Call where
  /-- reading what the cut takes; `waiting` once counted among the waiting reads -/
  | read (cut : Cut) (waiting : Bool)
  /-- reading to the end of the stream, with the bytes gathered so far -/
  | readAll (gathered : List UInt8) (waiting : Bool)
  /-- writing bytes, not begun yet -/
  | write (data : List UInt8)
  /-- a write of `size` bytes whose rest is pending until read -/
  | drain (size : Nat)
  /-- a write of no bytes, waiting until a read waits -/
  | awaitRead
  deriving Inhabited

/-- What a call returns: the bytes read, or the number of bytes written. -/
inductive Reply where
  | bytes (data : List UInt8)
  | count (n : Nat)
  deriving Inhabited

/-- One atomic step of a call: the call returns, or it goes on as another call. -/
inductive CallStep where
  | returns (result : Except Failure Reply) (pipe : Pipe)
  | continues (call : Call) (pipe : Pipe)

namespace Call

/-- The call can take a step: it has not begun waiting, or what it waits for has happened. -/
def enabled : Call → Pipe → Bool
  | .read _ false, _ => true
  | .readAll _ false, _ => true
  | .write _, _ => true
  | .read _ true, p => !p.pending.isEmpty || p.writer.isClosed || p.reader.isClosed
  | .readAll _ true, p => !p.pending.isEmpty || p.writer.isClosed || p.reader.isClosed
  | .drain _, p => p.pending.isEmpty || p.reader.isClosed || p.writer.isClosed
  | .awaitRead, p => decide (p.waitingReads > 0) || p.unwritable.isSome

/-- A waiting read leaves the count of waiting reads when it wakes. -/
def wake (waiting : Bool) (p : Pipe) : Pipe :=
  if waiting then { p with waitingReads := p.waitingReads - 1 } else p

/-- One pass of a call's loop under the lock. -/
def step : Call → Pipe → CallStep
  | .read cut waiting, p₀ =>
    let p := wake waiting p₀
    match p.reader with
    | .closed _ => .returns (.error .readFromClosed) p
    | .open =>
      if !p.pending.isEmpty then
        match cut with
        | .upTo size =>
          .returns (.ok (.bytes (p.pending.take size))) { p with pending := p.pending.drop size }
        | .unusable => .returns (.error .unusableCut) p
      else
        match p.writer with
        | .closed (some e) => .returns (.error e) p
        | .closed none => .returns (.ok (.bytes [])) p
        | .open => .continues (.read cut true) { p with waitingReads := p.waitingReads + 1 }
  | .readAll gathered waiting, p₀ =>
    let p := wake waiting p₀
    match p.reader with
    | .closed _ => .returns (.error .readFromClosed) p
    | .open =>
      if !p.pending.isEmpty then
        .continues (.readAll (gathered ++ p.pending) false) { p with pending := [] }
      else
        match p.writer with
        | .closed (some e) => .returns (.error e) p
        | .closed none => .returns (.ok (.bytes gathered)) p
        | .open => .continues (.readAll gathered true) { p with waitingReads := p.waitingReads + 1 }
  | .write data, p =>
    match p.unwritable with
    | some e => .returns (.error e) p
    | none =>
      if data.isEmpty then
        if p.waitingReads > 0 then .returns (.ok (.count 0)) p else .continues .awaitRead p
      else .continues (.drain data.length) { p with pending := data }
  | .drain size, p =>
    if p.pending.isEmpty then .returns (.ok (.count size)) p
    else if p.reader.isClosed || p.writer.isClosed then
      let p' := { p with pending := [] }
      .returns (.error (p'.unwritable.getD .brokenPipe)) p'
    else .continues (.drain size) p
  | .awaitRead, p =>
    match p.unwritable with
    | some e => .returns (.error e) p
    | none => if p.waitingReads > 0 then .returns (.ok (.count 0)) p else .continues .awaitRead p

end Call

end Tftp
