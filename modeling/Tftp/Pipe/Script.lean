import Tftp.Pipe.Basic
import Tftp.Value.Arithmetic

/-! # Scripts on a pipe end

    A script is a thread that performs a list of operations on one end of a pipe and records
    what each gave.  Writes and reads go through the pipe's calls; closing an end, asking whether
    it is closed and reading no bytes return at once.  An operation that fails records its
    failure and the script goes on.  When the list is done the script closes its end cleanly;
    an operation that raises closes the end with that error and stops the script.

    `Script.step` is one atomic step of the thread; it is `none` when the thread has finished
    or waits for the other end. -/

namespace Tftp

/-- The end of the pipe a thread holds. -/
inductive Side where
  | writer
  | reader
  deriving DecidableEq, Repr, Inhabited

/-- The name of the end, as messages show it. -/
def Side.name : Side → String
  | .writer => "PipeWriter"
  | .reader => "PipeReader"

/-- An operation of a script on its end. -/
inductive Op where
  /-- write bytes -/
  | write (data : List UInt8)
  /-- read at most `size` bytes: nothing or a negative number reads to the end of the stream,
      zero reads no bytes, and a size that is no number cannot be compared with zero -/
  | read (size : Value)
  /-- close the end cleanly -/
  | close
  /-- close the end with an error -/
  | closeWithError (e : Failure)
  /-- ask whether the end is closed -/
  | isClosed
  /-- raise an error, which closes the end with it and stops the script -/
  | raise (e : Failure)
  deriving Inhabited

/-- What an operation gave. -/
inductive Outcome where
  | wrote (n : Nat)
  | read (data : List UInt8)
  | closed
  | flag (b : Bool)
  | failed (e : Failure)
  | raised (e : Failure)
  deriving Inhabited

/-- A thread working through its operations on one end. -/
structure Script where
  side : Side
  ops : List Op
  /-- the pipe call in progress, if any -/
  call : Option Call
  /-- what the finished operations gave, in order -/
  results : List Outcome
  finished : Bool
  deriving Inhabited

namespace Script

/-- A script that has not begun. -/
def start (side : Side) (ops : List Op) : Script := ⟨side, ops, none, [], false⟩

/-- The outcome of a call that returned. -/
def outcomeOf : Except Failure Reply → Outcome
  | .ok (.bytes b) => .read b
  | .ok (.count n) => .wrote n
  | .error e => .failed e

/-- The script's own end is closed. -/
def ownClosed (s : Script) (p : Pipe) : Bool :=
  match s.side with
  | .writer => p.writer.isClosed
  | .reader => p.reader.isClosed

/-- Close the script's own end. -/
def closeOwn (s : Script) (e : Option Failure) (p : Pipe) : Pipe :=
  match s.side with
  | .writer => p.closeWriter e
  | .reader => p.closeReader e

/-- Record an outcome and go on with the next operation. -/
def record (s : Script) (o : Outcome) : Script :=
  { s with call := none, results := s.results ++ [o] }

/-- The script after one step of its call. -/
def afterCall (s : Script) : CallStep → Script × Pipe
  | .returns r p => (s.record (outcomeOf r), p)
  | .continues c p => ({ s with call := some c }, p)

/-- The failure of an operation that the end does not offer. -/
def missing (side : Side) (what : String) : Failure :=
  Failure.ofHost .attribute ("'" ++ side.name ++ "' object has no attribute '" ++ what ++ "'")

/-- The failure of comparing a read size that is no number with zero. -/
def unordered (size : Value) : Failure :=
  Failure.ofHost .type ("'<' not supported between instances of '" ++ size.typeName
    ++ "' and 'int'")

/-- Begin an operation: it returns at once, or its call takes its first step. -/
def begin (s : Script) (op : Op) (p : Pipe) : Script × Pipe :=
  match op, s.side with
  | .write data, .writer => s.afterCall ((Call.write data).step p)
  | .write _, .reader => (s.record (.failed (missing .reader "write")), p)
  | .read size, .reader =>
    match size, size.toNumber? with
    | .none, _ => s.afterCall ((Call.readAll [] false).step p)
    | _, none => (s.record (.failed (unordered size)), p)
    | _, some n =>
      if n.isNeg then s.afterCall ((Call.readAll [] false).step p)
      else if n.eqInt 0 then (s.record (.read []), p)
      else
        let cut : Cut := match n with
          | .int k => .upTo k.toNat
          | .float _ => .unusable
        s.afterCall ((Call.read cut false).step p)
  | .read _, .writer => (s.record (.failed (missing .writer "read")), p)
  | .close, _ => (s.record .closed, s.closeOwn none p)
  | .closeWithError e, _ => (s.record .closed, s.closeOwn (some e) p)
  | .isClosed, _ => (s.record (.flag (s.ownClosed p)), p)
  | .raise e, _ => ({ s.record (.raised e) with finished := true }, s.closeOwn (some e) p)

/-- One atomic step of the script, or `none` when it has finished or waits. -/
def step (s : Script) (p : Pipe) : Option (Script × Pipe) :=
  if s.finished then none
  else
    match s.call with
    | some c => if c.enabled p then some (s.afterCall (c.step p)) else none
    | none =>
      match s.ops with
      | [] => some ({ s with finished := true }, s.closeOwn none p)
      | op :: rest => some ({ s with ops := rest }.begin op p)

/-- Steps until the script finishes or waits, at most `fuel` of them. -/
def settle : Nat → Script → Pipe → Script × Pipe
  | 0, s, p => (s, p)
  | fuel + 1, s, p =>
    match s.step p with
    | some (s', p') => settle fuel s' p'
    | none => (s, p)

/-- Steps enough for a script to finish or wait while the other end stands still: each
    operation takes at most three steps, and closing the end one more. -/
def budget (s : Script) : Nat := 3 * s.ops.length + 6

/-- Run the script until it finishes or waits for the other end. -/
def advance (s : Script) (p : Pipe) : Script × Pipe :=
  settle s.budget s p

/-- The results without the error a raising operation recorded. -/
def completedResults (s : Script) : List Outcome :=
  s.results.filter fun o => match o with
    | .raised _ => false
    | _ => true

end Script

end Tftp
