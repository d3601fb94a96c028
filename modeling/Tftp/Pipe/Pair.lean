import Tftp.Pipe.Script

/-! # Two scripts on one pipe

    A writer script and a reader script run on the two ends of a fresh pipe.  `Pair.run` lets
    the writer go until it finishes or waits, then the reader, and so on, until both have
    finished.  This is one interleaving of their atomic steps; the pipe's rendezvous makes the
    results the same for every interleaving. -/

namespace Tftp

/-- A writer script, a reader script and their pipe. -/
structure Pair where
  writer : Script
  reader : Script
  pipe : Pipe
  deriving Inhabited

namespace Pair

/-- Both scripts before their first step, on a fresh pipe. -/
def start (writerOps readerOps : List Op) : Pair :=
  ⟨Script.start .writer writerOps, Script.start .reader readerOps, Pipe.fresh⟩

/-- One round: the writer runs until it finishes or waits, then the reader. -/
def round (x : Pair) : Pair :=
  let (w, p) := x.writer.advance x.pipe
  let (r, p) := x.reader.advance p
  ⟨w, r, p⟩

/-- Rounds until both scripts have finished, at most `fuel` of them. -/
def rounds : Nat → Pair → Pair
  | 0, x => x
  | fuel + 1, x =>
    if x.writer.finished && x.reader.finished then x else rounds fuel x.round

/-- Enough rounds for both scripts: every round but the last completes an operation or takes a
    chunk of a write. -/
def budget (x : Pair) : Nat := 4 * (x.writer.ops.length + x.reader.ops.length) + 8

/-- Run both scripts to the end. -/
def run (writerOps readerOps : List Op) : Pair :=
  let x := start writerOps readerOps
  rounds x.budget x

end Pair

end Tftp
