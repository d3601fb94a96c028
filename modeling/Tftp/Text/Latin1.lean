import Tftp.Text.Basic

/-! # Latin-1 text

    Latin-1 writes each code point below 256 as the one byte of that value, and reads each byte
    back as the character of the same code point.  Code points beyond it, lone surrogates among
    them, cannot be written: strict writing reports the first run of them, lossy writing puts a
    question mark in the place of each. -/

namespace Tftp.Text

/-- The byte of a code point that Latin-1 can write. -/
def latin1Byte? (n : Nat) : Option UInt8 :=
  if n < 256 then some n.toUInt8 else none

/-- Positions from `i` on that hold code points Latin-1 cannot write, counted up to the first
    one it can write again; the end of the run. -/
def runEnd : List Nat → Nat → Nat
  | [], i => i
  | n :: rest, i => if n < 256 then i else runEnd rest (i + 1)

/-- The first run of code points that Latin-1 cannot write, as the position of its first
    code point and the position just after its last; `i` is the position of the list's head. -/
def firstUnwritable : List Nat → Nat → Option (Nat × Nat)
  | [], _ => none
  | n :: rest, i => if n < 256 then firstUnwritable rest (i + 1) else some (i, runEnd rest (i + 1))

/-- The Latin-1 bytes of a text, or the first run of code points that do not fit. -/
def encodeLatin1 (t : Text) : Except (Nat × Nat) (List UInt8) :=
  match firstUnwritable t.points 0 with
  | some run => .error run
  | none => .ok (t.points.map Nat.toUInt8)

/-- Lossy Latin-1: a code point that does not fit is written as a question mark. -/
def encodeLatin1Lossy (t : Text) : List UInt8 :=
  t.points.map fun n => (latin1Byte? n).getD 63

/-- Each byte read as the character of that code point. -/
def decodeLatin1 (bs : List UInt8) : String :=
  String.ofList (bs.map fun b => Char.ofNat b.toNat)

end Tftp.Text
