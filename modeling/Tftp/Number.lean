import Tftp.Decimal.Shortest

/-! # Numbers as callers write them

    A timeout, a delay or a retry count arrives either as an exact integer or as a binary64
    double, and the two kinds stay apart.  Arithmetic on two integers is exact; as soon as a
    double takes part, the integer is rounded to the nearest double and the operation is done
    in doubles.  That rounding fails for an integer beyond the largest double, so mixed
    arithmetic is partial (`Number.add?`, `Number.sub?`).  Comparisons with zero are exact for
    both kinds. -/

namespace Tftp

/-- The double nearest to `n` (a tie goes to the even significand), if that is finite: `n` is
    cut to its 53 leading bits, rounded on the bits cut off, and scaled back by a power of two,
    which is exact. -/
def doubleOfNat? (n : Nat) : Option Float :=
  let width := Nat.log2 n + 1
  if width ≤ 53 then some n.toUInt64.toFloat
  else
    let cut := width - 53
    let unit := Nat.pow 2 cut
    let q := n / unit
    let r := n % unit
    let half := unit / 2
    let q' := if r > half || (r == half && q % 2 == 1) then q + 1 else q
    if q' * unit ≥ Nat.pow 2 1024 then none else some (q'.toUInt64.toFloat.scaleB cut)

/-- The double nearest to `i`, if that is finite. -/
def doubleOfInt? (i : Int) : Option Float :=
  match i with
  | .ofNat n => doubleOfNat? n
  | .negSucc n => (doubleOfNat? (n + 1)).map Float.neg

/-- An exact integer or a binary64 double. -/
inductive Number where
  | int (n : Int)
  | float (x : Float)

namespace Number

instance : Inhabited Number := ⟨.int 0⟩

instance : OfNat Number n := ⟨.int n⟩

/-- The double nearest to the number, if that is finite. -/
def toFloat? : Number → Option Float
  | .int n => doubleOfInt? n
  | .float x => some x

/-- Sum: exact on two integers, in doubles otherwise; none when an integer has no double. -/
def add? : Number → Number → Option Number
  | .int a, .int b => some (.int (a + b))
  | a, b => do pure (.float ((← a.toFloat?) + (← b.toFloat?)))

/-- Difference: exact on two integers, in doubles otherwise; none when an integer has no
    double. -/
def sub? : Number → Number → Option Number
  | .int a, .int b => some (.int (a - b))
  | a, b => do pure (.float ((← a.toFloat?) - (← b.toFloat?)))

/-- The number is zero or below (a NaN is not). -/
def isNonpos : Number → Bool
  | .int n => decide (n ≤ 0)
  | .float x => x ≤ 0

/-- The number is below zero (a NaN is not). -/
def isNeg : Number → Bool
  | .int n => decide (n < 0)
  | .float x => x < 0

end Number

/-- The integer part of a finite double, rounded toward zero; NaN and the infinities give 0. -/
def truncateDouble (x : Float) : Int :=
  if x.isNaN || x.isInf then 0
  else
    let b := Decimal.Binary.ofBits x.toBits
    let magnitude := if 0 ≤ b.q then b.m * Nat.pow 2 b.q.toNat else b.m / Nat.pow 2 (-b.q).toNat
    if x < 0 then -(magnitude : Int) else magnitude

namespace Number

/-- The integer part, rounded toward zero. -/
def truncate : Number → Int
  | .int n => n
  | .float x => truncateDouble x

end Number

end Tftp
