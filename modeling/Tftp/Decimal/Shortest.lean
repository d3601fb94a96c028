/-! # Shortest decimal digits of a binary64 value

    A finite double stands for the interval of reals that round to it.  The decimal printed for
    it is the one with the fewest significant digits inside that interval, and of two such
    decimals the nearer one; an exact tie goes to the even digit string.

    * `Binary.ofBits` decodes the bits into `m * 2 ^ q`.
    * `Binary.readsBack` is the specification: the decimal lies in the interval.
    * `Binary.shortest` searches the grids `10 ^ (k - n)` for `n = 1, 2, ...` digits, testing the
      two neighbours of the value on each grid, all in exact `Nat` arithmetic. -/

namespace Tftp.Decimal

/-- A finite non-negative binary64 value, `m * 2 ^ q`. -/
structure Binary where
  m : Nat
  q : Int
  /-- the gap to the value below is half the gap to the value above -/
  narrowBelow : Bool

/-- The magnitude of a finite value from its bits; NaN and the infinities are tested first. -/
def Binary.ofBits (b : UInt64) : Binary :=
  let e := ((b >>> 52) &&& 0x7FF).toNat
  let f := (b &&& 0xFFFFFFFFFFFFF).toNat
  if e == 0 then ⟨f, -1074, false⟩ else ⟨Nat.pow 2 52 + f, (e : Int) - 1075, f == 0 && e > 1⟩

/-- The decimal `digits * 10 ^ exp`. -/
structure Dec where
  digits : Nat
  exp : Int
  deriving Repr, DecidableEq

/-- Compare `a * 10 ^ i` with `n * 2 ^ j`, exactly. -/
def cmpScaled (a : Nat) (i : Int) (n : Nat) (j : Int) : Ordering :=
  compare (a * Nat.pow 10 i.toNat * Nat.pow 2 (-j).toNat) (n * Nat.pow 2 j.toNat * Nat.pow 10 (-i).toNat)

/-- The decimal lies among the reals that round to the value (to nearest, ties to even). -/
def Binary.readsBack (x : Binary) (d : Dec) : Bool :=
  let lo := if x.narrowBelow then 4 * x.m - 1 else 4 * x.m - 2
  let hi := 4 * x.m + 2
  let incl := x.m % 2 == 0
  let cl := cmpScaled d.digits d.exp lo (x.q - 2)
  let ch := cmpScaled d.digits d.exp hi (x.q - 2)
  (cl == .gt || (incl && cl == .eq)) && (ch == .lt || (incl && ch == .eq))

/-- Raise the estimate `k` while `10 ^ k` is at most the value, at most `fuel` times. -/
def Binary.scaleUp (x : Binary) : Nat → Int → Int
  | 0, k => k
  | fuel + 1, k => if cmpScaled 1 k x.m x.q == .gt then k else x.scaleUp fuel (k + 1)

/-- Lower the estimate `k` while `10 ^ (k - 1)` exceeds the value, at most `fuel` times. -/
def Binary.scaleDown (x : Binary) : Nat → Int → Int
  | 0, k => k
  | fuel + 1, k => if cmpScaled 1 (k - 1) x.m x.q == .gt then x.scaleDown fuel (k - 1) else k

/-- The least `k` with `m * 2 ^ q < 10 ^ k`, for a value above zero: an estimate from the
    binary logarithm (`78913 / 2 ^ 18` is just below `log10 2`), then exact corrections. -/
def Binary.scale (x : Binary) : Int :=
  let bits : Int := x.q + (Nat.log2 x.m : Int) + 1
  let est : Int := (bits * 78913) / 262144
  x.scaleDown 4 (x.scaleUp 4 est)

/-- `⌊m * 2 ^ q / 10 ^ p⌋`. -/
def Binary.floorOn (x : Binary) (p : Int) : Nat :=
  (x.m * Nat.pow 2 x.q.toNat * Nat.pow 10 (-p).toNat) / (Nat.pow 2 (-x.q).toNat * Nat.pow 10 p.toNat)

/-- Of two neighbours `c` and `c + 1` on the grid `10 ^ p`, the nearer to the value, the even
    one on a tie. -/
def Binary.nearer (x : Binary) (c : Nat) (p : Int) : Nat :=
  match cmpScaled (2 * c + 1) p (2 * x.m) x.q with
  | .lt => c + 1
  | .gt => c
  | .eq => if c % 2 == 0 then c else c + 1

/-- The decimal chosen on the grid `10 ^ p`, if one of the two neighbours reads back. -/
def Binary.onGrid (x : Binary) (p : Int) : Option Dec :=
  let c := x.floorOn p
  let lower := x.readsBack ⟨c, p⟩
  let upper := x.readsBack ⟨c + 1, p⟩
  if lower && upper then some ⟨x.nearer c p, p⟩
  else if lower then some ⟨c, p⟩
  else if upper then some ⟨c + 1, p⟩
  else none

/-- Search the grids for `n, n + 1, ...` significant digits, `fuel` grids at most. -/
def Binary.search (x : Binary) (k : Int) : Nat → Nat → Option Dec
  | 0, _ => none
  | fuel + 1, n =>
    match x.onGrid (k - n) with
    | some d => some d
    | none => x.search k fuel (n + 1)

/-- Move trailing zeros of the digits into the exponent, `fuel` at most. -/
def Dec.strip : Nat → Dec → Dec
  | 0, d => d
  | fuel + 1, d =>
    if d.digits != 0 && d.digits % 10 == 0 then Dec.strip fuel ⟨d.digits / 10, d.exp + 1⟩ else d

/-- The exact decimal value of `m * 2 ^ q`, which always reads back. -/
def Binary.exact (x : Binary) : Dec :=
  if 0 ≤ x.q then ⟨x.m * Nat.pow 2 x.q.toNat, 0⟩ else ⟨x.m * Nat.pow 5 (-x.q).toNat, x.q⟩

/-- The shortest decimal that reads back as the value, nearest on a tie of length; zero is
    `0 * 10 ^ 0`. -/
def Binary.shortest (x : Binary) : Dec :=
  if x.m = 0 then ⟨0, 0⟩
  else
    let d := (x.search x.scale 17 1).getD x.exact
    Dec.strip 400 d

end Tftp.Decimal
