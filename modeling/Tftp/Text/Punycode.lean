/-! # Punycode

    Punycode (RFC 3492) writes a sequence of code points in the letters, digits and hyphen of
    ASCII.  The basic code points (below `0x80`) are copied in order, followed by a hyphen when
    there is any; then each other code point, taken in increasing order of value, is written as
    the distance the insertion point moved since the last one, a variable-length number in base
    36 whose digit thresholds follow an adaptive bias.

    Every loop has its own measure: the bias loop divides its delta by 35, a variable-length
    number's quotient shrinks with every digit, and the main loop walks the sorted list of code
    points. -/

namespace Tftp.Punycode

/-- The letter of a base-36 digit: `a` to `z` for 0 to 25, `0` to `9` for 26 to 35. -/
def digit (d : Nat) : Char :=
  if d < 26 then Char.ofNat (0x61 + d) else Char.ofNat (0x30 + d - 26)

/-- The threshold of the digit at position `k` (a multiple of 36) under a bias: `k - bias`,
    kept within 1 and 26. -/
def threshold (k bias : Nat) : Nat :=
  if k ≤ bias then 1 else if bias + 26 ≤ k then 26 else k - bias

theorem threshold_pos (k bias : Nat) : 1 ≤ threshold k bias := by
  unfold threshold
  split
  · exact Nat.le_refl 1
  · split <;> omega

theorem threshold_le (k bias : Nat) : threshold k bias ≤ 26 := by
  unfold threshold
  split
  · omega
  · split <;> omega

/-- Scale a delta down by 35 until it is at most 455, counting 36 per division. -/
def scale (delta k : Nat) : Nat × Nat :=
  if 455 < delta then scale (delta / 35) (k + 36) else (delta, k)
termination_by delta
decreasing_by exact Nat.div_lt_self (by omega) (by omega)

/-- The bias after a delta, with `points` code points handled so far; the first delta is
    damped by 700, later ones halved. -/
def adapt (delta points : Nat) (first : Bool) : Nat :=
  let d := if first then delta / 700 else delta / 2
  let (d, k) := scale (d + d / points) 0
  k + 36 * d / (d + 38)

/-- The digits of a variable-length number `q`, from the digit at position `k` on. -/
def number (bias k q : Nat) : List Char :=
  let t := threshold k bias
  if q < t then [digit q]
  else digit (t + (q - t) % (36 - t)) :: number bias (k + 36) ((q - t) / (36 - t))
termination_by q
decreasing_by
  have := threshold_pos k bias
  have := threshold_le k bias
  exact Nat.lt_of_le_of_lt (Nat.div_le_self _ _) (by omega)

/-- The state of the encoder: the digits written, the pending delta, the bias and how many code
    points are placed. -/
structure Encoder where
  out : List Char
  delta : Nat
  bias : Nat
  placed : Nat

/-- Pass one code point of the input while placing the code point `m`: a smaller one adds to
    the delta, `m` itself writes the delta and adapts the bias. -/
def Encoder.pass (basic m : Nat) (e : Encoder) (c : Nat) : Encoder :=
  if c < m then { e with delta := e.delta + 1 }
  else if c == m then
    ⟨e.out ++ number e.bias 36 e.delta, 0, adapt e.delta (e.placed + 1) (e.placed == basic),
      e.placed + 1⟩
  else e

/-- Place the code points `ms`, in increasing order, the last one placed being `n - 1`. -/
def Encoder.place (input : List Nat) (basic : Nat) : List Nat → Nat → Encoder → Encoder
  | [], _, e => e
  | m :: ms, n, e =>
    let e := { e with delta := e.delta + (m - n) * (e.placed + 1) }
    let e := input.foldl (pass basic m) e
    place input basic ms (m + 1) { e with delta := e.delta + 1 }

/-- Insert into a list sorted in increasing order without repeats. -/
def insertSorted (x : Nat) : List Nat → List Nat
  | [] => [x]
  | y :: ys => if x < y then x :: y :: ys else if x == y then y :: ys else y :: insertSorted x ys

/-- The distinct members of a list, in increasing order. -/
def sortedDistinct (xs : List Nat) : List Nat := xs.foldr insertSorted []

/-- The Punycode of a sequence of code points, without any prefix. -/
def encode (input : List Nat) : List Char :=
  let basic := input.filter (· < 0x80)
  let others := sortedDistinct (input.filter (0x80 ≤ ·))
  let e := Encoder.place input basic.length others 0x80 ⟨[], 0, 72, basic.length⟩
  basic.map Char.ofNat ++ (if basic.isEmpty then [] else ['-']) ++ e.out

end Tftp.Punycode
