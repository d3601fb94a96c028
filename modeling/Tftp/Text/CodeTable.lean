/-! # Tables of code points

    Character data of a standard is kept as lines of text, which are read once into sorted
    arrays:

    * a range table lists ranges `lo-hi` and single code points `cp`, in hexadecimal, separated
      by spaces, in increasing order and disjoint;
    * a mapping lists entries `cp:t.t.t`, a code point and the code points it maps to, in
      increasing order of the first;
    * a class table lists ranges or single code points with a number, `lo-hi:k`.

    A look-up is a binary search for the last entry that starts at or below the code point. -/

namespace Tftp.CodeTable

/-- The value of a hexadecimal digit; any other character counts as 0. -/
def hexDigit (c : Char) : Nat :=
  if '0' ≤ c && c ≤ '9' then c.toNat - '0'.toNat
  else if 'A' ≤ c && c ≤ 'F' then c.toNat - 'A'.toNat + 10
  else if 'a' ≤ c && c ≤ 'f' then c.toNat - 'a'.toNat + 10
  else 0

/-- The value of a hexadecimal numeral. -/
def hex (s : String) : Nat := s.foldl (fun v c => v * 16 + hexDigit c) 0

/-- A range `lo-hi`, or the single code point `cp` as the range `cp-cp`. -/
def range (w : String) : Nat × Nat :=
  match w.splitOn "-" with
  | [a, b] => (hex a, hex b)
  | _ => (hex w, hex w)

/-- The words of a table's lines. -/
def words (lines : List String) : List String :=
  lines.flatMap fun l => (l.splitOn " ").filter (!·.isEmpty)

/-- Read a range table. -/
def ranges (lines : List String) : Array (Nat × Nat) :=
  ((words lines).map range).toArray

/-- Read a mapping. -/
def mapping (lines : List String) : Array (Nat × List Nat) :=
  ((words lines).map fun w => match w.splitOn ":" with
    | [k, v] => (hex k, (v.splitOn ".").map hex)
    | _ => (hex w, [])).toArray

/-- Read a class table. -/
def classes (lines : List String) : Array ((Nat × Nat) × Nat) :=
  ((words lines).map fun w => match w.splitOn ":" with
    | [r, k] => (range r, hex k)
    | _ => (range w, 0)).toArray

/-- The number of leading entries whose key is at or below `n`, searching between `lo` and
    `hi`, when the keys are sorted. -/
def countAtMost {α : Type} (key : α → Nat) (xs : Array α) (n : Nat) (lo hi : Nat) : Nat :=
  if lo < hi then
    let mid := lo + (hi - lo) / 2
    match xs[mid]? with
    | some x =>
      if key x ≤ n then countAtMost key xs n (mid + 1) hi else countAtMost key xs n lo mid
    | none => lo
  else lo
termination_by hi - lo

/-- The last entry whose key is at or below `n`, if there is one. -/
def lastAtMost {α : Type} (key : α → Nat) (xs : Array α) (n : Nat) : Option α :=
  match countAtMost key xs n 0 xs.size with
  | 0 => none
  | i + 1 => xs[i]?

/-- A range of the table holds the code point. -/
def holds (rs : Array (Nat × Nat)) (n : Nat) : Bool :=
  match lastAtMost (·.1) rs n with
  | some (_, hi) => n ≤ hi
  | none => false

/-- What the mapping maps the code point to, if it maps it. -/
def find? (m : Array (Nat × List Nat)) (n : Nat) : Option (List Nat) :=
  match lastAtMost (·.1) m n with
  | some (k, v) => if k == n then some v else none
  | none => none

/-- The class of the code point, 0 if no range holds it. -/
def classOf (cs : Array ((Nat × Nat) × Nat)) (n : Nat) : Nat :=
  match lastAtMost (·.1.1) cs n with
  | some ((_, hi), k) => if n ≤ hi then k else 0
  | none => 0

end Tftp.CodeTable
