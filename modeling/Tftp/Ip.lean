import Tftp.Text.Basic

/-! # Numeric host addresses

    A server binds to a numeric address.  `Ip.parse?` reads the two text forms:

    * IPv4: four octets separated by dots, each one to three ASCII digits without a leading
      zero, at most 255;
    * IPv6 (RFC 4291, section 2.2): eight groups of one to four hexadecimal digits separated by
      colons, the last two of which may be written as an IPv4 address, and at most one `::`
      standing for one or more groups of zeros; then an optional zone (RFC 6874) after `%`,
      any text without `%` that is not empty.

    No form holds a `/`, and all but the zone is ASCII.  An address is kept as the number its
    bits spell, with its zone. -/

namespace Tftp

/-- A numeric host address. -/
inductive Ip where
  /-- an IPv4 address, below `2 ^ 32` -/
  | v4 (bits : Nat)
  /-- an IPv6 address, below `2 ^ 128`, and its zone -/
  | v6 (bits : Nat) (zone : Option Text)
  deriving DecidableEq

/-- The address family of a socket. -/
inductive Family where
  | inet
  | inet6
  deriving DecidableEq, Repr

/-- The name of the family. -/
def Family.name : Family → String
  | .inet => "AF_INET"
  | .inet6 => "AF_INET6"

namespace Ip

/-- The family of sockets that bind to the address. -/
def family : Ip → Family
  | .v4 _ => .inet
  | .v6 _ _ => .inet6

/-- The value of a hexadecimal digit. -/
def hexValue (c : Char) : Nat :=
  if c.isDigit then c.toNat - '0'.toNat
  else if 'a' ≤ c && c ≤ 'f' then c.toNat - 'a'.toNat + 10
  else c.toNat - 'A'.toNat + 10

/-- An octet: one to three ASCII digits, no leading zero, at most 255. -/
def octet? (s : String) : Option Nat :=
  let cs := s.toList
  let n := cs.foldl (fun v c => v * 10 + (c.toNat - '0'.toNat)) 0
  if !cs.isEmpty && cs.length ≤ 3 && cs.all Char.isDigit
      && !(cs.length > 1 && cs.head? == some '0') && n ≤ 255 then some n
  else none

/-- The bits of an IPv4 address: four octets separated by dots. -/
def bits4? (s : String) : Option Nat :=
  match s.splitOn "." with
  | [a, b, c, d] => do
    let a ← octet? a
    let b ← octet? b
    let c ← octet? c
    let d ← octet? d
    pure (((a * 256 + b) * 256 + c) * 256 + d)
  | _ => none

/-- A group: one to four hexadecimal digits. -/
def group? (s : String) : Option Nat :=
  let cs := s.toList
  if !cs.isEmpty && cs.length ≤ 4 && cs.all Char.isHexDigit then
    some (cs.foldl (fun v c => v * 16 + hexValue c) 0)
  else none

/-- A part of an IPv6 address between colons: empty, or a group (none if it is neither). -/
def part? (s : String) : Option (Option Nat) :=
  if s.isEmpty then some none else (group? s).map some

/-- All parts are groups. -/
def allGroups (ps : List (Option Nat)) : Option (List Nat) :=
  ps.mapM id

/-- The eight groups spelled by the parts between colons, with an IPv4 tail already split into
    two groups: either eight groups, or one empty inner part (`::`) that stands for at least one
    group of zeros, where an empty first or last part belongs to the `::` next to it. -/
def expand (ps : List (Option Nat)) : Option (List Nat) :=
  let n := ps.length
  let inner := ((ps.drop 1).take (n - 2)).zipIdx 1
  match inner.filter (fun (p, _) => p.isNone) with
  | [] => if n == 8 then allGroups ps else none
  | [(_, i)] =>
    let firstEmpty := (ps.head?.join).isNone
    let lastEmpty := (ps.getLast?.join).isNone
    -- groups before and after the gap; an empty end is part of the gap
    let hi := if firstEmpty then i - 1 else i
    let lo := if lastEmpty then n - i - 2 else n - i - 1
    if (firstEmpty && hi != 0) || (lastEmpty && lo != 0) || hi + lo ≥ 8 then none
    else do
      let before ← allGroups (ps.take hi)
      let after ← allGroups (ps.drop (n - lo))
      pure (before ++ List.replicate (8 - (hi + lo)) 0 ++ after)
  | _ => none

/-- The groups of an IPv6 address without its zone. -/
def groups? (s : String) : Option (List Nat) := do
  let texts := s.splitOn ":"
  guard (3 ≤ texts.length)
  let last := texts.getLast?.getD ""
  let ps ← if last.contains '.' then do
      let v ← bits4? last
      let front ← texts.dropLast.mapM part?
      pure (front ++ [some (v / 65536), some (v % 65536)])
    else texts.mapM part?
  guard (ps.length ≤ 9)
  expand ps

/-- The bits of an IPv6 address without its zone. -/
def bits6? (s : String) : Option Nat :=
  (groups? s).map fun gs => gs.foldl (fun v g => v * 65536 + g) 0

/-- The bits of an IPv6 address without its zone, written as a text. -/
def textBits6? (t : Text) : Option Nat :=
  t.toString?.bind bits6?

/-- The address written by a text, if it is one of the numeric forms. -/
def parse? (t : Text) : Option Ip :=
  if t.contains '/' then none
  else
    match t.toString?.bind bits4? with
    | some v => some (.v4 v)
    | none =>
      match t.split (· == '%'.toNat) with
      | [a] => (textBits6? a).map (.v6 · none)
      | [a, zone] => if zone.isEmpty then none else (textBits6? a).map (.v6 · (some zone))
      | _ => none

end Ip

end Tftp
