import Tftp.Text.Basic
import Tftp.Text.Nameprep
import Tftp.Text.Punycode

/-! # Host names in ASCII

    A host name reaches the resolver as ASCII.  A name that is ASCII already is passed as it is;
    any other name is converted by IDNA (RFC 3490) label by label:

    * labels are separated by a full stop or one of its ideographic, fullwidth and halfwidth
      forms; an empty last label stands for a trailing full stop, which is kept;
    * an ASCII label is kept, and so is a label that nameprep makes ASCII;
    * any other label is prepared by nameprep, must not begin with the prefix `xn--`, and is
      written as `xn--` followed by its Punycode;
    * every label written must be 1 to 63 code points long.

    Nameprep refusing a label, the prefix, or a label of the wrong length fails the whole
    name. -/

namespace Tftp.Idna

/-- The code point separates labels: a full stop, or an ideographic, fullwidth or halfwidth
    full stop. -/
def isDot (n : Nat) : Bool := n == 0x2E || n == 0x3002 || n == 0xFF0E || n == 0xFF61

/-- The prefix that marks a label written in Punycode. -/
def acePrefix : List Nat := "xn--".toList.map Char.toNat

/-- A label of an allowed length. -/
def fits (label : List Nat) : Option (List Nat) :=
  if 0 < label.length && label.length < 64 then some label else none

/-- All code points are ASCII. -/
def isAscii (label : List Nat) : Bool := label.all (· < 0x80)

/-- The ASCII form of one label, or none if it has none. -/
def labelToAscii (label : List Nat) : Option (List Nat) :=
  if isAscii label then fits label
  else do
    let prepared ← Nameprep.prepare label
    if isAscii prepared then fits prepared
    else if prepared.take 4 == acePrefix then none
    else fits (acePrefix ++ (Punycode.encode prepared).map Char.toNat)

/-- The ASCII form of a host name, or none if it has none. -/
def nameToAscii (name : Text) : Option (List Nat) :=
  if isAscii name.points then some name.points
  else
    let parts := Text.splitPoints isDot name.points
    let (parts, trailing) :=
      if parts.getLast? == some [] then (parts.dropLast, true) else (parts, false)
    (parts.mapM labelToAscii).map fun labels =>
      List.intercalate [0x2E] labels ++ (if trailing then [0x2E] else [])

end Tftp.Idna
