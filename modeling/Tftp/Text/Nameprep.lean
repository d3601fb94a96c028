import Tftp.Text.Stringprep
import Tftp.Text.Normalization

/-! # Nameprep

    The nameprep profile of stringprep (RFC 3491) prepares a label of a host name for
    comparison and encoding:

    * map: drop the code points of table B.1 and fold case by table B.2;
    * normalize: take normalization form KC;
    * prohibit: refuse a label that holds a code point of the tables C.1.2 and C.2.2 to C.9;
    * check bidirectional text: a label that holds a right-to-left code point (table D.1) may
      hold no left-to-right one (table D.2), and must begin and end with a right-to-left one.

    Unassigned code points are allowed. -/

namespace Tftp.Nameprep

/-- The mapping step. -/
def map (label : List Nat) : List Nat :=
  label.flatMap fun n => if Stringprep.isMappedToNothing n then [] else Stringprep.fold n

/-- The bidirectional rule holds for a normalized label. -/
def bidiAllows (label : List Nat) : Bool :=
  if label.any Stringprep.isRightToLeft then
    !label.any Stringprep.isLeftToRight
      && (label.head?.map Stringprep.isRightToLeft).getD false
      && (label.getLast?.map Stringprep.isRightToLeft).getD false
  else true

/-- The prepared label, or none if the label is refused. -/
def prepare (label : List Nat) : Option (List Nat) :=
  let normal := Normalization.nfkc (map label)
  if normal.any Stringprep.isProhibited then none
  else if bidiAllows normal then some normal
  else none

end Tftp.Nameprep
