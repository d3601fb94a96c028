import Tftp.Number
import Tftp.Text.Basic

/-! # Values a caller hands over

    Some entry points take whatever a caller passes and check it themselves: the packet encoder
    accepts any object and rejects what is no packet, and a retry policy accepts any value for its
    two settings.  `Value` is what such a caller can pass: nothing, a truth value, an integer, a
    double, a text, or a list, tuple or mapping of values.  The kind of a value is reported by its
    type name in error messages. -/

namespace Tftp

/-- A value as a caller passes it, of any kind. -/
inductive Value where
  | none
  | bool (b : Bool)
  | int (n : Int)
  | float (x : Float)
  | str (s : Text)
  | list (items : List Value)
  | tuple (items : List Value)
  | dict (entries : List (String × Value))
  deriving Inhabited

namespace Value

/-- The name of the value's type, as error messages show it. -/
def typeName : Value → String
  | .none => "NoneType"
  | .bool _ => "bool"
  | .int _ => "int"
  | .float _ => "float"
  | .str _ => "str"
  | .list _ => "list"
  | .tuple _ => "tuple"
  | .dict _ => "dict"

/-- The value as a number, where it is one; a truth value counts as the integer 0 or 1. -/
def toNumber? : Value → Option Number
  | .bool b => some (.int (if b then 1 else 0))
  | .int n => some (.int n)
  | .float x => some (.float x)
  | _ => Option.none

end Value

end Tftp
