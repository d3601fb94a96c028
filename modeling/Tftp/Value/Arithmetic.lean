import Tftp.Fault

/-! # Counting with values

    A session's block counter is a block number, but a caller may preset it to any value.  The
    session then steps it, compares it and prints it with the rules of arithmetic on values:

    * `Value.succ` adds one: an integer or a truth value gives the next integer and a double the
      next double; a text, list or tuple only concatenates with its own kind, and any other
      value has no sum with an integer.  Stepping a counter in place (`inPlace`) lets a list
      take the one as a collection of items, which it is not.
    * `Number.eqInt` and `Value.eqInt` compare with a block number by value: a double equals an
      integer that it holds exactly, and a value of another kind equals no number.
    * `Value.decimal` writes a value in decimal: a double loses its fraction, and a NaN, an
      infinity or a value that is no number cannot be written. -/

namespace Tftp

namespace Number

/-- The number as a value. -/
def toValue : Number → Value
  | .int n => .int n
  | .float x => .float x

/-- The number equals the integer `n`: a double only if it is finite and holds `n` exactly. -/
def eqInt (n : Int) : Number → Bool
  | .int m => m == n
  | .float x => !x.isNaN && !x.isInf && x == x.floor && truncateDouble x == n

/-- The number is above the integer `n`; a NaN is above nothing. -/
def gtInt (n : Int) : Number → Bool
  | .int m => m > n
  | .float x => match doubleOfInt? n with
    | some y => x > y
    | none => false

end Number

namespace Value

/-- The value plus one, computed in place when `inPlace` holds; a failure says why the value has
    no such sum. -/
def succ (inPlace : Bool) : Value → Except Failure Number
  | .int n => .ok (.int (n + 1))
  | .bool b => .ok (.int (if b then 2 else 1))
  | .float x => .ok (.float (x + 1.0))
  | .str _ => .error (Failure.ofHost .type "can only concatenate str (not \"int\") to str")
  | .list _ =>
    if inPlace then .error (Failure.ofHost .type "'int' object is not iterable")
    else .error (Failure.ofHost .type "can only concatenate list (not \"int\") to list")
  | .tuple _ => .error (Failure.ofHost .type "can only concatenate tuple (not \"int\") to tuple")
  | v => .error (Failure.ofHost .type ("unsupported operand type(s) for "
      ++ (if inPlace then "+=" else "+") ++ ": '" ++ v.typeName ++ "' and 'int'"))

/-- The value equals the integer `n`; only a number, or a truth value as 0 or 1, can. -/
def eqInt (n : Int) (v : Value) : Bool :=
  match v.toNumber? with
  | some x => x.eqInt n
  | Option.none => false

/-- The value written in decimal, or why it cannot be. -/
def decimal (v : Value) : Except Failure String :=
  match v.toNumber? with
  | some (.int n) => .ok (toString n)
  | some (.float x) =>
    if x.isNaN then .error (Failure.ofHost .value "cannot convert float NaN to integer")
    else if x.isInf then .error (Failure.ofHost .overflow "cannot convert float infinity to integer")
    else .ok (toString (truncateDouble x))
  | Option.none => .error (Failure.ofHost .type ("%d format: a real number is required, not "
      ++ v.typeName))

end Value

end Tftp
