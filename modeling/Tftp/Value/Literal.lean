import Tftp.Value
import Tftp.Text.Printable

/-! # Literal text of values

    Error messages show the values they are about as literals, the text one would type to write
    the value again.

    * A text is enclosed in single quotes, or in double quotes when it holds a single quote and no
      double quote.  Backslash and the enclosing quote are escaped, tab, newline and carriage
      return get their short escapes, other unprintable characters and lone surrogates a
      hexadecimal one, and printable characters beyond ASCII stay as they are.
    * A double gets its shortest digits (`Decimal.Binary.shortest`) laid out by `Literal.layout`.
    * Lists, tuples and mappings list their items, separated by a comma and a space; a tuple of
      one item keeps a comma after it. -/

namespace Tftp.Literal

/-- The hexadecimal digits of `n` in lower case, padded with zeros to `width` digits. -/
def hex (width : Nat) (n : Nat) : String :=
  let ds := Nat.toDigits 16 n
  String.ofList (List.replicate (width - ds.length) '0' ++ ds)

/-- The decimal digits of `n`, padded with zeros to `width` digits. -/
def padded (width : Nat) (n : Nat) : String :=
  let ds := Nat.toDigits 10 n
  String.ofList (List.replicate (width - ds.length) '0' ++ ds)

/-- How a code point that is no printable character is escaped: two, four or eight hexadecimal
    digits. -/
def hexEscape (n : Nat) : String :=
  if n < 0x100 then "\\x" ++ hex 2 n
  else if n < 0x10000 then "\\u" ++ hex 4 n
  else "\\U" ++ hex 8 n

/-- How one code point of a text enclosed in `q` is written. -/
def escapePoint (q : Char) (n : Nat) : String :=
  if n == q.toNat || n == '\\'.toNat then String.ofList ['\\', Char.ofNat n]
  else if n == '\t'.toNat then "\\t"
  else if n == '\n'.toNat then "\\n"
  else if n == '\r'.toNat then "\\r"
  else
    match Text.char? n with
    | some c => if Text.isPrintable c then c.toString else hexEscape n
    | none => hexEscape n

/-- The quote that encloses a text: the single quote, unless the text holds one and no double
    quote. -/
def quoteFor (t : Text) : Char :=
  if t.contains '\'' && !t.contains '"' then '"' else '\''

/-- The literal of a text. -/
def quote (t : Text) : String :=
  let q := quoteFor t
  q.toString ++ String.join (t.points.map (escapePoint q)) ++ q.toString

/-- How a double is laid out once its shortest digits are known. -/
structure FloatLayout where
  /-- the least exponent of the leading digit that is written positionally -/
  lowestPositional : Int
  /-- the greatest exponent of the leading digit that is written positionally -/
  highestPositional : Int
  /-- the least number of digits of a written exponent -/
  exponentDigits : Nat
  /-- the texts of infinity and of NaN -/
  infinity : String
  nan : String

/-- Doubles in literals: positional for leading-digit exponents from -4 to 15, where an integral
    value keeps a point and a zero; otherwise one digit before the point and an exponent with its
    sign and at least two digits. -/
def layout : FloatLayout := ⟨-4, 15, 2, "inf", "nan"⟩

/-- The unsigned text of the decimal `digits * 10 ^ exp` under a layout. -/
def FloatLayout.decimal (l : FloatLayout) (d : Decimal.Dec) : String :=
  let ds := (Nat.toDigits 10 d.digits)
  let n := ds.length
  let lead : Int := d.exp + n - 1
  if l.lowestPositional ≤ lead && lead ≤ l.highestPositional then
    if 0 ≤ d.exp then
      String.ofList (ds ++ List.replicate d.exp.toNat '0') ++ ".0"
    else if 0 ≤ lead then
      String.ofList (ds.take (lead.toNat + 1)) ++ "." ++ String.ofList (ds.drop (lead.toNat + 1))
    else
      "0." ++ String.ofList (List.replicate ((-lead).toNat - 1) '0' ++ ds)
  else
    let mantissa := match ds with
      | [] => "0"
      | [c] => c.toString
      | c :: rest => c.toString ++ "." ++ String.ofList rest
    let sign := if lead < 0 then "-" else "+"
    mantissa ++ "e" ++ sign ++ padded l.exponentDigits lead.natAbs

/-- The text of a double under a layout. -/
def FloatLayout.double (l : FloatLayout) (x : Float) : String :=
  if x.isNaN then l.nan
  else
    let negative := x.toBits >>> 63 == 1
    let sign := if negative then "-" else ""
    if x.isInf then sign ++ l.infinity
    else sign ++ l.decimal (Decimal.Binary.ofBits x.toBits).shortest

/-- The literal of a double. -/
def double (x : Float) : String := layout.double x

/-- The literal of a number. -/
def number : Number → String
  | .int n => toString n
  | .float x => double x

mutual

/-- The literal of a value. -/
def value : Value → String
  | .none => "None"
  | .bool b => if b then "True" else "False"
  | .int n => toString n
  | .float x => double x
  | .str s => quote s
  | .list items => "[" ++ itemsText items ++ "]"
  | .tuple [] => "()"
  | .tuple [v] => "(" ++ value v ++ ",)"
  | .tuple items => "(" ++ itemsText items ++ ")"
  | .dict entries => "\x7b" ++ entriesText entries ++ "\x7d"

/-- Items separated by a comma and a space. -/
def itemsText : List Value → String
  | [] => ""
  | [v] => value v
  | v :: rest => value v ++ ", " ++ itemsText rest

/-- Entries of a mapping, each a quoted key, a colon and the item. -/
def entriesText : List (String × Value) → String
  | [] => ""
  | [(k, v)] => quote k ++ ": " ++ value v
  | (k, v) :: rest => quote k ++ ": " ++ value v ++ ", " ++ entriesText rest

end

/-- The text of a value: a text is itself, any other value its literal. -/
def text : Value → Text
  | .str s => s
  | v => value v

end Tftp.Literal
