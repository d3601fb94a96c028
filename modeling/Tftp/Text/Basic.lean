/-! # Texts of code points

    A text that a caller passes in is a sequence of code points below `0x110000`.  Unlike a
    `String`, a text may hold lone surrogates, the code points U+D800 to U+DFFF that stand for no
    character: they pass through the engine unchanged, and only writing a text out refuses them
    or escapes them.  A `String` is the text of its characters (`Text.ofString`), and a text
    without surrogates is the `String` of its code points (`Text.toString?`). -/

namespace Tftp

/-- A sequence of code points, lone surrogates allowed. -/
structure Text where
  points : List Nat
  deriving DecidableEq, Inhabited

namespace Text

/-- The text of a string's characters. -/
@[coe]
def ofString (s : String) : Text := ⟨s.toList.map Char.toNat⟩

instance : Coe String Text := ⟨ofString⟩

instance : Append Text := ⟨fun a b => ⟨a.points ++ b.points⟩⟩

/-- The code point is a surrogate, which stands for no character. -/
def isSurrogate (n : Nat) : Bool := 0xD800 ≤ n && n ≤ 0xDFFF

/-- The character of a code point, unless it is a surrogate or beyond the code space. -/
def char? (n : Nat) : Option Char :=
  if isSurrogate n || 0x110000 ≤ n then none else some (Char.ofNat n)

/-- The string of a text, if it holds no surrogate. -/
def toString? (t : Text) : Option String :=
  (t.points.mapM char?).map String.ofList

/-- The text has no code points. -/
def isEmpty (t : Text) : Bool := t.points.isEmpty

/-- The text holds the character. -/
def contains (t : Text) (c : Char) : Bool := t.points.contains c.toNat

/-- Every code point of the text is ASCII. -/
def isAscii (t : Text) : Bool := t.points.all (· < 0x80)

/-- The pieces of a sequence of code points between the separators, in order; with no
    separator, the sequence itself. -/
def splitPoints (sep : Nat → Bool) : List Nat → List (List Nat)
  | [] => [[]]
  | n :: rest =>
    if sep n then [] :: splitPoints sep rest
    else
      match splitPoints sep rest with
      | [] => [[n]]
      | first :: others => (n :: first) :: others

/-- The pieces of a text between the separators, in order. -/
def split (t : Text) (sep : Nat → Bool) : List Text :=
  (splitPoints sep t.points).map Text.mk

theorem points_ofString (s : String) : (ofString s).points = s.toList.map Char.toNat := rfl

theorem points_append (a b : Text) : (a ++ b).points = a.points ++ b.points := rfl

end Text

end Tftp
