import HostRouting.Text.Hex
import HostRouting.Text.Utf8

/-!
# Percent escapes

In the parts of a URL a byte is written as a percent sign with two hexadecimal digits where its
character cannot stand for itself.
-/

namespace HostRouting.Text

/-! ## Reading -/

/-- The bytes and characters of a text with escapes. A percent sign without two digits stands for
itself. -/
def percentUnits : List Char → List (Nat ⊕ Char)
  | '%' :: a :: b :: r => match hexValue? a, hexValue? b with
    | some m, some n => .inl (16 * m + n) :: percentUnits r
    | _, _ => .inl 0x25 :: percentUnits (a :: b :: r)
  | c :: r => (if c.toNat < 0x80 then .inl c.toNat else .inr c) :: percentUnits r
  | [] => []

/-- A text with its escapes replaced by what they stand for. -/
def percentDecoded (s : String) : String :=
  String.ofList (readUnits none (percentUnits s.toList))

/-! ## Writing -/

/-- The escape of a byte. -/
def byteEscape (b : Nat) : List Char := '%' :: (hexPadded 2 b).map Char.toUpper

/-- A text in which all characters outside a class are escaped. -/
def percentEncoded (safe : Char → Bool) (s : String) : String :=
  String.ofList (s.toList.flatMap fun c => if safe c then [c] else (utf8Bytes c).flatMap byteEscape)

/-- The characters that stand for themselves in every part of a URL. -/
def isUnreserved (c : Char) : Bool := c.isAlphanum || c = '_' || c = '.' || c = '-' || c = '~'

end HostRouting.Text
