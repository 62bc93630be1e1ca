import HostRouting.Text.Blank
import HostRouting.Text.Digit

/-!
# Reading integers

An integer is written as an optional sign and decimal digits of any script; one underscore may
stand between two digits, and blanks may surround the whole.
-/

namespace HostRouting.Number

/-! ## Digits with underscores -/

/-- The values of the digits of a text of digits in which single underscores may stand between two
digits. The flag says whether the character before was a digit. -/
def digitValues? : Bool → List Char → Option (List Nat)
  | afterDigit, [] => if afterDigit then some [] else none
  | afterDigit, c :: r =>
    if c = '_' then if afterDigit then digitValues? false r else none
    else match Text.digitValue? c with
      | some d => (digitValues? true r).map (d :: ·)
      | none => none

/-- The number with the given decimal digits, the highest first. -/
def ofDigits (ds : List Nat) : Nat :=
  ds.foldl (fun n d => 10 * n + d) 0

/-- The number of digits up to which integers are read. -/
def digitLimit : Nat := 4300

/-- Parts an optional sign from a text; the flag says whether it was a minus. -/
def takeSign : List Char → Bool × List Char
  | '-' :: r => (true, r)
  | '+' :: r => (false, r)
  | cs => (false, cs)

/-! ## Integers -/

/-- The integer that a text is written for, if it is one with at most `digitLimit` digits. -/
def parseInt? (s : String) : Option Int :=
  let (negative, body) := takeSign (Text.trimBy Text.isSpacing s.toList)
  match digitValues? false body with
  | none => none
  | some ds =>
    if ds.length ≤ digitLimit then
      some (if negative then -(ofDigits ds : Int) else (ofDigits ds : Int))
    else none

end HostRouting.Number
