import HostRouting.Number.Binary64
import HostRouting.Number.Integer

/-!
# Texts of floating-point numbers

How a number is read from a text, and the text that is written for it. Numbers are written with the
fewest digits that read back: positional from `0.0001` up to sixteen places before the point, with
an exponent beyond.
-/

namespace HostRouting.Number

/-! ## Writing -/

/-- The spellings of the values that have no digits. -/
structure RealFormat where
  infinity : String
  nan : String

/-- The spellings in messages. -/
def RealFormat.plain : RealFormat := ⟨"inf", "nan"⟩

/-- The spellings in JSON texts. -/
def RealFormat.json : RealFormat := ⟨"Infinity", "NaN"⟩

/-- Decimal digits without the zeros at their end; at least one digit is left. -/
def dropEndZeros (ds : List Char) : List Char :=
  match (ds.reverse.dropWhile (· == '0')).reverse with
  | [] => ['0']
  | ds => ds

/-- The exponent part of a number, with a sign and at least two digits. -/
def exponentText (e : Int) : List Char :=
  let ds := Nat.toDigits 10 e.natAbs
  'e' :: (if e < 0 then '-' else '+') :: (if ds.length < 2 then '0' :: ds else ds)

/-- The value `0.ds * 10 ^ point` in positional form, with at least one digit on each side of the
point. -/
def positionalText (ds : List Char) (point : Int) : List Char :=
  if point ≤ 0 then '0' :: '.' :: (List.replicate (-point).toNat '0' ++ ds)
  else
    let whole := point.toNat
    if ds.length ≤ whole then ds ++ List.replicate (whole - ds.length) '0' ++ ['.', '0']
    else ds.take whole ++ '.' :: ds.drop whole

/-- The value `0.ds * 10 ^ point` with one digit before the point and an exponent. -/
def scientificText (ds : List Char) (point : Int) : List Char :=
  match ds with
  | [] => []
  | [d] => d :: exponentText (point - 1)
  | d :: r => d :: '.' :: (r ++ exponentText (point - 1))

/-- The text of a number. -/
def Binary64.text (format : RealFormat) (x : Binary64) : String :=
  let sign := if x.isNegative then "-" else ""
  if x.isNaN then format.nan
  else if x.isInfinite then sign ++ format.infinity
  else if x.isZero then sign ++ "0.0"
  else
    let (digits, exponent) := x.shortest
    let all := Nat.toDigits 10 digits
    let ds := dropEndZeros all
    let point := all.length + exponent
    let body := if -4 < point && point ≤ 16 then positionalText ds point else scientificText ds point
    sign ++ String.ofList body

/-! ## Reading -/

/-- The value of an exponent part, `e` or `E` with an integer; `none` for anything else. Nothing at
all is the exponent zero. -/
def exponentPart? : List Char → Option Int
  | [] => some 0
  | c :: r =>
    if c = 'e' || c = 'E' then
      let (negative, body) := takeSign r
      (digitValues? false body).map fun ds =>
        if negative then -(ofDigits ds : Int) else (ofDigits ds : Int)
    else none

/-- The digits of a part before or after the point; the part may be empty. -/
def optionalDigits? (cs : List Char) : Option (List Nat) :=
  if cs.isEmpty then some [] else digitValues? false cs

/-- The value of a number without sign: digits with a point at most, and an exponent part. -/
def unsignedReal? (negative : Bool) (cs : List Char) : Option Binary64 :=
  let mantissa := cs.takeWhile fun c => !(c = 'e' || c = 'E')
  let rest := cs.drop mantissa.length
  let whole := mantissa.takeWhile (· ≠ '.')
  let fraction := (mantissa.drop whole.length).drop 1
  match optionalDigits? whole, optionalDigits? fraction, exponentPart? rest with
  | some ws, some fs, some e =>
    if ws.isEmpty && fs.isEmpty then none
    else some (.ofDecimal negative (ofDigits (ws ++ fs)) (e - fs.length))
  | _, _, _ => none

/-- The floating-point number that a text is written for. The words for infinity and for what is no
number are read in any case. -/
def parseReal? (s : String) : Option Binary64 :=
  let (negative, body) := takeSign (Text.trimBy Text.isSpacing s.toList)
  let word := String.ofList (body.map Char.toLower)
  if word = "inf" || word = "infinity" then some (.infinity negative)
  else if word = "nan" then some (.nan negative)
  else unsignedReal? negative body

end HostRouting.Number
