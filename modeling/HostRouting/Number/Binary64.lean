/-!
# Binary floating-point numbers

Numbers in the 64-bit binary format, held by their bits, with exact conversions from and to
decimal fractions. A decimal is rounded to the nearest number of the format, a tie to the even
one; the shortest decimal that reads back is the text of a number.
-/

namespace HostRouting.Number

/-- A power of a natural number. -/
def power (base exponent : Nat) : Nat := Nat.pow base exponent

/-- A number of the 64-bit binary floating-point format. -/
structure Binary64 where
  bits : UInt64
  deriving DecidableEq, Repr, Inhabited

namespace Binary64

/-! ## The parts of a number -/

/-- The sign bit. -/
def isNegative (x : Binary64) : Bool := x.bits.toNat / power 2 63 == 1

/-- The bits without the sign. -/
def magnitude (x : Binary64) : Nat := x.bits.toNat % power 2 63

/-- The bits of infinity without the sign. -/
def infinityBits : Nat := 0x7FF0000000000000

/-- Not a number at all. -/
def isNaN (x : Binary64) : Bool := infinityBits < x.magnitude

/-- One of the two infinities. -/
def isInfinite (x : Binary64) : Bool := x.magnitude == infinityBits

/-- One of the two zeros. -/
def isZero (x : Binary64) : Bool := x.magnitude == 0

/-- The number with the given sign and the given bits beside it. -/
def ofMagnitude (negative : Bool) (m : Nat) : Binary64 :=
  ⟨UInt64.ofNat (m + if negative then power 2 63 else 0)⟩

/-- Infinity. -/
def infinity (negative : Bool) : Binary64 := ofMagnitude negative infinityBits

/-- The value that is not a number. -/
def nan (negative : Bool) : Binary64 := ofMagnitude negative 0x7FF8000000000000

/-- The size of a finite number as a fraction of natural numbers. -/
def ratio (x : Binary64) : Nat × Nat :=
  let field := x.magnitude / power 2 52
  let fraction := x.magnitude % power 2 52
  if field = 0 then (fraction, power 2 1074)
  else if field < 1075 then (fraction + power 2 52, power 2 (1075 - field))
  else ((fraction + power 2 52) * power 2 (field - 1075), 1)

/-! ## From fractions and decimals -/

/-- The quotient of two natural numbers rounded to the nearest, a tie to the even one. -/
def roundQuotient (num den : Nat) : Nat :=
  let q := num / den
  let r := num % den
  if den < 2 * r || (2 * r == den && q % 2 == 1) then q + 1 else q

/-- The number nearest to `num / den` among those of the given sign. The places of the binary
fraction are counted in units of `2 ^ -1074`, so that the rounded quotient and the unit make up the
bits by one addition, also where rounding carries into the next unit. -/
def ofRatio (negative : Bool) (num den : Nat) : Binary64 :=
  if num = 0 then ofMagnitude negative 0
  else
    let top : Int := (Nat.log2 num : Int) - Nat.log2 den
    let top := if num * power 2 (-top).toNat < den * power 2 top.toNat then top - 1 else top
    let unit := max (-1074) (top - 52)
    let q := roundQuotient (num * power 2 (-unit).toNat) (den * power 2 unit.toNat)
    let m := (unit + 1074).toNat * power 2 52 + q
    ofMagnitude negative (min m infinityBits)

/-- The number nearest to `digits * 10 ^ exponent`. Exponents beyond all finite numbers are decided
before any power is taken. -/
def ofDecimal (negative : Bool) (digits : Nat) (exponent : Int) : Binary64 :=
  let size : Int := (Nat.toDigits 10 digits).length
  if digits = 0 then ofMagnitude negative 0
  else if 400 < size + exponent then infinity negative
  else if size + exponent < -400 then ofMagnitude negative 0
  else ofRatio negative (digits * power 10 exponent.toNat) (power 10 (-exponent).toNat)

/-- The number nearest to a natural number. -/
def ofNat (n : Nat) : Binary64 := ofRatio false n 1

/-! ## Order -/

/-- Less than zero. -/
def isBelowZero (x : Binary64) : Bool := x.isNegative && !x.isZero && !x.isNaN

/-- Greater than zero. -/
def isAboveZero (x : Binary64) : Bool := !x.isNegative && !x.isZero && !x.isNaN

/-- Greater than a natural number. -/
def exceeds (x : Binary64) (n : Nat) : Bool :=
  x.isAboveZero && (x.isInfinite || n * x.ratio.2 < x.ratio.1)

/-- The integer that the number is, if it is one. -/
def toInt? (x : Binary64) : Option Int :=
  if x.isNaN || x.isInfinite then none
  else
    let (num, den) := x.ratio
    if num % den = 0 then some (if x.isNegative then -(num / den : Nat) else (num / den : Nat)) else none

/-- Equality of the values: the two zeros are one, and what is not a number equals nothing. -/
def sameValue (x y : Binary64) : Bool :=
  !x.isNaN && !y.isNaN && (x == y || (x.isZero && y.isZero))

/-! ## Shortest decimals -/

/-- The least `k` with `num / den < 10 ^ k`, for a fraction that is not zero. The guess comes from
the binary sizes and is at most one off. -/
def decimalTop (num den : Nat) : Int :=
  let guess : Int := ((Nat.log2 num : Int) - Nat.log2 den) * 30103 / 100000
  let below (k : Int) : Bool := num * power 10 (-k).toNat < den * power 10 k.toNat
  if below (guess - 1) then guess - 1
  else if below guess then guess
  else if below (guess + 1) then guess + 1
  else guess + 2

/-- The decimal with the fewest digits that reads back as the finite number, from `places` digits
on: the neighbours of the value on each decimal grid are tried, the nearer one first. -/
def shortestFrom (x : Binary64) (num den : Nat) (top : Int) : (places fuel : Nat) → Nat × Int
  | _, 0 => (0, 0)
  | places, fuel + 1 =>
    let exponent := top - places
    let scaledNum := num * power 10 (-exponent).toNat
    let scaledDen := den * power 10 exponent.toNat
    let low := scaledNum / scaledDen
    let rest := scaledNum % scaledDen
    let reads (d : Nat) : Bool := ofDecimal x.isNegative d exponent == x
    let nearer := if 2 * rest < scaledDen || (2 * rest == scaledDen && low % 2 == 0) then low else low + 1
    let farther := if nearer = low then low + 1 else low
    if reads nearer then (nearer, exponent)
    else if reads farther then (farther, exponent)
    else shortestFrom x num den top (places + 1) fuel

/-- Digits and exponent of the shortest decimal that reads back as the finite number. -/
def shortest (x : Binary64) : Nat × Int :=
  let (num, den) := x.ratio
  if num = 0 then (0, 0)
  else shortestFrom x num den (decimalTop num den) 1 17

end Binary64

end HostRouting.Number
