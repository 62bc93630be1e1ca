import HostRouting.Number.Integer

/-!
# The limit of an answer

How many events are asked for. A request may write the number with a plus sign, with zeros before
it, with single underscores between digits, or with a fraction of zeros; it must lie between one and
five hundred.
-/

namespace HostRouting.Api

/-- Why a limit is refused. -/
inductive LimitRefusal where
  | tooLong
  | noInteger
  | tooSmall
  | tooLarge
  deriving DecidableEq, Repr

namespace LimitRefusal

/-- The kind of a refusal. -/
def kind : LimitRefusal → String
  | tooLong => "int_parsing_size"
  | noInteger => "int_parsing"
  | tooSmall => "greater_than_equal"
  | tooLarge => "less_than_equal"

/-- The message of a refusal. -/
def message : LimitRefusal → String
  | tooLong => "Unable to parse input string as an integer, exceeded maximum size"
  | noInteger => "Input should be a valid integer, unable to parse string as an integer"
  | tooSmall => "Input should be greater than or equal to 1"
  | tooLarge => "Input should be less than or equal to 500"

end LimitRefusal

/-! ## Reading -/

/-- A number without its plus sign; one before a minus sign is none. -/
def withoutPlus : List Char → Option (List Char)
  | '+' :: '-' :: _ => none
  | '+' :: r => some r
  | cs => some cs

/-- The rest of a number after zeros, of which the last is `last`: from the first other digit or a
minus sign on, or from the last zero on when none of them comes before the point or the end. -/
def afterZeros (last : Char) : List Char → Option (List Char)
  | [] => some [last]
  | c :: r =>
    if c = '0' || c = '_' then afterZeros c r
    else if c.isDigit || c = '-' then some (c :: r)
    else if c = '.' then some (last :: c :: r)
    else none

/-- A number without the zeros before it. -/
def withoutZeros : List Char → Option (List Char)
  | [] => none
  | c :: r =>
    if c = '0' then afterZeros c r
    else if c.isDigit || c = '-' then some (c :: r)
    else none

/-- A number without its fraction, if that consists of zeros. -/
def withoutFraction (cs : List Char) : List Char :=
  let whole := cs.takeWhile (· ≠ '.')
  match cs.drop whole.length with
  | _ :: zeros => if !zeros.isEmpty && zeros.all (· = '0') then whole else cs
  | [] => cs

/-- The digits with which a number begins, but for the zeros before them. -/
def leadingDigits (cs : List Char) : List Char :=
  ((cs.filter (· ≠ '_')).dropWhile (· = '0')).takeWhile Char.isDigit

/-- The value of plain digits, between which single underscores may stand. -/
def magnitude (cs : List Char) : Except LimitRefusal Nat :=
  if Number.digitLimit < (leadingDigits cs).length then .error .tooLong
  else if cs.any fun c => 128 ≤ c.toNat then .error .noInteger
  else match Number.digitValues? false cs with
    | some ds => .ok (Number.ofDigits ds)
    | none => .error .noInteger

/-- The integer that a text is written for. -/
def integer (s : String) : Except LimitRefusal Int :=
  match (withoutPlus (Text.trimBy Text.isSpacing s.toList)).bind withoutZeros with
  | none => .error .noInteger
  | some cs => match withoutFraction cs with
    | '-' :: r => (magnitude r).map fun n => -(n : Int)
    | r => (magnitude r).map fun n => (n : Int)

/-- The number of events that are given unless another one is asked for. -/
def defaultLimit : Int := 50

/-- The greatest number of events that can be asked for. -/
def greatestLimit : Int := 500

/-- The limit that a text asks for. -/
def limit (s : String) : Except LimitRefusal Int := do
  let n ← integer s
  if n < 1 then .error .tooSmall
  else if greatestLimit < n then .error .tooLarge
  else .ok n

end HostRouting.Api
