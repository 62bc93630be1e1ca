import HostRouting.Json.Basic
import HostRouting.Number.RealText
import HostRouting.Text.Hex

/-!
# Reading JSON texts

A reader by recursive descent over the characters of a text. A number without a fraction and an
exponent is an integer of any size; a key that is given twice keeps its first place and takes the
later value.
-/

namespace HostRouting.Json

/-! ## Strings -/

/-- The value of four hexadecimal digits. -/
def hexUnit? (a b c d : Char) : Option Nat :=
  match Text.hexValue? a, Text.hexValue? b, Text.hexValue? c, Text.hexValue? d with
  | some a, some b, some c, some d => some (((a * 16 + b) * 16 + c) * 16 + d)
  | _, _, _, _ => none

/-- The character of an escape with one letter. -/
def shortEscape? (c : Char) : Option Char :=
  if c = '"' || c = '\\' || c = '/' then some c
  else if c = 'n' then some '\n'
  else if c = 'r' then some '\r'
  else if c = 't' then some '\t'
  else if c = 'b' then some (Char.ofNat 8)
  else if c = 'f' then some (Char.ofNat 12)
  else none

/-- The character of two units, if they are the halves of a surrogate pair. -/
def pairChar? (high low : Nat) : Option Char :=
  if 0xD800 ≤ high && high < 0xDC00 && 0xDC00 ≤ low && low < 0xE000 then
    some (Char.ofNat (0x10000 + (high - 0xD800) * 0x400 + (low - 0xDC00)))
  else none

/-- The character of a single unit; half of a surrogate pair gives the replacement character. -/
def unitChar (n : Nat) : Char :=
  if 0xD800 ≤ n && n < 0xE000 then Char.ofNat 0xFFFD else Char.ofNat n

/-- The rest of a string after its opening quote: its characters and what follows the closing
quote. -/
def readString : List Char → Option (List Char × List Char)
  | [] => none
  | '"' :: r => some ([], r)
  | '\\' :: 'u' :: a :: b :: c :: d :: '\\' :: 'u' :: e :: f :: g :: h :: r =>
    match hexUnit? a b c d, hexUnit? e f g h with
    | some m, some n => match pairChar? m n with
      | some x => (readString r).map fun p => (x :: p.1, p.2)
      | none => (readString ('\\' :: 'u' :: e :: f :: g :: h :: r)).map fun p =>
          (unitChar m :: p.1, p.2)
    | _, _ => none
  | '\\' :: 'u' :: a :: b :: c :: d :: r =>
    match hexUnit? a b c d with
    | some m => (readString r).map fun p => (unitChar m :: p.1, p.2)
    | none => none
  | '\\' :: c :: r => match shortEscape? c with
    | some x => (readString r).map fun p => (x :: p.1, p.2)
    | none => none
  | c :: r => if c.toNat < 32 || c = '\\' then none else (readString r).map fun p => (c :: p.1, p.2)

/-! ## Numbers -/

/-- The characters that can occur in a number. -/
def isNumberChar (c : Char) : Bool :=
  c.isDigit || c = '-' || c = '+' || c = '.' || c = 'e' || c = 'E'

/-- The value of a number. -/
def number? (cs : List Char) : Option Json :=
  let (negative, body) := match cs with
    | '-' :: r => (true, r)
    | _ => (false, cs)
  if body.all Char.isDigit then
    if body.isEmpty then none
    else some (int (if negative then -(Number.ofDigits (body.map fun c => c.toNat - 48) : Int)
      else Number.ofDigits (body.map fun c => c.toNat - 48)))
  else (Number.unsignedReal? negative body).map real

/-! ## Values -/

/-- Drops the white space between the parts of a JSON text. -/
def skipSpace (cs : List Char) : List Char :=
  cs.dropWhile fun c => c = ' ' || c = '\n' || c = '\r' || c = '\t'

/-- Drops a word at the beginning of a text. -/
def word? (w : String) (cs : List Char) : Option (List Char) :=
  if w.toList.isPrefixOf cs then some (cs.drop w.length) else none

mutual

/-- A value at the beginning of a text, and what follows it. The fuel bounds the nesting and the
number of items together. -/
def readValue : (fuel : Nat) → List Char → Option (Json × List Char)
  | 0, _ => none
  | fuel + 1, cs => match skipSpace cs with
    | '"' :: r => (readString r).map fun p => (str (String.ofList p.1), p.2)
    | '[' :: r => match skipSpace r with
      | ']' :: r => some (arr [], r)
      | r => (readItems fuel r).map fun p => (arr p.1, p.2)
    | '{' :: r => match skipSpace r with
      | '}' :: r => some (obj [], r)
      | r => (readFields fuel r).map fun p => (ofFields p.1, p.2)
    | 'n' :: r => (word? "ull" r).map fun r => (null, r)
    | 't' :: r => (word? "rue" r).map fun r => (bool true, r)
    | 'f' :: r => (word? "alse" r).map fun r => (bool false, r)
    | cs =>
      let digits := cs.takeWhile isNumberChar
      (number? digits).map fun v => (v, cs.drop digits.length)

/-- The items of a list up to its closing bracket. -/
def readItems : (fuel : Nat) → List Char → Option (List Json × List Char)
  | 0, _ => none
  | fuel + 1, cs => match readValue fuel cs with
    | none => none
    | some (v, r) => match skipSpace r with
      | ',' :: r => (readItems fuel r).map fun p => (v :: p.1, p.2)
      | ']' :: r => some ([v], r)
      | _ => none

/-- The fields of an object up to its closing bracket. -/
def readFields : (fuel : Nat) → List Char → Option (List (String × Json) × List Char)
  | 0, _ => none
  | fuel + 1, cs => match skipSpace cs with
    | '"' :: r => match readString r with
      | none => none
      | some (k, r) => match skipSpace r with
        | ':' :: r => match readValue fuel r with
          | none => none
          | some (v, r) => match skipSpace r with
            | ',' :: r => (readFields fuel r).map fun p => ((String.ofList k, v) :: p.1, p.2)
            | '}' :: r => some ([(String.ofList k, v)], r)
            | _ => none
        | _ => none
    | _ => none

end

/-- The value that a JSON text is written for. Every step of the reader consumes a character, so
that the length of the text is fuel enough. -/
def parse? (s : String) : Option Json :=
  let cs := s.toList
  match readValue (2 * cs.length + 2) cs with
  | some (v, r) => if (skipSpace r).isEmpty then some v else none
  | none => none

end HostRouting.Json
