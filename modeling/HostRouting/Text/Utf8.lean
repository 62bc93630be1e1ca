/-!
# Texts and bytes

Texts as bytes in UTF-8, and the text of bytes that need not be well-formed: what cannot be read is
replaced by one replacement character for each stretch that begins like a character and then breaks
off.
-/

namespace HostRouting.Text

/-- The bytes of a character. -/
def utf8Bytes (c : Char) : List Nat := (String.utf8EncodeChar c).map UInt8.toNat

/-- The character that stands for what cannot be read. -/
def replacement : Char := '\uFFFD'

/-- A character that is begun: how many bytes are to come, the value so far, and the range of the
next byte. -/
structure Begun where
  missing : Nat
  value : Nat
  low : Nat := 0x80
  high : Nat := 0xBF

/-- What a byte begins: a character of its own, the replacement for one that cannot stand here, or a
longer character. -/
def beginChar (b : Nat) : Char ⊕ Begun :=
  if b < 0x80 then .inl (Char.ofNat b)
  else if 0xC2 ≤ b && b ≤ 0xDF then .inr { missing := 1, value := b - 0xC0 }
  else if b = 0xE0 then .inr { missing := 2, value := 0, low := 0xA0 }
  else if b = 0xED then .inr { missing := 2, value := 0xD, high := 0x9F }
  else if 0xE1 ≤ b && b ≤ 0xEF then .inr { missing := 2, value := b - 0xE0 }
  else if b = 0xF0 then .inr { missing := 3, value := 0, low := 0x90 }
  else if b = 0xF4 then .inr { missing := 3, value := 4, high := 0x8F }
  else if 0xF1 ≤ b && b ≤ 0xF3 then .inr { missing := 3, value := b - 0xF0 }
  else .inl replacement

/-- The characters of a sequence of bytes among which whole characters may stand. -/
def readUnits : Option Begun → List (Nat ⊕ Char) → List Char
  | none, [] => []
  | some _, [] => [replacement]
  | none, .inr c :: r => c :: readUnits none r
  | some _, .inr c :: r => replacement :: c :: readUnits none r
  | none, .inl b :: r => match beginChar b with
    | .inl c => c :: readUnits none r
    | .inr begun => readUnits (some begun) r
  | some begun, .inl b :: r =>
    if begun.low ≤ b && b ≤ begun.high then
      let value := begun.value * 64 + (b - 0x80)
      if begun.missing = 1 then Char.ofNat value :: readUnits none r
      else readUnits (some { missing := begun.missing - 1, value }) r
    else match beginChar b with
      | .inl c => replacement :: c :: readUnits none r
      | .inr next => replacement :: readUnits (some next) r

end HostRouting.Text
