/-!
# Abridged texts

A text that is too long for a message is shown by its beginning and its end. Lengths are counted in
bytes of UTF-8, and no character is cut apart.
-/

namespace HostRouting.Text

/-- The characters at the beginning that have no more than `n` bytes together. -/
def firstBytes (n : Nat) : List Char → List Char
  | [] => []
  | c :: r => if c.utf8Size ≤ n then c :: firstBytes (n - c.utf8Size) r else []

/-- The characters at the end that have no more than `n` bytes together. -/
def lastBytes (n : Nat) (cs : List Char) : List Char := (firstBytes n cs.reverse).reverse

/-- A text of at most `n` bytes as it is; of a longer one half of that from either end, the beginning
a byte more than the end. -/
def abridged (n : Nat) (s : String) : String :=
  if s.utf8ByteSize ≤ n then s
  else
    let half := (n + 1) / 2
    String.ofList (firstBytes half s.toList) ++ "..." ++
      String.ofList (lastBytes (half - 1) s.toList)

end HostRouting.Text
