/-!
# Cutting a text at a character

A text is cut at the first occurrence of a character, or at all of them.
-/

namespace HostRouting.Text

/-- The parts before and after the first `sep`, if there is one. -/
def cutChars (sep : Char) : List Char → Option (List Char × List Char)
  | [] => none
  | c :: r => if c = sep then some ([], r) else (cutChars sep r).map fun p => (c :: p.1, p.2)

/-- The parts of a text before and after the first `sep`, if there is one. -/
def cut? (sep : Char) (s : String) : Option (String × String) :=
  (cutChars sep s.toList).map fun p => (String.ofList p.1, String.ofList p.2)

/-- The stretches between the occurrences of `sep`; there is always one more than those. -/
def splitChars (sep : Char) : List Char → List (List Char)
  | [] => [[]]
  | c :: r =>
    if c = sep then [] :: splitChars sep r
    else match splitChars sep r with
      | [] => [[c]]
      | f :: fs => (c :: f) :: fs

/-- The fields of a text between the occurrences of `sep`. -/
def fields (sep : Char) (s : String) : List String :=
  (splitChars sep s.toList).map String.ofList

/-- Splitting never gives the empty list. -/
theorem splitChars_ne_nil (sep : Char) (cs : List Char) : splitChars sep cs ≠ [] := by
  induction cs with
  | nil => simp [splitChars]
  | cons c r ih =>
    by_cases h : c = sep
    · simp [splitChars, h]
    · cases hs : splitChars sep r with
      | nil => exact absurd hs ih
      | cons f fs => simp [splitChars, h, hs]

end HostRouting.Text
