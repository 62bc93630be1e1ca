import HostRouting.Text.Split

/-!
# Paths

A path is a list of names from the root on. As it is written, a path may have `.` and `..` among its
names, is seen from a directory unless it begins with a slash, and may end with one.
-/

namespace HostRouting.EventLog

/-! ## Paths from the root -/

/-- The names on the way from the root. -/
abbrev Path := List String

namespace Path

/-- The path that a text names, seen from the directory `base`, whatever is there. -/
def ofText (base : Path) (s : String) : Path :=
  let start := if s.toList.head? = some '/' then [] else base
  (Text.fields '/' s).foldl
    (fun p name =>
      if name = "" || name = "." then p
      else if name = ".." then p.dropLast
      else p ++ [name])
    start

/-- The text of a path. -/
def text (p : Path) : String := "/" ++ "/".intercalate p

/-- The text of a path as seen from the directory `base`. -/
def relativeTo (base : Path) (p : Path) : String :=
  let rec strip : Path → Path → Path
    | b :: bs, n :: ns => if b = n then strip bs ns else (b :: bs).map (fun _ => "..") ++ n :: ns
    | bs, ns => bs.map (fun _ => "..") ++ ns
  "/".intercalate (strip base p)

/-- The path whose last name is longer by the given ending. -/
def extended (p : Path) (ending : String) : Path :=
  p.dropLast ++ [p.getLast?.getD "" ++ ending]

/-- The number of bytes that a name may have. -/
def longestName : Nat := 255

/-- The last name of the path is not too long for a storage. -/
def fits (p : Path) : Bool := (p.getLast?.getD "").utf8ByteSize ≤ longestName

/-- The path has a null character, which no storage takes. -/
def hasNull (p : Path) : Bool := p.any fun name => name.toList.contains '\x00'

end Path

/-! ## Paths as they are written -/

/-- A path as it is written: the directory from which it is seen, its names, and whether a slash
stands at its end. -/
structure Reference where
  start : Path
  names : List String
  slashed : Bool := false
  deriving DecidableEq, Repr, Inhabited

namespace Reference

/-- The path that a text is, seen from the directory `base`. -/
def ofText (base : Path) (s : String) : Reference :=
  { start := if s.toList.head? = some '/' then [] else base
    names := (Text.fields '/' s).filter (· != "")
    slashed := s.toList.getLast? = some '/' }

/-- A path from the root. -/
def ofPath (p : Path) : Reference := { start := [], names := p }

/-- The directory in which the last name of a path lies. -/
def around (r : Reference) : Reference := { r with names := r.names.dropLast ++ ["."] }

/-- The text of a path for messages. -/
def text (r : Reference) : String := Path.text (r.start ++ r.names)

end Reference

end HostRouting.EventLog
