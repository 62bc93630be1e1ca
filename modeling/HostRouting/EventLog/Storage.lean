import HostRouting.Act
import HostRouting.EventLog.Path

/-!
# Storage

The part of a file system that the event log sees: directories, and files that are empty, hold a
database of events, or hold something else. A path leads to its place through the directories that
are there, one name after the other.
-/

namespace HostRouting.EventLog

/-! ## Databases -/

/-- An event as the database keeps it. -/
structure Row where
  id : Nat
  time : String
  level : String
  containerName : Option String
  containerId : Option String
  message : String
  deriving DecidableEq, Repr, Inhabited

/-- A table of events, the oldest first, and the last id that was given. -/
structure Database where
  rows : List Row := []
  lastId : Nat := 0
  deriving DecidableEq, Repr, Inhabited

/-- What a file holds. -/
inductive Content where
  /-- Nothing yet. -/
  | blank
  /-- A table of events. -/
  | database (db : Database)
  /-- Something that is no database. The database of another program is no content here. -/
  | foreign
  deriving DecidableEq, Repr, Inhabited

/-! ## The tree -/

/-- What a path leads to. -/
inductive Node where
  | directory
  | file (content : Content)
  /-- A device takes no file's content. -/
  | device
  deriving DecidableEq, Repr, Inhabited

/-- The nodes of a file system below its root. -/
structure Storage where
  nodes : List (Path × Node) := []
  deriving DecidableEq, Repr, Inhabited

namespace Storage

/-- What a path leads to. -/
def node? (s : Storage) (p : Path) : Option Node :=
  if p = [] then some .directory else s.nodes.lookup p

/-- The path leads to a directory. -/
def isDirectory (s : Storage) (p : Path) : Bool := s.node? p == some .directory

/-- The path leads to a file. -/
def isFile (s : Storage) (p : Path) : Bool :=
  match s.node? p with
  | some (.file _) => true
  | _ => false

/-- The path leads to something. -/
def has (s : Storage) (p : Path) : Bool := (s.node? p).isSome

/-- Puts a node at a path. -/
def put (s : Storage) (p : Path) (n : Node) : Storage :=
  ⟨(p, n) :: s.nodes.filter fun e => e.1 ≠ p⟩

/-- Takes away what is at a path. -/
def erase (s : Storage) (p : Path) : Storage := ⟨s.nodes.filter fun e => e.1 ≠ p⟩

/-- Takes away the file at a path, if there is one. -/
def eraseFile (s : Storage) (p : Path) : Storage := if s.isFile p then s.erase p else s

/-- The files below a directory, as seen from it, in the order of their texts. -/
def files (s : Storage) (base : Path) : List String :=
  let below := s.nodes.filterMap fun e => match e.2 with
    | .file _ => if base.isPrefixOf e.1 then some (Path.relativeTo base e.1) else none
    | _ => none
  below.mergeSort fun a b => a ≤ b

/-! ## Places -/

/-- Where a path leads: to an entry of a directory, or to the directory itself. -/
structure Place where
  directory : Path
  entry? : Option String

/-- The path of a place. -/
def Place.path (p : Place) : Path := p.directory ++ p.entry?.toList

/-- Where a name leads from a directory. -/
def placeOf (r : Reference) (p : Path) (name : String) : Except Fault Place :=
  if name = "." then .ok ⟨p, none⟩
  else if name = ".." then .ok ⟨p.dropLast, none⟩
  else if Path.fits [name] then .ok ⟨p, some name⟩
  else .error (.storage (.nameTooLong r.text))

/-- Where names lead from a directory on. All but the last lead to directories. -/
def walk (s : Storage) (r : Reference) (p : Path) : List String → Except Fault Place
  | [] => .ok ⟨p, none⟩
  | [name] => placeOf r p name
  | name :: rest => do
    let place ← placeOf r p name
    match s.node? place.path with
    | some .directory => walk s r place.path rest
    | some _ => .error (.storage (.notDirectory r.text))
    | none => .error (.storage (.absent r.text))

/-- Where a path leads. The empty text leads nowhere. -/
def locate (s : Storage) (r : Reference) : Except Fault Place :=
  if Path.hasNull r.names then .error .nullInPath
  else if r.names.isEmpty && !r.slashed then .error (.storage (.absent r.text))
  else s.walk r r.start r.names

/-- There is something at a path. -/
def leads (s : Storage) (r : Reference) : Bool :=
  match s.locate r with
  | .ok place => s.has place.path
  | .error _ => false

/-! ## Changes -/

/-- The place to which a path leads, and what is there. -/
def find (r : Reference) : Act Storage (Place × Option Node) := do
  let s ← Act.read
  let place ← Act.ofExcept (s.locate r)
  return (place, s.node? place.path)

/-- Makes a directory. -/
def makeDirectory (r : Reference) : Act Storage Unit := do
  match ← find r with
  | (place, none) => Act.update (·.put place.path .directory)
  | (_, some _) => Act.fail (.storage (.present r.text))

/-- Makes the directory of the given names, the last one first, and those on the way to it as far as
they are not there. -/
def makeAll (start : Path) : List String → Act Storage Unit
  | [] => Act.fail (.storage (.present (Path.text start)))
  | [name] => makeDirectory { start, names := [name] }
  | name :: rest => do
    let found := (← Act.read).leads { start, names := rest.reverse }
    unless found do
      match ← (makeAll start rest).attempt with
      | .ok () | .error (.storage (.present _)) => pure ()
      | .error f => Act.fail f
    unless !found && name = "." do
      makeDirectory { start, names := (name :: rest).reverse }

/-- Makes a directory and all that lead to it, as far as they are not there. -/
def makeDirectories (r : Reference) : Act Storage Unit :=
  if r.names.isEmpty then makeDirectory r else makeAll r.start r.names.reverse

/-- Writes a file. A path with a slash at its end is one of a directory, whatever its last name. -/
def write (r : Reference) (c : Content) : Act Storage Unit := do
  match ← find (if r.slashed then r.around else r) with
  | (_, some .directory) => Act.fail (.storage (.isDirectory r.text))
  | (_, some .device) => pure ()
  | (place, _) => Act.update (·.put place.path (.file c))

/-- Removes a file. -/
def remove (r : Reference) : Act Storage Unit := do
  match ← find r with
  | (_, none) => Act.fail (.storage (.absent r.text))
  | (_, some .directory) => Act.fail (.storage (.isDirectory r.text))
  | (place, some _) =>
    if r.slashed then
      Act.fail (.storage (.notDirectory r.text))
    Act.update (·.erase place.path)

/-! ## Database files -/

/-- The number of bytes that the path of a database may have, with what the files beside it add. -/
def longestPath : Nat := 512

/-- The file from which changes that were not finished are taken back. -/
def journalOf (p : Path) : Path := p.extended "-journal"

/-- The file to which changes are written ahead of the database. -/
def aheadOf (p : Path) : Path := p.extended "-wal"

/-- The file that tells where the changes written ahead are. -/
def indexOf (p : Path) : Path := p.extended "-shm"

/-- Opens a database file, which is made if it is not there. -/
def openFile (p : Path) : Act Storage Unit := do
  if p.hasNull then
    Act.fail .nullInPath
  if longestPath < p.text.utf8ByteSize + 8 || !p.fits then
    Act.fail (.storage .cannotOpen)
  match (← Act.read).node? p with
  | some (.file _) | some .device => pure ()
  | some .directory => Act.fail (.storage .cannotOpen)
  | none =>
    if (← Act.read).isDirectory p.dropLast then Act.update (·.put p (.file .blank))
    else Act.fail (.storage .cannotOpen)

/-- Minds the files beside a database. What would be taken back is cleared away, and so is what was
written ahead of a database that holds nothing; beside any other one it stays and gets its index. A
directory in the place of such a file cannot be minded. -/
def settle (p : Path) : Act Storage Unit := do
  let s ← Act.read
  let blank := s.node? p = some (.file .blank)
  if s.isDirectory (journalOf p) && !blank then
    Act.fail (.storage .cannotOpen)
  Act.update (·.eraseFile (journalOf p))
  if s.isDirectory (aheadOf p) then
    Act.fail (.storage .deviceFailure)
  if s.isFile (aheadOf p) then
    if blank then Act.update (·.eraseFile (aheadOf p))
    else Act.update (·.put (indexOf p) (.file .foreign))

/-- The table of events in a database file. -/
def table (p : Path) : Act Storage Database := do
  settle p
  match (← Act.read).node? p with
  | some (.file (.database db)) => return db
  | some (.file .blank) => Act.fail (.storage .noTable)
  | some (.file .foreign) => Act.fail (.storage .notDatabase)
  | some .device => Act.fail (.storage .deviceFailure)
  | _ => Act.fail (.storage .cannotOpen)

/-- Stores the table of events in a database file. A file has to be made beside it meanwhile. -/
def store (p : Path) (db : Database) : Act Storage Unit := do
  if !(journalOf p).fits || (← Act.read).isDirectory (journalOf p) then
    Act.fail (.storage .cannotOpen)
  Act.update (·.put p (.file (.database db)))

/-- Makes the table of events unless it is there. -/
def makeTable (p : Path) : Act Storage Unit := do
  settle p
  match (← Act.read).node? p with
  | some (.file .blank) => store p {}
  | _ => let _ ← table p

end Storage

end HostRouting.EventLog
