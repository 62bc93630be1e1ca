import HostRouting.Json.Literal
import HostRouting.Text.Abridged

/-!
# Faults

What can go wrong, by cause. A fault has a kind and a message, which the log lines show; the user's
interrupt is no failure, and nothing that recovers from failures catches it.
-/

namespace HostRouting

/-- A fault of the storage that holds the event log. -/
inductive StorageFault where
  /-- A place in the path is not a directory. -/
  | notDirectory (path : String)
  /-- The path is there already. -/
  | present (path : String)
  /-- The path is not there. -/
  | absent (path : String)
  /-- The database file cannot be opened. -/
  | cannotOpen
  /-- The file holds something else than a database. -/
  | notDatabase
  /-- The database has no table of events. -/
  | noTable
  /-- A value of this type cannot be stored in a row. -/
  | unstorable (typeName : String)
  /-- The path leads to a directory where a file is meant. -/
  | isDirectory (path : String)
  /-- A name in the path is too long. -/
  | nameTooLong (path : String)
  /-- The device cannot be read or written as a database. -/
  | deviceFailure
  deriving DecidableEq, Repr

/-- A cause of failure. -/
inductive Fault where
  /-- A failure that somebody else reports, with its own kind and message. -/
  | reported (kind message : String)
  /-- The user's interrupt. -/
  | interrupt (message : String)
  /-- The listener is registered already. -/
  | alreadySubscribed (message : String)
  /-- A value of this type has no such member. -/
  | noMember (typeName member : String)
  /-- A value of this type has no items to go through. -/
  | notIterable (typeName : String)
  /-- A value of this type has no parts to take. -/
  | notSliceable (typeName : String)
  /-- A value of this type has no field of a name. -/
  | notIndexable (typeName : String)
  /-- A value of this type cannot be a key. -/
  | notKey (typeName : String)
  /-- An object lacks a field that it must have. -/
  | missingField (name : String)
  /-- The daemon answered the ping with a refusal. -/
  | pingRefused
  /-- No container has the id. -/
  | unknownContainer (id : Json)
  /-- A wait for a negative time. -/
  | negativeWait
  /-- A wait that is longer than the clock can count. -/
  | endlessWait
  /-- A wait whose length is no number, so that it cannot be compared with one. -/
  | incomparable (operator : String)
  /-- A route that lacks a part where all routes must be complete. -/
  | incompleteRoute (shown : String)
  /-- A name of no logging level. -/
  | unknownLevel (name : String)
  /-- A field that a route does not have. -/
  | unknownField (name : String)
  /-- An integer that the database cannot hold. -/
  | integerTooLarge
  /-- An endpoint whose parts of these names cannot be answered, for they are no texts. -/
  | unanswerable (parts : List (String × Json))
  /-- A path with a null character. -/
  | nullInPath
  /-- A fault of the event log's storage. -/
  | storage (fault : StorageFault)
  deriving DecidableEq, Repr

/-! ## Kinds and messages -/

/-- The kind of a storage fault. -/
def StorageFault.kind : StorageFault → String
  | notDirectory _ => "NotADirectoryError"
  | present _ => "FileExistsError"
  | absent _ => "FileNotFoundError"
  | cannotOpen => "OperationalError"
  | notDatabase => "DatabaseError"
  | noTable => "OperationalError"
  | unstorable _ => "ProgrammingError"
  | isDirectory _ => "IsADirectoryError"
  | nameTooLong _ => "OSError"
  | deviceFailure => "OperationalError"

/-- The message of a storage fault. -/
def StorageFault.message : StorageFault → String
  | notDirectory path => "[Errno 20] Not a directory: " ++ Text.quoted path
  | present path => "[Errno 17] File exists: " ++ Text.quoted path
  | absent path => "[Errno 2] No such file or directory: " ++ Text.quoted path
  | cannotOpen => "unable to open database file"
  | notDatabase => "file is not a database"
  | noTable => "no such table: events"
  | unstorable typeName => "Error binding parameter 4: type '" ++ typeName ++ "' is not supported"
  | isDirectory path => "[Errno 21] Is a directory: " ++ Text.quoted path
  | nameTooLong path => "[Errno 36] File name too long: " ++ Text.quoted path
  | deviceFailure => "disk I/O error"

namespace Fault

/-- The kind of a fault. -/
def kind : Fault → String
  | reported kind _ => kind
  | interrupt _ => "KeyboardInterrupt"
  | alreadySubscribed _ => "AlreadySubscribed"
  | noMember _ _ => "AttributeError"
  | notIterable _ | notSliceable _ | notIndexable _ | notKey _ | incomparable _
  | unknownField _ => "TypeError"
  | missingField _ => "KeyError"
  | pingRefused | unknownContainer _ => "DockerException"
  | negativeWait | incompleteRoute _ | unknownLevel _ | nullInPath => "ValueError"
  | endlessWait | integerTooLarge => "OverflowError"
  | unanswerable _ => "ValidationError"
  | storage fault => fault.kind

/-- Where the rule is explained that a part has to be a text. -/
def explanation : String :=
  "/".intercalate ["https:", "", "errors.pydantic.dev", "2.14", "v", "string_type"]

/-- The message about a part of an endpoint that is no text. -/
def partMessage (part : String × Json) : String :=
  part.1 ++ "\n  Input should be a valid string [type=string_type, input_value=" ++
    Text.abridged 50 part.2.literal ++ ", input_type=" ++ part.2.typeName ++
    "]\n    For further information visit " ++ explanation

/-- The message about the parts of an endpoint that are no texts. -/
def partsMessage (parts : List (String × Json)) : String :=
  "\n".intercalate ((toString parts.length ++
    (if parts.length = 1 then " validation error" else " validation errors") ++ " for UpstreamOut") ::
    parts.map partMessage)

/-- The message of a fault. -/
def message : Fault → String
  | reported _ message | interrupt message | alreadySubscribed message => message
  | noMember typeName member => "'" ++ typeName ++ "' object has no attribute '" ++ member ++ "'"
  | notIterable typeName => "'" ++ typeName ++ "' object is not iterable"
  | notSliceable typeName =>
    if typeName = "dict" then "unhashable type: 'slice'"
    else "'" ++ typeName ++ "' object is not subscriptable"
  | notIndexable typeName =>
    if typeName = "list" then "list indices must be integers or slices, not str"
    else if typeName = "str" then "string indices must be integers, not 'str'"
    else "'" ++ typeName ++ "' object is not subscriptable"
  | notKey typeName => "unhashable type: '" ++ typeName ++ "'"
  | missingField name => Text.quoted name
  | pingRefused => "Docker daemon did not answer ping"
  | unknownContainer id => "No such container: " ++ id.display
  | negativeWait => "'timeout' must be a non-negative number"
  | endlessWait => "timestamp too large to convert to C _PyTime_t"
  | incomparable operator =>
    "'" ++ operator ++ "' not supported between instances of 'list' and 'int'"
  | incompleteRoute shown => "Invalid route: " ++ shown
  | unknownLevel name => "Unknown level: " ++ Text.quoted name
  | unknownField name => "unknown field " ++ Text.quoted name
  | integerTooLarge => "Python int too large to convert to SQLite INTEGER"
  | unanswerable parts => partsMessage parts
  | nullInPath => "embedded null byte"
  | storage fault => fault.message

/-- Whether a fault is an ordinary failure, from which a handler of failures recovers. -/
def isFailure : Fault → Bool
  | interrupt _ => false
  | _ => true

/-- The fault in one line: its kind and its message. -/
def describe (f : Fault) : String := f.kind ++ ": " ++ f.message

end Fault

end HostRouting
