import HostRouting.Number.RealText
import HostRouting.Text.Split

/-!
# The grammar of a command line

A program takes flags, of which some have a value, and at most one operand. A flag may be shortened
as long as no other one begins in the same way. Here each argument is marked by the part that it can
play; what becomes of the marked arguments is the matter of `HostRouting.Cli.Arguments`.
-/

namespace HostRouting.Cli

/-! ## Grammars -/

/-- What the value of a flag has to be. -/
inductive ValueKind where
  | text
  | integer
  | real
  deriving DecidableEq, Repr

namespace ValueKind

/-- The name of a kind of values in messages. -/
def name : ValueKind → String
  | text => "str"
  | integer => "int"
  | real => "float"

/-- The text is a value of the kind. -/
def admits : ValueKind → String → Bool
  | text, _ => true
  | integer, s => (Number.parseInt? s).isSome
  | real, s => (Number.parseReal? s).isSome

end ValueKind

/-- A flag. One without a value asks for help. -/
structure Flag where
  names : List String
  value? : Option ValueKind := none
  deriving DecidableEq, Repr

namespace Flag

/-- The name of a flag in messages. -/
def title (f : Flag) : String := "/".intercalate f.names

/-- The flag that asks for help. -/
def help : Flag := { names := ["-h", "--help"] }

end Flag

/-- What stands beside the flags. -/
inductive Operand where
  /-- A single word. -/
  | word (name : String)
  /-- The name of a command; all that follows belongs to the command. -/
  | command (name : String) (choices : List String)
  deriving DecidableEq, Repr

/-- The name of an operand in messages. -/
def Operand.name : Operand → String
  | word name | command name _ => name

/-- What a program takes. -/
structure Grammar where
  program : String
  flags : List Flag
  operand? : Option Operand := none

/-! ## Flags and their names -/

namespace Grammar

/-- The names of all flags, each with its flag. -/
def names (g : Grammar) : List (String × Flag) :=
  g.flags.flatMap fun f => f.names.map fun n => (n, f)

/-- The flag with a name. -/
def flag? (g : Grammar) (name : String) : Option Flag := g.names.lookup name

end Grammar

/-- A flag as it is used: under one of its names, maybe with a value in the same argument. The value
comes after a sign of equality, or directly after a name of one letter. -/
structure Use where
  flag : Flag
  name : String
  attached? : Option String := none
  deriving DecidableEq, Repr

/-- The part that an argument can play. -/
inductive Mark where
  /-- It is a value or an operand. -/
  | plain
  /-- It is the two dashes after which no flags come. -/
  | divider
  /-- It is a flag. -/
  | flag (use : Use)
  /-- It looks like a flag, but there is none of its name. -/
  | unknown
  deriving DecidableEq, Repr

/-- The argument is, or looks like, a flag. -/
def Mark.isFlag : Mark → Bool
  | flag _ | unknown => true
  | plain | divider => false

/-! ## Marking arguments -/

/-- The text begins with the given one. -/
def startsWith (s stem : String) : Bool := stem.toList.isPrefixOf s.toList

/-- The text is a negative number in plain decimal notation. -/
def isNegativeNumber (s : String) : Bool :=
  let isDigit (c : Char) : Bool := (Text.digitValue? c).isSome
  match s.toList with
  | '-' :: r =>
    let body := if r.getLast? = some '\n' then r.dropLast else r
    let whole := body.takeWhile isDigit
    match body.drop whole.length with
    | [] => !whole.isEmpty
    | '.' :: fraction => !fraction.isEmpty && fraction.all isDigit
    | _ => false
  | _ => false

/-- The uses that a shortened flag with two dashes can mean. -/
def longUses (g : Grammar) (arg : String) : List Use :=
  let (stem, attached?) := match Text.cut? '=' arg with
    | some (stem, value) => (stem, some value)
    | none => (arg, none)
  (g.names.filter fun n => startsWith n.1 stem).map fun n =>
    { flag := n.2, name := n.1, attached? }

/-- The uses that an argument with one dash can mean. -/
def shortUses (g : Grammar) (arg : String) : List Use :=
  let letter := String.ofList (arg.toList.take 2)
  g.names.filterMap fun n =>
    if n.1 = letter then
      some { flag := n.2, name := n.1, attached? := some (String.ofList (arg.toList.drop 2)) }
    else if startsWith n.1 arg then some { flag := n.2, name := n.1 }
    else none

/-- The uses that an argument can mean which is not the name of a flag. -/
def uses (g : Grammar) (arg : String) : List Use :=
  if startsWith arg "--" then longUses g arg else shortUses g arg

/-- The use of a flag under its full name with a value after a sign of equality. -/
def exactUse? (g : Grammar) (arg : String) : Option Use :=
  match Text.cut? '=' arg with
  | some (name, value) => (g.flag? name).map fun flag => { flag, name, attached? := some value }
  | none => none

/-- The message about an argument that can mean several flags. -/
def ambiguity (arg : String) (meant : List Use) : String :=
  "ambiguous option: " ++ arg ++ " could match " ++ ", ".intercalate (meant.map Use.name)

/-- The part that an argument can play; a message if it can mean several flags. -/
def mark (g : Grammar) (arg : String) : Except String Mark :=
  if !startsWith arg "-" then .ok .plain
  else match g.flag? arg with
    | some flag => .ok (.flag { flag, name := arg })
    | none =>
      if arg = "-" then .ok .plain
      else match exactUse? g arg with
        | some use => .ok (.flag use)
        | none => match uses g arg with
          | [use] => .ok (.flag use)
          | [] =>
            if isNegativeNumber arg || arg.toList.contains ' ' then .ok .plain else .ok .unknown
          | meant => .error (ambiguity arg meant)

/-- The arguments with their marks. -/
def marked (g : Grammar) : List String → Except String (List (String × Mark))
  | [] => .ok []
  | arg :: args =>
    if arg = "--" then .ok ((arg, .divider) :: args.map fun a => (a, .plain))
    else do return (arg, ← mark g arg) :: (← marked g args)

end HostRouting.Cli
