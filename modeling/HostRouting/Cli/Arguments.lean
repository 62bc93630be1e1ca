import HostRouting.Cli.Grammar
import HostRouting.Text.Quoted

/-!
# Reading a command line

The marked arguments are read from left to right: flags take their values, the operand takes the
first argument that is left, and what nobody takes is left over. The first fault ends the reading,
and so does a call for help.
-/

namespace HostRouting.Cli

/-- Why a command line is not carried out. -/
inductive Stop where
  /-- Help was asked for. -/
  | help
  /-- The command line is wrong. -/
  | wrong (message : String)
  deriving DecidableEq, Repr

/-- What a command line says: the values of flags in their order, some of which were given without
one, the operand with all that belongs to it, and what was left over. -/
structure Reading where
  values : List (Flag × Option String) := []
  operand? : Option (List String) := none
  extras : List String := []

namespace Reading

/-- The last value of a flag. -/
def value? (r : Reading) (f : Flag) : Option (Option String) :=
  (r.values.reverse.find? fun v => v.1 = f).map (·.2)

/-- What the last value of a flag stands for, or the default; nothing if the flag was given without a
value. -/
def valueOr {α : Type} (r : Reading) (f : Flag) (default : α) (meaning : String → α) : Option α :=
  match r.value? f with
  | none => some default
  | some value? => value?.map meaning

/-- Adds arguments that nobody takes. -/
def leave (r : Reading) (args : List String) : Reading := { r with extras := r.extras ++ args }

end Reading

/-! ## Flags -/

/-- A fault in an argument. -/
def faultIn (title message : String) : Stop := .wrong ("argument " ++ title ++ ": " ++ message)

/-- The fault of a value that a flag does not take. -/
def ignored (f : Flag) (value : String) : Stop :=
  faultIn f.title ("ignored explicit argument " ++ Text.quoted value)

/-- The reading with the value of a flag. Two dashes in the place of a value are none. -/
def takeValue (r : Reading) (f : Flag) (kind : ValueKind) (value : String) : Except Stop Reading :=
  if value = "--" then .ok { r with values := r.values ++ [(f, none)] }
  else if kind.admits value then .ok { r with values := r.values ++ [(f, some value)] }
  else .error (faultIn f.title ("invalid " ++ kind.name ++ " value: " ++ Text.quoted value))

/-- What becomes of the letters that stand after a flag of one letter without a value: they are read
as further such flags, which have to be there. -/
def furtherLetters (g : Grammar) (f : Flag) : List Char → Stop
  | [] => ignored f ""
  | c :: r => match g.flag? (String.ofList ['-', c]) with
    | none => ignored f (String.ofList (c :: r))
    | some next => if r.isEmpty || next.value?.isSome then .help else furtherLetters g next r

/-- What becomes of a flag that asks for help. -/
def askForHelp (g : Grammar) (use : Use) : Stop :=
  match use.attached? with
  | none => .help
  | some value =>
    if startsWith use.name "--" then ignored use.flag value
    else furtherLetters g use.flag value.toList

/-- The reading after a flag, and what follows it. -/
def readFlag (g : Grammar) (r : Reading) (use : Use) (rest : List (String × Mark)) :
    Except Stop (Reading × List (String × Mark)) :=
  match use.flag.value?, use.attached?, rest with
  | none, _, _ => .error (askForHelp g use)
  | some kind, some value, rest => do return (← takeValue r use.flag kind value, rest)
  | some kind, none, (value, .plain) :: rest => do return (← takeValue r use.flag kind value, rest)
  | some _, none, _ => .error (faultIn use.flag.title "expected one argument")

/-! ## Operands -/

/-- The fault of a command that there is not. -/
def invalidChoice (name : String) (choices : List String) (given : String) : Stop :=
  faultIn name ("invalid choice: " ++ Text.quoted given ++ " (choose from " ++
    ", ".intercalate (choices.map Text.quoted) ++ ")")

/-- A single word that is not a flag, with dividers around it, and what follows. -/
def takeWord : List (String × Mark) → Option (String × List (String × Mark))
  | (_, .divider) :: (word, .plain) :: rest => some (word, rest)
  | (word, .plain) :: (_, .divider) :: rest => some (word, rest)
  | (word, .plain) :: rest => some (word, rest)
  | _ => none

/-- The reading after its operand, and what follows that; nothing if the operand cannot stand
here. -/
def readOperand (r : Reading) (args : List (String × Mark)) :
    Operand → Option (Except Stop (Reading × List (String × Mark)))
  | .word _ => (takeWord args).map fun p => .ok ({ r with operand? := some [p.1] }, p.2)
  | .command name choices =>
    match args with
    | (first, .plain) :: rest =>
      some (if choices.contains first then
        .ok ({ r with operand? := some (first :: rest.map (·.1)) }, [])
      else .error (invalidChoice name choices first))
    | (first, .divider) :: (_, .plain) :: _ => some (.error (invalidChoice name choices first))
    | _ => none

/-! ## The whole line -/

/-- The operand that is still to come. -/
def Grammar.pending? (g : Grammar) (r : Reading) : Option Operand :=
  if r.operand?.isSome then none else g.operand?

/-- Reads what is left of the arguments. Every step takes one argument at least, so their number is
fuel enough. -/
def readFrom (g : Grammar) : (fuel : Nat) → Reading → List (String × Mark) → Except Stop Reading
  | 0, r, _ => .ok r
  | _, r, [] => .ok r
  | fuel + 1, r, (arg, mark) :: rest =>
    match mark with
    | .unknown => readFrom g fuel (r.leave [arg]) rest
    | .flag use => do
      let (r, rest) ← readFlag g r use rest
      readFrom g fuel r rest
    | mark => match (g.pending? r).bind (readOperand r ((arg, mark) :: rest)) with
      | some result => do
        let (r, rest) ← result
        readFrom g fuel r rest
      | none => readFrom g fuel (r.leave [arg]) rest

/-- Reads a command line. An operand that the grammar has must be there. -/
def read (g : Grammar) (args : List String) : Except Stop Reading := do
  let marks ← (marked g args).mapError .wrong
  let r ← readFrom g marks.length {} marks
  match g.pending? r with
  | some o => throw (.wrong ("the following arguments are required: " ++ o.name))
  | none => return r

end HostRouting.Cli
