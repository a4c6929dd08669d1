import UiStream.Text.Digit
import UiStream.Text.Split

/-!
# The arguments of the command

The command has switches, which are given or not, and settings, which have a value: behind an
equals sign, or in the next argument if that does not look like a name.  Nothing may be given
twice, and `--` ends the arguments.

`CommandOptions.ofArguments` reads the arguments from the left and stops at the first fault.  The
value of a setting that stands in an argument of its own is looked at when the next name has been
recognised, or at the end; so a name that is not known goes before a value that is not one.
-/

namespace UiStream

/-- A switch of the command. -/
inductive Switch where
  | mixed
  | fencedOnly
  | abortOnError
  | checkOrphans
  | autoFix
  | strict
deriving DecidableEq, Repr

/-- A setting of the command. -/
inductive Setting where
  | chunkSize
  | initial
deriving DecidableEq, Repr

/-- What a name asks for. -/
inductive ArgumentName where
  | switch (switch : Switch)
  | setting (setting : Setting)
  | help
  | version
deriving DecidableEq, Repr

/-- The names of the command. -/
def ArgumentName.names : List (String × ArgumentName) :=
  [("mixed", .switch .mixed), ("fenced-only", .switch .fencedOnly),
   ("abort-on-error", .switch .abortOnError), ("check-orphans", .switch .checkOrphans),
   ("auto-fix", .switch .autoFix), ("strict", .switch .strict),
   ("chunk-size", .setting .chunkSize), ("initial", .setting .initial),
   ("help", .help), ("version", .version)]

/-- Why the arguments do not run the command.  Asking for help or for the version is such a
reason. -/
inductive UsageFault where
  | help
  | version
  | unknown (argument : String)
  | surplusValue (name : String)
  | missingValue (setting : Setting)
  | malformedValue (setting : Setting) (value : String)
  | repeated (name : ArgumentName)
  | fencedWithoutMixed
deriving DecidableEq, Repr

/-- How the command runs. -/
structure CommandOptions where
  mixed : Bool := false
  fencedOnly : Bool := false
  abortOnError : Bool := false
  checkOrphans : Bool := false
  autoFix : Bool := false
  strict : Bool := false
  chunkSize : Nat := 4096
  initial? : Option String := none
deriving DecidableEq, Repr

/-! ## Reading from the left -/

/-- The arguments read so far: the switches and the values of settings, and a setting that is still
open, with its value if that has come. -/
structure ArgumentReader where
  switches : List Switch := []
  chunkSize? : Option Nat := none
  initial? : Option String := none
  open? : Option (Setting × Option String) := none
deriving DecidableEq, Repr

/-- The number of bytes that a text writes: decimal digits, perhaps behind a plus sign. -/
def sizeOf? (text : String) : Option Nat :=
  let digits := match text.toList with
    | '+' :: digits => digits
    | digits => digits
  if digits.isEmpty then none else (numberOf? 10 digits).filter (· < 0x10000000000000000)

namespace ArgumentReader

/-- Gives a setting its value. -/
def assign (reader : ArgumentReader) (setting : Setting) (value : String) :
    Except UsageFault ArgumentReader :=
  match setting with
  | .initial =>
    if reader.initial?.isSome then .error (.repeated (.setting .initial))
    else .ok { reader with initial? := some value }
  | .chunkSize =>
    if reader.chunkSize?.isSome then .error (.repeated (.setting .chunkSize))
    else
      match sizeOf? value with
      | some size => .ok { reader with chunkSize? := some size }
      | none => .error (.malformedValue .chunkSize value)

/-- Closes the setting that is open. -/
def settle (reader : ArgumentReader) : Except UsageFault ArgumentReader :=
  match reader.open? with
  | none => .ok reader
  | some (setting, none) => .error (.missingValue setting)
  | some (setting, some value) => { reader with open? := none }.assign setting value

/-- Turns a switch on. -/
def turnOn (reader : ArgumentReader) (switch : Switch) : Except UsageFault ArgumentReader :=
  if reader.switches.contains switch then .error (.repeated (.switch switch))
  else .ok { reader with switches := switch :: reader.switches }

/-- Takes a name, and the value that is attached to it. -/
def takeName (reader : ArgumentReader) (name : String) (value? : Option String) :
    Except UsageFault ArgumentReader :=
  match ArgumentName.names.lookup name, value? with
  | none, _ => .error (.unknown ("--" ++ name))
  | some (.setting setting), some value => do (← reader.settle).assign setting value
  | some (.setting setting), none => do
    return { ← reader.settle with open? := some (setting, none) }
  | some _, some _ => .error (.surplusValue name)
  | some (.switch switch), none => do (← reader.settle).turnOn switch
  | some .help, none => do let _ ← reader.settle; throw .help
  | some .version, none => do let _ ← reader.settle; throw .version

/-- Takes a name of one letter.  Others may stand behind it. -/
def takeLetter (reader : ArgumentReader) (letter : Char) (argument : String) :
    Except UsageFault ArgumentReader :=
  match letter with
  | 'h' => do let _ ← reader.settle; throw .help
  | 'V' => do let _ ← reader.settle; throw .version
  | _ => .error (.unknown argument)

/-- Takes an argument that is no name: the value of the setting that waits for it. -/
def takeValue (reader : ArgumentReader) (value : String) : Except UsageFault ArgumentReader :=
  match reader.open? with
  | some (setting, none) => .ok { reader with open? := some (setting, some value) }
  | _ => .error (.unknown value)

/-- Takes an argument. -/
def take (reader : ArgumentReader) (argument : String) : Except UsageFault ArgumentReader :=
  match argument.toList with
  | '-' :: '-' :: text =>
    let name := text.takeWhile (· != '=')
    let value? := match text.drop name.length with
      | _ :: value => some (String.ofList value)
      | [] => none
    reader.takeName (String.ofList name) value?
  | '-' :: letter :: _ => reader.takeLetter letter argument
  | _ => reader.takeValue argument

/-- Takes arguments in order. -/
def takeAll (reader : ArgumentReader) : List String → Except UsageFault ArgumentReader
  | [] => reader.settle
  | argument :: rest =>
    if argument = "--" then
      match rest with
      | [] => reader.settle
      | argument :: _ => .error (.unknown argument)
    else
      match reader.take argument with
      | .ok reader => takeAll reader rest
      | .error fault => .error fault

end ArgumentReader

/-- The options that arguments give. -/
def CommandOptions.ofArguments (arguments : List String) : Except UsageFault CommandOptions := do
  let reader ← ArgumentReader.takeAll {} arguments
  let isOn (switch : Switch) : Bool := reader.switches.contains switch
  if isOn .fencedOnly && !isOn .mixed then throw .fencedWithoutMixed
  return {
    mixed := isOn .mixed
    fencedOnly := isOn .fencedOnly
    abortOnError := isOn .abortOnError
    checkOrphans := isOn .checkOrphans
    autoFix := isOn .autoFix
    strict := isOn .strict
    chunkSize := reader.chunkSize?.getD 4096
    initial? := reader.initial? }

end UiStream
