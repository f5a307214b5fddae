import QuantumBlocks.Number.Decimal
import QuantumBlocks.Program.Limits
import QuantumBlocks.Service.Address

/-!
# The command line

The service is told on its command line where to listen, how many qubits its simulator may have and
how much to report. A setting that is not given there is taken from a variable of the environment,
and failing that from a default. Arguments are read from left to right and the first that is wrong
counts, but the value of a setting is looked at only when the next known option comes or the line
ends.
-/

namespace QuantumBlocks.Service

open Number

/-! ## Settings -/

/-- A setting with a value. -/
inductive Setting where
  | bind
  | maxSimulatorQubits
  deriving DecidableEq, Repr

/-- The long name of a setting. -/
def Setting.name : Setting → String
  | .bind => "bind"
  | .maxSimulatorQubits => "max-sim-qubits"

/-- The variable of a setting. -/
def Setting.environmentName : Setting → String
  | .bind => "BLOCKQ_BIND"
  | .maxSimulatorQubits => "BLOCKQ_MAX_SIM_QUBITS"

/-- What the service is told. -/
structure Options where
  verbosity : Nat := 0
  bind : SocketAddress := ⟨.version4 [0, 0, 0, 0], 8000⟩
  maxSimulatorQubits : Nat := 20
  deriving DecidableEq, Repr

/-- Why the service does not start. -/
inductive OptionError where
  | badValue (setting : Setting) (value : String)
  | unknownArgument (argument : String)
  | missingValue (setting : Setting)
  | unexpectedValue (option : String)
  | repeated (setting : Setting)
  | helpWanted
  | versionWanted
  deriving DecidableEq, Repr

/-- The name and the version of the program. -/
def versionText : String := "blockq-server 0.3.0\n"

/-- How the program is called. -/
def helpText : String :=
  "Run Scratch quantum block programs over HTTP\n\nUsage: blockq-server [OPTIONS]\n\nOptions:\n"
    ++ "      --bind <BIND>                      Address to listen on "
    ++ "[env: BLOCKQ_BIND=] [default: 0.0.0.0:8000]\n"
    ++ "      --max-sim-qubits <MAX_SIM_QUBITS>  Largest register the simulator will allocate "
    ++ "[env: BLOCKQ_MAX_SIM_QUBITS=] [default: 20]\n"
    ++ "  -v, --verbose...                       Increase verbosity (-v, -vv, -vvv)\n"
    ++ "  -h, --help                             Print help\n"
    ++ "  -V, --version                          Print version\n"

/-- What to print instead of starting. -/
def OptionError.message : OptionError → String
  | .badValue setting value =>
    "error: invalid value '" ++ value ++ "' for '--" ++ setting.name ++ "'\n"
  | .unknownArgument argument => "error: unexpected argument '" ++ argument ++ "' found\n"
  | .missingValue setting => "error: a value is required for '--" ++ setting.name ++ "'\n"
  | .unexpectedValue option => "error: unexpected value for '--" ++ option ++ "' found\n"
  | .repeated setting =>
    "error: the argument '--" ++ setting.name ++ "' cannot be used multiple times\n"
  | .helpWanted => helpText
  | .versionWanted => versionText

/-- Whether the program was asked for a text and has not failed. -/
def OptionError.isRequest : OptionError → Bool
  | .helpWanted | .versionWanted => true
  | _ => false

/-! ## Reading -/

/-- What the arguments have said so far. A setting is open when its option has come but its value
was not looked at; the value may not have come either. -/
structure Reading where
  verbosity : Nat := 0
  bind : Option SocketAddress := none
  maxSimulatorQubits : Option Nat := none
  pending : Option (Setting × Option String) := none
  deriving DecidableEq, Repr

namespace Reading

/-- The greatest verbosity. -/
def maxVerbosity : Nat := 255

/-- Whether a setting is given. -/
def isGiven (r : Reading) : Setting → Bool
  | .bind => r.bind.isSome
  | .maxSimulatorQubits => r.maxSimulatorQubits.isSome

/-- The number of qubits that a text writes: an integer that is a natural number of 32 bits. -/
def readQubits? (s : String) : Option Nat :=
  (readSigned64? s.toList).bind fun n =>
    if 0 ≤ n ∧ n ≤ maxUnsigned32 then some n.toNat else none

/-- Gives a setting the value that a text writes. -/
def set (r : Reading) (setting : Setting) (value : String) : Except OptionError Reading :=
  match setting with
  | .bind =>
    match SocketAddress.read? value with
    | some address => .ok { r with bind := some address }
    | none => .error (.badValue setting value)
  | .maxSimulatorQubits =>
    match readQubits? value with
    | some qubits => .ok { r with maxSimulatorQubits := some qubits }
    | none => .error (.badValue setting value)

/-- Gives a setting its value, which it has not yet. -/
def give (r : Reading) (setting : Setting) (value : String) : Except OptionError Reading :=
  if r.isGiven setting then .error (.repeated setting) else r.set setting value

/-- Looks at the value of the open setting. -/
def settle (r : Reading) : Except OptionError Reading :=
  match r.pending with
  | none => .ok r
  | some (setting, none) => .error (.missingValue setting)
  | some (setting, some value) => { r with pending := none }.give setting value

/-- One more step of verbosity. -/
def louder (r : Reading) : Reading :=
  { r with verbosity := min (r.verbosity + 1) maxVerbosity }

/-- A switch has come: one that raises the verbosity, or one that asks for a text. -/
def switch? : String → Option (Reading → Except OptionError Reading)
  | "verbose" => some fun r => r.settle.map louder
  | "help" => some fun r => r.settle.bind fun _ => .error .helpWanted
  | "version" => some fun r => r.settle.bind fun _ => .error .versionWanted
  | _ => none

/-- The setting of a long name. -/
def setting? (name : String) : Option Setting :=
  [Setting.bind, .maxSimulatorQubits].find? fun setting => setting.name = name

/-- A long option, whose value may be attached to its name. -/
def readLong (r : Reading) (argument : String) (name : String) (attached : Option String) :
    Except OptionError Reading :=
  match setting? name, switch? name, attached with
  | some setting, _, some value => r.settle.bind fun r => r.give setting value
  | some setting, _, none => r.settle.map fun r => { r with pending := some (setting, none) }
  | none, some switch, none => switch r
  | none, some _, some _ => .error (.unexpectedValue name)
  | none, none, _ => .error (.unknownArgument argument)

/-- The long name of a letter. -/
def letterName? : Char → Option String
  | 'v' => some "verbose"
  | 'h' => some "help"
  | 'V' => some "version"
  | _ => none

/-- The letters after a single dash, one switch each. -/
def readLetters (r : Reading) (argument : String) : List Char → Except OptionError Reading
  | [] => .ok r
  | c :: rest =>
    match (letterName? c).bind switch? with
    | some switch => (switch r).bind fun r => readLetters r argument rest
    | none => .error (.unknownArgument argument)

/-- Splits a long option at its first equals sign. -/
def splitAttached (cs : List Char) : String × Option String :=
  let name := String.ofList (cs.takeWhile (· ≠ '='))
  match cs.dropWhile (· ≠ '=') with
  | _ :: value => (name, some (String.ofList value))
  | [] => (name, none)

/-- An argument that is no option: the value of the open setting, if that has none yet. -/
def readWord (r : Reading) (argument : String) : Except OptionError Reading :=
  match r.pending with
  | some (setting, none) => .ok { r with pending := some (setting, some argument) }
  | _ => .error (.unknownArgument argument)

/-- One argument. -/
def readArgument (r : Reading) (argument : String) : Except OptionError Reading :=
  match argument.toList with
  | '-' :: '-' :: long =>
    let (name, attached) := splitAttached long
    r.readLong argument name attached
  | '-' :: c :: letters => r.readLetters argument (c :: letters)
  | _ => r.readWord argument

/-- The arguments from left to right. After two dashes only words could come, and there are none. -/
def readArguments (r : Reading) : List String → Except OptionError Reading
  | [] => r.settle
  | "--" :: [] => r.settle
  | "--" :: word :: _ => .error (.unknownArgument word)
  | argument :: rest => (r.readArgument argument).bind fun r => readArguments r rest

/-! ## The environment -/

/-- Gives a setting the value of its variable, unless it is given already or there is none. -/
def readVariable (lookup : Setting → Option String) (r : Reading) (setting : Setting) :
    Except OptionError Reading :=
  match r.isGiven setting, lookup setting with
  | false, some value => r.set setting value
  | _, _ => .ok r

/-- Gives both settings the values of their variables. -/
def readVariables (lookup : Setting → Option String) (r : Reading) :
    Except OptionError Reading :=
  (r.readVariable lookup .bind).bind fun r => r.readVariable lookup .maxSimulatorQubits

/-- What was said, and the defaults for the rest. -/
def toOptions (r : Reading) : Options where
  verbosity := r.verbosity
  bind := r.bind.getD ({} : Options).bind
  maxSimulatorQubits := r.maxSimulatorQubits.getD ({} : Options).maxSimulatorQubits

end Reading

/-! ## Options -/

namespace Options

/-- What the service is told by its arguments and by the variables of its settings. -/
def read (arguments : List String) (lookup : Setting → Option String) :
    Except OptionError Options := do
  let r ← Reading.readArguments {} arguments
  return (← r.readVariables lookup).toOptions

/-- What is reported at a verbosity: the lowest level for each part of the service. -/
def logFilter (o : Options) : String :=
  match o.verbosity with
  | 0 => "blockq_server=info,blockq_blocks=info,tower_http=info"
  | 1 => "blockq_server=debug,blockq_blocks=debug,tower_http=debug"
  | 2 => "blockq_server=trace,blockq_blocks=trace,blockq_adapter_sim=debug,tower_http=debug"
  | _ => "trace"

end Options

/-! ## Configuration -/

/-- How the service is run. -/
structure Configuration where
  bind : SocketAddress := ({} : Options).bind
  allowAnyOrigin : Bool := true
  maxSimulatorQubits : Nat := ({} : Options).maxSimulatorQubits
  limits : Limits := {}
  deriving DecidableEq, Repr

/-- The configuration that options give: origins and limits are not theirs to say. -/
def Options.configuration (o : Options) : Configuration where
  bind := o.bind
  maxSimulatorQubits := o.maxSimulatorQubits

end QuantumBlocks.Service
