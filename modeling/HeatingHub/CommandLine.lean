import HeatingHub.Config.Reader
import HeatingHub.Text.Line
import HeatingHub.Text.Number

/-!
# The command line

What the program is called with, and the configuration that it then uses: the file named on the
command line, or else the one at the default place if there is one, or else the defaults; and over
it the port and the state file from the command line.
-/

namespace HeatingHub

/-- What the command line sets. -/
structure Options where
  port : Option Nat := none
  stateFile : Option String := none
  config : Option String := none
  deriving DecidableEq, Repr

/-- What the program is asked to do. -/
inductive Invocation
  | help
  | version
  /-- The command line is not understood. -/
  | usage
  | run (options : Options)
  deriving DecidableEq, Repr

namespace Options

/-- An option that takes a value. -/
inductive Key
  | port
  | stateFile
  | config
  deriving DecidableEq

/-- The option with this name. -/
def key? (name : String) : Option Key :=
  match name with
  | "--device-server-port" | "--port" => some .port
  | "--state-file" => some .stateFile
  | "--config" => some .config
  | _ => none

/-- The port that a text names: a whole number below 65536, with a sign or none. -/
def readPort? (text : List Char) : Option Nat :=
  match text with
  | '-' :: '+' :: _ => none
  | '-' :: rest => Text.readNat? 10 0 rest
  | _ => Text.readNat? 10 65535 text

/-- Sets an option that has not been set before to a value that is not empty. -/
def set (options : Options) (key : Key) (value : String) : Option Options :=
  if value.isEmpty then none
  else match key with
    | .port =>
      if options.port.isSome then none
      else (readPort? value.toList).map fun port => { options with port := some port }
    | .stateFile =>
      if options.stateFile.isSome then none else some { options with stateFile := some value }
    | .config =>
      if options.config.isSome then none else some { options with config := some value }

/-- A text that stands as an argument of its own, and not as an option. -/
def isValue (text : String) : Bool :=
  match text.toList with
  | '-' :: _ :: _ => false
  | _ => true

end Options

namespace Invocation

/-- Reads the arguments from left to right. A demand for help or for the version is met as soon as
it is read; two hyphens alone end the options, and nothing may follow them. -/
def read (options : Options) : List String → Invocation
  | [] => .run options
  | argument :: rest =>
    if argument = "--" then if rest.isEmpty then .run options else .usage
    else if argument = "--help" then .help
    else if argument = "--version" then .version
    else match Options.key? argument, rest with
      | some key, value :: rest =>
        if Options.isValue value then
          match options.set key value with
          | some options => read options rest
          | none => .usage
        else .usage
      | some _, [] => .usage
      | none, rest =>
        match argument.toList with
        | '-' :: 'h' :: _ => .help
        | '-' :: 'V' :: _ => .version
        | _ =>
          match Text.splitOnce '=' argument.toList with
          | none => .usage
          | some (name, value) =>
            match (Options.key? (String.ofList name)).bind fun key =>
                options.set key (String.ofList value) with
            | some options => read options rest
            | none => .usage

/-- What the arguments of the program ask for. -/
def ofArguments (arguments : List String) : Invocation :=
  read {} arguments

end Invocation

/-- Why the program cannot start. -/
inductive StartFault
  | configuration (path : String) (cause : Fault)
  | port (number : Nat) (cause : Fault)
  deriving DecidableEq

/-- What the program could not do. -/
def StartFault.message : StartFault → String
  | .configuration path _ => "loading config from " ++ path
  | .port number _ => "binding device server on port " ++ toString number

/-- Why it could not. -/
def StartFault.cause : StartFault → Fault
  | .configuration _ cause | .port _ cause => cause

/-- The first line of the complaint about a failed start. -/
def StartFault.complaint (fault : StartFault) : String :=
  "Error: " ++ fault.message

namespace Options

/-- The file that the configuration is read from, where `present` is the default place if there is
a file. -/
def configPath (options : Options) (present : Option String) : Option String :=
  options.config <|> present

/-- The configuration with the settings of the command line over it. -/
def override (options : Options) (config : Config) : Config :=
  { config with
    devicePort := options.port.getD config.devicePort
    stateFile := options.stateFile.getD config.stateFile }

/-- The configuration to use, where `read` gives the bytes of a file. -/
def configure (options : Options) (present : Option String)
    (read : String → Except Fault (List UInt8)) : Except StartFault Config :=
  match options.configPath present with
  | none => .ok (options.override {})
  | some path =>
    match (read path).bind (Config.ofBytes path) with
    | .ok config => .ok (options.override config)
    | .error cause => .error (.configuration path cause)

end Options

/-- The lines that `--help` prints. -/
def usageLines : List String :=
  [ "Heating-control hub daemon",
    "",
    "Usage: heater-hub [OPTIONS]",
    "",
    "Options:",
    "      --device-server-port <PORT>  TCP port heater controllers connect to",
    "      --state-file <PATH>          State file location",
    "      --config <PATH>              JSON config file overriding the defaults",
    "  -h, --help                       Print help",
    "  -V, --version                    Print version" ]

/-- The line that `--version` prints. -/
def versionLine : String := "heater-hub 0.1.0"

end HeatingHub
