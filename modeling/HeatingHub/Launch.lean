import HeatingHub.CommandLine
import HeatingHub.Host.Machine
import HeatingHub.Hub.Basic
import HeatingHub.Sms.Arrival
import HeatingHub.Sms.Spool

/-!
# Starting the program

From the arguments and from what the machine holds follows whether the program ends at once, with
which exit code and which words, or runs a hub. A running hub takes the messages that appear in the
directory for received messages, if that directory could be watched when it started.
-/

namespace HeatingHub

/-- What a start of the program finds on the machine. -/
structure Premises where
  files : FileTree := {}
  portsInUse : List Nat := []
  /-- The user's configuration directory, if one is named. -/
  configHome : Option String := none
  home : Option String := none
  /-- The home directory of the user's account. -/
  account : Option String := none

namespace Premises

/-- The configuration file at its default place, if it is there. -/
def presentConfig (premises : Premises) : Option String :=
  (Config.defaultPath premises.configHome premises.home premises.account).filter
    premises.files.holds

/-- What stands at the path of the state file. -/
def stateFile (premises : Premises) (path : String) : StateFile :=
  match premises.files.read path with
  | .ok bytes => .ofBytes bytes
  | .error (.io .isDirectory) => .blocked
  | .error _ => .missing

/-- The machine as a configuration tells the hub to look at it. -/
def machine (premises : Premises) (config : Config) : Machine where
  interface := config.networkInterface
  daemonProcess := config.smsDaemonProcess
  logUnit := config.logUnit
  files := premises.files

/-- The hub that starts with a configuration; messages are accepted while there is a modem. -/
def hub (premises : Premises) (config : Config) (counter : UInt64) (now : Nat) : Hub :=
  let machine := premises.machine config
  Hub.start machine.hubId config.pin
    { disk :=
        { file := premises.stateFile config.stateFile
          accepts := fun _ => premises.files.canHold config.stateFile }
      post := { accepts := fun _ _ => premises.files.holds config.modemDataNode }
      host := { answers := fun _ => machine.vitals } }
    counter now

end Premises

/-- What a call of the program comes to. -/
inductive Launch
  /-- The program shows its usage or its version, and succeeds. -/
  | shown (lines : List String)
  /-- The command line was not understood. -/
  | refused
  | failed (cause : StartFault)
  | running (config : Config)
  deriving DecidableEq

namespace Launch

/-- Calls the program. -/
def call (arguments : List String) (premises : Premises) : Launch :=
  match Invocation.ofArguments arguments with
  | .help => .shown usageLines
  | .version => .shown [versionLine]
  | .usage => .refused
  | .run options =>
    match options.configure premises.presentConfig premises.files.read with
    | .error cause => .failed cause
    | .ok config =>
      if premises.portsInUse.contains config.devicePort then
        .failed (.port config.devicePort (.io .addressInUse))
      else .running config

/-- The exit code of a call, which for a running hub is the one it ends with when it is stopped. -/
def exitCode : Launch → Nat
  | .shown _ | .running _ => 0
  | .failed _ => 1
  | .refused => 2

/-- The first line that a failed call complains with. -/
def complaint? : Launch → Option String
  | .failed cause => some cause.complaint
  | _ => none

end Launch

/-- A message arrives as a file in a watched directory, and the hub runs a cycle. -/
def Hub.deliver (hub : Hub) (directory : String) (sms : Sms) (now : Nat) (wall : Int) : Hub :=
  let file := "From: " ++ sms.number ++ "\n\n" ++ sms.text ++ "\n"
  let event : SpoolEvent := { kind := .closed, paths := [joinPath directory "message"] }
  let inbox := hub.inbox.notice (fun _ => some (Text.encode file.toList)) event
  { hub with inbox }.cycle now wall

/-- The hub that starts with a configuration and has been sent messages; they reach it if their
directory was there to be watched when it started. -/
def Premises.serve (premises : Premises) (config : Config) (messages : List Sms) (wall : Int) :
    Hub :=
  let hub := premises.hub config 0 0
  if premises.files.holds config.smsIncomingDir then
    messages.foldl (fun hub sms => hub.deliver config.smsIncomingDir sms 0 wall) hub
  else hub

end HeatingHub
