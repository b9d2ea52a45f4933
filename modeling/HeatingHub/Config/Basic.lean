import HeatingHub.Fault

/-!
# Configuration

The paths and settings that the hub is started with.
-/

namespace HeatingHub

/-- The configuration of a hub. -/
structure Config where
  /-- The port that devices connect to. -/
  devicePort : Nat := 32322
  stateFile : String := "/var/lib/heater_hub.state"
  /-- The directory in which received messages appear. -/
  smsIncomingDir : String := "/var/spool/sms/incoming"
  /-- The directory in which messages are left for sending. -/
  smsOutgoingDir : String := "/var/spool/sms/outgoing"
  modemDataNode : String := "/dev/ttyUSB2"
  modemControlNode : String := "/dev/ttyUSB3"
  networkInterface : String := "wlan0"
  /-- The process that sends and receives messages. -/
  smsDaemonProcess : String := "smsd"
  pin : String := "1234"
  /-- The page that shows the caller's public address. -/
  publicIpUrl : String := "https://ifconfig.me"
  /-- The unit whose log is shown. -/
  logUnit : String := "heater-hub.service"
  /-- The pause between two cycles, in milliseconds. -/
  cycleInterval : Nat := 50
  deriving DecidableEq, Repr

/-- A path inside a directory; an absolute path stands for itself. -/
def joinPath (directory path : String) : String :=
  if path.toList.head? = some '/' then path
  else if directory.isEmpty ∨ directory.toList.getLast? = some '/' then directory ++ path
  else directory ++ "/" ++ path

namespace Config

/-- A configuration with all its paths in one directory, for trying things out. -/
def within (directory : String) : Config where
  devicePort := 0
  stateFile := joinPath directory "state/heater_hub.state"
  smsIncomingDir := joinPath directory "sms/incoming"
  smsOutgoingDir := joinPath directory "sms/outgoing"
  modemDataNode := joinPath directory "ttyUSB2"
  modemControlNode := joinPath directory "ttyUSB3"
  networkInterface := "lo"
  publicIpUrl := "http://127.0.0.1:9/"
  cycleInterval := 10

/-- Where the configuration file is looked for: in the user's configuration directory if that is
named by an absolute path, or else in the one under the home directory. A home directory that is
not named, or by an empty text, is the one of the user's account. -/
def defaultPath (configHome home account : Option String) : Option String :=
  let absolute := configHome.filter (·.toList.head? = some '/')
  let underHome := (home.filter (!·.isEmpty) <|> account).map (joinPath · ".config")
  (absolute <|> underHome).map (joinPath · "heater-hub/config.json")

end Config

end HeatingHub
