import HeatingHub.Command.Grammar
import HeatingHub.Station.Basic
import HeatingHub.Text.Cut

/-!
# Obeying text messages

A message is obeyed when the gate admits its sender, and then it is answered; a message from
anybody else is dropped in silence, so that strangers cannot make a locked hub spend money. Changes
to the settings are saved before the answer is sent.
-/

namespace HeatingHub

/-- The name and the build of the program. -/
def versionText : String := "heater-hub-0.1.0.development"

/-- The answer to `HELP`. -/
def helpText : String :=
  "Basic commands:\nALL OFF\nALL ECO\nALL COMFORT\nALL DEFROST\nHEATER <name> <mode>\n" ++
    "GET DEFAULT\nGET HEATER <name>\n"

/-- The answer to a command with an invalid phone number. -/
def invalidNumberText (number : String) : String :=
  "Phone number \"" ++ number ++ "\" is not valid. Phone numbers must be 10 to 14 digits, " ++
    "country code first. Example: 3310203040506"

namespace Station

/-- The greatest width of a public address in an answer. -/
def addressWidth : Nat := 64

/-- The greatest width of a wifi report in an answer. -/
def wifiWidth : Nat := 512

/-- The greatest width of one part of the log. -/
def logPartWidth : Nat := 512

/-- The width of the end of the log that is sent. -/
def logWidth : Nat := 2048

/-- Answers with several texts, in order. -/
def replyAll (station : Station) (number : String) (texts : List (List Char)) : Station :=
  texts.foldl (fun station text => station.reply number (String.ofList text)) station

/-- The answer to `DEBUG STATE`: the modes in memory. -/
def stateText (station : Station) : String :=
  station.fleet.overrides.toList.foldl
    (fun text (name, mode) => text ++ "HEATER " ++ name ++ ": " ++ mode.label ++ "\n")
    ("DEFAULT: " ++ station.fleet.defaultMode.label ++ "\n")

/-- The answer to `DEBUG FILESTATE`: the state file as it is. -/
def fileStateText (station : Station) : String :=
  match station.disk.file.read with
  | .ok content => content
  | .error _ => "Fail to read state file"

/-- The answer to `GET IP`. -/
def addressText : Except Fault String → String
  | .error _ => "Fail to get public IP"
  | .ok address =>
    if address.isEmpty then "Unable to get public IP"
    else String.ofList (Text.keepFirst addressWidth address.toList)

/-- The answer to `DEBUG WIFI`. -/
def wifiText : Except Fault String → String
  | .error _ => "Fail to get wifi connection info"
  | .ok report =>
    if (Text.trim report.toList).isEmpty then "Unable to get wifi connection info"
    else String.ofList (Text.keepFirst wifiWidth report.toList)

/-- The answers to `DEBUG LOG`: the end of the log, in parts. -/
def logTexts : Except Fault String → List (List Char)
  | .error _ => ["Fail to get hub logs".toList]
  | .ok logs =>
    if logs.isEmpty then ["Unable to get hub logs".toList]
    else Text.pieces logPartWidth (Text.keepLast logWidth logs.toList)

/-- Obeys a diagnostic command. -/
def debug (station : Station) (number : String) : Topic → Station
  | .state => station.reply number station.stateText
  | .fileState => station.reply number station.fileStateText
  | .uptime =>
    let (uptime, station) := station.ask (·.uptime)
    station.reply number (uptime.toOption.getD "unknown")
  | .wifi =>
    let (report, station) := station.ask (·.wifi)
    station.reply number (wifiText report)
  | .log =>
    let (logs, station) := station.ask (·.logs)
    station.replyAll number (logTexts logs)
  | .reboot =>
    let (outcome, station) := station.ask (·.reboot)
    match outcome with
    | .ok _ => station
    | .error _ => station.reply number "Reboot failed"

/-- Runs a change to the whitelist if the hub is unlocked and the PIN is right, and answers with
what it says; otherwise answers why not. -/
def editWhitelist (station : Station) (secret number pin : String)
    (change : Station → String × Station) : Station :=
  if station.gate.locked then station.reply number "Cannot modify whitelist while locked"
  else if pin ≠ secret then station.reply number "Wrong PIN"
  else
    let (answer, station) := change station
    station.reply number answer

/-- The answer to `ADD PHONE`. -/
def addedText (phone : String) : WhitelistChange → String
  | .invalidNumber => invalidNumberText phone
  | _ => "Phone number \"" ++ phone ++ "\" added to whitelist"

/-- The answer to `REMOVE PHONE`. -/
def removedText (phone : String) : WhitelistChange → String
  | .invalidNumber => invalidNumberText phone
  | .removed => "Phone number \"" ++ phone ++ "\" removed from whitelist"
  | _ => "Phone number \"" ++ phone ++ "\" is not in whitelist"

/-- Obeys a command of an admitted sender, where `secret` is the PIN. -/
def obey (station : Station) (secret number : String) : Command → Station
  | .ping => station.reply number "PONG"
  | .version => station.reply number versionText
  | .all word => (station.setAll word.mode).reply number ("ALL " ++ word.text)
  | .heater name word =>
    (station.setOverride name word.mode).reply number ("HEATER " ++ name ++ " " ++ word.text)
  | .invalidHeaterName => station.reply number "Invalid heater name"
  | .getDefault => station.reply number ("DEFAULT: " ++ station.fleet.defaultMode.label)
  | .getHeater name =>
    station.reply number ("HEATER " ++ name ++ " " ++ (station.fleet.modeOf (some name)).label)
  | .invalidName => station.reply number "Invalid name"
  | .getIp =>
    let (address, station) := station.ask (·.publicIp)
    station.reply number (addressText address)
  | .lock =>
    if station.gate.whitelist.contains number then
      (station.setLocked true).reply number "LOCKED"
    else
      station.reply number
        "Cannot lock: phone number is not whitelisted. Use ADD PHONE command."
  | .unlock pin =>
    if pin = secret then (station.setLocked false).reply number "UNLOCKED"
    else station.reply number "Wrong PIN"
  | .addPhone pin phone =>
    station.editWhitelist secret number pin fun station =>
      let (change, station) := station.addPhone phone
      (addedText phone change, station)
  | .removePhone pin phone =>
    station.editWhitelist secret number pin fun station =>
      let (change, station) := station.removePhone phone
      (removedText phone change, station)
  | .setEmergencyPhone pin phone =>
    if pin ≠ secret then station.reply number "Wrong PIN"
    else
      let (valid, station) := station.setEmergency phone
      station.reply number
        (if valid then phone ++ " set as emergency phone number." else invalidNumberText phone)
  | .removeEmergencyPhone =>
    let (old, station) := station.clearEmergency
    station.reply number
      (if old.isSome then "Emergency phone removed" else "No emergency phone configured")
  | .help => station.reply number helpText
  | .debug topic => station.debug number topic
  | .invalid => station.reply number "Received invalid command"

/-- Takes a received message: obeys it if the gate admits its sender. -/
def receive (station : Station) (secret : String) (sms : Sms) : Station :=
  if station.gate.admits sms.number then station.obey secret sms.number (Command.parse sms.text)
  else station

/-- Takes messages one after the other. -/
def receiveAll (station : Station) (secret : String) (messages : List Sms) : Station :=
  messages.foldl (fun station sms => station.receive secret sms) station

end Station

end HeatingHub
