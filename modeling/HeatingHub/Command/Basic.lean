import HeatingHub.Mode

/-!
# Commands

What a text message can ask of the hub.
-/

namespace HeatingHub

/-- The words for a mode in a command, of which two mean comfort. -/
inductive ModeWord
  | off
  | eco
  | defrost
  | comfort
  | on
  deriving DecidableEq, Repr

namespace ModeWord

/-- All words for a mode. -/
def all : List ModeWord := [.off, .eco, .defrost, .comfort, .on]

/-- The word as it is typed, in upper case. -/
def text : ModeWord → String
  | .off => "OFF"
  | .eco => "ECO"
  | .defrost => "DEFROST"
  | .comfort => "COMFORT"
  | .on => "ON"

/-- The mode that a word means. -/
def mode : ModeWord → Mode
  | .off => .off
  | .eco => .eco
  | .defrost => .defrost
  | .comfort | .on => .comfort

/-- The word that is typed like this. -/
def ofText? (text : String) : Option ModeWord :=
  all.find? (·.text == text)

end ModeWord

/-- What a diagnostic command is about. -/
inductive Topic
  | state
  | fileState
  | uptime
  | wifi
  | log
  | reboot
  deriving DecidableEq, Repr

namespace Topic

/-- All topics. -/
def all : List Topic := [.state, .fileState, .uptime, .wifi, .log, .reboot]

/-- The word for a topic. -/
def text : Topic → String
  | .state => "STATE"
  | .fileState => "FILESTATE"
  | .uptime => "UPTIME"
  | .wifi => "WIFI"
  | .log => "LOG"
  | .reboot => "REBOOT"

/-- The topic with this word. -/
def ofText? (text : String) : Option Topic :=
  all.find? (·.text == text)

end Topic

/-- A command; three of them stand for texts that cannot be obeyed. -/
inductive Command
  | ping
  | version
  | all (word : ModeWord)
  | heater (name : String) (word : ModeWord)
  | invalidHeaterName
  | getDefault
  | getHeater (name : String)
  | invalidName
  | getIp
  | lock
  | unlock (pin : String)
  | addPhone (pin number : String)
  | removePhone (pin number : String)
  | setEmergencyPhone (pin number : String)
  | removeEmergencyPhone
  | help
  | debug (topic : Topic)
  | invalid
  deriving DecidableEq, Repr

end HeatingHub
