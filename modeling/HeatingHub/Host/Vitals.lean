import HeatingHub.Fault

/-!
# What the host answers

The hub asks the computer it runs on about its network link, its modem and its message daemon, and
for the diagnostics that people ask for by text message. A host answers each question as it is at
that moment.
-/

namespace HeatingHub

/-- The state of the modem and of its registration in the network. -/
inductive ModemStatus
  /-- The device nodes are missing. -/
  | absent
  /-- The nodes are there and the modem does not answer. -/
  | comsFailure
  | simError
  | notRegistered
  | searching
  | denied
  | registered
  | roaming
  | unknown
  deriving DecidableEq, Repr

namespace ModemStatus

/-- All states. -/
def all : List ModemStatus :=
  [.absent, .comsFailure, .simError, .notRegistered, .searching, .denied, .registered, .roaming,
    .unknown]

/-- The modem can be reached over its network. -/
def isRegistered : ModemStatus → Bool
  | .registered | .roaming => true
  | _ => false

/-- The state in words. -/
def describe : ModemStatus → String
  | .absent => "module not detected"
  | .comsFailure => "communication failure"
  | .simError => "SIM card error"
  | .notRegistered => "not registered"
  | .searching => "searching network"
  | .denied => "registration denied"
  | .registered => "registered"
  | .roaming => "roaming"
  | .unknown => "unknown"

end ModemStatus

/-- The answers of the host at one moment. -/
structure Vitals where
  /-- The network interface is up and running. -/
  link : Except Fault Bool
  modem : ModemStatus
  /-- The message daemon runs. -/
  daemon : Bool
  publicIp : Except Fault String
  uptime : Except Fault String
  wifi : Except Fault String
  logs : Except Fault String
  /-- The answer to a demand to restart. -/
  reboot : Except Fault Unit

/-- The host over time: what it answers to the question of each number, and how many have been
asked. -/
structure Host where
  answers : Nat → Vitals
  asked : Nat := 0

namespace Host

/-- What the host answers to the next question. -/
def now (host : Host) : Vitals :=
  host.answers host.asked

/-- The host once the next question has been asked. -/
def next (host : Host) : Host :=
  { host with asked := host.asked + 1 }

end Host

end HeatingHub
