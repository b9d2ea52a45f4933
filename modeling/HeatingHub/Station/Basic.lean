import HeatingHub.Host.Vitals
import HeatingHub.Sms.Post

/-!
# The station

The station is the fleet and the gate with their surroundings: the disk that keeps the settings,
the post that takes messages, and the host that answers questions. Settings are changed here only,
and a change is saved before anything else happens. A save that fails is not repeated: memory goes
on with the new settings, and the file keeps the old ones until the next save.
-/

namespace HeatingHub

/-- The settings in use and the surroundings of the hub. -/
structure Station where
  fleet : Fleet := {}
  gate : Gate := {}
  disk : Disk
  post : Post := {}
  host : Host

namespace Station

/-- The settings in memory. -/
def settings (station : Station) : Settings where
  defaultMode := station.fleet.defaultMode
  overrides := station.fleet.overrides
  whitelist := station.gate.whitelist
  emergency := station.gate.emergency

/-- Tries to write the settings to the state file. -/
def save (station : Station) : Station :=
  { station with disk := station.disk.save station.settings }

/-- Takes the given settings into use, with no device known and the gate unlocked. -/
def adopt (station : Station) (settings : Settings) : Station :=
  let gate := settings.whitelist.toList.foldl (fun gate number => (gate.add number).2) ({} : Gate)
  { station with
    fleet := ({ defaultMode := settings.defaultMode } : Fleet).replaceOverrides settings.overrides
    gate := match settings.emergency with
      | some number => (gate.setEmergency number).2
      | none => gate }

/-- Starts from the state file. Where there is none the defaults are used and written; where it
cannot be read they are used and the file is left alone. -/
def load (station : Station) : Station :=
  match station.disk.file.load with
  | .ok (some settings) => station.adopt settings
  | .ok none => (station.adopt {}).save
  | .error _ => station.adopt {}

/-- Uses another fleet, and saves when its settings have changed. -/
def setFleet (station : Station) (change : Bool × Fleet) : Station :=
  let station := { station with fleet := change.2 }
  if change.1 then station.save else station

/-- Sets the default mode. -/
def setDefault (station : Station) (mode : Mode) : Station :=
  station.setFleet (station.fleet.setDefault mode)

/-- Sets the mode of one heater. -/
def setOverride (station : Station) (name : String) (mode : Mode) : Station :=
  station.setFleet (station.fleet.setOverride name mode)

/-- Sets the default mode and the mode of every heater that has one of its own. -/
def setAll (station : Station) (mode : Mode) : Station :=
  station.setFleet (station.fleet.setAll mode)

/-- Uses another gate, and saves when its settings have changed. -/
def setGate (station : Station) (changed : Bool) (gate : Gate) : Station :=
  let station := { station with gate }
  if changed then station.save else station

/-- Puts a number on the whitelist. -/
def addPhone (station : Station) (number : String) : WhitelistChange × Station :=
  let (change, gate) := station.gate.add number
  (change, station.setGate (change = .added) gate)

/-- Takes a number off the whitelist. -/
def removePhone (station : Station) (number : String) : WhitelistChange × Station :=
  let (change, gate) := station.gate.remove number
  (change, station.setGate (change = .removed) gate)

/-- Makes a number the emergency phone, and says whether it is a valid one. -/
def setEmergency (station : Station) (number : String) : Bool × Station :=
  let (valid, gate) := station.gate.setEmergency number
  (valid, station.setGate valid gate)

/-- Forgets the emergency phone, and says which one it was. -/
def clearEmergency (station : Station) : Option String × Station :=
  let (old, gate) := station.gate.clearEmergency
  (old, station.setGate old.isSome gate)

/-- Locks or unlocks the gate. The lock does not outlast the station. -/
def setLocked (station : Station) (locked : Bool) : Station :=
  { station with gate := { station.gate with locked } }

/-- Asks the host a question. -/
def ask (station : Station) (question : Vitals → α) : α × Station :=
  (question station.host.now, { station with host := station.host.next })

/-- Tries to send a message. -/
def send (station : Station) (occasion : Occasion) (sms : Sms) : Station :=
  { station with post := station.post.send sms occasion station.settings station.disk.file }

/-- Answers the sender of a message. -/
def reply (station : Station) (number text : String) : Station :=
  station.send .reply { number, text }

/-- Sends a text to the emergency phone, if there is one. -/
def alert (station : Station) (text : String) : Station :=
  match station.gate.emergency with
  | some number => station.send .alert { number, text }
  | none => station

/-- An alert with this text would be sent and accepted. -/
def canAlert (station : Station) (text : String) : Bool :=
  match station.gate.emergency with
  | some number => station.post.ready { number, text }
  | none => false

end Station

end HeatingHub
