import HeatingHub.DeviceId
import HeatingHub.Mode
import HeatingHub.Text.Letter
import Std.Data.ExtTreeMap

/-!
# The fleet of heaters

The fleet knows which mode every heater runs: the mode set for its name, or else the default mode.
Beside the modes it keeps a record of each device that has asked, and the last counter of each
device, which outlives the record and tells a reboot.
-/

namespace HeatingHub

/-- The modes set for single heaters, by name in upper case. -/
abbrev Overrides : Type := Std.ExtTreeMap String Mode

/-- What is known of a device since its last request. -/
structure Record where
  name : Option String
  address : Option String
  mode : Mode
  /-- The wall clock at the last request, in whole milliseconds. -/
  lastRequest : Int
  deriving DecidableEq

/-- The time since a record's last request, in whole milliseconds; none has passed while the wall
clock is behind the request. -/
def Record.age (record : Record) (wall : Int) : Nat :=
  (wall - record.lastRequest).toNat

/-- How the counter of a request compares with the one before it. -/
inductive CounterCheck
  | firstSeen
  | inSequence
  | rebooted (previous : UInt64)
  deriving DecidableEq

/-- A device that has been silent for too long. -/
structure LostDevice where
  id : DeviceId
  name : Option String
  deriving DecidableEq

/-- A lost device is reported by its name, or by its id when it has none. -/
def LostDevice.display (device : LostDevice) : String :=
  device.name.getD (toString device.id)

/-- The settings of all heaters and the bookkeeping on all devices. -/
structure Fleet where
  defaultMode : Mode := .safe
  overrides : Overrides := ∅
  records : Std.ExtTreeMap DeviceId Record := ∅
  counters : Std.ExtTreeMap DeviceId UInt64 := ∅

namespace Fleet

/-- The mode that a heater's name stands for, in any case of its letters. -/
def modeOf (fleet : Fleet) (name : Option String) : Mode :=
  match name with
  | some name => fleet.overrides[Text.upperString name]?.getD fleet.defaultMode
  | none => fleet.defaultMode

/-- The mode of a name exactly as a record holds it. -/
def modeOfRecorded (fleet : Fleet) (name : Option String) : Mode :=
  match name with
  | some name => fleet.overrides[name]?.getD fleet.defaultMode
  | none => fleet.defaultMode

/-- Every record gets the mode that its name has now. -/
def refresh (fleet : Fleet) : Fleet :=
  { fleet with
    records := fleet.records.map fun _ record =>
      { record with mode := fleet.modeOfRecorded record.name } }

/-- Sets the default mode, and says whether that changed anything. -/
def setDefault (fleet : Fleet) (mode : Mode) : Bool × Fleet :=
  if fleet.defaultMode = mode then (false, fleet)
  else (true, { fleet with defaultMode := mode }.refresh)

/-- Sets the mode of one heater, and says whether that changed anything. -/
def setOverride (fleet : Fleet) (name : String) (mode : Mode) : Bool × Fleet :=
  let name := Text.upperString name
  if fleet.overrides[name]? = some mode then (false, fleet)
  else (true, { fleet with overrides := fleet.overrides.insert name mode }.refresh)

/-- Sets the default mode and the mode of every heater that has one of its own, and says whether
that changed anything. -/
def setAll (fleet : Fleet) (mode : Mode) : Bool × Fleet :=
  let changed := fleet.defaultMode ≠ mode || fleet.overrides.any fun _ old => old ≠ mode
  (changed,
    { fleet with defaultMode := mode, overrides := fleet.overrides.map fun _ _ => mode }.refresh)

/-- Puts other overrides in the place of all that there are. -/
def replaceOverrides (fleet : Fleet) (overrides : Overrides) : Fleet :=
  { fleet with overrides }.refresh

/-- The greatest step that a counter makes between two requests of a device that keeps running. -/
def counterWindow : Nat := 3

/-- Compares a counter with the last one of the device. -/
def checkCounter (previous : Option UInt64) (counter : UInt64) : CounterCheck :=
  match previous with
  | none => .firstSeen
  | some previous =>
    if previous.toNat ≤ counter.toNat ∧ counter.toNat ≤ previous.toNat + counterWindow then
      .inSequence
    else .rebooted previous

/-- Compares a counter with the last one of the device and keeps it as the last. -/
def observe (fleet : Fleet) (id : DeviceId) (counter : UInt64) : CounterCheck × Fleet :=
  (checkCounter fleet.counters[id]? counter,
    { fleet with counters := fleet.counters.insert id counter })

/-- What a request tells and is told. -/
structure Outcome where
  mode : Mode
  counter : CounterCheck
  deriving DecidableEq

/-- Answers a device's request for its mode and records it. -/
def request (fleet : Fleet) (id : DeviceId) (name : Option String) (counter : UInt64)
    (address : Option String) (wall : Int) : Outcome × Fleet :=
  let (check, fleet) := fleet.observe id counter
  let mode := fleet.modeOf name
  ({ mode, counter := check },
    { fleet with
      records := fleet.records.insert id { name, address, mode, lastRequest := wall } })

/-- Drops the records that are at least `threshold` milliseconds old, and names their devices in
the order of their ids. -/
def sweepLost (fleet : Fleet) (wall : Int) (threshold : Nat) : List LostDevice × Fleet :=
  let isLost (record : Record) : Bool := threshold ≤ record.age wall
  ((fleet.records.toList.filter fun entry => isLost entry.2).map fun entry =>
      { id := entry.1, name := entry.2.name },
    { fleet with records := fleet.records.filter fun _ record => !isLost record })

end Fleet

end HeatingHub
