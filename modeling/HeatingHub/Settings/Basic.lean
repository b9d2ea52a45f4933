import HeatingHub.Fleet
import HeatingHub.Gate

/-!
# Settings

The settings are what the hub keeps over a restart: the default mode, the modes of single heaters,
the whitelist and the emergency phone. A setting has a line of its own in the state file, an entry
of a key and a value.
-/

namespace HeatingHub

/-- What the hub keeps over a restart. -/
structure Settings where
  defaultMode : Mode := .safe
  overrides : Overrides := ∅
  whitelist : Std.ExtTreeSet String := ∅
  emergency : Option String := none
  deriving DecidableEq

/-- A line of the state file. -/
structure Entry where
  key : List Char
  value : List Char
  deriving DecidableEq

namespace Entry

/-- The key of the default mode. -/
def defaultKey : List Char := "default_heater_state".toList

/-- What the key of a heater's mode starts with, before the name. -/
def heaterHead : List Char := "heater_".toList

/-- What the key of a heater's mode ends with, after the name. -/
def heaterTail : List Char := "_state".toList

/-- The key of a heater's mode. -/
def heaterKey (name : List Char) : List Char :=
  heaterHead ++ name ++ heaterTail

/-- The key of the whitelist. -/
def whitelistKey : List Char := "whitelist".toList

/-- The key of the emergency phone. -/
def emergencyKey : List Char := "emergency_phone".toList

end Entry

end HeatingHub
