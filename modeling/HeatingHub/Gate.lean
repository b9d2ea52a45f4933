import HeatingHub.Name
import Std.Data.ExtTreeSet

/-!
# Who may command the hub

The gate holds the whitelist of phone numbers, the lock, and the emergency phone that alerts go to.
An empty whitelist admits everybody even while the hub is locked, so that nobody locks themselves
out.
-/

namespace HeatingHub

/-- What became of a change to the whitelist. -/
inductive WhitelistChange
  | added
  | removed
  | unchanged
  | invalidNumber
  deriving DecidableEq, Repr

/-- The whitelist, the emergency phone and the lock. -/
structure Gate where
  whitelist : Std.ExtTreeSet String := ∅
  emergency : Option String := none
  locked : Bool := false

namespace Gate

/-- A text from this number may be obeyed. -/
def admits (gate : Gate) (number : String) : Bool :=
  !gate.locked || gate.whitelist.isEmpty || gate.whitelist.contains number

/-- Puts a number on the whitelist if it is a valid one. -/
def add (gate : Gate) (number : String) : WhitelistChange × Gate :=
  if !isPhoneNumber number.toList then (.invalidNumber, gate)
  else if gate.whitelist.contains number then (.unchanged, gate)
  else (.added, { gate with whitelist := gate.whitelist.insert number })

/-- Takes a number off the whitelist. -/
def remove (gate : Gate) (number : String) : WhitelistChange × Gate :=
  if !isPhoneNumber number.toList then (.invalidNumber, gate)
  else if gate.whitelist.contains number then
    (.removed, { gate with whitelist := gate.whitelist.erase number })
  else (.unchanged, gate)

/-- Makes a number the emergency phone if it is a valid one, and says whether it is. -/
def setEmergency (gate : Gate) (number : String) : Bool × Gate :=
  if isPhoneNumber number.toList then (true, { gate with emergency := some number })
  else (false, gate)

/-- Forgets the emergency phone, and says which one it was. -/
def clearEmergency (gate : Gate) : Option String × Gate :=
  (gate.emergency, { gate with emergency := none })

end Gate

end HeatingHub
