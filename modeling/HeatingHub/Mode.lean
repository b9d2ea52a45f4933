/-!
# Heating modes

The four thermal modes a heater can run, with the three spellings each has: its code in a frame,
its word in the state file, and its label in text messages.
-/

namespace HeatingHub

/-- The thermal behaviour that a heater is told to show. -/
inductive Mode
  | off
  | defrost
  | eco
  | comfort
  deriving DecidableEq, Repr

namespace Mode

/-- The frost protection that heaters are set to when the hub can no longer be reached, and that
stands in for a mode that cannot be read. -/
def safe : Mode := .defrost

/-- All modes, in the order of their codes. -/
def all : List Mode := [.off, .defrost, .eco, .comfort]

/-- The code of a mode in a frame. -/
def code : Mode → UInt8
  | .off => 0
  | .defrost => 1
  | .eco => 2
  | .comfort => 3

/-- The mode with the given code. -/
def ofCode? (code : UInt8) : Option Mode :=
  all.find? (·.code == code)

/-- The word for a mode in the state file. -/
def word : Mode → String
  | .off => "off"
  | .defrost => "defrost"
  | .eco => "eco"
  | .comfort => "comfort"

/-- The mode with the given word. -/
def ofWord? (word : String) : Option Mode :=
  all.find? (·.word == word)

/-- The label of a mode in replies and alerts. -/
def label : Mode → String
  | .off => "OFF"
  | .defrost => "DEFROST"
  | .eco => "ECO"
  | .comfort => "COMFORT/ON"

/-- A mode is found again by its code. -/
theorem ofCode?_code (mode : Mode) : ofCode? mode.code = some mode := by
  cases mode <;> rfl

/-- A mode is found again by its word. -/
theorem ofWord?_word (mode : Mode) : ofWord? mode.word = some mode := by
  cases mode <;> rfl

end Mode

end HeatingHub
