import HeatingHub.Settings.Basic
import HeatingHub.Text.Blank
import HeatingHub.Text.Line

/-!
# Reading settings

A state file is read line by line, later lines over earlier ones. Reading never fails: a line that
is no entry or has an unknown key says nothing, an unknown mode counts as the safe one, and invalid
names and numbers are passed over.
-/

namespace HeatingHub

/-- The entry of a line: the parts around its first equals sign, without the blanks around them. -/
def Entry.ofLine? (line : List Char) : Option Entry :=
  (Text.splitOnce '=' line).map fun parts =>
    { key := Text.trim parts.1, value := Text.trim parts.2 }

/-- The name in the key of a heater's mode. -/
def Entry.heater? (entry : Entry) : Option (List Char) :=
  (Text.after? heaterHead entry.key).bind (Text.before? heaterTail)

/-- The mode that a value names; the safe one when it names none. -/
def Entry.mode (entry : Entry) : Mode :=
  (Mode.ofWord? (String.ofList entry.value)).getD .safe

/-- The valid numbers of a list with commas. -/
def Entry.numbers (entry : Entry) : List (List Char) :=
  ((Text.splitAt ',' entry.value).map Text.trim).filter isPhoneNumber

namespace Settings

/-- The settings after one more entry. -/
def apply (settings : Settings) (entry : Entry) : Settings :=
  if entry.key = Entry.defaultKey then { settings with defaultMode := entry.mode }
  else match entry.heater? with
    | some name =>
      if isHeaterName name then
        { settings with
          overrides := settings.overrides.insert (String.ofList (Text.upper name)) entry.mode }
      else settings
    | none =>
      if entry.key = Entry.whitelistKey then
        { settings with
          whitelist := entry.numbers.foldl (fun numbers number =>
            numbers.insert (String.ofList number)) settings.whitelist }
      else if entry.key = Entry.emergencyKey then
        if entry.value.isEmpty then { settings with emergency := none }
        else if isPhoneNumber entry.value then
          { settings with emergency := some (String.ofList entry.value) }
        else settings
      else settings

/-- The settings that a state file's text describes. -/
def parse (text : String) : Settings :=
  ((Text.lines text.toList).filterMap Entry.ofLine?).foldl apply {}

end Settings

end HeatingHub
