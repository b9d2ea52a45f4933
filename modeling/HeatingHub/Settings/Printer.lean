import HeatingHub.Settings.Basic

/-!
# Writing settings

The state file has one line for each setting: the default mode, the heaters in the order of their
names, the whitelist with its numbers in order and commas between them, and the emergency phone,
which is empty when there is none.
-/

namespace HeatingHub

/-- The entry as a line of its own. -/
def Entry.line (entry : Entry) : List Char :=
  entry.key ++ '=' :: entry.value ++ ['\n']

namespace Settings

/-- The lines of the state file. -/
def entries (settings : Settings) : List Entry :=
  { key := Entry.defaultKey, value := settings.defaultMode.word.toList } ::
    settings.overrides.toList.map (fun (name, mode) =>
      { key := Entry.heaterKey name.toList, value := mode.word.toList }) ++
    [{ key := Entry.whitelistKey,
       value := [','].intercalate (settings.whitelist.toList.map String.toList) },
     { key := Entry.emergencyKey, value := (settings.emergency.getD "").toList }]

/-- The text of the state file. -/
def render (settings : Settings) : String :=
  String.ofList (settings.entries.flatMap Entry.line)

end Settings

end HeatingHub
