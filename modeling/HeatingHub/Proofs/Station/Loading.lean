import HeatingHub.Proofs.Settings.RoundTrip
import HeatingHub.Proofs.Station.Revision

/-!
# Loading the settings

Valid settings are in use exactly as they are once they were adopted (`adopt_settings`), and every
file makes a station start with valid ones, unlocked (`load_valid`, `load_unlocked`). A file that
holds settings, as one that was written by a save does, gives them back to whatever station loads
it (`load_settings`, `Disk.load_save_of_ready`); on any other the station starts with the defaults
(`load_initial`), and always without records (`load_records`).
-/

namespace HeatingHub

/-- A host on which all is well. -/
def Host.healthy : Host where
  answers _ :=
    { link := .ok true, modem := .registered, daemon := true, publicIp := .ok "", uptime := .ok "",
      wifi := .ok "", logs := .ok "", reboot := .ok () }

/-- A station before its first start, in surroundings that go along with everything. -/
def Station.fresh (file : StateFile) : Station where
  disk := { file }
  host := .healthy

/-- The settings that a station starts with: those that the file holds, or else the defaults. -/
def StateFile.initial (file : StateFile) : Settings :=
  match file.load with
  | .ok (some settings) => settings
  | _ => {}

/-- A file that was written by a save holds the settings that were saved. -/
lemma StateFile.load_render {settings : Settings} (valid : settings.Valid) :
    (StateFile.text settings.render).load = .ok (some settings) := by
  rw [load, read, Except.map, Settings.parse_render valid]
  exact nofun

/-- A save to a disk that is ready makes the file hold the settings. -/
lemma Disk.load_save_of_ready {disk : Disk} {settings : Settings} (valid : settings.Valid)
    (ready : disk.ready) : (disk.save settings).file.load = .ok (some settings) := by
  have written : (disk.save settings).file = .text settings.render := if_pos ready
  rw [written]
  exact StateFile.load_render valid

/-- The settings that a file holds are valid. -/
lemma StateFile.load_valid {file : StateFile} {settings : Settings}
    (h : file.load = .ok (some settings)) : settings.Valid := by
  cases file with
  | missing => cases h
  | blocked => cases h
  | garbled _ => cases h
  | text content =>
    cases h
    exact Settings.parse_valid content

namespace Station

/-- The numbers of a valid whitelist are all put on it, and nothing else is done to the gate. -/
lemma foldl_add {gate : Gate} {numbers : List String}
    (valid : ∀ number ∈ numbers, isPhoneNumber number.toList) :
    numbers.foldl (fun gate number => (gate.add number).2) gate =
      { gate with
        whitelist := numbers.foldl (fun made number => made.insert number) gate.whitelist } := by
  -- A number that is listed twice is left alone the second time, as an insertion would.
  induction numbers generalizing gate with
  | nil => rfl
  | cons number numbers ih =>
    have ih := fun gate => @ih gate fun other mem => valid other (List.mem_cons_of_mem _ mem)
    rw [List.foldl_cons, ih, List.foldl_cons]
    obtain ⟨other, -⟩ | ⟨-, listed, change⟩ | ⟨-, -, change⟩ := gate.add_cases number
    · rw [valid number List.mem_cons_self] at other
      cases other
    · rw [change, Gate.insert_eq_self listed]
    · rw [change]

/-- Valid settings are in use as they are once they were adopted, and the gate is unlocked. -/
lemma adopt_gate (station : Station) {settings : Settings} (valid : settings.Valid) :
    (station.adopt settings).gate =
      { whitelist := settings.whitelist, emergency := settings.emergency, locked := false } := by
  rw [adopt, foldl_add valid.listed]
  dsimp only
  rw [foldl_insert_members]
  cases found : settings.emergency with
  | none => rfl
  | some number =>
    dsimp only
    rw [Gate.setEmergency, if_pos (valid.emergency number found)]

/-- Valid settings are in use as they are once they were adopted. -/
lemma adopt_settings (station : Station) {settings : Settings} (valid : settings.Valid) :
    (station.adopt settings).settings = settings := by
  rw [Station.settings, adopt_gate station valid]
  rfl

/-- A station that loads a file uses the settings that the file holds. -/
lemma load_settings {station : Station} {settings : Settings}
    (h : station.disk.file.load = .ok (some settings)) : station.load.settings = settings := by
  rw [load, h]
  exact station.adopt_settings (StateFile.load_valid h)

/-- What a station does when it loads: it adopts valid settings, and saves them when there was no
file. -/
lemma load_cases (station : Station) :
    (∃ settings, station.disk.file.load = .ok (some settings) ∧ settings.Valid ∧
      station.load = station.adopt settings) ∨
    (station.disk.file = .missing ∧ station.load = (station.adopt {}).save) ∨
    (∃ fault, station.disk.file.load = .error fault ∧ station.load = station.adopt {}) := by
  rw [load]
  cases found : station.disk.file with
  | missing => exact .inr (.inl ⟨rfl, rfl⟩)
  | blocked => exact .inr (.inr ⟨_, rfl, rfl⟩)
  | garbled _ => exact .inr (.inr ⟨_, rfl, rfl⟩)
  | text content => exact .inl ⟨_, rfl, Settings.parse_valid content, rfl⟩

/-- A station starts with valid settings, whatever stands in its file. -/
lemma load_valid (station : Station) : station.load.settings.Valid := by
  obtain ⟨settings, -, valid, load⟩ | ⟨-, load⟩ | ⟨-, -, load⟩ := station.load_cases
  · rw [load, adopt_settings _ valid]
    exact valid
  · rw [load]
    exact (station.adopt_settings Settings.default_valid).symm ▸ Settings.default_valid
  · rw [load, adopt_settings _ Settings.default_valid]
    exact Settings.default_valid

/-- A station that loads has the settings that its file stands for. -/
lemma load_initial (station : Station) :
    station.load.settings = station.disk.file.initial := by
  rw [StateFile.initial]
  obtain ⟨settings, holds, valid, load⟩ | ⟨missing, load⟩ | ⟨fault, fails, load⟩ :=
    station.load_cases
  · rw [load, holds, adopt_settings _ valid]
  · rw [load, missing]
    exact station.adopt_settings Settings.default_valid
  · rw [load, fails, adopt_settings _ Settings.default_valid]

/-- A station that loads has no records. -/
lemma load_records (station : Station) (id : DeviceId) :
    station.load.fleet.records[id]? = none := by
  have adopted (settings : Settings) : (station.adopt settings).fleet.records[id]? = none := by
    rw [adopt, Fleet.replaceOverrides, Fleet.refresh, Std.ExtTreeMap.getElem?_map,
      Std.ExtTreeMap.getElem?_empty, Option.map_none]
  obtain ⟨_, -, -, load⟩ | ⟨-, load⟩ | ⟨_, -, load⟩ := station.load_cases
  · exact load ▸ adopted _
  · exact load ▸ adopted _
  · exact load ▸ adopted _

/-- A station that loads has no counters. -/
lemma load_counters (station : Station) : station.load.fleet.counters = ∅ := by
  obtain ⟨_, -, -, load⟩ | ⟨-, load⟩ | ⟨_, -, load⟩ := station.load_cases <;> rw [load] <;> rfl

/-- A station that loads is unlocked. -/
lemma load_unlocked (station : Station) : station.load.gate.locked = false := by
  obtain ⟨settings, -, valid, load⟩ | ⟨-, load⟩ | ⟨-, -, load⟩ := station.load_cases
  · rw [load, adopt_gate _ valid]
  · rw [load]
    exact congrArg Gate.locked (station.adopt_gate Settings.default_valid)
  · rw [load, adopt_gate _ Settings.default_valid]

/-- A station that loads saves its settings exactly if there is no file. -/
lemma load_disk (station : Station) :
    station.load.disk =
      if station.disk.file = .missing then station.disk.save station.load.settings
      else station.disk := by
  obtain ⟨settings, holds, -, load⟩ | ⟨missing, load⟩ | ⟨fault, fails, load⟩ := station.load_cases
  · have held : station.disk.file ≠ .missing := by
      intro missing
      rw [missing] at holds
      cases holds
    rw [if_neg held, load]
    rfl
  · rw [if_pos missing, load]
    rfl
  · have held : station.disk.file ≠ .missing := by
      intro missing
      rw [missing] at fails
      cases fails
    rw [if_neg held, load]
    rfl

/-- To load sends nothing. -/
lemma load_post (station : Station) : station.load.post = station.post := by
  obtain ⟨_, -, -, load⟩ | ⟨-, load⟩ | ⟨-, -, load⟩ := station.load_cases <;> rw [load] <;> rfl

end Station

end HeatingHub
