import HeatingHub.Proofs.Fleet
import HeatingHub.Proofs.Gate
import HeatingHub.Proofs.Settings.Valid
import HeatingHub.Station.Basic
import Mathlib.Tactic.ByContra

/-!
# Revisions of the settings

A *revision* saves the settings if they are other than before, and touches the disk in no other way
(`Revises`). All changes to the settings are revisions but one: setting the emergency phone saves
the settings even when they are the same (`setEmergency_disk`). No change makes valid settings
invalid (`setAll_valid`, `setOverride_valid`, `addPhone_valid`, …).
-/

namespace HeatingHub.Station

/-- The settings are the modes of the fleet and the numbers of the gate. -/
lemma settings_eq_iff {station next : Station} :
    next.settings = station.settings ↔
      next.fleet.modes = station.fleet.modes ∧ next.gate.numbers = station.gate.numbers := by
  simp [settings, Fleet.modes, Gate.numbers, and_assoc]

/-- The next station saves its settings if they are other than those of the station before. -/
structure Revises (station next : Station) : Prop where
  disk : next.disk =
    if next.settings = station.settings then station.disk else station.disk.save next.settings
  post : next.post = station.post

/-- Another fleet is a revision if it says truly whether its modes are others. -/
lemma setFleet_revises (station : Station) {change : Bool × Fleet}
    (truly : change.1 ↔ change.2.modes ≠ station.fleet.modes) :
    Revises station (station.setFleet change) := by
  have alike : ({ station with fleet := change.2 } : Station).settings = station.settings ↔
      change.2.modes = station.fleet.modes := by
    rw [settings_eq_iff, and_iff_left rfl]
  rw [setFleet]
  cases flag : change.1 with
  | false =>
    have same : change.2.modes = station.fleet.modes := by
      by_contra other
      rw [truly.2 other] at flag
      cases flag
    exact ⟨(if_pos (alike.2 same)).symm, rfl⟩
  | true =>
    have other := truly.1 flag
    exact ⟨(if_neg fun same => other (alike.1 same)).symm, rfl⟩

/-- Another gate is a revision if it says truly whether its numbers are others. -/
lemma setGate_revises (station : Station) {changed : Bool} {gate : Gate}
    (truly : changed ↔ gate.numbers ≠ station.gate.numbers) :
    Revises station (station.setGate changed gate) := by
  have alike : ({ station with gate } : Station).settings = station.settings ↔
      gate.numbers = station.gate.numbers := by
    rw [settings_eq_iff, and_iff_right rfl]
  rw [setGate]
  cases changed with
  | false =>
    have same : gate.numbers = station.gate.numbers := by
      by_contra other
      exact Bool.false_ne_true (truly.2 other)
    exact ⟨(if_pos (alike.2 same)).symm, rfl⟩
  | true =>
    have other := truly.1 rfl
    exact ⟨(if_neg fun same => other (alike.1 same)).symm, rfl⟩

/-- A mass command revises the settings. -/
lemma setAll_revises (station : Station) (mode : Mode) : Revises station (station.setAll mode) :=
  station.setFleet_revises (station.fleet.setAll_changed mode)

/-- A command for one heater revises the settings. -/
lemma setOverride_revises (station : Station) (name : String) (mode : Mode) :
    Revises station (station.setOverride name mode) :=
  station.setFleet_revises (station.fleet.setOverride_changed name mode)

/-- To add a phone revises the settings. -/
lemma addPhone_revises (station : Station) (number : String) :
    Revises station (station.addPhone number).2 :=
  station.setGate_revises (decide_eq_true_iff.trans (station.gate.add_changed number))

/-- To remove a phone revises the settings. -/
lemma removePhone_revises (station : Station) (number : String) :
    Revises station (station.removePhone number).2 :=
  station.setGate_revises (decide_eq_true_iff.trans (station.gate.remove_changed number))

/-- To forget the emergency phone revises the settings. -/
lemma clearEmergency_revises (station : Station) : Revises station station.clearEmergency.2 :=
  station.setGate_revises station.gate.clearEmergency_changed

/-- To do nothing revises the settings, which are the same. -/
lemma Revises.refl (station : Station) : Revises station station :=
  ⟨(if_pos rfl).symm, rfl⟩

/-- Setting the emergency phone to a valid number saves the settings, be they new or not. -/
lemma setEmergency_disk {station : Station} {number : String} (h : isPhoneNumber number.toList) :
    (station.setEmergency number).2.disk =
      station.disk.save (station.setEmergency number).2.settings := by
  rw [setEmergency, Gate.setEmergency, if_pos h]
  rfl

/-- An invalid number does not become the emergency phone. -/
lemma setEmergency_of_invalid {station : Station} {number : String}
    (h : isPhoneNumber number.toList = false) :
    station.setEmergency number = (false, station) := by
  rw [setEmergency, Gate.setEmergency, h]
  rfl

/-! ## The parts after a change -/

/-- The station has the fleet that it was given. -/
@[simp]
lemma setFleet_fleet (station : Station) (change : Bool × Fleet) :
    (station.setFleet change).fleet = change.2 := by
  rw [setFleet]
  split <;> rfl

/-- Another fleet leaves the gate alone. -/
@[simp]
lemma setFleet_gate (station : Station) (change : Bool × Fleet) :
    (station.setFleet change).gate = station.gate := by
  rw [setFleet]
  split <;> rfl

/-- The station has the gate that it was given. -/
@[simp]
lemma setGate_gate (station : Station) (changed : Bool) (gate : Gate) :
    (station.setGate changed gate).gate = gate := by
  rw [setGate]
  split <;> rfl

/-- Another gate leaves the fleet alone. -/
@[simp]
lemma setGate_fleet (station : Station) (changed : Bool) (gate : Gate) :
    (station.setGate changed gate).fleet = station.fleet := by
  rw [setGate]
  split <;> rfl

/-- Another gate sends nothing. -/
@[simp]
lemma setGate_post (station : Station) (changed : Bool) (gate : Gate) :
    (station.setGate changed gate).post = station.post := by
  rw [setGate]
  split <;> rfl

/-! ## Validity -/

/-- A mass command keeps the settings valid. -/
lemma setAll_valid {station : Station} (valid : station.settings.Valid) (mode : Mode) :
    (station.setAll mode).settings.Valid := by
  have overrides : (station.setAll mode).settings.overrides =
      station.fleet.overrides.map fun _ _ => mode := by
    rw [settings, setAll, setFleet_fleet]
    rfl
  refine { names := fun name mem => ?_, numbers := ?_, emergency := ?_ }
  · rw [overrides, Std.ExtTreeMap.mem_map] at mem
    exact valid.names name mem
  · rw [settings, setAll, setFleet_gate]
    exact valid.numbers
  · rw [settings, setAll, setFleet_gate]
    exact valid.emergency

/-- A command for a heater with a valid name keeps the settings valid. -/
lemma setOverride_valid {station : Station} {name : String} (valid : station.settings.Valid)
    (mode : Mode) (named : isHeaterName name.toList) :
    (station.setOverride name mode).settings.Valid := by
  refine { names := ?_, numbers := ?_, emergency := ?_ }
  · rw [settings, setOverride, setFleet_fleet]
    dsimp only
    rw [Fleet.setOverride_overrides]
    exact Settings.names_insert mode valid.names (Text.isUpperName_upperString named)
  · rw [settings, setOverride, setFleet_gate]
    exact valid.numbers
  · rw [settings, setOverride, setFleet_gate]
    exact valid.emergency

/-- To add a phone keeps the settings valid. -/
lemma addPhone_valid {station : Station} (valid : station.settings.Valid) (number : String) :
    (station.addPhone number).2.settings.Valid := by
  rw [settings, addPhone, setGate_gate, setGate_fleet]
  obtain ⟨-, change⟩ | ⟨-, -, change⟩ | ⟨phone, -, change⟩ := station.gate.add_cases number
  · rw [change]
    exact valid
  · rw [change]
    exact valid
  · rw [change]
    exact { valid with numbers := Settings.numbers_insert valid.numbers phone }

/-- To remove a phone keeps the settings valid. -/
lemma removePhone_valid {station : Station} (valid : station.settings.Valid) (number : String) :
    (station.removePhone number).2.settings.Valid := by
  rw [settings, removePhone, setGate_gate, setGate_fleet]
  obtain ⟨-, change⟩ | ⟨-, -, change⟩ | ⟨-, -, change⟩ := station.gate.remove_cases number
  · rw [change]
    exact valid
  · rw [change]
    exact valid
  · rw [change]
    exact { valid with
      numbers := fun other mem => valid.numbers other (Std.ExtTreeSet.mem_of_mem_erase mem) }

/-- To set the emergency phone keeps the settings valid. -/
lemma setEmergency_valid {station : Station} (valid : station.settings.Valid) (number : String) :
    (station.setEmergency number).2.settings.Valid := by
  cases phone : isPhoneNumber number.toList with
  | false =>
    rw [setEmergency_of_invalid phone]
    exact valid
  | true =>
    rw [settings, setEmergency, setGate_gate, setGate_fleet, Gate.setEmergency, if_pos phone]
    exact { valid with emergency := fun other same => Option.some.inj same ▸ phone }

/-- To forget the emergency phone keeps the settings valid. -/
lemma clearEmergency_valid {station : Station} (valid : station.settings.Valid) :
    station.clearEmergency.2.settings.Valid := by
  rw [settings, clearEmergency, setGate_gate, setGate_fleet]
  exact { valid with emergency := nofun }

end HeatingHub.Station
