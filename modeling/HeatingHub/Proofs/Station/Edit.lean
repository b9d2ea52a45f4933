import HeatingHub.Proofs.Station.Loading
import HeatingHub.Proofs.Station.Order

/-!
# Edits

A text that a station hears makes one *edit* at most: an order to the fleet, a number put on the
whitelist or taken off it, another emergency phone, or a turn of the lock. Which one it is stands in
the command and in what the gate allows (`Command.edit?`), and what it leaves alone stands in
`Fleet.edited` and `Gate.edited`, which change one part each. To enact a command is to make its edit
and to save the settings if they are others (`enact_edits`), and as an answer touches neither, this
is all that becomes of a station that hears a text (`receive_edits`).
-/

namespace HeatingHub

/-- What a command can change. -/
inductive Edit
  | modes (order : Order)
  | list (phone : String)
  | strike (phone : String)
  | emergency (phone : Option String)
  | lock (locked : Bool)
  deriving DecidableEq

/-- Only an order is a matter of the fleet. -/
def Fleet.edited (fleet : Fleet) : Edit → Fleet
  | .modes order => fleet.follow order
  | .list _ | .strike _ | .emergency _ | .lock _ => fleet

/-- An edit changes one part of the gate at most. -/
def Gate.edited (gate : Gate) : Edit → Gate
  | .modes _ => gate
  | .list phone => { gate with whitelist := gate.whitelist.insert phone }
  | .strike phone => { gate with whitelist := gate.whitelist.erase phone }
  | .emergency phone => { gate with emergency := phone }
  | .lock locked => { gate with locked }

/-- The edit that a command makes, if the gate does not refuse it: the lock is turned on by a listed
sender and off by the PIN, the whitelist is edited with the PIN while the gate is unlocked, and only
phone numbers are put in or taken out. -/
def Command.edit? (gate : Gate) (secret number : String) : Command → Option Edit
  | .all word => some (.modes (.all word.mode))
  | .heater name word => some (.modes (.heater name word.mode))
  | .lock => if gate.whitelist.contains number then some (.lock true) else none
  | .unlock pin => if pin = secret then some (.lock false) else none
  | .addPhone pin phone =>
    if gate.locked = false ∧ pin = secret ∧ isPhoneNumber phone.toList then some (.list phone)
    else none
  | .removePhone pin phone =>
    if gate.locked = false ∧ pin = secret ∧ isPhoneNumber phone.toList then some (.strike phone)
    else none
  | .setEmergencyPhone pin phone =>
    if pin = secret ∧ isPhoneNumber phone.toList then some (.emergency (some phone)) else none
  | .removeEmergencyPhone => some (.emergency none)
  | .ping | .version | .invalidHeaterName | .getDefault | .getHeater _ | .invalidName | .getIp
  | .help | .debug _ | .invalid => none

namespace Fleet

/-- An edit of the settings changes nothing about what is known of the devices. -/
lemma elim_edited_known (fleet : Fleet) (edit : Option Edit) :
    (edit.elim fleet fleet.edited).known = fleet.known := by
  rcases edit with _ | order | _ | _ | _ | _
  case some.modes => exact fleet.follow_known order
  all_goals rfl

/-- An edit of the settings changes no counter. -/
lemma elim_edited_counters (fleet : Fleet) (edit : Option Edit) :
    (edit.elim fleet fleet.edited).counters = fleet.counters := by
  rcases edit with _ | order | _ | _ | _ | _
  case some.modes => exact fleet.follow_counters order
  all_goals rfl

end Fleet

namespace Gate

/-- To erase what is no member changes nothing. -/
lemma erase_eq_self {whitelist : Std.ExtTreeSet String} {number : String}
    (h : number ∉ whitelist) : whitelist.erase number = whitelist := by
  apply Std.ExtTreeSet.ext_mem
  intro other
  rw [Std.ExtTreeSet.mem_erase]
  refine ⟨And.right, fun mem => ⟨fun same => h ?_, mem⟩⟩
  rwa [Std.LawfulEqCmp.eq_of_compare same]

/-- An addition puts a phone number in, be it a member already or not. -/
lemma add_edited (gate : Gate) (number : String) :
    (gate.add number).2 =
      if isPhoneNumber number.toList then gate.edited (.list number) else gate := by
  obtain ⟨bad, change⟩ | ⟨good, listed, change⟩ | ⟨good, -, change⟩ := gate.add_cases number
  · rw [change, bad]
    rfl
  · rw [change, if_pos good, edited, insert_eq_self listed]
  · rw [change, if_pos good, edited]

/-- To remove a number strikes it out, if it is valid. -/
lemma remove_edited (gate : Gate) (number : String) :
    (gate.remove number).2 =
      if isPhoneNumber number.toList then gate.edited (.strike number) else gate := by
  obtain ⟨bad, change⟩ | ⟨good, unlisted, change⟩ | ⟨good, -, change⟩ := gate.remove_cases number
  · rw [change, bad]
    rfl
  · rw [change, if_pos good, edited, erase_eq_self unlisted]
  · rw [change, if_pos good, edited]

end Gate

namespace Station

/-- The edit of a whitelist is refused while the gate is locked, without the PIN, or for what is no
phone number, in this order. -/
lemma elim_guarded (gate : Gate) (secret pin phone : String) (edit : Edit) :
    (if gate.locked = false ∧ pin = secret ∧ isPhoneNumber phone.toList then some edit
      else none).elim gate gate.edited =
      if gate.locked ∨ pin ≠ secret then gate
      else if isPhoneNumber phone.toList then gate.edited edit else gate := by
  cases gate.locked with
  | true => rfl
  | false =>
    by_cases right : pin = secret
    · cases isPhoneNumber phone.toList <;> simp [right]
    · simp [right]

/-- Only one command sets an emergency phone. -/
lemma of_edit?_eq_emergency {command : Command} {gate : Gate} {secret number phone : String}
    (set : command.edit? gate secret number = some (.emergency (some phone))) :
    ∃ pin, command = .setEmergencyPhone pin phone := by
  cases command with
  | setEmergencyPhone pin other =>
    rw [Command.edit?] at set
    split at set
    · cases set
      exact ⟨pin, rfl⟩
    · cases set
  | lock | unlock _ | addPhone _ _ | removePhone _ _ =>
    rw [Command.edit?] at set
    split at set <;> cases set
  | _ => cases set

/-- Of all that a command changes, only its order is a matter of the fleet. -/
lemma enact_fleet_edited (station : Station) (secret number : String) (command : Command) :
    (station.enact secret number command).fleet =
      (command.edit? station.gate secret number).elim station.fleet station.fleet.edited := by
  rw [enact_fleet]
  cases command with
  | lock | unlock _ | addPhone _ _ | removePhone _ _ | setEmergencyPhone _ _ =>
    rw [Command.edit?]
    split <;> rfl
  | _ => rfl

/-- A command other than that for the emergency phone changes no more of the gate than it edits. -/
lemma enact_gate_edited (station : Station) (secret number : String) {command : Command}
    (other : ∀ pin phone, command ≠ .setEmergencyPhone pin phone) :
    (station.enact secret number command).gate =
      (command.edit? station.gate secret number).elim station.gate station.gate.edited := by
  cases command with
  | all word => exact setFleet_gate _ _
  | heater name word => exact setFleet_gate _ _
  | lock =>
    rw [enact, Command.edit?]
    split <;> rfl
  | unlock pin =>
    rw [enact, Command.edit?]
    split <;> rfl
  | addPhone pin phone =>
    rw [enact, Command.edit?, elim_guarded, ← Gate.add_edited]
    split
    · rfl
    · exact setGate_gate _ _ _
  | removePhone pin phone =>
    rw [enact, Command.edit?, elim_guarded, ← Gate.remove_edited]
    split
    · rfl
    · exact setGate_gate _ _ _
  | setEmergencyPhone pin phone => exact absurd rfl (other pin phone)
  | removeEmergencyPhone => exact setGate_gate _ _ _
  | _ => rfl

/-! ## One edit at most -/

/-- One edit is made, if any, and nothing else. -/
structure Edits (edit : Option Edit) (station next : Station) : Prop where
  fleet : next.fleet = edit.elim station.fleet station.fleet.edited
  gate : next.gate = edit.elim station.gate station.gate.edited
  /-- The disk is left alone while the settings stay the same, if no emergency phone is set. -/
  kept : next.settings = station.settings → (∀ phone, edit ≠ some (.emergency (some phone))) →
    next.disk = station.disk
  /-- Other settings are saved, and an emergency phone is saved even if it is the same. -/
  saved : (next.settings ≠ station.settings ∨ ∃ phone, edit = some (.emergency (some phone))) →
    next.disk = station.disk.save next.settings

/-- To do nothing edits nothing. -/
lemma Edits.refl (station : Station) : Edits none station station where
  fleet := rfl
  gate := rfl
  kept _ _ := rfl
  saved other := other.elim (absurd rfl) nofun

/-- An answer adds no edit. -/
lemma Edits.answered {edit : Option Edit} {station next last : Station}
    (edits : Edits edit station next) (answers : Answers next last) : Edits edit station last where
  fleet := answers.fleet.trans edits.fleet
  gate := answers.gate.trans edits.gate
  kept := by
    rw [answers.settings, answers.disk]
    exact edits.kept
  saved := by
    rw [answers.settings, answers.disk]
    exact edits.saved

/-- To set the emergency phone is to edit it, and to save the settings even if they are the same. -/
lemma enact_setEmergencyPhone_edits (station : Station) (secret number pin phone : String) :
    Edits ((Command.setEmergencyPhone pin phone).edit? station.gate secret number) station
      (station.enact secret number (.setEmergencyPhone pin phone)) := by
  rw [enact, Command.edit?]
  by_cases right : pin = secret
  · rw [if_neg (not_not.2 right)]
    by_cases valid : isPhoneNumber phone.toList
    · rw [if_pos ⟨right, valid⟩]
      have gate : (station.setEmergency phone).2.gate =
          station.gate.edited (.emergency (some phone)) := by
        rw [setEmergency, setGate_gate, Gate.setEmergency, if_pos valid]
        rfl
      exact {
        fleet := setGate_fleet _ _ _
        gate := gate
        kept := fun _ other => absurd rfl (other phone)
        saved := fun _ => setEmergency_disk valid }
    · rw [if_neg fun both => valid both.2, setEmergency_of_invalid (Bool.eq_false_iff.2 valid)]
      exact Edits.refl station
  · rw [if_pos right, if_neg fun both => right both.1]
    exact Edits.refl station

/-- To enact a command is to make its edit. -/
theorem enact_edits (station : Station) (secret number : String) (command : Command) :
    Edits (command.edit? station.gate secret number) station
      (station.enact secret number command) := by
  by_cases emergency : ∃ pin phone, command = .setEmergencyPhone pin phone
  · obtain ⟨pin, phone, rfl⟩ := emergency
    exact station.enact_setEmergencyPhone_edits secret number pin phone
  have other (pin phone : String) : command ≠ .setEmergencyPhone pin phone :=
    fun same => emergency ⟨pin, phone, same⟩
  -- All other commands save the settings exactly if they change them.
  have disk := (station.enact_revises secret number other).disk
  exact {
    fleet := station.enact_fleet_edited secret number command
    gate := station.enact_gate_edited secret number other
    kept := fun same _ => disk.trans (if_pos same)
    saved := by
      rintro (changed | ⟨phone, set⟩)
      · exact disk.trans (if_neg changed)
      · obtain ⟨pin, same⟩ := of_edit?_eq_emergency set
        exact absurd same (other pin phone) }

/-! ## Hearing a text -/

/-- The edit that a text makes: that of its command, if the gate admits the sender. -/
def edit? (station : Station) (secret : String) (sms : Sms) : Option Edit :=
  if station.gate.admits sms.number then
    (Command.parse sms.text).edit? station.gate secret sms.number
  else none

/-- Without an edit all stays as it is. -/
lemma Edits.unchanged {station next : Station} (edits : Edits none station next) :
    next.fleet = station.fleet ∧ next.gate = station.gate ∧ next.disk = station.disk := by
  obtain ⟨fleet, gate, kept, -⟩ := edits
  refine ⟨fleet, gate, kept ?_ nofun⟩
  rw [settings, settings, fleet, gate]
  rfl

/-- The lock is no setting, and the disk does not see it turn. -/
lemma Edits.disk_of_lock {station next : Station} {locked : Bool}
    (edits : Edits (some (.lock locked)) station next) : next.disk = station.disk := by
  obtain ⟨fleet, gate, kept, -⟩ := edits
  refine kept ?_ nofun
  rw [settings, settings, fleet, gate]
  rfl

/-- After an edit the file is the earlier one, or holds the settings. -/
lemma Edits.file {edit : Option Edit} {station next : Station} (edits : Edits edit station next) :
    next.disk.file = station.disk.file ∨ next.disk.file = .text next.settings.render := by
  by_cases saved : next.settings ≠ station.settings ∨
      ∃ phone, edit = some (.emergency (some phone))
  · rw [edits.saved saved, Disk.save]
    dsimp only
    split
    · exact .inr rfl
    · exact .inl rfl
  · obtain ⟨same, other⟩ := not_or.1 saved
    rw [edits.kept (not_not.1 same) fun phone set => other ⟨phone, set⟩]
    exact .inl rfl

/-- What becomes of a station that hears a text, whatever its state. One edit is made, that of the
command if the sender is admitted and the gate allows it, and nothing else; without one the whole
state and the disk stay as they are, and turning the lock leaves the disk alone. No text changes
what is known of a device or its counter, and what is written to the state file is the new
settings. -/
theorem receive_edits (station : Station) (secret : String) (sms : Sms) :
    let edit := station.edit? secret sms
    let next := station.receive secret sms
    Edits edit station next ∧
    (edit = none →
      next.fleet = station.fleet ∧ next.gate = station.gate ∧ next.disk = station.disk) ∧
    (∀ locked, edit = some (.lock locked) → next.disk = station.disk) ∧
    next.fleet.known = station.fleet.known ∧
    next.fleet.counters = station.fleet.counters ∧
    (next.disk.file = station.disk.file ∨ next.disk.file = .text next.settings.render) := by
  intro edit next
  have edits : Edits edit station next := by
    dsimp only [edit, next]
    rw [receive, edit?]
    split
    · exact (station.enact_edits ..).answered (station.obey_answers ..)
    · exact Edits.refl station
  refine ⟨edits, fun none => (none ▸ edits).unchanged,
    fun locked turn => (turn ▸ edits).disk_of_lock, ?_, ?_, edits.file⟩
  · rw [edits.fleet, station.fleet.elim_edited_known]
  · rw [edits.fleet, station.fleet.elim_edited_counters]

/-- A wrong PIN is refused, and a listed sender turns the lock. -/
theorem receive_edits_of_listed :
    let number := "3310203040506"
    let station := { Station.fresh .missing with gate := { whitelist := {number} } }
    let guess : Sms := { number, text := "add phone 1235 3310203040507" }
    let turn : Sms := { number, text := "lock" }
    (station.edit? "1234" guess = none ∧
      (station.receive "1234" guess).gate = station.gate ∧
      (station.receive "1234" guess).disk = station.disk) ∧
    station.edit? "1234" turn = some (.lock true) ∧
      (station.receive "1234" turn).gate = { station.gate with locked := true } ∧
      (station.receive "1234" turn).disk = station.disk := by
  intro number station guess turn
  have refused : station.edit? "1234" guess = none := by decide +kernel
  have locks : station.edit? "1234" turn = some (.lock true) := by decide +kernel
  obtain ⟨-, unchanged, -⟩ := station.receive_edits "1234" guess
  obtain ⟨edits, -, kept, -⟩ := station.receive_edits "1234" turn
  refine ⟨⟨refused, (unchanged refused).2⟩, locks, ?_, kept true locks⟩
  rw [edits.gate, locks]
  rfl

end Station

end HeatingHub
