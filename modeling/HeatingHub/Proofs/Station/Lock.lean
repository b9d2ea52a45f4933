import HeatingHub.Proofs.Command.Pin
import HeatingHub.Proofs.Station.Loading
import HeatingHub.Proofs.Station.Turn

/-!
# The lock of a station

What a command can do to the lock and the whitelist has four cases (`Gate.Shift`, `enact_shift`):
both stay, a member locks, the PIN unlocks, or an unlocked gate stays unlocked while its whitelist
changes. A locked gate therefore always has a member (`Turn.guarded`), and only members can make it
hear anything (`admits_of_locked`).
-/

namespace HeatingHub

namespace Gate

/-- A locked gate has a member on its whitelist. -/
def Guarded (gate : Gate) : Prop :=
  gate.locked → ∃ number, number ∈ gate.whitelist

/-- What the command of a number can do to the lock and the whitelist. -/
inductive Shift (secret number : String) (gate : Gate) : Command → Gate → Prop
  | stays {command : Command} {next : Gate} (locked : next.locked = gate.locked)
      (whitelist : next.whitelist = gate.whitelist) : Shift secret number gate command next
  | locks (member : number ∈ gate.whitelist) :
      Shift secret number gate .lock { gate with locked := true }
  | unlocks : Shift secret number gate (.unlock secret) { gate with locked := false }
  | edits {command : Command} {next : Gate} (before : gate.locked = false)
      (after : next.locked = false) : Shift secret number gate command next

/-- A guarded gate that is locked admits members only. -/
lemma admits_of_locked {gate : Gate} (guarded : gate.Guarded) (locked : gate.locked)
    (number : String) : gate.admits number ↔ number ∈ gate.whitelist := by
  obtain ⟨member, mem⟩ := guarded locked
  have filled : gate.whitelist.isEmpty = false := by
    rw [← Bool.not_eq_true, Std.ExtTreeSet.isEmpty_iff]
    exact Std.ExtTreeSet.ne_empty_of_mem mem
  rw [admits, locked, filled, Std.ExtTreeSet.mem_iff_contains]
  exact Iff.rfl

/-- An unlocked gate admits everybody. -/
lemma admits_of_unlocked {gate : Gate} (unlocked : gate.locked = false) (number : String) :
    gate.admits number := by
  rw [admits, unlocked]
  rfl

variable {secret number : String} {gate next : Gate} {command : Command}

/-- A shift keeps a gate guarded. -/
lemma Shift.guarded (shift : Shift secret number gate command next) (guarded : gate.Guarded) :
    next.Guarded := by
  intro locked
  cases shift with
  | stays same whitelist =>
    rw [whitelist]
    exact guarded (same ▸ locked)
  | locks member => exact ⟨number, member⟩
  | unlocks => cases locked
  | edits _ after =>
    rw [after] at locked
    cases locked

/-- Only a member's command to lock locks. -/
lemma Shift.lock_inv (shift : Shift secret number gate command next)
    (before : gate.locked = false) (after : next.locked) :
    command = .lock ∧ number ∈ gate.whitelist := by
  cases shift with
  | stays same _ =>
    rw [same, before] at after
    cases after
  | locks member => exact ⟨rfl, member⟩
  | unlocks => cases after
  | edits _ unlocked =>
    rw [unlocked] at after
    cases after

/-- Only the command to unlock with the PIN unlocks. -/
lemma Shift.unlock_inv (shift : Shift secret number gate command next) (before : gate.locked)
    (after : next.locked = false) : command = .unlock secret := by
  cases shift with
  | stays same _ =>
    rw [same, before] at after
    cases after
  | locks => cases after
  | unlocks => rfl
  | edits unlocked _ =>
    rw [unlocked] at before
    cases before

/-- The whitelist of a locked gate stays as it is. -/
lemma Shift.whitelist_of_locked (shift : Shift secret number gate command next)
    (locked : gate.locked) : next.whitelist = gate.whitelist := by
  cases shift with
  | stays _ whitelist => exact whitelist
  | locks => rfl
  | unlocks => rfl
  | edits unlocked _ =>
    rw [unlocked] at locked
    cases locked

end Gate

namespace Station

/-- An edit of the whitelist shifts the gate of an unlocked station only. -/
lemma edit_shift {station next : Station} {secret number pin : String} {command : Command}
    (locked : next.gate.locked = station.gate.locked) :
    Gate.Shift secret number station.gate command
      (if station.gate.locked ∨ pin ≠ secret then station else next).gate := by
  split
  · exact .stays rfl rfl
  · next allowed =>
    have unlocked : station.gate.locked = false :=
      (Bool.not_eq_true _).mp fun locked => allowed (.inl locked)
    exact .edits unlocked (locked.trans unlocked)

/-- What enacting a command does to the gate. -/
theorem enact_shift (station : Station) (secret number : String) (command : Command) :
    Gate.Shift secret number station.gate command (station.enact secret number command).gate := by
  cases command with
  | all word =>
    rw [enact, setAll, setFleet_gate]
    exact .stays rfl rfl
  | heater name word =>
    rw [enact, setOverride, setFleet_gate]
    exact .stays rfl rfl
  | lock =>
    rw [enact]
    split
    · next member => exact .locks (Std.ExtTreeSet.mem_iff_contains.2 member)
    · exact .stays rfl rfl
  | unlock pin =>
    rw [enact]
    split
    · next right => exact right ▸ .unlocks
    · exact .stays rfl rfl
  | addPhone pin phone =>
    apply edit_shift
    rw [addPhone, setGate_gate, Gate.add_locked]
  | removePhone pin phone =>
    apply edit_shift
    rw [removePhone, setGate_gate, Gate.remove_locked]
  | setEmergencyPhone pin phone =>
    rw [enact]
    split
    · exact .stays rfl rfl
    · rw [setEmergency, setGate_gate, Gate.setEmergency]
      split <;> exact .stays rfl rfl
  | removeEmergencyPhone =>
    rw [enact, clearEmergency, setGate_gate]
    exact .stays rfl rfl
  | _ => exact .stays rfl rfl

variable {secret : String} {station next : Station} {heard : Option Sms}

/-- What a turn does to the gate: nothing, or what the command of an admitted sender does. -/
lemma Turn.shift (turn : Turn secret station heard next) :
    next.gate = station.gate ∨ ∃ sms, heard = some sms ∧ station.gate.admits sms.number ∧
      Gate.Shift secret sms.number station.gate (Command.parse sms.text) next.gate := by
  cases turn with
  | rests rests => exact .inl rests.gate
  | fallsBack rests => exact .inl ((setFleet_gate _ _).trans rests.gate)
  | ignores => exact .inl rfl
  | obeys admitted rests =>
    refine .inr ⟨_, rfl, admitted, ?_⟩
    rw [rests.gate]
    exact enact_shift _ _ _ _

/-- A turn keeps a gate guarded. -/
lemma Turn.guarded (turn : Turn secret station heard next) (guarded : station.gate.Guarded) :
    next.gate.Guarded := by
  obtain same | ⟨sms, -, -, shift⟩ := turn.shift
  · exact same ▸ guarded
  · exact shift.guarded guarded

/-- Only the text `LOCK` of a member locks. -/
lemma Turn.lock_inv (turn : Turn secret station heard next) (before : station.gate.locked = false)
    (after : next.gate.locked) :
    ∃ sms, heard = some sms ∧ Command.content sms.text = "LOCK".toList ∧
      sms.number ∈ station.gate.whitelist := by
  obtain same | ⟨sms, hears, -, shift⟩ := turn.shift
  · rw [same, before] at after
    cases after
  · obtain ⟨lock, member⟩ := shift.lock_inv before after
    exact ⟨sms, hears, Command.lock_inv lock, member⟩

/-- Only the words `UNLOCK` and the PIN of a member unlock. -/
lemma Turn.unlock_inv (turn : Turn secret station heard next) (guarded : station.gate.Guarded)
    (before : station.gate.locked) (after : next.gate.locked = false) :
    ∃ sms, heard = some sms ∧
      (Text.words (Command.content sms.text)).map String.ofList = ["UNLOCK", secret] ∧
      sms.number ∈ station.gate.whitelist := by
  obtain same | ⟨sms, hears, admitted, shift⟩ := turn.shift
  · rw [same, before] at after
    cases after
  · exact ⟨sms, hears, Command.unlock_inv (shift.unlock_inv before after),
      (Gate.admits_of_locked guarded before _).1 admitted⟩

/-- A turn leaves the whitelist of a locked gate alone. -/
lemma Turn.whitelist_of_locked (turn : Turn secret station heard next)
    (locked : station.gate.locked) : next.gate.whitelist = station.gate.whitelist := by
  obtain same | ⟨sms, -, -, shift⟩ := turn.shift
  · rw [same]
  · exact shift.whitelist_of_locked locked

/-- The text `UNLOCK` and the PIN of a member unlocks. -/
lemma receive_unlock {station : Station} (pin : Config.isPin secret)
    (guarded : station.gate.Guarded) (locked : station.gate.locked) {number : String}
    (member : number ∈ station.gate.whitelist) :
    (station.receive secret { number, text := "UNLOCK " ++ secret }).gate.locked = false := by
  have admitted := (Gate.admits_of_locked guarded locked number).2 member
  rw [receive, if_pos admitted, Command.parse_unlock pin, obey, if_pos rfl]
  rfl

end Station

end HeatingHub
