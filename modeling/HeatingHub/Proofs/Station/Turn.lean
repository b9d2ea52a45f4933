import HeatingHub.Proofs.Station.Obedience

/-!
# Turns of a station

Whatever happens to a station at once is a *turn*: it rests, it falls back to the safe mode, or it
hears a message, which it ignores or obeys. An invariant of stations has these four cases. The first
ones are the validity of the settings (`Turn.valid`) and the gate, which only messages change
(`Turn.gate_of_silence`).
-/

namespace HeatingHub.Station

/-- What becomes of a station at once, with the message that it hears. -/
inductive Turn (secret : String) (station : Station) : Option Sms → Station → Prop
  | rests {next : Station} (rests : Rests station next) : Turn secret station none next
  | fallsBack {next : Station} (rests : Rests station next) :
      Turn secret station none (next.setAll .safe)
  | ignores {sms : Sms} (refused : station.gate.admits sms.number = false) :
      Turn secret station (some sms) station
  | obeys {sms : Sms} {next : Station} (admitted : station.gate.admits sms.number)
      (rests : Rests (station.enact secret sms.number (Command.parse sms.text)) next) :
      Turn secret station (some sms) next

/-- To receive a message is a turn of the station. -/
lemma receive_turn (station : Station) (secret : String) (sms : Sms) :
    Turn secret station (some sms) (station.receive secret sms) := by
  rw [receive]
  split
  · next admitted => exact .obeys admitted (station.obey_answers _ _ _).toRests
  · next refused => exact .ignores ((Bool.not_eq_true _).mp refused)

variable {secret : String} {station next : Station} {heard : Option Sms}

/-- A turn keeps the settings valid. -/
lemma Turn.valid (turn : Turn secret station heard next) (valid : station.settings.Valid) :
    next.settings.Valid := by
  cases turn with
  | rests rests => exact rests.settings.symm ▸ valid
  | fallsBack rests => exact setAll_valid (rests.settings.symm ▸ valid) _
  | ignores => exact valid
  | obeys _ rests => exact rests.settings.symm ▸ enact_valid valid _ _ _

/-- Only a message can change the gate. -/
lemma Turn.gate_of_silence (turn : Turn secret station none next) : next.gate = station.gate := by
  cases turn with
  | rests rests => exact rests.gate
  | fallsBack rests => exact (setFleet_gate _ _).trans rests.gate

/-- A turn leaves the disk alone, or ends with the settings that it has saved. -/
lemma Turn.disk (turn : Turn secret station heard next) :
    next.disk = station.disk ∨ next.disk = station.disk.save next.settings := by
  cases turn with
  | rests rests => exact .inl rests.disk
  | fallsBack rests =>
    obtain ⟨-, kept⟩ := (setAll_revises _ .safe).keeps
    rw [rests.disk] at kept
    exact kept.imp_left And.right
  | ignores => exact .inl rfl
  | obeys _ rests =>
    obtain ⟨-, kept⟩ := enact_keeps station secret _ _
    rw [rests.disk, rests.settings]
    exact kept.imp_left And.right

/-- What is sent during a turn shows the file as it is before the turn or as it is behind it. -/
lemma Turn.log (turn : Turn secret station heard next) :
    ∃ sent : List Dispatch, next.post.log = station.post.log ++ sent ∧
      ∀ dispatch ∈ sent, dispatch.file = station.disk.file ∨ dispatch.file = next.disk.file := by
  cases turn with
  | rests rests =>
    obtain ⟨sent, log, shows⟩ := rests.log
    exact ⟨sent, log, fun dispatch mem => .inl (shows dispatch mem).2⟩
  | fallsBack rests =>
    obtain ⟨sent, log, shows⟩ := rests.log
    refine ⟨sent, ?_, fun dispatch mem => .inl (shows dispatch mem).2⟩
    rw [(setAll_revises _ .safe).post, log]
  | ignores => exact ⟨[], (List.append_nil _).symm, nofun⟩
  | obeys _ rests =>
    obtain ⟨sent, log, shows⟩ := rests.log
    refine ⟨sent, ?_, fun dispatch mem => .inr ?_⟩
    · rw [log, (enact_keeps station secret _ _).post]
    · rw [(shows dispatch mem).2, rests.disk]

end HeatingHub.Station
