import HeatingHub.Proofs.Command.Inversion
import HeatingHub.Proofs.Station.Revision
import HeatingHub.Station.Obey

/-!
# Obeying is enacting and answering

To obey a command is to *enact* it, that is to make the change that it asks for if the sender may
have it made, and then to *answer* (`obey_answers`). While a station answers, asks its host or sends
alerts, its fleet, its gate and its disk stay as they are (`Answers`). A station *rests* even when
it keeps books on devices: modes, numbers, lock and disk stay as they are, and all that it sends shows
the settings and the file as they are (`Rests`).

Enacting a command sends nothing, and either leaves settings and disk alone or saves the settings
(`enact_keeps`). It keeps valid settings valid when the command was read from a text
(`enact_valid`).
-/

namespace HeatingHub.Station

/-! ## Resting -/

/-- The settings, the lock and the disk stay as they are, and all that is sent shows them so. -/
structure Rests (station next : Station) : Prop where
  modes : next.fleet.modes = station.fleet.modes
  gate : next.gate = station.gate
  disk : next.disk = station.disk
  log : ∃ sent : List Dispatch, next.post.log = station.post.log ++ sent ∧
    ∀ dispatch ∈ sent,
      dispatch.settings = station.settings ∧ dispatch.file = station.disk.file

/-- A station that rests keeps its settings. -/
lemma Rests.settings {station next : Station} (rests : Rests station next) :
    next.settings = station.settings := by
  rw [settings_eq_iff, rests.gate]
  exact ⟨rests.modes, rfl⟩

/-- A station that does nothing rests. -/
lemma Rests.refl (station : Station) : Rests station station where
  modes := rfl
  gate := rfl
  disk := rfl
  log := ⟨[], (List.append_nil _).symm, fun _ mem => absurd mem List.not_mem_nil⟩

/-- A station that rests twice rests. -/
lemma Rests.trans {station next last : Station} (first : Rests station next)
    (second : Rests next last) : Rests station last where
  modes := second.modes.trans first.modes
  gate := second.gate.trans first.gate
  disk := second.disk.trans first.disk
  log := by
    obtain ⟨sent, log, shows⟩ := first.log
    obtain ⟨sent', log', shows'⟩ := second.log
    refine ⟨sent ++ sent', by rw [log', log, List.append_assoc], fun dispatch mem => ?_⟩
    cases List.mem_append.1 mem with
    | inl mem => exact shows dispatch mem
    | inr mem =>
      rw [← first.settings, ← first.disk]
      exact shows' dispatch mem

/-- To keep books on devices is to rest. -/
lemma fleet_rests (station : Station) {fleet : Fleet} (modes : fleet.modes = station.fleet.modes) :
    Rests station { station with fleet } :=
  { Rests.refl station with modes }

/-! ## Answering -/

/-- The station rests, and it does not even keep books. -/
structure Answers (station next : Station) : Prop extends Rests station next where
  fleet : next.fleet = station.fleet

/-- A station that does nothing does no more than answer. -/
lemma Answers.refl (station : Station) : Answers station station :=
  { Rests.refl station with fleet := rfl }

/-- To answer twice is no more than to answer. -/
lemma Answers.trans {station next last : Station} (first : Answers station next)
    (second : Answers next last) : Answers station last :=
  { first.toRests.trans second.toRests with fleet := second.fleet.trans first.fleet }

/-- To ask for the vitals is no more than to answer. -/
lemma ask_answers (station : Station) {α : Type} (question : Vitals → α) :
    Answers station (station.ask question).2 :=
  { Answers.refl station with }

/-- To send a message is no more than to answer. -/
lemma send_answers (station : Station) (occasion : Occasion) (sms : Sms) :
    Answers station (station.send occasion sms) where
  modes := rfl
  gate := rfl
  disk := rfl
  log := ⟨[_], rfl, fun _ mem => List.mem_singleton.1 mem ▸ ⟨rfl, rfl⟩⟩
  fleet := rfl

/-- To reply is no more than to answer. -/
lemma reply_answers (station : Station) (number text : String) :
    Answers station (station.reply number text) :=
  station.send_answers _ _

/-- To alert is no more than to answer. -/
lemma alert_answers (station : Station) (text : String) :
    Answers station (station.alert text) := by
  rw [alert]
  split
  · exact station.send_answers _ _
  · exact Answers.refl station

/-- To reply with several texts is no more than to answer. -/
lemma replyAll_answers (station : Station) (number : String) (texts : List (List Char)) :
    Answers station (station.replyAll number texts) := by
  rw [replyAll]
  induction texts generalizing station with
  | nil => exact Answers.refl station
  | cons text texts ih => exact (station.reply_answers number _).trans (ih _)

/-- To show a topic is no more than to answer. -/
lemma debug_answers (station : Station) (number : String) (topic : Topic) :
    Answers station (station.debug number topic) := by
  cases topic with
  | state => exact station.reply_answers _ _
  | fileState => exact station.reply_answers _ _
  | uptime => exact (station.ask_answers (·.uptime)).trans (reply_answers _ _ _)
  | wifi => exact (station.ask_answers (·.wifi)).trans (reply_answers _ _ _)
  | log => exact (station.ask_answers (·.logs)).trans (replyAll_answers _ _ _)
  | reboot =>
    rw [debug]
    have asked := station.ask_answers (·.reboot)
    dsimp only
    split
    · exact asked
    · exact asked.trans (reply_answers _ _ _)

/-! ## Enacting -/

/-- The change that a command of an admitted sender makes, where `secret` is the PIN. -/
def enact (station : Station) (secret number : String) : Command → Station
  | .all word => station.setAll word.mode
  | .heater name word => station.setOverride name word.mode
  | .lock => if station.gate.whitelist.contains number then station.setLocked true else station
  | .unlock pin => if pin = secret then station.setLocked false else station
  | .addPhone pin phone =>
    if station.gate.locked ∨ pin ≠ secret then station else (station.addPhone phone).2
  | .removePhone pin phone =>
    if station.gate.locked ∨ pin ≠ secret then station else (station.removePhone phone).2
  | .setEmergencyPhone pin phone =>
    if pin ≠ secret then station else (station.setEmergency phone).2
  | .removeEmergencyPhone => station.clearEmergency.2
  | .ping | .version | .invalidHeaterName | .getDefault | .getHeater _ | .invalidName | .getIp
  | .help | .debug _ | .invalid => station

/-- To change the whitelist is to make the change if it may be made, and to answer. -/
lemma editWhitelist_answers (station : Station) (secret number pin : String)
    (change : Station → String × Station) :
    Answers (if station.gate.locked ∨ pin ≠ secret then station else (change station).2)
      (station.editWhitelist secret number pin change) := by
  rw [editWhitelist]
  cases locked : station.gate.locked with
  | true =>
    rw [if_pos (.inl rfl), if_pos rfl]
    exact station.reply_answers _ _
  | false =>
    rw [if_neg Bool.false_ne_true]
    by_cases other : pin ≠ secret
    · rw [if_pos (.inr other), if_pos other]
      exact station.reply_answers _ _
    · rw [if_neg (not_or_intro Bool.false_ne_true other), if_neg other]
      exact reply_answers _ _ _

/-- To obey a command is to enact it and to answer. -/
theorem obey_answers (station : Station) (secret number : String) (command : Command) :
    Answers (station.enact secret number command) (station.obey secret number command) := by
  cases command with
  | getIp => exact (station.ask_answers (·.publicIp)).trans (reply_answers _ _ _)
  | debug topic => exact station.debug_answers number topic
  | addPhone pin phone =>
    have answers := station.editWhitelist_answers secret number pin fun station =>
      (addedText phone (station.addPhone phone).1, (station.addPhone phone).2)
    exact answers
  | removePhone pin phone =>
    have answers := station.editWhitelist_answers secret number pin fun station =>
      (removedText phone (station.removePhone phone).1, (station.removePhone phone).2)
    exact answers
  | lock =>
    rw [obey, enact]
    split <;> exact reply_answers _ _ _
  | unlock pin =>
    rw [obey, enact]
    split <;> exact reply_answers _ _ _
  | setEmergencyPhone pin phone =>
    rw [obey, enact]
    split <;> exact reply_answers _ _ _
  | _ => exact reply_answers _ _ _

/-- Nothing is sent, and the settings and the disk stay as they are, or the settings are saved. -/
structure Keeps (station next : Station) : Prop where
  post : next.post = station.post
  kept : (next.settings = station.settings ∧ next.disk = station.disk) ∨
    next.disk = station.disk.save next.settings

/-- A station that revises its settings keeps them on the disk. -/
lemma Revises.keeps {station next : Station} (revises : Revises station next) :
    Keeps station next := by
  refine ⟨revises.post, ?_⟩
  by_cases same : next.settings = station.settings
  · exact .inl ⟨same, revises.disk.trans (if_pos same)⟩
  · exact .inr (revises.disk.trans (if_neg same))

/-- All commands but one are revisions. -/
lemma enact_revises (station : Station) (secret number : String) {command : Command}
    (other : ∀ pin phone, command ≠ .setEmergencyPhone pin phone) :
    Revises station (station.enact secret number command) := by
  cases command with
  | all word => exact station.setAll_revises _
  | heater name word => exact station.setOverride_revises _ _
  | lock =>
    rw [enact]
    split
    · exact { Revises.refl station with }
    · exact Revises.refl station
  | unlock pin =>
    rw [enact]
    split
    · exact { Revises.refl station with }
    · exact Revises.refl station
  | addPhone pin phone =>
    rw [enact]
    split
    · exact Revises.refl station
    · exact station.addPhone_revises _
  | removePhone pin phone =>
    rw [enact]
    split
    · exact Revises.refl station
    · exact station.removePhone_revises _
  | setEmergencyPhone pin phone => exact absurd rfl (other pin phone)
  | removeEmergencyPhone => exact station.clearEmergency_revises
  | _ => exact Revises.refl station

/-- To enact a command is to keep the settings. -/
theorem enact_keeps (station : Station) (secret number : String) (command : Command) :
    Keeps station (station.enact secret number command) := by
  by_cases emergency : ∃ pin phone, command = .setEmergencyPhone pin phone
  -- The emergency phone is saved even when it is the same, which no revision does.
  · obtain ⟨pin, phone, rfl⟩ := emergency
    rw [enact]
    split
    · exact (Revises.refl station).keeps
    · cases valid : isPhoneNumber phone.toList with
      | false =>
        rw [setEmergency_of_invalid valid]
        exact (Revises.refl station).keeps
      | true =>
        exact ⟨setGate_post _ _ _, .inr (setEmergency_disk valid)⟩
  · exact (station.enact_revises secret number fun pin phone same =>
      emergency ⟨pin, phone, same⟩).keeps

/-- A command that was read from a text keeps the settings valid. -/
theorem enact_valid {station : Station} (valid : station.settings.Valid) (secret number : String)
    (text : String) : (station.enact secret number (Command.parse text)).settings.Valid := by
  cases found : Command.parse text with
  | all word => exact setAll_valid valid _
  | heater name word => exact setOverride_valid valid _ (Command.heater_inv found)
  | lock =>
    rw [enact]
    split <;> exact valid
  | unlock pin =>
    rw [enact]
    split <;> exact valid
  | addPhone pin phone =>
    rw [enact]
    split
    · exact valid
    · exact addPhone_valid valid _
  | removePhone pin phone =>
    rw [enact]
    split
    · exact valid
    · exact removePhone_valid valid _
  | setEmergencyPhone pin phone =>
    rw [enact]
    split
    · exact valid
    · exact setEmergency_valid valid _
  | removeEmergencyPhone => exact clearEmergency_valid valid
  | _ => exact valid

end HeatingHub.Station
