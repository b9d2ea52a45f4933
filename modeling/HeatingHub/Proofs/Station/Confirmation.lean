import HeatingHub.Proofs.Station.Loading
import HeatingHub.Proofs.Station.Obedience

/-!
# What a confirmation confirms

Six commands are answered with a *confirmation* (`Command.confirmation`). Whoever reads it may trust
that the station now has the setting that the command asked for (`enact_holds`), because the answer
is given only where the sender was *granted* the change (`granted_of_confirmed`). Whether the file
has it too is another matter: it was saved if the settings in memory are others than before, or if
the command set the emergency phone (`enact_disk`, `obey_stored_iff`).
-/

namespace HeatingHub

/-- The mode that settings give to a heater's name, and to heaters without a name. -/
def Settings.modeOf (settings : Settings) (name : Option String) : Mode :=
  ({ defaultMode := settings.defaultMode, overrides := settings.overrides } : Fleet).modeOf name

namespace Command

/-- The answer that confirms a change of the settings. -/
def confirmation : Command → Option String
  | .all word => some ("ALL " ++ word.text)
  | .heater name word => some ("HEATER " ++ name ++ " " ++ word.text)
  | .addPhone _ phone => some ("Phone number \"" ++ phone ++ "\" added to whitelist")
  | .removePhone _ phone => some ("Phone number \"" ++ phone ++ "\" removed from whitelist")
  | .setEmergencyPhone _ phone => some (phone ++ " set as emergency phone number.")
  | .removeEmergencyPhone => some "Emergency phone removed"
  | _ => none

/-- The settings are as a command wants them to be. -/
def HoldsIn (settings : Settings) : Command → Prop
  | .all word => ∀ name, settings.modeOf name = word.mode
  | .heater name word => settings.overrides[Text.upperString name]? = some word.mode
  | .addPhone _ phone => phone ∈ settings.whitelist
  | .removePhone _ phone => phone ∉ settings.whitelist
  | .setEmergencyPhone _ phone => settings.emergency = some phone
  | .removeEmergencyPhone => settings.emergency = none
  | _ => True

/-- A file gives settings that are as a command wants them to be. -/
def StoredIn (command : Command) (file : StateFile) : Prop :=
  ∃ settings, file.load = .ok (some settings) ∧ command.HoldsIn settings

/-- A command sets the emergency phone. -/
def SetsEmergency (command : Command) : Prop :=
  ∃ pin phone, command = .setEmergencyPhone pin phone

end Command

namespace Station

/-- The station lets a command make its change. -/
def Grants (station : Station) (secret : String) : Command → Prop
  | .addPhone pin phone =>
    station.gate.locked = false ∧ pin = secret ∧ isPhoneNumber phone.toList
  | .removePhone pin phone =>
    station.gate.locked = false ∧ pin = secret ∧ isPhoneNumber phone.toList ∧
      phone ∈ station.gate.whitelist
  | .setEmergencyPhone pin phone => pin = secret ∧ isPhoneNumber phone.toList
  | _ => True

/-- The text of an answer is found in what was sent with it. -/
lemma text_of_reply {station next : Station} {number text : String} {dispatch : Dispatch}
    (post : next.post = station.post)
    (sent : dispatch ∈ (next.reply number text).post.log.drop station.post.log.length) :
    dispatch.sms.text = text := by
  rw [reply, send, Post.send, post, List.drop_left, List.mem_singleton] at sent
  rw [sent]

/-- An edit of the whitelist gives an answer about a number only if the hub is unlocked and the PIN
is right. -/
lemma text_of_editWhitelist {station : Station} {secret number pin rest : String}
    {change : Station → String × Station} {dispatch : Dispatch}
    (post : (change station).2.post = station.post)
    (sent : dispatch ∈ (station.editWhitelist secret number pin change).post.log.drop
      station.post.log.length)
    (starts : dispatch.sms.text = "Phone number " ++ rest) :
    station.gate.locked = false ∧ pin = secret ∧ dispatch.sms.text = (change station).1 := by
  have letters := congrArg String.toList starts
  rw [editWhitelist] at sent
  split at sent
  · rw [text_of_reply rfl sent] at letters
    simp at letters
  · next unlocked =>
    split at sent
    · rw [text_of_reply rfl sent] at letters
      simp at letters
    · next right =>
      exact ⟨(Bool.not_eq_true _).mp unlocked, Decidable.of_not_not right, text_of_reply post sent⟩

/-- The answer to an invalid number, in its parts. -/
lemma invalidNumberText_eq (phone : String) :
    invalidNumberText phone =
      "Phone number \"" ++ phone ++ "\" is not valid. Phone numbers must be 10 to 14 digits, " ++
        "country code first. Example: 3310203040506" := by
  delta invalidNumberText
  rfl

/-- The confirmation of an addition is not said of an invalid number. -/
lemma valid_of_addedText {phone : String} {change : WhitelistChange}
    (confirmed : addedText phone change = "Phone number \"" ++ phone ++ "\" added to whitelist") :
    change ≠ .invalidNumber := by
  rintro rfl
  have letters := congrArg String.toList confirmed
  rw [addedText, invalidNumberText_eq] at letters
  simp at letters

/-- The confirmation of a removal is only said of a number that was removed. -/
lemma removed_of_removedText {phone : String} {change : WhitelistChange}
    (confirmed :
      removedText phone change = "Phone number \"" ++ phone ++ "\" removed from whitelist") :
    change = .removed := by
  have invalid : invalidNumberText phone ≠
      "Phone number \"" ++ phone ++ "\" removed from whitelist" := by
    intro same
    have letters := congrArg String.toList same
    rw [invalidNumberText_eq] at letters
    simp at letters
  have missing : "Phone number \"" ++ phone ++ "\" is not in whitelist" ≠
      "Phone number \"" ++ phone ++ "\" removed from whitelist" := by
    intro same
    have letters := congrArg String.toList same
    simp at letters
  cases change with
  | removed => rfl
  | invalidNumber => exact absurd confirmed invalid
  | added => exact absurd confirmed missing
  | unchanged => exact absurd confirmed missing

/-- The confirmation of an emergency phone is not said of an invalid number. -/
lemma invalidNumberText_ne (phone : String) :
    invalidNumberText phone ≠ phone ++ " set as emergency phone number." := by
  intro same
  have lengths := congrArg String.length same
  have long : 31 < "country code first. Example: 3310203040506".length := by decide
  have short : " set as emergency phone number.".length = 31 := by decide
  simp only [invalidNumberText_eq, String.length_append] at lengths
  omega

/-- A confirmation is only given for what was granted. -/
lemma granted_of_confirmed {station : Station} {secret number : String} {command : Command}
    {dispatch : Dispatch}
    (sent : dispatch ∈ (station.obey secret number command).post.log.drop station.post.log.length)
    (confirmed : command.confirmation = some dispatch.sms.text) :
    station.Grants secret command := by
  cases command with
  | addPhone pin phone =>
    have confirmed := Option.some.inj confirmed
    -- Only the answer to a number that was taken starts like this, so nothing was refused.
    have starts : dispatch.sms.text =
        "Phone number " ++ ("\"" ++ phone ++ "\" added to whitelist") := by
      rw [← confirmed, ← String.append_assoc, ← String.append_assoc]
      rfl
    rw [obey] at sent
    obtain ⟨unlocked, right, answer⟩ :=
      text_of_editWhitelist (setGate_post _ _ _) sent starts
    have valid := valid_of_addedText (answer.symm.trans confirmed.symm)
    obtain ⟨-, change⟩ | ⟨digits, -, -⟩ | ⟨digits, -, -⟩ := station.gate.add_cases phone
    · exact absurd (congrArg Prod.fst change) valid
    · exact ⟨unlocked, right, digits⟩
    · exact ⟨unlocked, right, digits⟩
  | removePhone pin phone =>
    have confirmed := Option.some.inj confirmed
    have starts : dispatch.sms.text =
        "Phone number " ++ ("\"" ++ phone ++ "\" removed from whitelist") := by
      rw [← confirmed, ← String.append_assoc, ← String.append_assoc]
      rfl
    rw [obey] at sent
    obtain ⟨unlocked, right, answer⟩ :=
      text_of_editWhitelist (setGate_post _ _ _) sent starts
    have removed := removed_of_removedText (answer.symm.trans confirmed.symm)
    obtain ⟨-, change⟩ | ⟨-, -, change⟩ | ⟨valid, listed, -⟩ := station.gate.remove_cases phone
    · cases (congrArg Prod.fst change).symm.trans removed
    · cases (congrArg Prod.fst change).symm.trans removed
    · exact ⟨unlocked, right, valid, listed⟩
  | setEmergencyPhone pin phone =>
    have confirmed := Option.some.inj confirmed
    rw [obey] at sent
    split at sent
    · -- The refusal of a wrong PIN ends with another letter.
      have wrong := (text_of_reply rfl sent).symm.trans confirmed.symm
      have letters := congrArg (fun text : String => text.toList.getLast?) wrong
      simp at letters
    · next right =>
      have answer : dispatch.sms.text =
          if (station.setEmergency phone).1 then phone ++ " set as emergency phone number."
          else invalidNumberText phone :=
        text_of_reply (setGate_post _ _ _) sent
      cases valid : isPhoneNumber phone.toList with
      | true => exact ⟨Decidable.of_not_not right, valid⟩
      | false =>
        rw [setEmergency_of_invalid valid, if_neg Bool.false_ne_true] at answer
        exact absurd (answer.symm.trans confirmed.symm) (invalidNumberText_ne phone)
  | _ => trivial

/-- What was granted holds in memory once it is enacted. -/
lemma enact_holds {station : Station} {secret : String} (number : String) {command : Command}
    (granted : station.Grants secret command) :
    command.HoldsIn (station.enact secret number command).settings := by
  cases command with
  | all word =>
    intro name
    rw [enact, settings, setAll, setFleet_fleet, Settings.modeOf]
    exact (Fleet.modeOf_congr rfl name).trans (station.fleet.modeOf_setAll word.mode name)
  | heater name word =>
    rw [Command.HoldsIn, enact, settings, setOverride, setFleet_fleet]
    dsimp only
    rw [Fleet.setOverride_overrides, Std.ExtTreeMap.getElem?_insert_self]
  | addPhone pin phone =>
    obtain ⟨unlocked, right, valid⟩ := granted
    rw [Command.HoldsIn, enact, if_neg (by simp [unlocked, right]), settings, addPhone,
      setGate_gate]
    -- A number that was listed before is confirmed, too.
    obtain ⟨invalid, -⟩ | ⟨-, listed, change⟩ | ⟨-, -, change⟩ := station.gate.add_cases phone
    · rw [valid] at invalid
      cases invalid
    · rw [change]
      exact listed
    · rw [change]
      exact Std.ExtTreeSet.mem_insert_self
  | removePhone pin phone =>
    obtain ⟨unlocked, right, valid, listed⟩ := granted
    rw [Command.HoldsIn, enact, if_neg (by simp [unlocked, right]), settings, removePhone,
      setGate_gate]
    obtain ⟨invalid, -⟩ | ⟨-, unlisted, -⟩ | ⟨-, -, change⟩ := station.gate.remove_cases phone
    · rw [valid] at invalid
      cases invalid
    · exact absurd listed unlisted
    · rw [change]
      exact Gate.not_mem_erase_self _ _
  | setEmergencyPhone pin phone =>
    obtain ⟨right, valid⟩ := granted
    rw [Command.HoldsIn, enact, if_neg (not_not_intro right), settings, setEmergency, setGate_gate,
      Gate.setEmergency, if_pos valid]
  | removeEmergencyPhone =>
    rw [Command.HoldsIn, enact, settings, clearEmergency, setGate_gate]
    rfl
  | _ => trivial

/-- What was granted is saved if it makes the settings others, or sets the emergency phone; else the
disk is left alone. -/
lemma enact_disk {station : Station} {secret : String} (number : String) {command : Command}
    (granted : station.Grants secret command) :
    (((station.enact secret number command).settings ≠ station.settings ∨
        command.SetsEmergency) ∧
      (station.enact secret number command).disk =
        station.disk.save (station.enact secret number command).settings) ∨
    ((station.enact secret number command).settings = station.settings ∧
      ¬ command.SetsEmergency ∧ (station.enact secret number command).disk = station.disk) := by
  by_cases emergency : command.SetsEmergency
  · obtain ⟨pin, phone, rfl⟩ := emergency
    obtain ⟨right, valid⟩ := granted
    rw [enact, if_neg (not_not_intro right)]
    exact .inl ⟨.inr ⟨pin, phone, rfl⟩, setEmergency_disk valid⟩
  · have revises := station.enact_revises secret number fun pin phone same =>
      emergency ⟨pin, phone, same⟩
    by_cases same : (station.enact secret number command).settings = station.settings
    · exact .inr ⟨same, emergency, revises.disk.trans (if_pos same)⟩
    · exact .inl ⟨.inl same, revises.disk.trans (if_neg same)⟩

/-- A confirmation that is sent while the disk is ready confirms what is stored, exactly if the
command made the settings others, or set the emergency phone, or asked for what was stored. -/
lemma obey_stored_iff {station : Station} {secret number : String} {command : Command}
    {dispatch : Dispatch} (valid : (station.enact secret number command).settings.Valid)
    (ready : station.disk.ready)
    (sent : dispatch ∈ (station.obey secret number command).post.log.drop station.post.log.length)
    (confirmed : command.confirmation = some dispatch.sms.text) :
    command.StoredIn dispatch.file ↔
      (station.obey secret number command).settings ≠ station.settings ∨
        command.SetsEmergency ∨ command.StoredIn station.disk.file := by
  have granted := granted_of_confirmed sent confirmed
  have holds := enact_holds number granted
  have rests := (station.obey_answers secret number command).toRests
  -- The confirmation shows the file as it is once the command is enacted.
  have file : dispatch.file = (station.enact secret number command).disk.file := by
    obtain ⟨answers, log, shows⟩ := rests.log
    rw [log, (station.enact_keeps secret number command).post, List.drop_left] at sent
    exact (shows dispatch sent).2
  rw [file, rests.settings]
  obtain ⟨news, disk⟩ | ⟨same, other, disk⟩ := enact_disk number granted
  · have stored : command.StoredIn (station.enact secret number command).disk.file := by
      refine ⟨_, ?_, holds⟩
      rw [disk]
      exact Disk.load_save_of_ready valid ready
    exact iff_of_true stored (or_assoc.1 (.inl news))
  · rw [disk]
    refine ⟨fun stored => .inr (.inr stored), ?_⟩
    rintro (news | emergency | stored)
    · exact absurd same news
    · exact absurd emergency other
    · exact stored

end Station

end HeatingHub
