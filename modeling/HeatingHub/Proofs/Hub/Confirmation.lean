import HeatingHub.Proofs.Hub.Act
import HeatingHub.Proofs.Station.Confirmation

/-!
# Confirmations and the file

A hub has valid settings in all that it does (`valid_of_reaches`). When it confirms a command while
its disk is ready, the confirmed setting is stored exactly if the command made the settings in
memory others, or set the emergency phone, or asked for what was stored already (`stored_iff`). What
is left is a command that asks for what memory has and the file has not (`confirmed_unstored`):
memory and file part when a save fails or when the file cannot be read at the start.
-/

namespace HeatingHub.Hub

variable {id : DeviceId} {pin : String} {surroundings : Station} {counter : UInt64} {now : Nat}
  {hub : Hub}

/-- The settings of a hub that is reached from a start are valid. -/
lemma valid_of_reaches (reaches : (start id pin surroundings counter now).Reaches hub) :
    hub.station.settings.Valid := by
  induction reaches with
  | refl => exact surroundings.load_valid
  | act _ act ih => exact (act_turn _ act).valid ih

/-- A confirmation that is sent while the disk is ready confirms what is stored, exactly if the
command made the settings in memory others, or set the emergency phone, or asked for what was stored
before. -/
theorem stored_iff (reaches : (start id pin surroundings counter now).Reaches hub) {sms : Sms}
    {dispatch : Dispatch} (admitted : hub.station.gate.admits sms.number)
    (ready : hub.station.disk.ready)
    (sent : dispatch ∈ (hub.station.receive hub.pin sms).post.log.drop hub.station.post.log.length)
    (confirmed : (Command.parse sms.text).confirmation = some dispatch.sms.text) :
    (Command.parse sms.text).StoredIn dispatch.file ↔
      (hub.station.receive hub.pin sms).settings ≠ hub.station.settings ∨
        (Command.parse sms.text).SetsEmergency ∨
        (Command.parse sms.text).StoredIn hub.station.disk.file := by
  rw [Station.receive, if_pos admitted] at sent ⊢
  have valid := Station.enact_valid (valid_of_reaches reaches) hub.pin sms.number sms.text
  exact Station.obey_stored_iff valid ready sent confirmed

/-- A new hub confirms a mass command and stores it. -/
theorem stored_iff_of_news :
    let hub := start (.ofNat 1) "1234" (.fresh .missing) 0 0
    let sms : Sms := { number := "3310203040506", text := "ALL ECO" }
    ∃ dispatch ∈ (hub.station.receive hub.pin sms).post.log.drop hub.station.post.log.length,
      dispatch.sms.text = "ALL ECO" ∧ (Command.parse sms.text).StoredIn dispatch.file := by
  intro hub sms
  have answered : ((hub.station.receive hub.pin sms).post.log.drop
      hub.station.post.log.length).any (·.sms.text == "ALL ECO") := by
    decide +kernel
  obtain ⟨dispatch, sent, text⟩ := List.any_eq_true.1 answered
  have text := beq_iff_eq.1 text
  have confirmed : (Command.parse sms.text).confirmation = some dispatch.sms.text := by
    rw [text]
    decide +kernel
  have news : (hub.station.receive hub.pin sms).settings ≠ hub.station.settings := by
    decide +kernel
  have admitted : hub.station.gate.admits sms.number := by decide +kernel
  have ready : hub.station.disk.ready := by decide +kernel
  have reaches : hub.Reaches hub := .refl
  exact ⟨dispatch, sent, text, (stored_iff reaches admitted ready sent confirmed).2 (.inl news)⟩

/-- A hub whose file cannot be read confirms that all heaters have the mode that they have in memory
already, and stores nothing, although its disk is ready. -/
theorem confirmed_unstored :
    let hub := start (.ofNat 1) "1234" (.fresh (.ofBytes [0xFF])) 0 0
    let sms : Sms := { number := "3310203040506", text := "ALL DEFROST" }
    hub.station.gate.admits sms.number ∧ hub.station.disk.ready ∧
    ∃ dispatch ∈ (hub.station.receive hub.pin sms).post.log.drop hub.station.post.log.length,
      (Command.parse sms.text).confirmation = some dispatch.sms.text ∧
        ¬ (Command.parse sms.text).StoredIn dispatch.file := by
  intro hub sms
  have answered : ((hub.station.receive hub.pin sms).post.log.drop
      hub.station.post.log.length).any fun dispatch =>
        dispatch.sms.text == "ALL DEFROST" && dispatch.file == .garbled [0xFF] := by
    decide +kernel
  obtain ⟨dispatch, sent, shows⟩ := List.any_eq_true.1 answered
  rw [Bool.and_eq_true, beq_iff_eq, beq_iff_eq] at shows
  refine ⟨by decide +kernel, by decide +kernel, dispatch, sent, ?_, ?_⟩
  · rw [shows.1]
    decide +kernel
  · rw [shows.2]
    rintro ⟨settings, load, -⟩
    cases load

end HeatingHub.Hub
