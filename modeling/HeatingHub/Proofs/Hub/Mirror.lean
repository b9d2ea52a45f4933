import HeatingHub.Proofs.Hub.Act
import HeatingHub.Proofs.Station.Mirror

/-!
# The file of a hub mirrors its settings

A hub that starts without a state file, or with any text for one, stays mirrored through all that it
does (`mirrored_of_reaches`). So as long as every save goes well, whoever loads the file finds the
settings in memory, after every act and at every moment at which a message is sent
(`file_mirrors_settings`).
-/

namespace HeatingHub.Hub

/-- A hub that is reached from a mirrored station has a mirrored one. -/
lemma mirrored_of_reaches {first hub : Hub} (mirrored : first.station.Mirrored)
    (reaches : first.Reaches hub) : hub.station.Mirrored := by
  induction reaches with
  | refl => exact mirrored
  | act _ act ih => exact ih.turn (act_turn _ act)

/-- Let a hub start without a state file or with any text for one, in surroundings that answer as
they like. At each hub that is reached, those of all runs among them, if every save has gone well,
the file holds the settings in memory, and it held them whenever a message was sent. -/
theorem file_mirrors_settings {id : DeviceId} {pin : String} {file : StateFile}
    {saves : Nat → Bool} {sends : Nat → Sms → Bool} {host : Host} {counter : UInt64} {now : Nat}
    {hub : Hub} (readable : file = .missing ∨ ∃ content, file = .text content)
    (reaches : (start id pin
      { disk := { file, accepts := saves }, post := { accepts := sends }, host } counter now).Reaches
        hub)
    (saved : hub.station.disk.AllSaved) :
    hub.station.disk.file.Mirrors hub.station.settings ∧
      ∀ dispatch ∈ hub.station.post.log, dispatch.file.Mirrors dispatch.settings := by
  have mirrored := mirrored_of_reaches (Station.load_mirrored rfl readable) reaches
  refine ⟨StateFile.mirrors_iff.2 (mirrored.file saved), fun dispatch mem => ?_⟩
  exact StateFile.mirrors_iff.2 (mirrored.log saved dispatch mem)

/-- A hub without a state file obeys a command, and answers once the file holds what it did. -/
theorem file_mirrors_settings_of_command :
    let hub := (start (.ofNat 1) "1234" (.fresh .missing) 0 0).run
      [.message { number := "3310203040506", text := "heater boiler eco" }, .cycle 0 0]
    (hub.station.settings.overrides["BOILER"]? = some .eco ∧ hub.station.post.log.length = 1) ∧
      hub.station.disk.file.Mirrors hub.station.settings ∧
      ∀ dispatch ∈ hub.station.post.log, dispatch.file.Mirrors dispatch.settings := by
  intro hub
  have obeyed : hub.station.settings.overrides["BOILER"]? = some .eco ∧
      hub.station.post.log.length = 1 := by
    decide +kernel
  exact ⟨obeyed, file_mirrors_settings (.inl rfl) (reaches_run _ _) fun _ _ => rfl⟩

end HeatingHub.Hub
