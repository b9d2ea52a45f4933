import HeatingHub.Proofs.Hub.Order

/-!
# The records of a hub are current

A hub starts without records, and every act is a move of its fleet, so that no record of a hub that
is reached has another mode than its name has now (`records_current`).
-/

namespace HeatingHub.Hub

variable {id : DeviceId} {pin : String} {surroundings : Station} {counter : UInt64} {now : Nat}
  {hub : Hub}

/-- The records of a hub that is reached from a start are current. -/
lemma current_of_reaches (reaches : (start id pin surroundings counter now).Reaches hub) :
    hub.station.fleet.Current := by
  induction reaches with
  | refl =>
    intro device record found
    cases (surroundings.load_records device).symm.trans found
  | act _ act ih => exact (act_moves _ act).current ih

/-- Every record has no name or an upper name of at most 48 letters, and the mode that this name has
now: the one that is set under exactly this name, or else the default mode. -/
theorem records_current (reaches : (start id pin surroundings counter now).Reaches hub)
    {device : DeviceId} {record : Record}
    (found : hub.station.fleet.records[device]? = some record) :
    (∀ name, record.name = some name →
      isUpperName name.toList ∧ 1 ≤ name.length ∧ name.length ≤ 48) ∧
    record.mode = hub.station.fleet.modeOf record.name ∧
    record.mode = hub.station.fleet.modeOfRecorded record.name := by
  obtain ⟨givable, current⟩ := current_of_reaches reaches device record found
  refine ⟨fun name same => ?_, ?_, current⟩
  · obtain ⟨named, short⟩ := givable name same
    obtain ⟨filled, -⟩ := (Bool.and_eq_true _ _).mp named
    have letters : name.toList ≠ [] := by simpa using filled
    exact ⟨named, List.length_pos_iff.2 letters, short⟩
  · rw [hub.station.fleet.modeOf_of_givable givable, current]

/-- A device has asked under its heater's name, and then the mode of this name is set. -/
theorem records_current_of_renewed :
    let hub := (start (.ofNat 1) "1234" (.fresh .missing) 0 0).run
      [.connects {} none 0,
        .device 0 (.sends (Message.encodeRequest (.ofNat 7) 1 (some "Boiler"))), .cycle 0 0,
        .message { number := "3310203040506", text := "heater boiler eco" }, .cycle 50 50]
    ∃ record, hub.station.fleet.records[DeviceId.ofNat 7]? = some record ∧
      record.name = some "BOILER" ∧ record.mode = hub.station.fleet.modeOf (some "BOILER") := by
  intro hub
  have asked : (hub.station.fleet.records[DeviceId.ofNat 7]?.bind (·.name)) = some "BOILER" := by
    decide +kernel
  obtain ⟨record, found, name⟩ := Option.bind_eq_some_iff.1 asked
  have current := (records_current (reaches_run _ _) found).2.1
  exact ⟨record, found, name, name ▸ current⟩

end HeatingHub.Hub
