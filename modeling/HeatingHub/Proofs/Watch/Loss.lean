import HeatingHub.Proofs.Fleet.Move
import HeatingHub.Proofs.Station.Attempt
import HeatingHub.Proofs.Watch.Duties

/-!
# Lost devices

A device is lost once its last request is 24 hours old. A sweep drops the records of exactly the
devices that are lost, names them in the order of their ids, and reports all of them in one alert
(`sweepLost_swept`). The time of a device's last request is kept in its record and changes in no
other way than by a request or a sweep: orders leave it alone (`follow_lastRequest`).
-/

namespace HeatingHub

/-- The age of a record reaches a threshold when its last request is that long ago. A record from
the future has no age, and so it never reaches any. -/
lemma Record.le_age_iff (record : Record) (wall : Int) {threshold : Nat}
    (positive : 0 < threshold) :
    threshold ≤ record.age wall ↔ record.lastRequest ≤ wall - threshold := by
  rw [age]
  omega

namespace Fleet

/-! ## Sweeps -/

section

variable (fleet : Fleet) (wall : Int) {threshold : Nat}

/-- Lost devices are named in the order of their ids, and none of them twice. -/
lemma sweepLost_ordered :
    ((fleet.sweepLost wall threshold).1.map (·.id.number)).Pairwise (· < ·) := by
  have ordered : fleet.records.toList.Pairwise fun one other => compare one.1 other.1 = .lt :=
    Std.ExtTreeMap.ordered_keys_toList
  rw [sweepLost, List.map_map, List.pairwise_map]
  exact (ordered.filter _).imp fun before => Nat.compare_eq_lt.1 before

/-- A sweep finds the devices lost whose last request is as old as the threshold. -/
lemma mem_sweepLost (positive : 0 < threshold) (device : LostDevice) :
    device ∈ (fleet.sweepLost wall threshold).1 ↔
      ∃ record, fleet.records[device.id]? = some record ∧ record.name = device.name ∧
        record.lastRequest ≤ wall - threshold := by
  rw [sweepLost, List.mem_map]
  constructor
  · rintro ⟨⟨id, record⟩, mem, rfl⟩
    obtain ⟨mem, old⟩ := List.mem_filter.1 mem
    exact ⟨record, Std.ExtTreeMap.mem_toList_iff_getElem?_eq_some.1 mem, rfl,
      (record.le_age_iff wall positive).1 (of_decide_eq_true old)⟩
  · rintro ⟨record, found, name, old⟩
    refine ⟨(device.id, record), List.mem_filter.2 ⟨?_, ?_⟩, ?_⟩
    · exact Std.ExtTreeMap.mem_toList_iff_getElem?_eq_some.2 found
    · exact decide_eq_true ((record.le_age_iff wall positive).2 old)
    · rw [name]

/-- A sweep keeps the records whose last request is younger than the threshold. -/
lemma sweepLost_records (positive : 0 < threshold) (id : DeviceId) :
    (fleet.sweepLost wall threshold).2.records[id]? =
      fleet.records[id]?.filter fun record => wall - threshold < record.lastRequest := by
  rw [sweepLost, Std.ExtTreeMap.getElem?_filter']
  refine congrArg (Option.filter · _) (funext fun record => ?_)
  rw [← decide_not, decide_eq_decide, record.le_age_iff wall positive, Int.not_le]

end

/-! ## Last requests -/

/-- The time of a device's last request, as long as there is a record of it. -/
def lastRequest (fleet : Fleet) (id : DeviceId) : Option Int :=
  fleet.records[id]?.map (·.lastRequest)

/-- The last requests depend only on what is known of the devices. -/
lemma lastRequest_of_known {fleet next : Fleet} (same : next.known = fleet.known) :
    next.lastRequest = fleet.lastRequest := by
  have times (fleet : Fleet) (id : DeviceId) :
      fleet.lastRequest id = (fleet.known id).map (·.2.2) := by
    rw [lastRequest, known, Option.map_map]
    rfl
  funext id
  rw [times, same, ← times]

/-- To refresh the records changes no last request. -/
lemma refresh_lastRequest (fleet : Fleet) : fleet.refresh.lastRequest = fleet.lastRequest :=
  lastRequest_of_known fleet.refresh_known

/-- To set the default changes no last request. -/
lemma setDefault_lastRequest (fleet : Fleet) (mode : Mode) :
    (fleet.setDefault mode).2.lastRequest = fleet.lastRequest := by
  rw [setDefault]
  split
  · rfl
  · exact refresh_lastRequest _

/-- To follow an order changes no last request. -/
lemma follow_lastRequest (fleet : Fleet) (order : Order) :
    (fleet.follow order).lastRequest = fleet.lastRequest :=
  lastRequest_of_known (fleet.follow_known order)

/-- To follow an order or none changes no last request. -/
lemma elim_follow_lastRequest (fleet : Fleet) (order : Option Order) :
    (order.elim fleet fleet.follow).lastRequest = fleet.lastRequest := by
  cases order with
  | none => rfl
  | some order => exact fleet.follow_lastRequest order

/-- A request is the last one of its own device. -/
lemma request_lastRequest (fleet : Fleet) (asking : DeviceId) (name : Option String)
    (counter : UInt64) (address : Option String) (wall : Int) (id : DeviceId) :
    (fleet.request asking name counter address wall).2.lastRequest id =
      if id = asking then some wall else fleet.lastRequest id := by
  rw [lastRequest, request, getElem?_insert_eq]
  split <;> rfl

/-- A sweep drops the last requests that are as old as the threshold. -/
lemma sweepLost_lastRequest (fleet : Fleet) (wall : Int) {threshold : Nat}
    (positive : 0 < threshold) (id : DeviceId) :
    (fleet.sweepLost wall threshold).2.lastRequest id =
      (fleet.lastRequest id).filter fun asked => wall - threshold < asked := by
  rw [lastRequest, sweepLost_records fleet wall positive, lastRequest, Option.filter_map]
  rfl

end Fleet

namespace Watch

/-- What a sweep over the devices makes of a station, where `lost` are the devices that it names. -/
structure Swept (station : Station) (wall : Int) (lost : List LostDevice) (next : Station) :
    Prop where
  ordered : (lost.map (·.id.number)).Pairwise (· < ·)
  mem (device : LostDevice) : device ∈ lost ↔
    ∃ record, station.fleet.records[device.id]? = some record ∧ record.name = device.name ∧
      record.lastRequest ≤ wall - Duration.hours 24
  drops (device : LostDevice) : device ∈ lost → next.fleet.records[device.id]? = none
  spares (id : DeviceId) : (∀ device ∈ lost, device.id ≠ id) →
    next.fleet.records[id]? = station.fleet.records[id]?
  /-- Besides the records, only the post changes. -/
  rest : next =
    { station with fleet.records := next.fleet.records, post := next.post }
  tried : next.post.tried =
    station.post.tried ++ if lost = [] then [] else station.alerts (lostText lost)
  names : ∃ opening,
    lostText lost = opening ++ ", ".intercalate (lost.map LostDevice.display)

/-- It takes some time until a device is lost. -/
lemma lostThreshold_pos : 0 < lostThreshold := by
  decide

/-- The text about lost devices ends with their names, in order. -/
lemma lostText_names (lost : List LostDevice) :
    ∃ opening, lostText lost = opening ++ ", ".intercalate (lost.map LostDevice.display) := by
  rw [lostText]
  split
  · exact ⟨_, rfl⟩
  · exact ⟨_, rfl⟩

/-- A sweep of the station alerts once if any device is lost. -/
lemma sweepLost_tried (station : Station) (wall : Int) :
    (sweepLost station wall).2.post.tried = station.post.tried ++
      if (sweepLost station wall).1 = [] then []
      else station.alerts (lostText (sweepLost station wall).1) := by
  rw [sweepLost]
  dsimp only
  generalize (station.fleet.sweepLost wall lostThreshold).1 = lost
  cases lost with
  | nil => exact (List.append_nil _).symm
  | cons device lost => exact Station.alert_tried _ _

/-- A sweep of the station drops the last requests that are a day old. -/
lemma sweepLost_lastRequest (station : Station) (wall : Int) (id : DeviceId) :
    (sweepLost station wall).2.fleet.lastRequest id =
      (station.fleet.lastRequest id).filter fun asked => wall - Duration.hours 24 < asked := by
  rw [(sweepLost_answers station wall).fleet]
  exact station.fleet.sweepLost_lastRequest wall lostThreshold_pos id

/-- A sweep drops and reports exactly the lost devices, and does nothing else. -/
theorem sweepLost_swept (station : Station) (wall : Int) :
    Swept station wall (sweepLost station wall).1 (sweepLost station wall).2 := by
  have fleet : (sweepLost station wall).2.fleet =
      (station.fleet.sweepLost wall lostThreshold).2 := (sweepLost_answers station wall).fleet
  have mem (device : LostDevice) := station.fleet.mem_sweepLost wall lostThreshold_pos device
  have records (id : DeviceId) := station.fleet.sweepLost_records wall lostThreshold_pos id
  refine {
    ordered := station.fleet.sweepLost_ordered wall
    mem, drops := ?_, spares := ?_, rest := ?_
    tried := sweepLost_tried station wall
    names := lostText_names _ }
  · intro device lost
    obtain ⟨record, found, -, old⟩ := (mem device).1 lost
    have gone : ¬ wall - lostThreshold < record.lastRequest := Int.not_lt.2 old
    rw [fleet, records, found, Option.filter_some, if_neg (decide_eq_true_iff.not.2 gone)]
  · intro id others
    rw [fleet, records]
    cases found : station.fleet.records[id]? with
    | none => rfl
    | some record =>
      have recent : wall - lostThreshold < record.lastRequest := by
        refine Int.not_le.1 fun old => ?_
        exact others ⟨id, record.name⟩ ((mem _).2 ⟨record, found, rfl, old⟩) rfl
      rw [Option.filter_some, if_pos (decide_eq_true recent)]
  · rw [sweepLost]
    dsimp only
    split
    · rfl
    · rw [Station.alert]
      split <;> rfl

end Watch

end HeatingHub
