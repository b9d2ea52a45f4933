import HeatingHub.Proofs.Fleet
import HeatingHub.Proofs.Frame.Message

/-!
# Moves of a fleet

Whatever becomes of a fleet at once is a *move*: a device asks for its mode, lost devices are
dropped, or an *order* sets modes, either for all heaters or for the one of a name (`Moves`). So the
mode of a name is the one that the order sets for it, if there is an order and it is about the name
(`Moves.modeOf`). And as every order renews the records, no move leaves one behind that has another
mode than its name (`Moves.current`). An order changes no more of a record than its mode
(`follow_known`), and no counter (`follow_counters`).
-/

namespace HeatingHub

/-- What sets modes. -/
inductive Order
  | all (mode : Mode)
  | heater (name : String) (mode : Mode)
  deriving DecidableEq, Repr

/-- The mode that an order sets for a heater's name, or for heaters without one. -/
def Order.modeFor (order : Order) (who : Option String) : Option Mode :=
  match order with
  | .all mode => some mode
  | .heater name mode => if who = some name then some mode else none

namespace Fleet

/-- The fleet after an order. -/
def follow (fleet : Fleet) : Order → Fleet
  | .all mode => (fleet.setAll mode).2
  | .heater name mode => (fleet.setOverride name mode).2

/-- What becomes of a fleet at once, with the order that it follows. -/
inductive Moves (fleet : Fleet) : Option Order → Fleet → Prop
  | rests : Moves fleet none fleet
  | answers {name : Option String} (givable : Givable name) (id : DeviceId) (counter : UInt64)
      (address : Option String) (wall : Int) :
      Moves fleet none (fleet.request id name counter address wall).2
  | sweeps (wall : Int) (threshold : Nat) : Moves fleet none (fleet.sweepLost wall threshold).2
  | all (mode : Mode) : Moves fleet (some (.all mode)) (fleet.follow (.all mode))
  | heater {name : String} (named : isUpperName name.toList) (mode : Mode) :
      Moves fleet (some (.heater name mode)) (fleet.follow (.heater name mode))

/-! ## Modes -/

/-- The mode of a name is the one that an order sets for it, and the one before if none does. -/
theorem Moves.modeOf {fleet next : Fleet} {order : Option Order} (moves : fleet.Moves order next)
    (who : Option String) (asked : who.all (isUpperName ·.toList)) :
    next.modeOf who = (order.bind (·.modeFor who)).getD (fleet.modeOf who) := by
  cases moves with
  | rests => rfl
  | answers => exact modeOf_congr (fleet.request_modes ..) who
  | sweeps => exact modeOf_congr (fleet.sweepLost_modes ..) who
  | all mode => exact fleet.modeOf_setAll mode who
  | heater named mode =>
    rw [follow, fleet.modeOf_setOverride named mode who asked, Option.bind_some, Order.modeFor]
    split <;> rfl

/-! ## Records -/

/-- Every record has a name that its device can give, and the mode that this name has. -/
def Current (fleet : Fleet) : Prop :=
  ∀ (id : DeviceId) (record : Record), fleet.records[id]? = some record →
    Givable record.name ∧ record.mode = fleet.modeOfRecorded record.name

/-- A name that a device can give is looked up as it is. -/
lemma modeOf_of_givable (fleet : Fleet) {name : Option String} (givable : Givable name) :
    fleet.modeOf name = fleet.modeOfRecorded name := by
  cases name with
  | none => rfl
  | some text =>
    rw [Fleet.modeOf, modeOfRecorded, Text.upperString_of_isUpperName (givable text rfl).1]

/-- When the records are refreshed they are current, if their names can be given to devices. -/
lemma refresh_current {fleet : Fleet}
    (givable : ∀ (id : DeviceId) record, fleet.records[id]? = some record → Givable record.name) :
    fleet.refresh.Current := by
  intro id record found
  rw [refresh, Std.ExtTreeMap.getElem?_map, Option.map_eq_some_iff] at found
  obtain ⟨old, found, rfl⟩ := found
  exact ⟨givable id old found, rfl⟩

/-- A move leaves no record with another mode than that of its name. -/
theorem Moves.current {fleet next : Fleet} {order : Option Order} (moves : fleet.Moves order next)
    (current : fleet.Current) : next.Current := by
  have givable (id : DeviceId) (record : Record) (found : fleet.records[id]? = some record) :=
    (current id record found).1
  cases moves with
  | rests => exact current
  | answers given id counter address wall =>
    intro other record found
    rw [request, getElem?_insert_eq] at found
    split at found
    · cases found
      exact ⟨given, fleet.modeOf_of_givable given⟩
    · exact current other record found
  | sweeps wall threshold =>
    intro id record found
    rw [sweepLost, Std.ExtTreeMap.getElem?_filter, Option.pfilter_eq_some_iff] at found
    obtain ⟨kept, -⟩ := found
    exact current id record kept
  | all mode => exact refresh_current givable
  | heater named mode =>
    rw [follow, setOverride]
    split
    · exact current
    · exact refresh_current givable

/-! ## What orders leave alone -/

/-- What is known of a device by its own requests: its name, its address and the time of the last
one. -/
def known (fleet : Fleet) (id : DeviceId) : Option (Option String × Option String × Int) :=
  fleet.records[id]?.map fun record => (record.name, record.address, record.lastRequest)

/-- To refresh the records changes nothing about what is known of the devices. -/
lemma refresh_known (fleet : Fleet) : fleet.refresh.known = fleet.known := by
  funext id
  rw [known, refresh, Std.ExtTreeMap.getElem?_map, Option.map_map]
  rfl

/-- An order changes modes in the records, and nothing else in them. -/
lemma follow_known (fleet : Fleet) (order : Order) : (fleet.follow order).known = fleet.known := by
  cases order with
  | all mode => exact refresh_known _
  | heater name mode =>
    rw [follow, setOverride]
    split
    · rfl
    · exact refresh_known _

/-- To follow an order changes no counter. -/
lemma follow_counters (fleet : Fleet) (order : Order) :
    (fleet.follow order).counters = fleet.counters := by
  cases order with
  | all mode => rfl
  | heater name mode =>
    rw [follow, setOverride]
    split <;> rfl

end Fleet

end HeatingHub
