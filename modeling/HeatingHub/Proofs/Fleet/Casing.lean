import HeatingHub.Proofs.Fleet.Move
import Mathlib.Data.List.Induction

/-!
# Names in any case of their letters

Two runs of *operations* on a fleet that differ only in the case of the letters of names give the
same answers and lead to the same settings and counters. Both are alike to the run with the names in
upper case (`Alike.perform`). The records are the same up to the case of their names, but for one
thing: they keep names as these were given, and look them up as they are whenever the modes are
renewed. So the mode in a record is the one that its name has until the next renewal, and from then
on the default mode unless the name was given in upper case (`perform_mode`, `mode_of_renewed`).
Until then, or if both names are in upper case or neither is, two runs agree in the modes of
records, and otherwise only if the name has the default mode (`runs_alike_in_any_case`).
-/

namespace HeatingHub

/-! ## Names in upper case -/

/-- A name in upper case, if there is one. -/
def upperName (name : Option String) : Option String :=
  name.map Text.upperString

/-- What a record keeps beside the mode, with the name in upper case. -/
def Record.outline (record : Record) : Option String × Option String × Int :=
  (upperName record.name, record.address, record.lastRequest)

namespace Fleet

/-- What can be done to a fleet or asked of it. -/
inductive Operation
  | setDefault (mode : Mode)
  | setOverride (name : String) (mode : Mode)
  | setAll (mode : Mode)
  | request (id : DeviceId) (name : Option String) (counter : UInt64) (address : Option String)
      (wall : Int)
  | observe (id : DeviceId) (counter : UInt64)
  | sweepLost (wall : Int) (threshold : Nat)
  | modeOf (name : Option String)
  deriving DecidableEq

/-- What an operation answers. -/
inductive Answer
  | changed (changed : Bool)
  | outcome (outcome : Outcome)
  | check (check : CounterCheck)
  | lost (devices : List LostDevice)
  | mode (mode : Mode)
  deriving DecidableEq

/-- The same operation with its name in upper case. -/
def Operation.folded : Operation → Operation
  | .setOverride name mode => .setOverride (Text.upperString name) mode
  | .request id name counter address wall => .request id (upperName name) counter address wall
  | .modeOf name => .modeOf (upperName name)
  | .setDefault mode => .setDefault mode
  | .setAll mode => .setAll mode
  | .observe id counter => .observe id counter
  | .sweepLost wall threshold => .sweepLost wall threshold

/-- The same answer with the names of lost devices in upper case. -/
def Answer.folded : Answer → Answer
  | .lost devices => .lost (devices.map fun device => { device with name := upperName device.name })
  | answer => answer

/-- The answer to an operation, and the fleet after it. -/
def operate (fleet : Fleet) : Operation → Answer × Fleet
  | .setDefault mode => (.changed (fleet.setDefault mode).1, (fleet.setDefault mode).2)
  | .setOverride name mode =>
    (.changed (fleet.setOverride name mode).1, (fleet.setOverride name mode).2)
  | .setAll mode => (.changed (fleet.setAll mode).1, (fleet.setAll mode).2)
  | .request id name counter address wall =>
    (.outcome (fleet.request id name counter address wall).1,
      (fleet.request id name counter address wall).2)
  | .observe id counter => (.check (fleet.observe id counter).1, (fleet.observe id counter).2)
  | .sweepLost wall threshold =>
    (.lost (fleet.sweepLost wall threshold).1, (fleet.sweepLost wall threshold).2)
  | .modeOf name => (.mode (fleet.modeOf name), fleet)

/-- The fleet after operations one after the other. -/
def perform (fleet : Fleet) (operations : List Operation) : Fleet :=
  operations.foldl (fun fleet operation => (fleet.operate operation).2) fleet

/-- The answers to operations one after the other. -/
def answers (fleet : Fleet) : List Operation → List Answer
  | [] => []
  | operation :: rest => (fleet.operate operation).1 :: (fleet.operate operation).2.answers rest

/-! ## Runs that are alike -/

/-- The settings and the counters are the same, and the records but for their modes and the case of
their names. -/
structure Alike (fleet other : Fleet) : Prop where
  modes : fleet.modes = other.modes
  counters : fleet.counters = other.counters
  records : fleet.records.map (fun _ => Record.outline) = other.records.map fun _ => Record.outline

/-- The case of a name that may be missing does not matter to its mode. -/
lemma modeOf_upperName (fleet : Fleet) (name : Option String) :
    fleet.modeOf (upperName name) = fleet.modeOf name := by
  cases name with
  | none => rfl
  | some name => exact fleet.modeOf_upperString name

/-- Upper case twice is upper case once. -/
lemma upperName_upperName (name : Option String) : upperName (upperName name) = upperName name := by
  cases name with
  | none => rfl
  | some name => exact congrArg some (Text.upperString_upperString name)

/-- The outline of a record is what is known of its device, with the name in upper case. -/
lemma getElem?_outline (fleet : Fleet) (id : DeviceId) :
    (fleet.records.map fun _ => Record.outline)[id]? =
      (fleet.known id).map fun known => (upperName known.1, known.2) := by
  rw [Std.ExtTreeMap.getElem?_map, known, Option.map_map]
  rfl

/-- To refresh the records keeps their outlines. -/
lemma refresh_outline (fleet : Fleet) :
    fleet.refresh.records.map (fun _ => Record.outline) =
      fleet.records.map fun _ => Record.outline := by
  apply Std.ExtTreeMap.ext_getElem?
  intro id
  rw [getElem?_outline, getElem?_outline, refresh_known]

/-- Fleets that are alike stay so when both are refreshed. -/
lemma Alike.refresh {fleet other : Fleet} (alike : Alike fleet other) :
    Alike fleet.refresh other.refresh where
  modes := alike.modes
  counters := alike.counters
  records := by rw [refresh_outline, refresh_outline, alike.records]

/-- What is inserted into the records shows by its outline. -/
lemma map_insert_outline (records : Std.ExtTreeMap DeviceId Record) (id : DeviceId)
    (record : Record) :
    (records.insert id record).map (fun _ => Record.outline) =
      (records.map fun _ => Record.outline).insert id record.outline := by
  apply Std.ExtTreeMap.ext_getElem?
  intro other
  rw [Std.ExtTreeMap.getElem?_map, getElem?_insert_eq, getElem?_insert_eq,
    Std.ExtTreeMap.getElem?_map]
  split <;> rfl

/-- The records that a sweep keeps are told by their times. -/
lemma sweepLost_outline (fleet : Fleet) (wall : Int) (threshold : Nat) :
    (fleet.sweepLost wall threshold).2.records.map (fun _ => Record.outline) =
      (fleet.records.map fun _ => Record.outline).filter fun _ outline =>
        !(threshold ≤ (wall - outline.2.2).toNat : Bool) := by
  apply Std.ExtTreeMap.ext_getElem?
  intro id
  rw [sweepLost, Std.ExtTreeMap.getElem?_map, Std.ExtTreeMap.getElem?_filter',
    Std.ExtTreeMap.getElem?_filter', Std.ExtTreeMap.getElem?_map, Option.filter_map]
  rfl

/-- The lost devices are told by the times of the records, too. -/
lemma sweepLost_folded (fleet : Fleet) (wall : Int) (threshold : Nat) :
    (Answer.lost (fleet.sweepLost wall threshold).1).folded =
      .lost ((((fleet.records.map fun _ => Record.outline).toList.filter fun entry =>
        threshold ≤ (wall - entry.2.2.2).toNat)).map fun entry =>
          { id := entry.1, name := entry.2.1 }) := by
  rw [sweepLost, Answer.folded, Std.ExtTreeMap.toList_map, List.filter_map, List.map_map,
    List.map_map]
  rfl

namespace Alike

variable {fleet other : Fleet}

/-- A fleet is alike to itself. -/
lemma refl (fleet : Fleet) : Alike fleet fleet :=
  ⟨rfl, rfl, rfl⟩

/-- To be alike goes both ways. -/
lemma symm (alike : Alike fleet other) : Alike other fleet :=
  ⟨alike.modes.symm, alike.counters.symm, alike.records.symm⟩

/-- Two fleets that are alike to a third are alike. -/
lemma trans {last : Fleet} (alike : Alike fleet other) (next : Alike other last) :
    Alike fleet last :=
  ⟨alike.modes.trans next.modes, alike.counters.trans next.counters,
    alike.records.trans next.records⟩

/-- Records of one device have one name in upper case. -/
lemma names (alike : Alike fleet other) {device : DeviceId} {record record' : Record}
    (found : fleet.records[device]? = some record)
    (found' : other.records[device]? = some record') :
    upperName record.name = upperName record'.name := by
  have outlines := congrArg (·[device]?) alike.records
  rw [Std.ExtTreeMap.getElem?_map, Std.ExtTreeMap.getElem?_map, found, found'] at outlines
  exact (Prod.mk.inj (Option.some.inj outlines)).1

/-- Fleets that are alike have the same default. -/
lemma default (alike : Alike fleet other) : fleet.defaultMode = other.defaultMode :=
  (Prod.mk.inj alike.modes).1

/-- Fleets that are alike have the same overrides. -/
lemma overrides (alike : Alike fleet other) : fleet.overrides = other.overrides :=
  (Prod.mk.inj alike.modes).2

/-- Fleets that are alike give a name, in its own case and in upper case, the same mode. -/
lemma modeOf (alike : Alike fleet other) (name : Option String) :
    fleet.modeOf name = other.modeOf (upperName name) := by
  rw [modeOf_upperName, modeOf_congr alike.modes]

/-- A default is set alike in fleets that are alike. -/
lemma setDefault (alike : Alike fleet other) (mode : Mode) :
    (fleet.setDefault mode).1 = (other.setDefault mode).1 ∧
      Alike (fleet.setDefault mode).2 (other.setDefault mode).2 := by
  rw [Fleet.setDefault, Fleet.setDefault, ← alike.default]
  split
  · exact ⟨rfl, alike⟩
  · refine ⟨rfl, refresh ?_⟩
    exact { alike with modes := congrArg (mode, ·) alike.overrides }

/-- An override is set alike under a name and the name in upper case. -/
lemma setOverride (alike : Alike fleet other) (name : String) (mode : Mode) :
    (fleet.setOverride name mode).1 = (other.setOverride (Text.upperString name) mode).1 ∧
      Alike (fleet.setOverride name mode).2
        (other.setOverride (Text.upperString name) mode).2 := by
  rw [Fleet.setOverride, Fleet.setOverride, ← alike.overrides, Text.upperString_upperString]
  split
  · exact ⟨rfl, alike⟩
  · refine ⟨rfl, refresh ?_⟩
    exact { alike with modes := congrArg (·, _) alike.default }

/-- A mass command is followed alike in fleets that are alike. -/
lemma setAll (alike : Alike fleet other) (mode : Mode) :
    (fleet.setAll mode).1 = (other.setAll mode).1 ∧
      Alike (fleet.setAll mode).2 (other.setAll mode).2 := by
  rw [Fleet.setAll, Fleet.setAll, ← alike.overrides, ← alike.default]
  exact ⟨rfl, refresh { alike with modes := rfl }⟩

/-- A counter is observed alike in fleets that are alike. -/
lemma observe (alike : Alike fleet other) (id : DeviceId) (counter : UInt64) :
    (fleet.observe id counter).1 = (other.observe id counter).1 ∧
      Alike (fleet.observe id counter).2 (other.observe id counter).2 := by
  rw [Fleet.observe, Fleet.observe, ← alike.counters]
  exact ⟨rfl, { alike with counters := rfl }⟩

/-- A request is served alike under a name and the name in upper case. -/
lemma request (alike : Alike fleet other) (id : DeviceId) (name : Option String)
    (counter : UInt64) (address : Option String) (wall : Int) :
    (fleet.request id name counter address wall).1 =
        (other.request id (upperName name) counter address wall).1 ∧
      Alike (fleet.request id name counter address wall).2
        (other.request id (upperName name) counter address wall).2 := by
  obtain ⟨check, observed⟩ := alike.observe id counter
  have mode := observed.modeOf name
  rw [Fleet.request, Fleet.request]
  dsimp only
  rw [check, mode]
  refine ⟨rfl, { observed with records := ?_ }⟩
  rw [map_insert_outline, map_insert_outline, observed.records, Record.outline, Record.outline,
    upperName_upperName]

/-- The lost devices of fleets that are alike are the same, but for the case of their names. -/
lemma sweepLost (alike : Alike fleet other) (wall : Int) (threshold : Nat) :
    (Answer.lost (fleet.sweepLost wall threshold).1).folded =
        (Answer.lost (other.sweepLost wall threshold).1).folded ∧
      Alike (fleet.sweepLost wall threshold).2 (other.sweepLost wall threshold).2 := by
  rw [sweepLost_folded, sweepLost_folded, alike.records]
  refine ⟨rfl, { modes := alike.modes, counters := alike.counters, records := ?_ }⟩
  rw [sweepLost_outline, sweepLost_outline, alike.records]

/-- An operation and the same one with its name in upper case have the same answer but for the case
of names, and fleets that are alike stay so. -/
lemma operate (alike : Alike fleet other) (operation : Operation) :
    (fleet.operate operation).1.folded = (other.operate operation.folded).1.folded ∧
      Alike (fleet.operate operation).2 (other.operate operation.folded).2 := by
  cases operation with
  | setDefault mode =>
    exact (alike.setDefault mode).imp_left (congrArg Answer.changed)
  | setOverride name mode =>
    exact (alike.setOverride name mode).imp_left (congrArg Answer.changed)
  | setAll mode => exact (alike.setAll mode).imp_left (congrArg Answer.changed)
  | request id name counter address wall =>
    exact (alike.request id name counter address wall).imp_left (congrArg Answer.outcome)
  | observe id counter => exact (alike.observe id counter).imp_left (congrArg Answer.check)
  | sweepLost wall threshold => exact alike.sweepLost wall threshold
  | modeOf name => exact ⟨congrArg Answer.mode (alike.modeOf name), alike⟩

/-- A run is alike to the run with all names in upper case. -/
lemma perform (alike : Alike fleet other) (operations : List Operation) :
    (fleet.answers operations).map Answer.folded =
        (other.answers (operations.map Operation.folded)).map Answer.folded ∧
      Alike (fleet.perform operations) (other.perform (operations.map Operation.folded)) := by
  induction operations generalizing fleet other with
  | nil => exact ⟨rfl, alike⟩
  | cons operation rest ih =>
    obtain ⟨answer, next⟩ := alike.operate operation
    obtain ⟨answers, last⟩ := ih next
    exact ⟨List.cons_eq_cons.2 ⟨answer, answers⟩, last⟩

end Alike

/-! ## Renewals -/

/-- An operation renews the modes of all records, as every change to the modes does, and a mass
command even if it changes nothing. -/
def renews (fleet : Fleet) : Operation → Prop
  | .setDefault mode => fleet.defaultMode ≠ mode
  | .setOverride name mode => fleet.overrides[Text.upperString name]? ≠ some mode
  | .setAll _ => True
  | .request .. | .observe .. | .sweepLost .. | .modeOf _ => False

/-- An operation is a request of a device. -/
def Operation.asks (device : DeviceId) : Operation → Prop
  | .request id .. => id = device
  | _ => False

/-- The modes of all records were renewed after the last request of a device. -/
def Renewed (fleet : Fleet) (operations : List Operation) (device : DeviceId) : Prop :=
  ∃ before renewal after, operations = before ++ renewal :: after ∧
    (fleet.perform before).renews renewal ∧ ∀ operation ∈ after, ¬ operation.asks device

/-- Without operations nothing is renewed. -/
lemma not_renewed_nil (fleet : Fleet) (device : DeviceId) : ¬ fleet.Renewed [] device := by
  rintro ⟨before, renewal, after, split, -⟩
  exact absurd split.symm (List.append_ne_nil_of_right_ne_nil _ (List.cons_ne_nil _ _))

/-- Records are renewed by the last operation, or by earlier ones if the device has not asked
since. -/
lemma renewed_concat (fleet : Fleet) (operations : List Operation) (operation : Operation)
    (device : DeviceId) :
    fleet.Renewed (operations ++ [operation]) device ↔
      (fleet.perform operations).renews operation ∨
        fleet.Renewed operations device ∧ ¬ operation.asks device := by
  constructor
  · rintro ⟨before, renewal, after, split, renews, silent⟩
    cases after using List.reverseRecOn with
    | nil =>
      obtain ⟨rfl, last⟩ := List.append_inj' split rfl
      cases last
      exact .inl renews
    | append_singleton after last =>
      rw [← List.cons_append, ← List.append_assoc] at split
      obtain ⟨rfl, same⟩ := List.append_inj' split rfl
      cases same
      refine .inr ⟨⟨before, renewal, after, rfl, renews, fun other mem => ?_⟩, ?_⟩
      · exact silent other (List.mem_append_left _ mem)
      · exact silent _ (List.mem_append_right _ (List.mem_singleton_self _))
  · rintro (renews | ⟨⟨before, renewal, after, rfl, renews, silent⟩, quiet⟩)
    · exact ⟨operations, operation, [], rfl, renews, fun _ mem => absurd mem List.not_mem_nil⟩
    · refine ⟨before, renewal, after ++ [operation], by simp, renews, fun other mem => ?_⟩
      rcases List.mem_append.1 mem with mem | mem
      · exact silent other mem
      · exact List.mem_singleton.1 mem ▸ quiet

/-- A run ends with its last operation. -/
lemma perform_concat (fleet : Fleet) (operations : List Operation) (operation : Operation) :
    fleet.perform (operations ++ [operation]) =
      ((fleet.perform operations).operate operation).2 := by
  rw [perform, List.foldl_append]
  rfl

/-- Runs that are alike renew the modes at the same times. -/
lemma Alike.renewed {fleet other : Fleet} (alike : Alike fleet other) (operations : List Operation)
    (device : DeviceId) :
    fleet.Renewed operations device ↔
      other.Renewed (operations.map Operation.folded) device := by
  induction operations using List.reverseRecOn with
  | nil => exact iff_of_false (fleet.not_renewed_nil device) (other.not_renewed_nil device)
  | append_singleton operations operation ih =>
    have alike := (alike.perform operations).2
    have renews : (fleet.perform operations).renews operation ↔
        (other.perform (operations.map Operation.folded)).renews operation.folded := by
      cases operation with
      | setDefault mode => rw [Operation.folded, Fleet.renews, Fleet.renews, alike.default]
      | setOverride name mode =>
        rw [Operation.folded, Fleet.renews, Fleet.renews, alike.overrides,
          Text.upperString_upperString]
      | _ => rfl
    have asks : operation.folded.asks device ↔ operation.asks device := by
      cases operation <;> rfl
    rw [renewed_concat, ih, renews, List.map_append, List.map_singleton, renewed_concat, asks]

/-! ## Modes of records -/

/-- A record that is there after an operation was renewed, or has been made, or was there before. -/
inductive Recorded (fleet : Fleet) (operation : Operation) (device : DeviceId)
    (record : Record) : Prop
  | renewed (renews : fleet.renews operation)
      (mode : record.mode = (fleet.operate operation).2.modeOfRecorded record.name)
  | made (settled : ¬ fleet.renews operation) (asks : operation.asks device)
      (mode : record.mode = (fleet.operate operation).2.modeOf record.name)
  | kept (settled : ¬ fleet.renews operation) (silent : ¬ operation.asks device)
      (modes : (fleet.operate operation).2.modes = fleet.modes)
      (found : fleet.records[device]? = some record)

section

variable {fleet : Fleet} {operation : Operation} {device : DeviceId} {record : Record}

/-- An operation that leaves the fleet as it is keeps every record. -/
lemma recorded_of_stays (settled : ¬ fleet.renews operation) (silent : ¬ operation.asks device)
    (stays : (fleet.operate operation).2 = fleet)
    (found : (fleet.operate operation).2.records[device]? = some record) :
    fleet.Recorded operation device record := by
  refine .kept settled silent (congrArg modes stays) ?_
  rwa [stays] at found

/-- An operation that refreshes the fleet renews every record. -/
lemma recorded_of_refresh {before : Fleet} (renews : fleet.renews operation)
    (refreshes : (fleet.operate operation).2 = before.refresh)
    (found : (fleet.operate operation).2.records[device]? = some record) :
    fleet.Recorded operation device record := by
  refine .renewed renews ?_
  rw [refreshes] at found ⊢
  rw [refresh, Std.ExtTreeMap.getElem?_map, Option.map_eq_some_iff] at found
  obtain ⟨old, -, rfl⟩ := found
  rfl

/-- The modes of records come about in three ways: by a renewal, by a request, or before. -/
lemma operate_recorded (found : (fleet.operate operation).2.records[device]? = some record) :
    fleet.Recorded operation device record := by
  cases operation with
  | setDefault mode =>
    -- Only a default that is another one refreshes the records.
    by_cases same : fleet.defaultMode = mode
    · refine recorded_of_stays (not_not.2 same) not_false ?_ found
      rw [operate, setDefault, if_pos same]
    · have refreshes : (fleet.operate (.setDefault mode)).2 =
          ({ fleet with defaultMode := mode } : Fleet).refresh := by
        rw [operate, setDefault, if_neg same]
      exact recorded_of_refresh same refreshes found
  | setOverride name mode =>
    by_cases same : fleet.overrides[Text.upperString name]? = some mode
    · refine recorded_of_stays (not_not.2 same) not_false ?_ found
      rw [operate, setOverride, if_pos same]
    · let overrides := fleet.overrides.insert (Text.upperString name) mode
      have refreshes : (fleet.operate (.setOverride name mode)).2 =
          ({ fleet with overrides } : Fleet).refresh := by
        rw [operate, setOverride, if_neg same]
      exact recorded_of_refresh same refreshes found
  | setAll mode => exact recorded_of_refresh trivial rfl found
  | request id name counter address wall =>
    rw [operate, request] at found
    dsimp only at found
    rw [getElem?_insert_eq] at found
    split at found
    · next same =>
      cases found
      exact .made not_false same.symm rfl
    · next other => exact .kept not_false (Ne.symm other) rfl found
  | observe id counter => exact .kept not_false not_false rfl found
  | sweepLost wall threshold =>
    rw [operate, sweepLost, Std.ExtTreeMap.getElem?_filter', Option.filter_eq_some_iff] at found
    exact .kept not_false not_false rfl found.1
  | modeOf name => exact .kept not_false not_false rfl found

end

/-- A fleet that knows no device and has a default mode only. -/
def fresh (mode : Mode) : Fleet where
  defaultMode := mode

/-- The mode in a record is the one that its name has, and once the modes were renewed it is the one
that is set for the name exactly as it was given. -/
lemma perform_mode (mode : Mode) (operations : List Operation) {device : DeviceId}
    {record : Record}
    (found : ((fresh mode).perform operations).records[device]? = some record) :
    ((fresh mode).Renewed operations device →
      record.mode = ((fresh mode).perform operations).modeOfRecorded record.name) ∧
    (¬ (fresh mode).Renewed operations device →
      record.mode = ((fresh mode).perform operations).modeOf record.name) := by
  -- By induction on the last operation, since it decides whether the modes count as renewed.
  induction operations using List.reverseRecOn generalizing record with
  | nil =>
    rw [perform, List.foldl_nil, fresh, Std.ExtTreeMap.getElem?_empty] at found
    cases found
  | append_singleton operations operation ih =>
    rw [perform_concat] at found ⊢
    rw [renewed_concat]
    cases operate_recorded found with
    | renewed renews mode => exact ⟨fun _ => mode, fun settled => absurd (.inl renews) settled⟩
    | made settled asks mode =>
      exact ⟨fun renewed => renewed.elim (absurd · settled) fun both => absurd asks both.2,
        fun _ => mode⟩
    | kept settled silent modes found =>
      obtain ⟨renewed, fixed⟩ := ih found
      rw [modeOfRecorded_congr modes, modeOf_congr modes, or_iff_right settled,
        and_iff_left silent]
      exact ⟨renewed, fixed⟩

/-- Names have modes of their own in upper case only. -/
lemma perform_overrides (mode : Mode) (operations : List Operation) {name : String}
    (mem : name ∈ ((fresh mode).perform operations).overrides) :
    Text.upperString name = name := by
  induction operations using List.reverseRecOn with
  | nil => exact absurd mem Std.ExtTreeMap.not_mem_empty
  | append_singleton operations operation ih =>
    rw [perform_concat] at mem
    cases operation with
    | setDefault mode =>
      rw [operate, setDefault] at mem
      split at mem <;> exact ih mem
    | setOverride other mode =>
      rw [operate, setOverride_overrides, Std.ExtTreeMap.mem_insert,
        Std.LawfulEqCmp.compare_eq_iff_eq] at mem
      rcases mem with rfl | mem
      · exact Text.upperString_upperString other
      · exact ih mem
    | setAll mode => exact ih (Std.ExtTreeMap.mem_map.1 mem)
    | _ => exact ih mem

/-- A name that was not given in upper case has no mode of its own as it is. -/
lemma modeOfRecorded_eq {fleet : Fleet}
    (upper : ∀ name, name ∈ fleet.overrides → Text.upperString name = name)
    (name : Option String) :
    fleet.modeOfRecorded name =
      if upperName name = name then fleet.modeOf name else fleet.defaultMode := by
  cases name with
  | none => rfl
  | some name =>
    by_cases folded : upperName (some name) = some name
    · rw [if_pos folded, modeOfRecorded, Fleet.modeOf, Option.some.inj folded]
    · have missing : fleet.overrides[name]? = none :=
        Std.ExtTreeMap.getElem?_eq_none fun mem => folded (congrArg some (upper name mem))
      rw [if_neg folded, modeOfRecorded, missing, Option.getD_none]

/-- Once the modes were renewed, a name that was not given in upper case counts for nothing. -/
lemma mode_of_renewed {mode : Mode} {operations : List Operation} {device : DeviceId}
    {record : Record} (renewed : (fresh mode).Renewed operations device)
    (found : ((fresh mode).perform operations).records[device]? = some record) :
    record.mode =
      if upperName record.name = record.name then
        ((fresh mode).perform operations).modeOf record.name
      else ((fresh mode).perform operations).defaultMode := by
  rw [(perform_mode mode operations found).1 renewed]
  exact modeOfRecorded_eq (fun _ => perform_overrides mode operations) _

/-- Two runs of operations that differ only in the case of the letters of names give the same
answers at every step, but for the case of the names of lost devices, and lead to the same settings
and counters and to records of the same devices, the same but for the case of names. A mode in these
records differs exactly if the modes were renewed after the last request of the device, only one of
its two names was given in upper case, and the name has another mode than the default one. -/
theorem runs_alike_in_any_case (mode : Mode) (operations others : List Operation)
    (same : operations.map Operation.folded = others.map Operation.folded) :
    let start := fresh mode
    let fleet := start.perform operations
    let other := start.perform others
    (start.answers operations).map Answer.folded = (start.answers others).map Answer.folded ∧
    Alike fleet other ∧
    ∀ device record record', fleet.records[device]? = some record →
      other.records[device]? = some record' →
        (record.mode ≠ record'.mode ↔
          start.Renewed operations device ∧
            ¬ (upperName record.name = record.name ↔ upperName record'.name = record'.name) ∧
            fleet.modeOf record.name ≠ fleet.defaultMode) := by
  intro start fleet other
  -- Both runs are compared with the one in which all names are in upper case.
  obtain ⟨answers, alike⟩ := (Alike.refl start).perform operations
  obtain ⟨answers', alike'⟩ := (Alike.refl start).perform others
  have renewed (device : DeviceId) :
      start.Renewed operations device ↔ start.Renewed others device := by
    rw [(Alike.refl start).renewed, same, ← (Alike.refl start).renewed]
  rw [← same] at answers' alike'
  have both : Alike fleet other := alike.trans alike'.symm
  refine ⟨answers.trans answers'.symm, both, fun device record record' found found' => ?_⟩
  have names : upperName record.name = upperName record'.name := both.names found found'
  have own : other.modeOf record'.name = fleet.modeOf record.name := by
    rw [both.modeOf, names, modeOf_upperName]
  by_cases past : start.Renewed operations device
  · have first : record.mode =
        if upperName record.name = record.name then fleet.modeOf record.name
        else fleet.defaultMode := mode_of_renewed past found
    have second : record'.mode =
        if upperName record'.name = record'.name then other.modeOf record'.name
        else other.defaultMode := mode_of_renewed ((renewed device).1 past) found'
    rw [first, second, own, ← both.default, and_iff_right past]
    by_cases given : upperName record.name = record.name <;>
      by_cases given' : upperName record'.name = record'.name <;>
      simp [given, given', eq_comm]
  · have first := (perform_mode mode operations found).2 past
    have second := (perform_mode mode others found').2 (mt (renewed device).2 past)
    exact iff_of_false (not_not.2 (first.trans (own.symm.trans second.symm)))
      fun differs => past differs.1

/-- A device asks with its name in small letters or in capital ones before the name gets a mode. -/
theorem runs_alike_in_any_case_of_boiler :
    let device := DeviceId.ofNat 1
    let run (name : String) : List Operation :=
      [.request device (some name) 1 none 0, .setOverride name .off, .sweepLost 86400000 86400000]
    let asked (name : String) := (run name).take 2
    (run "boiler").map Operation.folded = (run "BOILER").map Operation.folded ∧
      ((fresh .eco).answers (run "boiler")).map Answer.folded =
        ((fresh .eco).answers (run "BOILER")).map Answer.folded ∧
      ((fresh .eco).perform (asked "boiler")).records[device]? =
        some { name := some "boiler", address := none, mode := .eco, lastRequest := 0 } ∧
      ((fresh .eco).perform (asked "BOILER")).records[device]? =
        some { name := some "BOILER", address := none, mode := .off, lastRequest := 0 } ∧
      (fresh .eco).Renewed (asked "boiler") device := by
  intro device run asked
  have same : (run "boiler").map Operation.folded = (run "BOILER").map Operation.folded := by
    decide +kernel
  have small : ((fresh .eco).perform (asked "boiler")).records[device]? =
      some { name := some "boiler", address := none, mode := .eco, lastRequest := 0 } := by
    decide +kernel
  have large : ((fresh .eco).perform (asked "BOILER")).records[device]? =
      some { name := some "BOILER", address := none, mode := .off, lastRequest := 0 } := by
    decide +kernel
  obtain ⟨answers, -⟩ := runs_alike_in_any_case .eco (run "boiler") (run "BOILER") same
  obtain ⟨-, -, modes⟩ := runs_alike_in_any_case .eco (asked "boiler") (asked "BOILER")
    (by decide +kernel)
  exact ⟨same, answers, small, large, ((modes device _ _ small large).1 (by decide)).1⟩

/-- The mode of a heater is set for its name in any case, and the record of a device that gave the
name in small letters is left behind. -/
theorem small_letters_left_behind :
    let device := DeviceId.ofNat 1
    let run (name : String) : List Operation :=
      [.request device (some name) 1 none 1700000000000, .setOverride "boiler" .off]
    (run "boiler").map Operation.folded = (run "BOILER").map Operation.folded ∧
      ((fresh .defrost).perform (run "boiler")).records[device]?.map Record.mode = some .defrost ∧
      ((fresh .defrost).perform (run "BOILER")).records[device]?.map Record.mode = some .off := by
  decide +kernel

end Fleet

end HeatingHub
