import HeatingHub.Proofs.Hub.Escalation
import HeatingHub.Proofs.Hub.Order
import HeatingHub.Proofs.Watch.Loss

/-!
# The report of lost devices

A hub awaits a device from its request on until a sweep drops its record, which happens when the
request is 24 hours old. Nothing but requests and sweeps has a part in this (`step_lastRequest`), so
that the devices that a hub has a record of are told by the history of these alone
(`steps_lastRequest`). Therefore a device that was reported is not reported again before it has
asked again (`lost_reported_once`).
-/

namespace HeatingHub

/-- A change of the settings, whether or not a message orders it. -/
inductive Change
  | setsDefault (mode : Mode)
  | setsOverride (name : String) (mode : Mode)
  | setsAll (mode : Mode)
  | replacesOverrides (overrides : Overrides)
  | addsPhone (number : String)
  | removesPhone (number : String)
  | setsEmergency (number : String)
  | clearsEmergency
  | setsLocked (locked : Bool)

/-- The station after a change of its settings. -/
def Station.change (station : Station) : Change → Station
  | .setsDefault mode => station.setDefault mode
  | .setsOverride name mode => station.setOverride name mode
  | .setsAll mode => station.setAll mode
  | .replacesOverrides overrides =>
    { station with fleet := station.fleet.replaceOverrides overrides }
  | .addsPhone number => (station.addPhone number).2
  | .removesPhone number => (station.removePhone number).2
  | .setsEmergency number => (station.setEmergency number).2
  | .clearsEmergency => station.clearEmergency.2
  | .setsLocked locked => station.setLocked locked

/-- What is done to a hub: any call, a request that comes by no frame, or a change of the settings
that comes by no message. -/
inductive Step
  | call (call : Call)
  | asks (id : DeviceId) (name : Option String) (counter : UInt64) (address : Option String)
      (wall : Int)
  | changes (change : Change)

/-- What matters for the records of devices: a device asks, or a sweep is made. -/
inductive Visit
  | asks (id : DeviceId) (wall : Int)
  | sweeps (wall : Int)
  deriving DecidableEq

namespace Visit

/-- The time of a device's last request after a visit. -/
def leaves (id : DeviceId) (last : Option Int) : Visit → Option Int
  | .asks other wall => if id = other then some wall else last
  | .sweeps wall => last.filter fun asked => wall - Duration.hours 24 < asked

/-- A visit leaves the record alone of a device that asked at this time. -/
def Spares (id : DeviceId) (asked : Int) : Visit → Prop
  | .asks other _ => id ≠ other
  | .sweeps wall => wall - Duration.hours 24 < asked

/-- A visit leaves a request as the last one if it is this request, or spares it. -/
lemma leaves_eq_some_iff {id : DeviceId} {last : Option Int} {asked : Int} {visit : Visit} :
    visit.leaves id last = some asked ↔
      visit = .asks id asked ∨ visit.Spares id asked ∧ last = some asked := by
  cases visit with
  | asks other wall =>
    rw [leaves, Spares]
    by_cases same : id = other
    · simp [same]
    · simp [same, Ne.symm same]
  | sweeps wall =>
    rw [leaves, Spares, Option.filter_eq_some_iff, decide_eq_true_iff, and_comm]
    exact (or_iff_right nofun).symm

end Visit

/-- The last request of a device was at this time, and no visit has dropped its record since. -/
def Awaited (id : DeviceId) (asked : Int) (visits : List Visit) : Prop :=
  ∃ earlier later, visits = earlier ++ .asks id asked :: later ∧
    ∀ visit ∈ later, visit.Spares id asked

/-- Without visits no device is awaited. -/
lemma not_awaited_nil (id : DeviceId) (asked : Int) : ¬ Awaited id asked [] := by
  rintro ⟨earlier, later, same, -⟩
  cases earlier <;> cases same

/-- A device is awaited after the last visit if that is its request, or spares an earlier one. -/
lemma awaited_concat {id : DeviceId} {asked : Int} {visits : List Visit} {visit : Visit} :
    Awaited id asked (visits ++ [visit]) ↔
      visit = .asks id asked ∨ visit.Spares id asked ∧ Awaited id asked visits := by
  constructor
  · rintro ⟨earlier, later, same, spared⟩
    -- The request is the last visit, or else the last one comes after it and has spared it.
    obtain rfl | ⟨later, last, rfl⟩ := later.eq_nil_or_concat'
    · exact .inl (List.singleton_inj.1 (List.append_inj_right' same rfl))
    · rw [← List.cons_append, ← List.append_assoc] at same
      obtain ⟨rfl, one⟩ := List.append_inj' same rfl
      cases one
      exact .inr ⟨spared _ (by simp), earlier, later, rfl, fun other mem =>
        spared other (List.mem_append_left _ mem)⟩
  · rintro (rfl | ⟨spares, earlier, later, rfl, spared⟩)
    · exact ⟨visits, [], rfl, nofun⟩
    · refine ⟨earlier, later ++ [visit], by simp, fun other mem => ?_⟩
      cases List.mem_append.1 mem with
      | inl mem => exact spared other mem
      | inr mem => exact List.mem_singleton.1 mem ▸ spares

/-! ## The records of a station -/

namespace Station

/-- A change of the settings changes no last request. -/
lemma change_lastRequest (station : Station) (change : Change) :
    (station.change change).fleet.lastRequest = station.fleet.lastRequest := by
  cases change with
  | setsDefault mode =>
    rw [Station.change, setDefault, setFleet_fleet]
    exact station.fleet.setDefault_lastRequest mode
  | setsOverride name mode =>
    rw [Station.change, setOverride, setFleet_fleet]
    exact station.fleet.follow_lastRequest (.heater name mode)
  | setsAll mode =>
    rw [Station.change, setAll, setFleet_fleet]
    exact station.fleet.follow_lastRequest (.all mode)
  | replacesOverrides overrides => exact Fleet.refresh_lastRequest _
  | setsLocked locked => rfl
  | addsPhone | removesPhone | setsEmergency | clearsEmergency =>
    exact congrArg Fleet.lastRequest (setGate_fleet _ _ _)

end Station

/-- A check of a part changes no last request. -/
lemma Watch.Part.check_lastRequest (part : Part) (watch : Watch) (station : Station) :
    (part.check watch station).2.fleet.lastRequest = station.fleet.lastRequest := by
  have follows {collapsed : Bool} {next : Station} (checked : Checked station collapsed next) :
      next.fleet.lastRequest = station.fleet.lastRequest := by
    rw [checked.follows]
    exact station.fleet.elim_follow_lastRequest _
  cases part with
  | modem => exact follows (judge_checked (station.ask_answers (·.modem)) _ _ _)
  | daemon => exact follows (judge_checked (station.ask_answers (·.daemon)) _ _ _)

namespace Hub

/-- The hub after a step. -/
def step (hub : Hub) : Step → Hub
  | .call call => hub.call call
  | .asks id name counter address wall =>
    { hub with station.fleet := (hub.station.fleet.request id name counter address wall).2 }
  | .changes change => { hub with station := hub.station.change change }

/-- The hub after steps one after the other. -/
def steps (hub : Hub) (steps : List Step) : Hub :=
  steps.foldl step hub

/-- The visit that a step is. A duty sweeps only when its timer is due. -/
def visit (hub : Hub) : Step → Option Visit
  | .call (.act (.handles frame _ wall)) =>
    if Frame.IsRequest frame.bytes then some (.asks (Frame.device frame.bytes) wall) else none
  | .call (.act (.sweepsLost now wall)) =>
    if hub.watch.lostTimer.isDue now then some (.sweeps wall) else none
  | .call (.sweepsLost wall) => some (.sweeps wall)
  | .asks id _ _ _ wall => some (.asks id wall)
  | _ => none

/-- The visits that steps are which are made one after the other. -/
def visits (hub : Hub) : List Step → List Visit
  | [] => []
  | step :: rest => (hub.visit step).toList ++ (hub.step step).visits rest

/-- The devices that a step reports as lost. -/
def reported (hub : Hub) (step : Step) : List DeviceId :=
  match hub.visit step with
  | some (.sweeps wall) => (Watch.sweepLost hub.station wall).1.map (·.id)
  | _ => []

/-! ## The records of a hub -/

/-- A step that sweeps does what a sweep of the station does. -/
lemma step_sweeps {hub : Hub} {step : Step} {wall : Int}
    (sweeps : hub.visit step = some (.sweeps wall)) :
    (hub.step step).station = (Watch.sweepLost hub.station wall).2 := by
  cases step with
  | call call =>
    cases call with
    | act act =>
      cases act with
      | handles frame now other =>
        rw [visit] at sweeps
        split at sweeps <;> cases sweeps
      | sweepsLost now other =>
        rw [visit] at sweeps
        split at sweeps
        · next due =>
          cases sweeps
          exact if_pos due
        · cases sweeps
      | _ => cases sweeps
    | sweepsLost other =>
      cases sweeps
      rfl
    | _ => cases sweeps
  | _ => cases sweeps

/-- To handle a frame leaves the last request of a device as the visit that it is. -/
lemma Handles.lastRequest {wall : Int} {hub next : Hub} {frame : Inbound}
    (handles : hub.Handles wall frame next) (now : Nat) (id : DeviceId) :
    next.station.fleet.lastRequest id =
      (hub.visit (.call (.act (.handles frame now wall)))).elim
        (hub.station.fleet.lastRequest id) (·.leaves id (hub.station.fleet.lastRequest id)) := by
  cases handles with
  | ignores other =>
    rw [visit, if_neg other]
    rfl
  | answers request records =>
    rw [records.fleet, visit, if_pos request]
    exact Fleet.request_lastRequest ..

/-- The time of a device's last request changes by visits only. -/
theorem step_lastRequest (hub : Hub) (step : Step) (id : DeviceId) :
    (hub.step step).station.fleet.lastRequest id =
      (hub.visit step).elim (hub.station.fleet.lastRequest id)
        (·.leaves id (hub.station.fleet.lastRequest id)) := by
  cases step with
  | asks other name counter address wall => exact Fleet.request_lastRequest ..
  | changes change => exact congrFun (hub.station.change_lastRequest change) id
  | call call =>
    cases call with
    | checks part => exact congrFun (part.check_lastRequest hub.watch hub.station) id
    | checksLink =>
      have answers := hub.watch.checkLink_answers hub.station
      exact congrArg (·.lastRequest id) answers.fleet
    | sweepsLost wall => exact Watch.sweepLost_lastRequest hub.station wall id
    | act act =>
      have follows := hub.act_follows act
      cases act with
      | handles frame now wall => exact (hub.handleFrame_handles now wall frame).lastRequest now id
      | sweepsLost now wall =>
        rw [Hub.step, call, act, Watch.lostDuty, visit]
        dsimp only
        split
        · exact Watch.sweepLost_lastRequest hub.station wall id
        · rfl
      -- All other acts follow an order at most, which is about modes only.
      | _ =>
        rw [Hub.step, call, follows rfl]
        exact congrFun (hub.station.fleet.elim_follow_lastRequest _) id

/-- The last requests on record are those of the devices that are awaited, after any steps. -/
lemma steps_awaited {hub : Hub} {id : DeviceId} {earlier : List Visit}
    (known : ∀ asked, hub.station.fleet.lastRequest id = some asked ↔ Awaited id asked earlier)
    (steps : List Step) (asked : Int) :
    (hub.steps steps).station.fleet.lastRequest id = some asked ↔
      Awaited id asked (earlier ++ hub.visits steps) := by
  -- By induction on the steps, with the visits that were made before them left general.
  induction steps generalizing hub earlier with
  | nil =>
    rw [visits, List.append_nil]
    exact known asked
  | cons step rest ih =>
    rw [steps, List.foldl_cons, ← steps, visits, ← List.append_assoc]
    refine ih fun asked => ?_
    rw [step_lastRequest]
    cases hub.visit step with
    | none =>
      rw [Option.toList_none, List.append_nil]
      exact known asked
    | some visit =>
      rw [Option.elim_some, Visit.leaves_eq_some_iff, known, ← awaited_concat]
      rfl

/-- From a hub on that has no record of a device, the time of the last request in its record is the
one that the visits tell. -/
theorem steps_lastRequest {hub : Hub} {id : DeviceId}
    (unknown : hub.station.fleet.lastRequest id = none) (steps : List Step) (asked : Int) :
    (hub.steps steps).station.fleet.lastRequest id = some asked ↔
      Awaited id asked (hub.visits steps) := by
  have known (asked : Int) :
      hub.station.fleet.lastRequest id = some asked ↔ Awaited id asked [] := by
    rw [unknown]
    exact iff_of_false nofun (not_awaited_nil id asked)
  exact steps_awaited known steps asked

/-- A device that is reported was on record, and is dropped. -/
lemma mem_reported {hub : Hub} {step : Step} {id : DeviceId} (mem : id ∈ hub.reported step) :
    (∃ asked, hub.station.fleet.lastRequest id = some asked) ∧
      (hub.step step).station.fleet.lastRequest id = none := by
  rw [reported] at mem
  split at mem
  · next wall sweeps =>
    obtain ⟨device, lost, rfl⟩ := List.mem_map.1 mem
    have swept := Watch.sweepLost_swept hub.station wall
    obtain ⟨record, found, -⟩ := (swept.mem device).1 lost
    refine ⟨⟨record.lastRequest, ?_⟩, ?_⟩
    · rw [Fleet.lastRequest, found, Option.map_some]
    · rw [step_sweeps sweeps, Fleet.lastRequest, swept.drops device lost, Option.map_none]
  · cases mem

/-- A device that is reported twice has asked in between. -/
lemma asks_between_reports {hub : Hub} {step again : Step} {between : List Step} {id : DeviceId}
    (first : id ∈ hub.reported step)
    (second : id ∈ ((hub.step step).steps between).reported again) :
    ∃ asked, .asks id asked ∈ (hub.step step).visits between := by
  obtain ⟨-, unknown⟩ := mem_reported first
  obtain ⟨⟨asked, known⟩, -⟩ := mem_reported second
  obtain ⟨earlier, later, visits, -⟩ := (steps_lastRequest unknown between asked).1 known
  exact ⟨asked, visits ▸ List.mem_append_right _ List.mem_cons_self⟩

/-- After any requests, changes of the settings, sweeps and whatever else a hub does, at whatever
times, a device has a record exactly if it asked and no sweep has dropped it since. A sweep now drops
the records of exactly the devices whose last request is 24 hours old, names them in the order of
their ids, changes nothing else, and sends one alert with all their names if there are any. A
request that lies in the future is never old enough. A device that is reported twice has asked in
between. -/
theorem lost_reported_once (id : DeviceId) (pin : String) (surroundings : Station)
    (counter : UInt64) (started : Nat) (steps : List Step) (wall : Int) :
    let first := start id pin surroundings counter started
    let hub := first.steps steps
    let lost := (Watch.sweepLost hub.station wall).1
    let next := (Watch.sweepLost hub.station wall).2
    (∀ device asked, hub.station.fleet.lastRequest device = some asked ↔
      Awaited device asked (first.visits steps)) ∧
    Watch.Swept hub.station wall lost next ∧
    (∀ step, hub.visit step = some (.sweeps wall) → (hub.step step).station = next) ∧
    (∀ (device : DeviceId) (record : Record), hub.station.fleet.records[device]? = some record →
      wall < record.lastRequest → next.fleet.records[device]? = some record) ∧
    ∀ step between again device, device ∈ hub.reported step →
      device ∈ ((hub.step step).steps between).reported again →
      ∃ asked, .asks device asked ∈ (hub.step step).visits between := by
  intro first hub lost next
  have swept : Watch.Swept hub.station wall lost next := Watch.sweepLost_swept hub.station wall
  refine ⟨fun device asked => ?_, swept, fun _ => step_sweeps, fun device record found future => ?_,
    fun _ _ _ _ => asks_between_reports⟩
  · have unknown : first.station.fleet.lastRequest device = none :=
      congrArg (Option.map Record.lastRequest) (surroundings.load_records device)
    exact steps_lastRequest unknown steps asked
  · rw [swept.spares device, found]
    rintro named mem rfl
    obtain ⟨other, same, -, old⟩ := (swept.mem named).1 mem
    rw [found] at same
    cases same
    omega

/-- Two devices are lost. One of them asks again and is lost again, while the clock has gone back in
between. A third one has asked in the future and is not lost. -/
theorem lost_reported_once_of_return :
    let day : Int := Duration.hours 24
    let ask (number : Nat) (name : Option String) (wall : Int) : Step :=
      .asks (.ofNat number) name 1 none wall
    let sweep (wall : Int) : Step := .call (.sweepsLost wall)
    let surroundings := Station.fresh (.text "emergency_phone=3310203040506\n")
    let asked := [ask 9 none 0, ask 7 (some "BOILER") 0, ask 8 none (3 * day)]
    let hub := (start (.ofNat 1) "1234" surroundings 0 0).steps asked
    let swept := hub.step (sweep day)
    let between := [.changes (.setsAll .eco), sweep (2 * day), ask 7 (some "BOILER") 0]
    hub.reported (sweep day) = [.ofNat 7, .ofNat 9] ∧
      swept.station.post.tried = hub.station.post.tried ++
        [(.alert,
          { number := "3310203040506"
            text := "WARNING! Lost connection with 2 devices: BOILER, 00:00:00:00:00:09" })] ∧
      swept.station.fleet.records[DeviceId.ofNat 8]? =
        hub.station.fleet.records[DeviceId.ofNat 8]? ∧
      (swept.steps between).reported (sweep (2 * day)) = [.ofNat 7] ∧
      ∃ asked, .asks (.ofNat 7) asked ∈ swept.visits between := by
  intro day ask sweep surroundings asked hub swept between
  obtain ⟨-, sweeps, -, future, asks⟩ :=
    lost_reported_once (.ofNat 1) "1234" surroundings 0 0 asked day
  have lost : hub.reported (sweep day) = [.ofNat 7, .ofNat 9] := by decide +kernel
  have again : (swept.steps between).reported (sweep (2 * day)) = [.ofNat 7] := by decide +kernel
  refine ⟨lost, ?_, ?_, again, ?_⟩
  · have text : Watch.lostText (Watch.sweepLost hub.station day).1 =
        "WARNING! Lost connection with 2 devices: BOILER, 00:00:00:00:00:09" := by
      decide +kernel
    have emergency : hub.station.gate.emergency = some "3310203040506" := by decide +kernel
    have some : (Watch.sweepLost hub.station day).1 ≠ [] := by decide +kernel
    have tried := sweeps.tried
    rw [if_neg some, text, Station.alerts, emergency] at tried
    exact tried
  · have found : hub.station.fleet.records[DeviceId.ofNat 8]? =
        some { name := none, address := none, mode := .safe, lastRequest := 3 * day } := by
      decide +kernel
    rw [found]
    exact future (.ofNat 8) _ found (by decide +kernel)
  · refine asks (sweep day) between (sweep (2 * day)) (.ofNat 7) ?_ ?_
    · exact lost ▸ List.mem_cons_self
    · exact again ▸ List.mem_cons_self

end Hub

end HeatingHub
