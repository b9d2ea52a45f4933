import HeatingHub.Proofs.Hub.Order
import HeatingHub.Proofs.Hub.Request

/-!
# Reboots of devices

A hub keeps the last counter of every device that has asked since the hub started. Nothing but a
request of this device changes it: no other device, no message and no duty of the watch, not even
the one that drops the device from the records (`act_counters`). So a request is compared with the
one of the same device before it, however long ago that was (`reboot_detected`).
-/

namespace HeatingHub

/-- The counter that an act brings from a device, if it handles a request of this device. -/
def Act.counterOf (device : DeviceId) : Act → Option UInt64
  | .handles frame _ _ =>
    if Frame.IsRequest frame.bytes ∧ Frame.device frame.bytes = device then
      some (Frame.counter frame.bytes)
    else none
  | _ => none

/-- The counters of a device's requests that acts handle, in their order. -/
def Act.countersOf (device : DeviceId) (acts : List Act) : List UInt64 :=
  acts.filterMap (·.counterOf device)

/-! ## Counters stay -/

namespace Hub

/-- To handle a frame notes the counter of its request, if it is one, and no other. -/
lemma Handles.counters {now : Nat} {wall : Int} {hub next : Hub} {frame : Inbound}
    (handles : hub.Handles wall frame next) (device : DeviceId) :
    next.station.fleet.counters[device]? =
      ((Act.handles frame now wall).counterOf device).or
        hub.station.fleet.counters[device]? := by
  cases handles with
  | ignores other =>
    rw [Act.counterOf, if_neg fun request => other request.1]
    rfl
  | answers request records =>
    rw [records.fleet, Act.counterOf]
    refine (getElem?_insert_eq ..).trans ?_
    by_cases same : device = Frame.device frame.bytes
    · rw [if_pos same, if_pos ⟨request, same.symm⟩]
      rfl
    · rw [if_neg same, if_neg fun both => same both.2.symm]
      rfl

/-- An act changes the counter that is kept of a device only if it brings one from this device. -/
theorem act_counters (hub : Hub) (act : Act) (device : DeviceId) :
    (hub.act act).station.fleet.counters[device]? =
      (act.counterOf device).or hub.station.fleet.counters[device]? := by
  have follows := hub.act_follows act
  cases act with
  | handles frame now wall => exact (hub.handleFrame_handles now wall frame).counters device
  | sweepsLost now wall =>
    rw [Hub.act, Watch.lostDuty]
    dsimp only
    split
    · exact congrArg (·.counters[device]?) (Watch.sweepLost_answers hub.station wall).fleet
    · rfl
  | _ =>
    rw [follows rfl]
    cases hub.ordered _ with
    | none => rfl
    | some order => exact congrArg (·[device]?) (hub.station.fleet.follow_counters order)

/-- What is kept of a device is the last counter that it brought. -/
lemma perform_counters (hub : Hub) (acts : List Act) (device : DeviceId) :
    (hub.perform acts).station.fleet.counters[device]? =
      (Act.countersOf device acts).getLast?.or hub.station.fleet.counters[device]? := by
  induction acts generalizing hub with
  | nil => rfl
  | cons act acts ih =>
    rw [perform, List.foldl_cons, ← perform, ih, act_counters, Act.countersOf, Act.countersOf]
    cases brought : act.counterOf device with
    | none => rw [List.filterMap_cons_none brought, Option.none_or]
    | some counter =>
      rw [List.filterMap_cons_some brought, List.getLast?_cons]
      cases (acts.filterMap (·.counterOf device)).getLast? <;> rfl

/-- After any acts, those of a run or of a part of one (`run_eq_perform`), the first request of a
device is the first that was seen of it. Every later one is in sequence exactly if its counter is
the one before it or at most three more, as numbers without a bound, and tells a reboot otherwise.
Exactly a reboot is reported, by one message to the emergency phone of this moment if there is
one. -/
theorem reboot_detected (id : DeviceId) (pin : String) (surroundings : Station) (counter : UInt64)
    (started : Nat) (acts : List Act) (frame : Inbound) (request : Frame.IsRequest frame.bytes)
    (now : Nat) (wall : Int) :
    let hub := (start id pin surroundings counter started).perform acts
    let device := Frame.device frame.bytes
    let name := Frame.name frame.bytes
    let sent := Frame.counter frame.bytes
    let check := (hub.station.fleet.request device name sent frame.peer wall).1.counter
    (Act.countersOf device acts = [] → check = .firstSeen) ∧
    (∀ earlier previous, Act.countersOf device acts = earlier ++ [previous] →
      check = if previous.toNat ≤ sent.toNat ∧ sent.toNat ≤ previous.toNat + 3 then .inSequence
        else .rebooted previous) ∧
    (hub.handleFrame now wall frame).station.post.tried = hub.station.post.tried ++
      match check with
      | .rebooted _ => hub.station.gate.emergency.toList.map fun number =>
        (.alert, { number, text := rebootText device name })
      | _ => [] := by
  intro hub device name sent check
  have kept : hub.station.fleet.counters[device]? = (Act.countersOf device acts).getLast? := by
    rw [perform_counters, start, Station.load_counters, Std.ExtTreeMap.getElem?_empty,
      Option.or_none]
  have compared : check = Fleet.checkCounter hub.station.fleet.counters[device]? sent := rfl
  refine ⟨fun none => ?_, fun earlier previous later => ?_, ?_⟩
  · rw [compared, kept, none]
    rfl
  · rw [compared, kept, later, List.getLast?_concat]
    rfl
  · obtain ⟨delivered, part, answered⟩ := hub.handleFrame_answered now wall request
    rw [answered.station, served_tried]
    rfl

/-- A device is lost between two requests, and has rebooted. -/
theorem reboot_detected_of_lost :
    let ask (counter : UInt64) : Inbound :=
      { connection := 0, peer := none, bytes := Message.encodeRequest (.ofNat 7) counter none }
    let surroundings := Station.fresh (.text "emergency_phone=3310203040506\n")
    let acts : List Act :=
      [.handles (ask 5) 0 0, .sweepsLost Watch.lostPeriod Watch.lostThreshold]
    let hub := (start (.ofNat 1) "1234" surroundings 0 0).perform acts
    hub.station.fleet.records[DeviceId.ofNat 7]? = none ∧
      (hub.station.fleet.request (.ofNat 7) none 9 none 0).1.counter = .rebooted 5 ∧
      (hub.handleFrame 0 0 (ask 9)).station.post.tried = hub.station.post.tried ++
        [(.alert, { number := "3310203040506", text := rebootText (.ofNat 7) none })] := by
  intro ask surroundings acts hub
  have request : Frame.IsRequest (ask 9).bytes := by decide +kernel
  have device : Frame.device (ask 9).bytes = .ofNat 7 := by decide +kernel
  have name : Frame.name (ask 9).bytes = none := by decide +kernel
  have counter : Frame.counter (ask 9).bytes = 9 := by decide +kernel
  have counters : Act.countersOf (Frame.device (ask 9).bytes) acts = [] ++ [5] := by
    decide +kernel
  have emergency : hub.station.gate.emergency = some "3310203040506" := by decide +kernel
  obtain ⟨-, later, tried⟩ :=
    reboot_detected (.ofNat 1) "1234" surroundings 0 0 acts (ask 9) request 0 0
  have check := later [] 5 counters
  rw [check, device, name, emergency] at tried
  rw [device, name, counter] at check
  exact ⟨by decide +kernel, check, tried⟩

end Hub

end HeatingHub
