import HeatingHub.Proofs.Hub.Act
import HeatingHub.Proofs.Station.Loading
import HeatingHub.Proofs.Station.Order

/-!
# Orders to a hub

An act makes the hub follow an order when it lets the station hear one, or when the modem or the
message daemon collapses (`ordered`). Unless the act keeps books on devices, this is all that it does
to the fleet (`act_follows`), and in any case it is a move with just this order (`act_moves`). Over
a whole run the mode of a name is therefore the one of the last order that was about the name, and
the one from the state file as long as there was none (`last_order_wins`).
-/

namespace HeatingHub

/-- An act keeps books on devices when it handles a frame or looks after the lost ones. -/
def Act.keepsBooks : Act → Bool
  | .handles .. | .sweepsLost .. => true
  | _ => false

namespace Hub

/-- The order that an act makes the hub follow. -/
def ordered (hub : Hub) (act : Act) : Option Order :=
  match act with
  | .obeys => hub.inbox.waiting.head?.bind hub.station.ordered
  | .checksModem now =>
    if hub.watch.modemCollapses now hub.station then some (.all .safe) else none
  | .checksDaemon now =>
    if hub.watch.daemonCollapses now hub.station then some (.all .safe) else none
  | _ => none

/-- The orders that acts one after the other make the hub follow, oldest first. -/
def orders (hub : Hub) : List Act → List Order
  | [] => []
  | act :: rest => (hub.ordered act).toList ++ (hub.act act).orders rest

/-- Acts that keep no books on devices do to the fleet what their order does, and nothing else. -/
theorem act_follows (hub : Hub) (act : Act) (other : act.keepsBooks = false) :
    (hub.act act).station.fleet =
      (hub.ordered act).elim hub.station.fleet hub.station.fleet.follow := by
  cases act with
  | handles frame now wall => cases other
  | sweepsLost now wall => cases other
  | obeys =>
    rw [ordered, Hub.act, obeyNext, Inbox.pop]
    cases hub.inbox.waiting with
    | nil => rfl
    | cons sms rest => exact hub.station.receive_follows hub.pin sms
  | checksLink now => exact (hub.watch.linkDuty_answers now hub.station).fleet
  | checksModem now => exact (hub.watch.modemDuty_checked now hub.station).follows
  | checksDaemon now => exact (hub.watch.daemonDuty_checked now hub.station).follows
  | announces now => exact (hub.watch.bootDuty_answers now hub.station).fleet
  | _ => rfl

/-- To handle a frame moves the fleet, without an order. -/
lemma Handles.moves {wall : Int} {hub next : Hub} {frame : Inbound}
    (handles : hub.Handles wall frame next) :
    hub.station.fleet.Moves none next.station.fleet := by
  cases handles with
  | ignores => exact .rests
  | answers request records =>
    rw [records.fleet]
    exact .answers (Message.name_givable request) _ _ _ _

/-- Every act is a move of the fleet, with the order that it makes the hub follow. -/
theorem act_moves (hub : Hub) (act : Act) :
    hub.station.fleet.Moves (hub.ordered act) (hub.act act).station.fleet := by
  cases act with
  | handles frame now wall => exact (hub.handleFrame_handles now wall frame).moves
  | obeys =>
    rw [ordered, Hub.act, obeyNext, Inbox.pop]
    cases hub.inbox.waiting with
    | nil => exact .rests
    | cons sms rest => exact Station.receive_moves _ _ _
  | checksLink now =>
    have answers := hub.watch.linkDuty_answers now hub.station
    exact answers.fleet.symm ▸ .rests
  | checksModem now => exact (Watch.modemDuty_checked _ _ _).moves
  | checksDaemon now => exact (Watch.daemonDuty_checked _ _ _).moves
  | sweepsLost now wall =>
    rw [Hub.act, Watch.lostDuty]
    dsimp only
    split
    · rw [(Watch.sweepLost_answers hub.station wall).fleet]
      exact .sweeps _ _
    · exact .rests
  | announces now =>
    have answers := hub.watch.bootDuty_answers now hub.station
    exact answers.fleet.symm ▸ .rests
  | _ => exact .rests

/-- Over acts one after the other, the last order about a name settles its mode. -/
lemma modeOf_perform (hub : Hub) (acts : List Act) (who : Option String)
    (asked : who.all (isUpperName ·.toList)) :
    (hub.perform acts).station.fleet.modeOf who =
      ((hub.orders acts).filterMap (·.modeFor who)).getLast?.getD
        (hub.station.fleet.modeOf who) := by
  induction acts generalizing hub with
  | nil => rfl
  | cons act acts ih =>
    rw [perform, List.foldl_cons, ← perform, ih, (hub.act_moves act).modeOf who asked, orders,
      List.filterMap_append, List.getLast?_append]
    -- Orders about the name that follow take the place of this one, if this is one.
    cases hub.ordered act with
    | none => simp
    | some order =>
      cases about : order.modeFor who <;> simp [about]

/-- After any acts, those of a run or of a part of one (`run_eq_perform`), the mode of a name is the
one of the last order about it. As long as there was none it is the one that the state file had for
the name, or else the default mode of the file. Heaters without a name follow the orders for all of
them only. -/
theorem last_order_wins (id : DeviceId) (pin : String) (surroundings : Station) (counter : UInt64)
    (now : Nat) (acts : List Act) :
    let hub := start id pin surroundings counter now
    let loaded := surroundings.disk.file.initial
    (∀ name : String, isUpperName name.toList →
      (hub.perform acts).station.fleet.modeOf (some name) =
        ((hub.orders acts).filterMap (·.modeFor (some name))).getLast?.getD
          (loaded.overrides[name]?.getD loaded.defaultMode)) ∧
    (hub.perform acts).station.fleet.modeOf none =
      ((hub.orders acts).filterMap (·.modeFor none)).getLast?.getD loaded.defaultMode := by
  intro hub loaded
  have start : hub.station.settings = loaded := surroundings.load_initial
  have default : hub.station.fleet.defaultMode = loaded.defaultMode :=
    congrArg Settings.defaultMode start
  have overrides : hub.station.fleet.overrides = loaded.overrides :=
    congrArg Settings.overrides start
  refine ⟨fun name named => ?_, ?_⟩
  · rw [hub.modeOf_perform acts (some name) named, Fleet.modeOf, default, overrides,
      Text.upperString_of_isUpperName named]
  · rw [hub.modeOf_perform acts none rfl, Fleet.modeOf, default]

/-- One heater is ordered off, then the message daemon collapses, then another heater is ordered to
comfort. -/
theorem last_order_wins_after_outage :
    let outage : Vitals := { Host.healthy.now with daemon := false }
    let surroundings : Station :=
      { Station.fresh (.text "heater_BOILER_state=eco\n") with host.answers _ := outage }
    let hub := start (.ofNat 1) "1234" surroundings 0 0
    let acts := hub.actsOf
      (.message { number := "3310203040506", text := "Heater Boiler off" } ::
        (List.range 7).map (fun check => .cycle (check * Watch.daemonPeriod) 0) ++
        [.message { number := "3310203040506", text := "heater attic comfort" }, .cycle 0 0])
    hub.orders acts = [.heater "BOILER" .off, .all .safe, .heater "ATTIC" .comfort] ∧
      (hub.perform acts).station.fleet.modeOf (some "BOILER") = .safe := by
  intro outage surroundings hub acts
  have orders :
      hub.orders acts = [.heater "BOILER" .off, .all .safe, .heater "ATTIC" .comfort] := by
    decide +kernel
  refine ⟨orders, ?_⟩
  rw [(last_order_wins _ _ _ _ _ acts).1 "BOILER" (by decide), orders]
  decide +kernel

end Hub

end HeatingHub
