import HeatingHub.Proofs.Hub.Act
import HeatingHub.Proofs.Watch.Escalation

/-!
# The fall-back of a hub

The watch of a hub checks the modem and the message daemon when their timers are due, and may be
made to check them at any time. Whatever is done to the hub between these checks (`Call`), the
streak of each part counts what was found of this part, and nothing else (`calls_streak`). So the
fall-back and the announcement of a recovery happen exactly when they should (`escalation_exact`).
-/

namespace HeatingHub

open Watch (Part)

/-- What is done to a hub at once: any act, or a check or a sweep whatever the timers say. -/
inductive Call
  | act (act : Act)
  | checks (part : Part)
  | checksLink
  | sweepsLost (wall : Int)

/-- The duty to check a part. -/
def Watch.Part.act (part : Part) (now : Nat) : Act :=
  match part with
  | .modem => .checksModem now
  | .daemon => .checksDaemon now

namespace Hub

/-- The hub after a call. -/
def call (hub : Hub) : Call → Hub
  | .act act => hub.act act
  | .checks part =>
    let (watch, station) := part.check hub.watch hub.station
    { hub with watch, station }
  | .checksLink =>
    let (watch, station) := hub.watch.checkLink hub.station
    { hub with watch, station }
  | .sweepsLost wall => { hub with station := (Watch.sweepLost hub.station wall).2 }

/-- The hub after calls one after the other. -/
def calls (hub : Hub) (calls : List Call) : Hub :=
  calls.foldl call hub

/-- The part that a call checks, if it checks one. A duty does so only when its timer is due. -/
def checks (hub : Hub) : Call → Option Part
  | .checks part => some part
  | .act (.checksModem now) => if hub.watch.modemTimer.isDue now then some .modem else none
  | .act (.checksDaemon now) => if hub.watch.daemonTimer.isDue now then some .daemon else none
  | _ => none

/-- What calls find of a part that they check, the oldest finding first. -/
def findings (hub : Hub) (part : Part) : List Call → List Bool
  | [] => []
  | call :: rest =>
    (if hub.checks call = some part then [part.works hub.station.host.now] else []) ++
      (hub.call call).findings part rest

/-! ## Streaks -/

/-- A duty counts what a check finds, if it is due. -/
lemma act_streak_of_duty (hub : Hub) (part other : Part) (now : Nat) :
    part.streak (hub.act (other.act now)).watch =
      if (if (other.timer hub.watch).isDue now then some other else none) = some part then
        (part.streak hub.watch).after (part.works hub.station.host.now)
      else part.streak hub.watch := by
  have duty : (hub.act (other.act now)).watch = (other.duty now hub.watch hub.station).1 := by
    cases other <;> rfl
  rw [duty, Part.duty_streak, Part.check_streak]
  cases (other.timer hub.watch).isDue now <;> simp

/-- A call changes the streak of a part only if it checks this part. -/
lemma call_streak (hub : Hub) (part : Part) (call : Call) :
    part.streak (hub.call call).watch =
      if hub.checks call = some part then
        (part.streak hub.watch).after (part.works hub.station.host.now)
      else part.streak hub.watch := by
  cases call with
  | checks other =>
    simp only [checks, Option.some_inj]
    exact part.check_streak other hub.watch hub.station
  | checksLink => exact part.checkLink_streak hub.watch hub.station
  | sweepsLost wall => rfl
  | act act =>
    cases act with
    | handles frame now wall =>
      exact congrArg part.streak (hub.handleFrame_handles now wall frame).watch
    | obeys =>
      rw [Hub.call, Hub.act, obeyNext, Inbox.pop]
      cases hub.inbox.waiting <;> rfl
    | checksLink now => exact part.linkDuty_streak now hub.watch hub.station
    | checksModem now => exact hub.act_streak_of_duty part .modem now
    | checksDaemon now => exact hub.act_streak_of_duty part .daemon now
    | sweepsStale now => cases part <;> rfl
    | sweepsLost now wall => cases part <;> rfl
    | announces now => cases part <;> rfl
    | _ => rfl

/-- The streak of a part goes on counting what is found of this part. -/
lemma calls_streak {hub : Hub} {part : Part} {earlier : List Bool}
    (counted : part.streak hub.watch = .tally part.threshold (failuresOf earlier))
    (calls : List Call) :
    part.streak (hub.calls calls).watch =
      .tally part.threshold (failuresOf (earlier ++ hub.findings part calls)) := by
  induction calls generalizing hub earlier with
  | nil => rw [findings, List.append_nil, calls, List.foldl_nil, counted]
  | cons call rest ih =>
    rw [calls, List.foldl_cons, ← calls, findings, ← List.append_assoc]
    refine ih ?_
    rw [call_streak, counted]
    split
    · exact Streak.tally_after _ _ _
    · rw [List.append_nil]

/-- After any calls, a check of the modem sets all heaters to the safe mode exactly if it is the
sixth failure in a row. No other check of it changes anything about a heater. It sends the alert
that the modem has recovered exactly if it is the first success after six failures or more. The same
holds for the message daemon, and for each of them it depends on the findings of its own checks
only. A duty that is due has the same effect as a check. -/
theorem escalation_exact (id : DeviceId) (pin : String) (surroundings : Station)
    (counter : UInt64) (started : Nat) (calls : List Call) (part : Part) :
    let first := start id pin surroundings counter started
    let hub := first.calls calls
    let next := hub.call (.checks part)
    Watch.Judged hub.station (failuresOf (first.findings part calls))
      (part.works hub.station.host.now) part.subject next.station ∧
    ∀ now, (hub.act (part.act now)).station =
      if (part.timer hub.watch).isDue now then next.station else hub.station := by
  intro first hub next
  have fresh : part.streak first.watch = .tally part.threshold (failuresOf []) := by
    cases part <;> rfl
  refine ⟨Part.check_judged (calls_streak fresh calls) hub.station, fun now => ?_⟩
  have duty := part.duty_station now hub.watch hub.station
  cases part <;> exact duty

/-- The modem fails seven times. Before the sixth time and after it all heaters are ordered to
comfort, and what is ordered last stands. -/
theorem escalation_exact_of_outage :
    let outage : Host :=
      { answers question :=
          { Host.healthy.now with modem := if question < 7 then .absent else .roaming } }
    let surroundings : Station :=
      { Station.fresh (.text "emergency_phone=3310203040506\n") with host := outage }
    let hub := start (.ofNat 1) "1234" surroundings 0 0
    let order : List Call :=
      [.act (.message { number := "3310203040506", text := "all comfort" }), .act .obeys]
    let five := List.replicate 5 (.checks .modem) ++ order
    let six := five ++ .checks .modem :: order
    let seven := six ++ [.checks .modem]
    (hub.calls five).station.fleet.Uniform .defrost
        ((hub.calls five).call (.checks .modem)).station.fleet ∧
      ((hub.calls six).call (.checks .modem)).station.fleet = (hub.calls six).station.fleet ∧
      ((hub.calls seven).call (.checks .modem)).station.post.tried =
        (hub.calls seven).station.post.tried ++
          [(.alert, { number := "3310203040506", text := Watch.recoveryText "modem" })] := by
  intro outage surroundings hub order five six seven
  have judged (calls : List Call) : Watch.Judged (hub.calls calls).station
      (failuresOf (hub.findings .modem calls))
      (Part.modem.works (hub.calls calls).station.host.now) "modem"
      ((hub.calls calls).call (.checks .modem)).station :=
    (escalation_exact (.ofNat 1) "1234" surroundings 0 0 calls .modem).1
  have emergency : (hub.calls seven).station.gate.emergency = some "3310203040506" := by
    decide +kernel
  refine ⟨(judged five).falls ?_, (judged six).stands ?_, ?_⟩
  · decide +kernel
  · decide +kernel
  · have announced := (judged seven).announces (by decide +kernel)
    rw [Station.alerts, emergency] at announced
    exact announced

end Hub

end HeatingHub
