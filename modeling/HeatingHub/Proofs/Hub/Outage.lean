import HeatingHub.Proofs.Hub.Escalation
import HeatingHub.Proofs.Watch.Cadence

/-!
# Outages of the link

The link is checked when its timer is due, and may be checked at any time. A check that gets no
answer changes nothing, and the others are counted by the streak of the link, whatever else is done
to the hub between them (`calls_link`). So the loss of the link is reported exactly at the fifteenth
failure in a row, and its return exactly at the first success after a failure
(`checkLink_inspected`). Over an outage, however long it is, at most one loss is reported
(`linkTried_outage`), and its end is announced once (`outage_reported_once`).
-/

namespace HeatingHub

/-- A check without an answer is not counted. -/
lemma Streak.tally_found (threshold : Nat) (findings : List Bool) (finding : Option Bool) :
    (tally threshold (failuresOf findings)).found finding =
      tally threshold (failuresOf (findings ++ finding.toList)) := by
  cases finding with
  | none =>
    rw [Option.toList_none, List.append_nil]
    rfl
  | some healthy => exact tally_after threshold findings healthy

namespace Watch

/-- What a check of the link has to tell after so many failures in a row. -/
def linkNotice? (failures : Nat) : Option Bool → Option String
  | some true => if 0 < failures then some linkRestoredText else none
  | some false => if failures + 1 = 15 then some linkLostText else none
  | none => none

/-- What is made of a station when the link is found like this, or when there is no answer, after so
many failures in a row. -/
structure Inspected (station : Station) (failures : Nat) (finding : Option Bool)
    (next : Station) : Prop where
  fleet : next.fleet = station.fleet
  gate : next.gate = station.gate
  disk : next.disk = station.disk
  tried : next.post.tried = station.post.tried ++
    (linkNotice? failures finding).elim [] station.alerts

/-- A check of the link tells what it has to tell, and does nothing else. -/
lemma checkLink_inspected {watch : Watch} {failures : Nat}
    (counted : watch.link = .tally linkThreshold failures) (station : Station) :
    Inspected station failures station.host.now.link.toOption (watch.checkLink station).2 where
  fleet := (checkLink_answers watch station).fleet
  gate := (checkLink_answers watch station).gate
  disk := (checkLink_answers watch station).disk
  tried := by
    have reached : (Streak.tally linkThreshold failures).fail.isReached ↔ failures + 1 = 15 :=
      Streak.tally_isReached (by decide) failures
    rw [checkLink_tried, counted]
    rcases station.host.now.link.toOption with _ | _ | _
    · rfl
    · by_cases last : failures + 1 = 15
      · rw [if_pos (Streak.strikes_iff.2 ⟨rfl, reached.2 last⟩), linkNotice?, if_pos last]
        rfl
      · rw [if_neg fun strikes => last (reached.1 (Streak.strikes_iff.1 strikes).2),
          if_neg fun both => absurd both.1 (by decide), linkNotice?, if_neg last]
        rfl
    · rw [if_neg fun strikes => absurd (Streak.strikes_iff.1 strikes).1 (by decide), linkNotice?]
      by_cases some : 0 < failures
      · rw [if_pos ⟨rfl, (Streak.tally_count_pos _ failures).2 some⟩, if_pos some]
        rfl
      · rw [if_neg fun both => some ((Streak.tally_count_pos _ failures).1 both.2), if_neg some]
        rfl

/-! ## Duties -/

/-- The duty for the link counts what is found of it when its timer is due. -/
lemma linkDuty_link (now : Nat) (watch : Watch) (station : Station) :
    (watch.linkDuty now station).1.link =
      if watch.linkTimer.isDue now then watch.link.found station.host.now.link.toOption
      else watch.link := by
  rw [linkDuty]
  split
  · exact checkLink_link _ station
  · rfl

/-- The duty for another part leaves the streak of the link alone. -/
lemma Part.duty_link (part : Part) (now : Nat) (watch : Watch) (station : Station) :
    (part.duty now watch station).1.link = watch.link := by
  cases part with
  | modem =>
    rw [duty, modemDuty]
    split <;> rfl
  | daemon =>
    rw [duty, daemonDuty]
    split <;> rfl

/-- The duty is a check when its timer is due, and otherwise it does nothing to the station. -/
lemma linkDuty_station (now : Nat) (watch : Watch) (station : Station) :
    (watch.linkDuty now station).2 =
      if watch.linkTimer.isDue now then (watch.checkLink station).2 else station := by
  rw [linkDuty]
  split
  · rw [checkLink, checkLink, Station.ask]
    dsimp only
    rcases station.host.now.link with _ | _ | _ <;> rfl
  · rfl

/-- A check without an answer leaves the watch as it is. -/
lemma checkLink_of_no_answer {watch : Watch} {station : Station}
    (none : station.host.now.link.toOption = none) : (watch.checkLink station).1 = watch := by
  rw [checkLink, Station.ask]
  dsimp only
  cases answer : station.host.now.link with
  | error => rfl
  | ok healthy =>
    rw [answer] at none
    cases none

end Watch

namespace Hub

/-- A call checks the link. A duty does so only when its timer is due. -/
def checksLink (hub : Hub) : Call → Bool
  | .checksLink => true
  | .act (.checksLink now) => hub.watch.linkTimer.isDue now
  | _ => false

/-- What a call finds of the link, if it checks the link and gets an answer. -/
def linkFinding (hub : Hub) (call : Call) : Option Bool :=
  if hub.checksLink call then hub.station.host.now.link.toOption else none

/-- What calls find of the link, the oldest finding first. -/
def linkFindings (hub : Hub) : List Call → List Bool
  | [] => []
  | call :: rest => (hub.linkFinding call).toList ++ (hub.call call).linkFindings rest

/-- What calls try to send when they check the link. -/
def linkTried (hub : Hub) : List Call → List (Occasion × Sms)
  | [] => []
  | call :: rest =>
    (if hub.checksLink call then
      (hub.call call).station.post.tried.drop hub.station.post.tried.length
    else []) ++ (hub.call call).linkTried rest

/-! ## The streak of the link -/

/-- A call changes the streak of the link only by what it finds of the link. -/
lemma call_link (hub : Hub) (call : Call) :
    (hub.call call).watch.link = hub.watch.link.found (hub.linkFinding call) := by
  cases call with
  | checks part => cases part <;> rfl
  | checksLink => exact Watch.checkLink_link hub.watch hub.station
  | sweepsLost wall => rfl
  | act act =>
    cases act with
    | handles frame now wall =>
      exact congrArg Watch.link (hub.handleFrame_handles now wall frame).watch
    | obeys =>
      rw [Hub.call, Hub.act, obeyNext, Inbox.pop]
      cases hub.inbox.waiting <;> rfl
    | checksLink now =>
      refine (Watch.linkDuty_link now hub.watch hub.station).trans ?_
      rw [linkFinding, checksLink]
      split <;> rfl
    | checksModem now => exact Watch.Part.duty_link .modem now hub.watch hub.station
    | checksDaemon now => exact Watch.Part.duty_link .daemon now hub.watch hub.station
    | _ => rfl

/-- A call that checks the link is a check of the link, be it a duty or not. -/
lemma call_station_of_checksLink {hub : Hub} {call : Call} (checks : hub.checksLink call) :
    (hub.call call).station = (hub.watch.checkLink hub.station).2 := by
  cases call with
  | checksLink => rfl
  | act act =>
    cases act with
    | checksLink now => exact (hub.watch.linkDuty_station now hub.station).trans (if_pos checks)
    | _ => cases checks
  | _ => cases checks

/-- The streak of the link goes on counting what is found of it. -/
lemma calls_link {hub : Hub} {earlier : List Bool}
    (counted : hub.watch.link = .tally Watch.linkThreshold (failuresOf earlier))
    (calls : List Call) :
    (hub.calls calls).watch.link =
      .tally Watch.linkThreshold (failuresOf (earlier ++ hub.linkFindings calls)) := by
  induction calls generalizing hub earlier with
  | nil => rw [linkFindings, List.append_nil, calls, List.foldl_nil, counted]
  | cons call rest ih =>
    rw [calls, List.foldl_cons, ← calls, linkFindings, ← List.append_assoc]
    refine ih ?_
    rw [call_link, counted, Streak.tally_found]

/-! ## Over an outage -/

/-- A call that checks the link inspects it. -/
lemma call_inspected {hub : Hub} {failures : Nat}
    (counted : hub.watch.link = .tally Watch.linkThreshold failures)
    {call : Call} (checks : hub.checksLink call) :
    Watch.Inspected hub.station failures (hub.linkFinding call) (hub.call call).station := by
  rw [call_station_of_checksLink checks, linkFinding, if_pos checks]
  exact Watch.checkLink_inspected counted hub.station

/-- A call tries to tell what there is to tell about its finding. -/
lemma linkTried_cons {hub : Hub} {failures : Nat}
    (counted : hub.watch.link = .tally Watch.linkThreshold failures)
    (call : Call) (rest : List Call) :
    hub.linkTried (call :: rest) =
      (Watch.linkNotice? failures (hub.linkFinding call)).elim [] hub.station.alerts ++
        (hub.call call).linkTried rest := by
  rw [linkTried]
  split
  · next checks => rw [(call_inspected counted checks).tried, List.drop_left]
  · next other =>
    rw [linkFinding, if_neg other]
    rfl

/-- What calls one after the other try to tell about the link is told in their order. -/
lemma linkTried_append (hub : Hub) (calls later : List Call) :
    hub.linkTried (calls ++ later) = hub.linkTried calls ++ (hub.calls calls).linkTried later := by
  induction calls generalizing hub with
  | nil => rfl
  | cons call rest ih =>
    rw [List.cons_append, linkTried, ih, linkTried, List.append_assoc]
    rfl

/-- While the link is not found up, its loss is reported at the fifteenth failure and at no other
time. -/
lemma linkTried_outage {hub : Hub} {failures : Nat}
    (counted : hub.watch.link = .tally Watch.linkThreshold failures) {outage : List Call}
    (down : true ∉ hub.linkFindings outage) :
    ∃ before, before <+: outage ∧ hub.linkTried outage =
      if failures < 15 ∧ 15 ≤ failures + (hub.linkFindings outage).length then
        (hub.calls before).station.alerts Watch.linkLostText
      else [] := by
  induction outage generalizing hub failures with
  | nil =>
    refine ⟨[], List.prefix_rfl, (if_neg ?_).symm⟩
    rw [linkFindings, List.length_nil]
    omega
  | cons call rest ih =>
    have streak := hub.call_link call
    rw [counted] at streak
    rw [linkFindings, List.mem_append, not_or] at down
    rw [linkFindings, linkTried_cons counted]
    generalize hub.linkFinding call = finding at streak down ⊢
    -- Without an answer the count stays, a failure adds to it, and there is no success.
    rcases finding with _ | _ | _
    · obtain ⟨before, start, told⟩ := ih streak down.2
      exact ⟨call :: before, List.cons_prefix_cons.2 ⟨rfl, start⟩, told⟩
    · obtain ⟨before, start, told⟩ := ih (streak.trans (Streak.tally_fail _ failures)) down.2
      rw [told, Watch.linkNotice?]
      rw [Option.toList_some, List.singleton_append, List.length_cons]
      by_cases last : failures + 1 = 15
      · refine ⟨[], List.nil_prefix, ?_⟩
        rw [if_pos last, if_neg (by omega), if_pos (by omega), List.append_nil]
        rfl
      · refine ⟨call :: before, List.cons_prefix_cons.2 ⟨rfl, start⟩, ?_⟩
        rw [if_neg last]
        refine if_congr ?_ rfl rfl
        omega
    · exact absurd List.mem_cons_self down.1

/-- After any calls, a check of the link changes no heater, nothing of the gate and nothing on the
disk, and it tells the emergency phone exactly what there is to tell after the failures that were
found since the link was last found up, or since the start: at the fifteenth of them the loss, and
at the first success after any of them the return. A check without an answer tells nothing and
counts neither way. A duty that is due has the same effect as a check. So over an outage, however
long it is, its loss is told at most once, and then its end is told once. -/
theorem outage_reported_once (id : DeviceId) (pin : String) (surroundings : Station)
    (counter : UInt64) (started : Nat) (calls : List Call) :
    let first := start id pin surroundings counter started
    let hub := first.calls calls
    let failures := failuresOf (first.linkFindings calls)
    Watch.Inspected hub.station failures hub.station.host.now.link.toOption
      (hub.call .checksLink).station ∧
    (hub.station.host.now.link.toOption = none → (hub.call .checksLink).watch = hub.watch) ∧
    (∀ now, (hub.act (.checksLink now)).station =
      if hub.watch.linkTimer.isDue now then (hub.call .checksLink).station else hub.station) ∧
    (∀ outage, true ∉ hub.linkFindings outage →
      ∃ before, before <+: outage ∧ hub.linkTried outage =
        if failures < 15 ∧ 15 ≤ failures + (hub.linkFindings outage).length then
          (hub.calls before).station.alerts Watch.linkLostText
        else []) ∧
    ∀ outage call, true ∉ hub.linkFindings outage →
      (hub.calls outage).linkFinding call = some true →
        hub.linkTried (outage ++ [call]) = hub.linkTried outage ++
          if 0 < failures + (hub.linkFindings outage).length then
            (hub.calls outage).station.alerts Watch.linkRestoredText
          else [] := by
  intro first hub failures
  have fresh : first.watch.link = .tally Watch.linkThreshold (failuresOf []) := rfl
  have counted : hub.watch.link = .tally Watch.linkThreshold failures := calls_link fresh calls
  refine ⟨Watch.checkLink_inspected counted hub.station, Watch.checkLink_of_no_answer,
    fun now => hub.watch.linkDuty_station now hub.station,
    fun outage => linkTried_outage counted, fun outage call down up => ?_⟩
  have later : (hub.calls outage).watch.link =
      .tally Watch.linkThreshold (failures + (hub.linkFindings outage).length) := by
    rw [calls_link counted outage, failuresOf_append down]
  rw [linkTried_append, linkTried_cons later, up, Watch.linkNotice?, linkTried, List.append_nil]
  split <;> rfl

/-- The link is down for twenty checks, and one check gets no answer. -/
theorem outage_reported_once_of_long_outage :
    let outage : Host :=
      { answers question :=
          { Host.healthy.now with
            link := if question = 7 then .error (.io .notFound) else .ok (20 < question) } }
    let surroundings : Station :=
      { Station.fresh (.text "emergency_phone=3310203040506\n") with host := outage }
    let hub := start (.ofNat 1) "1234" surroundings 0 0
    let seven := List.replicate 7 Call.checksLink
    let fifteen := List.replicate 15 Call.checksLink
    let twenty := List.replicate 21 Call.checksLink
    ((hub.calls seven).call .checksLink).watch = (hub.calls seven).watch ∧
      ((hub.calls fifteen).call .checksLink).station.post.tried =
        (hub.calls fifteen).station.post.tried ++
          [(.alert, { number := "3310203040506", text := Watch.linkLostText })] ∧
      (hub.linkTried twenty).length ≤ 1 ∧
      hub.linkTried (twenty ++ [.checksLink]) = hub.linkTried twenty ++
        [(.alert, { number := "3310203040506", text := Watch.linkRestoredText })] := by
  intro outage surroundings hub seven fifteen twenty
  have law (calls : List Call) := outage_reported_once (.ofNat 1) "1234" surroundings 0 0 calls
  have quiet (calls : List Call) : (hub.calls calls).station.host.now.link.toOption = none →
      ((hub.calls calls).call .checksLink).watch = (hub.calls calls).watch := (law calls).2.1
  have inspected (calls : List Call) : Watch.Inspected (hub.calls calls).station
      (failuresOf (hub.linkFindings calls)) (hub.calls calls).station.host.now.link.toOption
      ((hub.calls calls).call .checksLink).station := (law calls).1
  have once (outage : List Call) (silent : true ∉ hub.linkFindings outage) :
      ∃ before, before <+: outage ∧ hub.linkTried outage =
        if 0 < 15 ∧ 15 ≤ 0 + (hub.linkFindings outage).length then
          (hub.calls before).station.alerts Watch.linkLostText
        else [] := (law []).2.2.2.1 outage silent
  have ends (outage : List Call) (call : Call) (silent : true ∉ hub.linkFindings outage)
      (up : (hub.calls outage).linkFinding call = some true) :
      hub.linkTried (outage ++ [call]) = hub.linkTried outage ++
        if 0 < 0 + (hub.linkFindings outage).length then
          (hub.calls outage).station.alerts Watch.linkRestoredText
        else [] := (law []).2.2.2.2 outage call silent up
  refine ⟨quiet seven (by decide +kernel), ?_, ?_⟩
  · have failures : failuresOf (hub.linkFindings fifteen) = 14 := by decide +kernel
    have finding : (hub.calls fifteen).station.host.now.link.toOption = some false := by
      decide +kernel
    have emergency : (hub.calls fifteen).station.gate.emergency = some "3310203040506" := by
      decide +kernel
    have told := (inspected fifteen).tried
    rw [failures, finding, Watch.linkNotice?, if_pos rfl, Option.elim_some, Station.alerts,
      emergency] at told
    exact told
  have silent : true ∉ hub.linkFindings twenty := by decide +kernel
  have emergency : (hub.calls twenty).station.gate.emergency = some "3310203040506" := by
    decide +kernel
  have length : (hub.linkFindings twenty).length = 20 := by decide +kernel
  constructor
  · obtain ⟨before, -, told⟩ := once twenty silent
    rw [told, length, if_pos (by decide), Station.alerts, List.length_map]
    cases (hub.calls before).station.gate.emergency with
    | none => exact Nat.zero_le 1
    | some number => exact Nat.le_refl 1
  · have told := ends twenty .checksLink silent (by decide +kernel)
    rw [length, if_pos (by decide), Station.alerts, emergency] at told
    exact told

end Hub

end HeatingHub
