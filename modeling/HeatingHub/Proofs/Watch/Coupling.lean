import HeatingHub.Proofs.Station.Coupling
import HeatingHub.Watch.Basic

/-!
# The watch over coupled stations

The watch comes to the same over two stations that are alike: its timers and streaks go on in the
same way, and the stations stay alike. This holds for the check of the link (`linkDuty_agree`), for
the checks that may escalate (`modemDuty_agree`, `daemonDuty_agree`), for the sweep over the devices
(`lostDuty_agree`) and for the announcement of the start (`bootDuty_agree`).
-/

namespace HeatingHub.Watch

open Station (Coupling Alike Agree)

variable {coupling : Coupling} {station other : Station} (alike : Alike coupling station other)

include alike

/-- Both stations are asked before the same check is made of the answer. -/
lemma checkLink_agree (watch : Watch) :
    Agree coupling (watch.checkLink station) (watch.checkLink other) := by
  obtain ⟨same, asked⟩ := alike.ask (·.link)
  rw [checkLink, checkLink]
  dsimp only
  rw [same]
  split
  · exact ⟨rfl, asked⟩
  · refine ⟨rfl, ?_⟩
    dsimp only
    split
    · exact asked.alert _
    · exact asked
  · refine ⟨rfl, ?_⟩
    dsimp only
    split
    · exact asked.alert _
    · exact asked

/-- A verdict on a part is the same for stations that are alike, and keeps them alike. -/
lemma judge_agree (streak : Streak) (healthy : Bool) (subject : String) :
    Agree coupling (judge streak healthy subject station) (judge streak healthy subject other) := by
  rw [judge, judge]
  split
  · refine ⟨rfl, ?_⟩
    dsimp only
    split
    · exact alike.alert _
    · exact alike
  · refine ⟨rfl, ?_⟩
    dsimp only
    split
    · exact alike.setAll _
    · exact alike

/-- A check of the modem comes to the same and keeps stations alike. -/
lemma checkModem_agree (watch : Watch) :
    Agree coupling (watch.checkModem station) (watch.checkModem other) := by
  obtain ⟨same, asked⟩ := alike.ask (·.modem)
  obtain ⟨streak, judged⟩ :=
    judge_agree asked watch.modem (station.ask (·.modem)).1.isRegistered "modem"
  rw [checkModem, checkModem]
  dsimp only
  rw [same]
  exact ⟨congrArg (fun modem => { watch with modem }) streak, judged⟩

/-- A check of the message daemon comes to the same and keeps stations alike. -/
lemma checkDaemon_agree (watch : Watch) :
    Agree coupling (watch.checkDaemon station) (watch.checkDaemon other) := by
  obtain ⟨same, asked⟩ := alike.ask (·.daemon)
  obtain ⟨streak, judged⟩ := judge_agree asked watch.daemon (station.ask (·.daemon)).1 "SMS daemon"
  rw [checkDaemon, checkDaemon]
  dsimp only
  rw [same]
  exact ⟨congrArg (fun daemon => { watch with daemon }) streak, judged⟩

/-- A sweep finds the same devices lost and keeps stations alike. -/
lemma sweepLost_agree (wall : Int) :
    Agree coupling (sweepLost station wall) (sweepLost other wall) := by
  rw [sweepLost, sweepLost, alike.fleet]
  refine ⟨rfl, ?_⟩
  dsimp only
  split
  · exact alike.withFleet _
  · exact (alike.withFleet _).alert _

/-- The notice of a start keeps stations alike. -/
lemma announce_alike : Alike coupling (announce station) (announce other) := by
  rw [announce, announce, alike.fleet]
  exact alike.alert _

/-! ## Duties -/

/-- The duty for the link comes to the same and keeps stations alike. -/
lemma linkDuty_agree (now : Nat) (watch : Watch) :
    Agree coupling (watch.linkDuty now station) (watch.linkDuty now other) := by
  rw [linkDuty, linkDuty]
  split
  · exact checkLink_agree alike _
  · exact ⟨rfl, alike⟩

/-- The duty for the modem comes to the same and keeps stations alike. -/
lemma modemDuty_agree (now : Nat) (watch : Watch) :
    Agree coupling (watch.modemDuty now station) (watch.modemDuty now other) := by
  rw [modemDuty, modemDuty]
  split
  · exact checkModem_agree alike _
  · exact ⟨rfl, alike⟩

/-- The duty for the message daemon comes to the same and keeps stations alike. -/
lemma daemonDuty_agree (now : Nat) (watch : Watch) :
    Agree coupling (watch.daemonDuty now station) (watch.daemonDuty now other) := by
  rw [daemonDuty, daemonDuty]
  split
  · exact checkDaemon_agree alike _
  · exact ⟨rfl, alike⟩

/-- The duty for lost devices comes to the same and keeps stations alike. -/
lemma lostDuty_agree (now : Nat) (wall : Int) (watch : Watch) :
    Agree coupling (watch.lostDuty now wall station) (watch.lostDuty now wall other) := by
  rw [lostDuty, lostDuty]
  refine ⟨rfl, ?_⟩
  dsimp only
  split
  · exact (sweepLost_agree alike wall).2
  · exact alike

/-- The duty for the notice of a start comes to the same and keeps stations alike. -/
lemma bootDuty_agree (now : Nat) (watch : Watch) :
    Agree coupling (watch.bootDuty now station) (watch.bootDuty now other) := by
  rw [bootDuty, bootDuty]
  refine ⟨rfl, ?_⟩
  dsimp only
  split
  · exact announce_alike alike
  · exact alike

end HeatingHub.Watch
