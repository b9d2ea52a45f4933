import HeatingHub.Proofs.Station.Turn
import HeatingHub.Watch.Basic

/-!
# What the duties of the watch do to a station

The checks of the modem and of the message daemon make the station fall back to the safe mode when
they *collapse*, and otherwise it only asks and alerts (`Checked`). The other duties never do more
than that, except that the lost devices are dropped (`sweepLost_answers`). So no duty does more to a
station than to make it rest or fall back, each of them is a turn.
-/

namespace HeatingHub.Watch

open Station

/-! ## Checks -/

/-- A part that is found like this has failed just often enough to make all heaters fall back. -/
def collapses (streak : Streak) (healthy : Bool) : Bool :=
  !healthy && streak.fail.isReached

/-- The modem is checked at this time and collapses. -/
def modemCollapses (watch : Watch) (now : Nat) (station : Station) : Bool :=
  watch.modemTimer.isDue now && collapses watch.modem station.host.now.modem.isRegistered

/-- The message daemon is checked at this time and collapses. -/
def daemonCollapses (watch : Watch) (now : Nat) (station : Station) : Bool :=
  watch.daemonTimer.isDue now && collapses watch.daemon station.host.now.daemon

/-- What a check leaves behind that does or does not collapse. -/
inductive Checked (station : Station) : Bool → Station → Prop
  | stands {next : Station} (answers : Answers station next) : Checked station false next
  | collapses {asked : Station} (answers : Answers station asked) :
      Checked station true (asked.setAll .safe)

/-- A verdict leaves a station that was checked, as the part collapses or not. -/
lemma judge_checked {station asked : Station} (answers : Answers station asked) (streak : Streak)
    (healthy : Bool) (subject : String) :
    Checked station (collapses streak healthy) (judge streak healthy subject asked).2 := by
  rw [judge, collapses]
  cases healthy with
  | true =>
    rw [if_pos rfl]
    dsimp only
    split
    · exact .stands (answers.trans (alert_answers _ _))
    · exact .stands answers
  | false =>
    rw [if_neg Bool.false_ne_true]
    dsimp only
    cases reached : streak.fail.isReached with
    | true => exact .collapses answers
    | false => exact .stands answers

/-- The duty for the modem leaves a station that was checked. -/
lemma modemDuty_checked (now : Nat) (watch : Watch) (station : Station) :
    Checked station (watch.modemCollapses now station) (watch.modemDuty now station).2 := by
  rw [modemDuty, modemCollapses]
  cases watch.modemTimer.isDue now with
  | true => exact judge_checked (station.ask_answers (·.modem)) _ _ _
  | false => exact .stands (.refl _)

/-- The duty for the message daemon leaves a station that was checked. -/
lemma daemonDuty_checked (now : Nat) (watch : Watch) (station : Station) :
    Checked station (watch.daemonCollapses now station) (watch.daemonDuty now station).2 := by
  rw [daemonDuty, daemonCollapses]
  cases watch.daemonTimer.isDue now with
  | true => exact judge_checked (station.ask_answers (·.daemon)) _ _ _
  | false => exact .stands (.refl _)

/-! ## Other duties -/

/-- A check of the link does no more than answer. -/
lemma checkLink_answers (watch : Watch) (station : Station) :
    Answers station (watch.checkLink station).2 := by
  rw [checkLink]
  have asked := station.ask_answers (·.link)
  dsimp only
  split
  · exact asked
  · dsimp only
    split
    · exact asked.trans (alert_answers _ _)
    · exact asked
  · dsimp only
    split
    · exact asked.trans (alert_answers _ _)
    · exact asked

/-- The duty for the link does no more than answer. -/
lemma linkDuty_answers (now : Nat) (watch : Watch) (station : Station) :
    Answers station (watch.linkDuty now station).2 := by
  rw [linkDuty]
  split
  · exact checkLink_answers _ _
  · exact .refl _

/-- The duty for the notice of a start does no more than answer. -/
lemma bootDuty_answers (now : Nat) (watch : Watch) (station : Station) :
    Answers station (watch.bootDuty now station).2 := by
  rw [bootDuty]
  dsimp only
  split
  · exact alert_answers _ _
  · exact .refl _

/-- To sweep over the devices is to drop the lost ones, and to alert. -/
lemma sweepLost_answers (station : Station) (wall : Int) :
    Answers { station with fleet := (station.fleet.sweepLost wall lostThreshold).2 }
      (sweepLost station wall).2 := by
  rw [sweepLost]
  dsimp only
  split
  · exact .refl _
  · exact alert_answers _ _

/-! ## Duties are turns -/

variable {secret : String}

/-- A check is a turn of the station without a message. -/
lemma Checked.turn {station next : Station} {collapsed : Bool}
    (checked : Checked station collapsed next) : Turn secret station none next := by
  cases checked with
  | stands answers => exact .rests answers.toRests
  | collapses answers => exact .fallsBack answers.toRests

/-- The duty for lost devices is a turn of the station without a message. -/
lemma lostDuty_turn (now : Nat) (wall : Int) (watch : Watch) (station : Station) :
    Turn secret station none (watch.lostDuty now wall station).2 := by
  rw [lostDuty]
  dsimp only
  split
  · have swept := station.fleet_rests (station.fleet.sweepLost_modes wall lostThreshold)
    exact .rests (swept.trans (sweepLost_answers station wall).toRests)
  · exact .rests (.refl _)

end HeatingHub.Watch
