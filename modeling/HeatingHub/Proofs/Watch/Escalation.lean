import HeatingHub.Proofs.Station.Attempt
import HeatingHub.Watch.Basic
import Mathlib.Data.List.DropRight

/-!
# Escalation

Two parts of the host are checked without which no message reaches the hub, each with a streak of
its own. After any findings of one of them its streak has counted the failures since the last
success, up to a limit (`Streak.tally`). So a check falls back to the safe mode exactly at the sixth
failure in a row, and announces a recovery exactly at the first success after six failures or more
(`Part.check_judged`). It is no matter of the streak of the other part (`Part.check_streak`).
-/

namespace HeatingHub

/-! ## Streaks -/

/-- The failures since the last success among findings, of which the oldest is the first. -/
def failuresOf (findings : List Bool) : Nat :=
  (findings.rtakeWhile (!·)).length

/-- A success ends the failures in a row, and a failure is one more. -/
lemma failuresOf_concat (findings : List Bool) (healthy : Bool) :
    failuresOf (findings ++ [healthy]) = if healthy then 0 else failuresOf findings + 1 := by
  rw [failuresOf]
  cases healthy with
  | true =>
    rw [List.rtakeWhile_concat_neg _ _ _ (by decide), if_pos rfl]
    rfl
  | false =>
    rw [List.rtakeWhile_concat_pos _ _ _ rfl, List.length_append, if_neg Bool.false_ne_true]
    rfl

/-- Failures without a success among them add up. -/
lemma failuresOf_append {findings failures : List Bool} (down : true ∉ failures) :
    failuresOf (findings ++ failures) = failuresOf findings + failures.length := by
  induction failures generalizing findings with
  | nil => rw [List.append_nil, List.length_nil, Nat.add_zero]
  | cons healthy failures ih =>
    obtain ⟨failed, down⟩ := not_or.1 (mt List.mem_cons.2 down)
    rw [List.append_cons, ih down, failuresOf_concat, if_neg (Ne.symm failed), List.length_cons]
    omega

namespace Streak

/-- The streak with a threshold after so many failures in a row. -/
def tally (threshold failures : Nat) : Streak where
  threshold
  count := min failures limit

/-- A streak after one more finding. -/
def after (streak : Streak) (healthy : Bool) : Streak :=
  if healthy then streak.reset else streak.fail

/-- A failure is counted. -/
lemma tally_fail (threshold failures : Nat) :
    (tally threshold failures).fail = tally threshold (failures + 1) := by
  have counted : min (min failures limit + 1) limit = min (failures + 1) limit := by omega
  exact congrArg (mk threshold) counted

/-- A streak that has counted some findings counts one more. -/
lemma tally_after (threshold : Nat) (findings : List Bool) (healthy : Bool) :
    (tally threshold (failuresOf findings)).after healthy =
      tally threshold (failuresOf (findings ++ [healthy])) := by
  rw [failuresOf_concat]
  cases healthy with
  | true => rfl
  | false => exact tally_fail threshold _

/-- A streak is only empty when there is no failure. -/
lemma tally_count_pos (threshold failures : Nat) :
    0 < (tally threshold failures).count ↔ 0 < failures := by
  have limit : limit = 0xFFFFFFFF := rfl
  rw [tally]
  dsimp only
  omega

/-- However many failures follow, the threshold is reached once only. -/
lemma tally_isReached {threshold : Nat} (below : threshold < limit) (failures : Nat) :
    (tally threshold failures).fail.isReached ↔ failures + 1 = threshold := by
  rw [isReached, decide_eq_true_iff, fail, tally]
  dsimp only
  omega

/-- There were enough failures to act exactly if there were as many as the threshold says. -/
lemma tally_escalates {threshold : Nat} (below : threshold < limit) (failures : Nat) :
    (tally threshold failures).escalates (tally threshold failures).count ↔
      threshold ≤ failures := by
  rw [escalates, decide_eq_true_iff, tally]
  dsimp only
  omega

end Streak

namespace Watch

/-- What is made of a station when a part is found like this, after so many failures in a row. -/
structure Judged (station : Station) (failures : Nat) (healthy : Bool) (subject : String)
    (next : Station) : Prop where
  fleet :
    if healthy = false ∧ failures = 5 then station.fleet.Uniform .defrost next.fleet
    else next.fleet = station.fleet
  tried : next.post.tried = station.post.tried ++
    if healthy = true ∧ 6 ≤ failures then station.alerts (recoveryText subject) else []

section

variable {station next : Station} {failures : Nat} {healthy : Bool} {subject : String}

/-- At the sixth failure all heaters fall back to frost protection. -/
lemma Judged.falls (judged : Judged station failures healthy subject next)
    (sixth : healthy = false ∧ failures = 5) : station.fleet.Uniform .defrost next.fleet := by
  have fleet := judged.fleet
  rwa [if_pos sixth] at fleet

/-- Unless it is the sixth failure the fleet stays as it is. -/
lemma Judged.stands (judged : Judged station failures healthy subject next)
    (other : ¬ (healthy = false ∧ failures = 5)) : next.fleet = station.fleet := by
  have fleet := judged.fleet
  rwa [if_neg other] at fleet

/-- A recovery after six failures is announced. -/
lemma Judged.announces (judged : Judged station failures healthy subject next)
    (recovers : healthy = true ∧ 6 ≤ failures) :
    next.post.tried = station.post.tried ++ station.alerts (recoveryText subject) := by
  have tried := judged.tried
  rwa [if_pos recovers] at tried

end

/-- A verdict counts what was found. -/
lemma judge_streak (streak : Streak) (healthy : Bool) (subject : String) (station : Station) :
    (judge streak healthy subject station).1 = streak.after healthy := by
  rw [judge, Streak.after]
  split <;> rfl

/-- A part whose streak has the threshold of six is judged as it should be. -/
lemma judge_judged {threshold : Nat} (six : threshold = 6) (failures : Nat) (healthy : Bool)
    (subject : String) (station : Station) :
    Judged station failures healthy subject
      (judge (.tally threshold failures) healthy subject station).2 := by
  -- The streak counts far enough that both tests tell the number of failures.
  have below : threshold < Streak.limit := six ▸ by decide
  have announces := Streak.tally_escalates below failures
  have collapses := Streak.tally_isReached below failures
  rw [six] at announces collapses ⊢
  rw [Nat.succ_inj] at collapses
  rw [judge]
  cases healthy with
  | true =>
    rw [if_pos rfl]
    dsimp only
    constructor
    · rw [if_neg fun both => Bool.false_ne_true both.1.symm]
      split
      · exact (station.alert_answers _).fleet
      · rfl
    · by_cases many : 6 ≤ failures
      · rw [if_pos (announces.2 many), if_pos ⟨rfl, many⟩]
        exact station.alert_tried _
      · rw [if_neg (mt announces.1 many), if_neg fun both => many both.2]
        exact (List.append_nil _).symm
  | false =>
    rw [if_neg Bool.false_ne_true]
    dsimp only
    constructor
    · by_cases sixth : failures = 5
      · rw [if_pos ⟨rfl, sixth⟩, if_pos (collapses.2 sixth), Station.setAll,
          Station.setFleet_fleet]
        exact station.fleet.setAll_uniform .safe
      · rw [if_neg fun both => sixth both.2, if_neg (mt collapses.1 sixth)]
    · have silent : ¬ (false = true ∧ 6 ≤ failures) := fun both => Bool.false_ne_true both.1
      rw [if_neg silent, List.append_nil]
      split
      · exact congrArg Post.tried (station.setAll_revises .safe).post
      · rfl

/-! ## Parts -/

/-- The parts of the host without which no message reaches the hub. -/
inductive Part
  | modem
  | daemon
  deriving DecidableEq

namespace Part

/-- A part works: the modem is registered, at home or abroad, or the message daemon runs. -/
def works (part : Part) (vitals : Vitals) : Bool :=
  match part with
  | .modem => vitals.modem.isRegistered
  | .daemon => vitals.daemon

/-- The word for a part in its alerts. -/
def subject : Part → String
  | .modem => "modem"
  | .daemon => "SMS daemon"

/-- The number of failures in a row at which a part is given up. -/
def threshold : Part → Nat
  | .modem => modemThreshold
  | .daemon => daemonThreshold

/-- The streak of a part. -/
def streak (part : Part) (watch : Watch) : Streak :=
  match part with
  | .modem => watch.modem
  | .daemon => watch.daemon

/-- The timer of the duty to check a part. -/
def timer (part : Part) (watch : Watch) : Timer :=
  match part with
  | .modem => watch.modemTimer
  | .daemon => watch.daemonTimer

/-- Checks a part. -/
def check (part : Part) (watch : Watch) (station : Station) : Watch × Station :=
  match part with
  | .modem => watch.checkModem station
  | .daemon => watch.checkDaemon station

/-- Checks a part if its timer is due. -/
def duty (part : Part) (now : Nat) (watch : Watch) (station : Station) : Watch × Station :=
  match part with
  | .modem => watch.modemDuty now station
  | .daemon => watch.daemonDuty now station

/-- A check is counted by the streak of its own part only. -/
lemma check_streak (part other : Part) (watch : Watch) (station : Station) :
    part.streak (other.check watch station).1 =
      if other = part then (part.streak watch).after (part.works station.host.now)
      else part.streak watch := by
  cases other with
  | modem =>
    cases part with
    | modem => exact judge_streak ..
    | daemon => rfl
  | daemon =>
    cases part with
    | modem => rfl
    | daemon => exact judge_streak ..

/-- Both parts are given up at the sixth failure. -/
lemma threshold_eq (part : Part) : part.threshold = 6 := by
  cases part <;> rfl

/-- A check of a part whose streak has counted its failures judges it as it should. -/
lemma check_judged {part : Part} {watch : Watch} {failures : Nat}
    (counted : part.streak watch = .tally part.threshold failures) (station : Station) :
    Judged station failures (part.works station.host.now) part.subject
      (part.check watch station).2 := by
  -- To ask the host changes neither the fleet nor what is sent.
  cases part with
  | modem =>
    have judged := judge_judged (threshold_eq .modem) failures
      station.host.now.modem.isRegistered "modem" (station.ask (·.modem)).2
    rw [← counted] at judged
    exact ⟨judged.fleet, judged.tried⟩
  | daemon =>
    have judged := judge_judged (threshold_eq .daemon) failures station.host.now.daemon
      "SMS daemon" (station.ask (·.daemon)).2
    rw [← counted] at judged
    exact ⟨judged.fleet, judged.tried⟩

/-- A check of the link leaves the streaks of the parts alone. -/
lemma checkLink_streak (part : Part) (watch : Watch) (station : Station) :
    part.streak (watch.checkLink station).1 = part.streak watch := by
  rw [checkLink]
  dsimp only
  split <;> cases part <;> rfl

/-- The duty for the link leaves the streaks of the parts alone. -/
lemma linkDuty_streak (part : Part) (now : Nat) (watch : Watch) (station : Station) :
    part.streak (watch.linkDuty now station).1 = part.streak watch := by
  rw [linkDuty]
  split
  · refine (part.checkLink_streak _ _).trans ?_
    cases part <;> rfl
  · cases part <;> rfl

/-- A duty is a check when its timer is due, and otherwise it does nothing. -/
lemma duty_station (part : Part) (now : Nat) (watch : Watch) (station : Station) :
    (part.duty now watch station).2 =
      if (part.timer watch).isDue now then (part.check watch station).2 else station := by
  cases part with
  | modem =>
    rw [duty, modemDuty, timer]
    split <;> rfl
  | daemon =>
    rw [duty, daemonDuty, timer]
    split <;> rfl

/-- The duty for a part changes a streak as its check does, if its timer is due. -/
lemma duty_streak (part other : Part) (now : Nat) (watch : Watch) (station : Station) :
    part.streak (other.duty now watch station).1 =
      if (other.timer watch).isDue now then part.streak (other.check watch station).1
      else part.streak watch := by
  cases other with
  | modem =>
    rw [duty, modemDuty, timer]
    split <;> cases part <;> rfl
  | daemon =>
    rw [duty, daemonDuty, timer]
    split <;> cases part <;> rfl

end Part

end Watch

end HeatingHub
