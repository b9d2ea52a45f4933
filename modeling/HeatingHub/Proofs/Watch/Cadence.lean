import HeatingHub.Proofs.Watch.Duties
import HeatingHub.Proofs.Watch.Escalation
import HeatingHub.Proofs.Watch.Round

/-!
# How soon the watch escalates

A check escalates when its streak of failures reaches the threshold. It comes a period or more after
the check before, and it brings the streak nearer to its threshold by one at most
(`Streak.distance_found`). So it takes as many periods as the streak is distant from its threshold
until a check escalates (`Check.log_distance`), and escalations keep this distance from the start,
from every success and from one another (`Check.log_apart`), however the watch is asked and whatever
the checks find.
-/

namespace HeatingHub

namespace Streak

/-- A streak after a finding, or after none. -/
def found (streak : Streak) (finding : Option Bool) : Streak :=
  finding.elim streak streak.after

/-- A finding makes a streak reach its threshold. -/
def strikes (streak : Streak) (finding : Option Bool) : Bool :=
  finding = some false && streak.fail.isReached

/-- The number of checks that it takes at least until the threshold is reached. When it has been
reached, there must be a success before. -/
def distance (streak : Streak) : Nat :=
  if streak.count < streak.threshold then streak.threshold - streak.count
  else streak.threshold + 1

/-- The threshold is no smaller than one, and failures are counted beyond it. -/
structure Sound (streak : Streak) : Prop where
  some : 0 < streak.threshold
  below : streak.threshold < limit

section

variable {streak : Streak}

/-- No finding moves the threshold. -/
lemma found_threshold (finding : Option Bool) :
    (streak.found finding).threshold = streak.threshold := by
  rcases finding with _ | _ | _ <;> rfl

/-- A sound streak stays so. -/
lemma Sound.found (sound : streak.Sound) (finding : Option Bool) :
    (streak.found finding).Sound := by
  constructor
  · rw [found_threshold]
    exact sound.some
  · rw [found_threshold]
    exact sound.below

/-- Only a failure can strike. -/
lemma strikes_iff {finding : Option Bool} :
    streak.strikes finding ↔ finding = some false ∧ streak.fail.isReached := by
  rw [strikes, Bool.and_eq_true, decide_eq_true_iff]

/-- A streak reaches its threshold when its failures, as far as they are counted, equal it. -/
lemma count_of_isReached (reached : streak.fail.isReached) :
    min (streak.count + 1) limit = streak.threshold :=
  of_decide_eq_true reached

/-- A streak that is struck was one failure away from its threshold. -/
lemma distance_of_strikes (sound : streak.Sound) {finding : Option Bool}
    (strikes : streak.strikes finding) : streak.distance = 1 := by
  have count := count_of_isReached (strikes_iff.1 strikes).2
  have below := sound.below
  rw [distance]
  split <;> omega

/-- After a success the whole threshold lies ahead. -/
lemma distance_of_success (sound : streak.Sound) :
    (streak.found (some true)).distance = streak.threshold := by
  have some := sound.some
  simp [distance, found, after, reset, some]

/-- When the threshold was reached, it takes a success and all the failures to reach it again. -/
lemma distance_of_escalation {finding : Option Bool} (strikes : streak.strikes finding) :
    (streak.found finding).distance = streak.threshold + 1 := by
  obtain ⟨rfl, reached⟩ := strikes_iff.1 strikes
  have past : ¬ streak.fail.count < streak.fail.threshold :=
    (count_of_isReached reached).not_lt
  exact if_neg past

/-- No finding brings a streak nearer to its threshold by more than one. -/
lemma distance_found (sound : streak.Sound) (finding : Option Bool) :
    streak.distance ≤ (streak.found finding).distance + 1 := by
  rcases finding with _ | _ | _
  · exact Nat.le_succ _
  · have below := sound.below
    have failed : streak.found (some false) = streak.fail := rfl
    rw [failed, distance, distance, fail]
    dsimp only
    split <;> split <;> omega
  · rw [distance_of_success sound, distance]
    split <;> omega

end

end Streak

namespace Watch

/-- The checks of the watch that have a streak. -/
inductive Check
  | link
  | part (part : Part)

/-- A check that was made: its time, what it found, if there was an answer, and whether it made the
streak reach its threshold. -/
structure Entry where
  time : Nat
  finding : Option Bool
  strikes : Bool

/-- The escalations in a log come this long after the start and after every success, and this long
after one another. -/
structure Spaced (started calm rest : Nat) (log : List Entry) : Prop where
  start : ∀ entry ∈ log, entry.strikes → started + calm ≤ entry.time
  apart : log.Pairwise fun earlier later => later.strikes →
    (earlier.finding = some true → earlier.time + calm ≤ later.time) ∧
    (earlier.strikes → earlier.time + rest ≤ later.time)

/-- What a duty meets when its turn comes. -/
def Duty.met (duty : Duty) (watch : Watch) (tick : Tick) : Watch × Station × Switchboard :=
  (Duty.all.takeWhile (· ≠ duty)).foldl (Duty.see tick.now tick.wall)
    (watch, tick.station, tick.board)

/-- What a duty leaves when its turn is over. -/
def Duty.left (duty : Duty) (watch : Watch) (tick : Tick) : Watch × Station × Switchboard :=
  Duty.see tick.now tick.wall (duty.met watch tick) duty

namespace Check

/-- The duty to make a check. -/
def duty : Check → Duty
  | .link => .link
  | .part .modem => .modem
  | .part .daemon => .daemon

/-- The streak of a check. -/
def streak (check : Check) (watch : Watch) : Streak :=
  match check with
  | .link => watch.link
  | .part which => which.streak watch

/-- What a check finds, if the host gives an answer. -/
def finding (check : Check) (vitals : Vitals) : Option Bool :=
  match check with
  | .link => vitals.link.toOption
  | .part which => some (which.works vitals)

/-- What a check finds when the watch is asked. -/
def finds (check : Check) (watch : Watch) (tick : Tick) : Option Bool :=
  check.finding (check.duty.met watch tick).2.1.host.now

/-- The check that is made when the watch is asked, if it is due. -/
def entry (check : Check) (watch : Watch) (tick : Tick) : Option Entry :=
  if (check.duty.timer watch).isDue tick.now then
    some
      { time := tick.now
        finding := check.finds watch tick
        strikes := (check.streak watch).strikes (check.finds watch tick) }
  else none

/-- The checks that are made when the watch is asked several times. -/
def log (check : Check) (watch : Watch) : List Tick → List Entry
  | [] => []
  | tick :: ticks => (check.entry watch tick).toList ++ check.log (watch.after tick) ticks

/-- A check is made and escalates when the watch is asked. -/
def strikes (check : Check) (watch : Watch) (tick : Tick) : Bool :=
  (check.entry watch tick).any (·.strikes)

end Check

/-! ## Streaks of a round -/

section

variable {now : Nat} {wall : Int}

/-- A check of the link counts what it finds. -/
lemma checkLink_link (watch : Watch) (station : Station) :
    (watch.checkLink station).1.link = watch.link.found station.host.now.link.toOption := by
  rw [checkLink, Station.ask]
  dsimp only
  cases answer : station.host.now.link with
  | error => rfl
  | ok healthy => cases healthy <;> rfl

/-- To ask a timer changes no streak. -/
lemma Check.streak_ask (check : Check) (watch : Watch) (duty : Duty) :
    check.streak (Duty.ask now watch duty) = check.streak watch := by
  cases check with
  | link => cases duty <;> rfl
  | part part => cases part <;> cases duty <;> rfl

/-- To perform a duty changes the streak of its own check only. -/
lemma Check.streak_perform (check : Check) (state : Watch × Station × Switchboard) (duty : Duty) :
    check.streak (Duty.perform now wall state duty).1 =
      if duty = check.duty then
        (check.streak state.1).found (check.finding state.2.1.host.now)
      else check.streak state.1 := by
  cases check with
  | link =>
    cases duty with
    | link => exact checkLink_link state.1 state.2.1
    | _ => rfl
  | part which =>
    cases duty with
    | link =>
      rw [if_neg (by cases which <;> decide)]
      exact which.checkLink_streak state.1 state.2.1
    | modem =>
      have counted := which.check_streak .modem state.1 state.2.1
      cases which <;> exact counted
    | daemon =>
      have counted := which.check_streak .daemon state.1 state.2.1
      cases which <;> exact counted
    | _ => cases which <;> rfl

/-- The streak of a check is changed by its own duty only. -/
lemma Check.streak_see (check : Check) (state : Watch × Station × Switchboard) (duty : Duty) :
    check.streak (Duty.see now wall state duty).1 =
      if duty = check.duty ∧ (duty.timer state.1).isDue now then
        (check.streak state.1).found (check.finding state.2.1.host.now)
      else check.streak state.1 := by
  rw [Duty.see]
  cases (duty.timer state.1).isDue now with
  | true =>
    rw [if_pos rfl, check.streak_perform]
    simp [check.streak_ask]
  | false => simp [check.streak_ask]

/-- The timer of a duty is not asked by others. -/
lemma Duty.timer_foldl_see {duty : Duty} {others : List Duty} (apart : duty ∉ others)
    (state : Watch × Station × Switchboard) :
    duty.timer (others.foldl (Duty.see now wall) state).1 = duty.timer state.1 := by
  induction others generalizing state with
  | nil => rfl
  | cons other others ih =>
    rw [List.mem_cons, not_or] at apart
    rw [List.foldl_cons, ih apart.2, Duty.timer_see apart.1]

/-- The streak of a check is not changed by other duties. -/
lemma Check.streak_foldl_see {check : Check} {others : List Duty} (apart : check.duty ∉ others)
    (state : Watch × Station × Switchboard) :
    check.streak (others.foldl (Duty.see now wall) state).1 = check.streak state.1 := by
  induction others generalizing state with
  | nil => rfl
  | cons other others ih =>
    rw [List.mem_cons, not_or] at apart
    rw [List.foldl_cons, ih apart.2, check.streak_see, if_neg fun both => apart.1 both.1.symm]

end

section

variable (check : Check) (watch : Watch) (tick : Tick)

/-- When the turn of a duty comes, its timer has not been asked yet. -/
lemma Duty.met_timer (duty : Duty) : duty.timer (duty.met watch tick).1 = duty.timer watch :=
  Duty.timer_foldl_see (by cases duty <;> decide) _

/-- When the turn of a check comes, its streak has not been changed yet. -/
lemma Check.met_streak : check.streak (check.duty.met watch tick).1 = check.streak watch := by
  refine Check.streak_foldl_see ?_ _
  rcases check with _ | _ | _ <;> decide

/-- The watch sees to the duties before one, then to this one, and then to the others. -/
lemma Duty.after_eq (duty : Duty) :
    watch.after tick =
      (((Duty.all.dropWhile (· ≠ duty)).tail).foldl (Duty.see tick.now tick.wall)
        (duty.left watch tick)).1 := by
  rw [after, tick_eq_see, Duty.left, Duty.met]
  cases duty <;> rfl

/-- A check counts what it finds when it is due. -/
lemma Check.after_streak :
    check.streak (watch.after tick) =
      if (check.duty.timer watch).isDue tick.now then
        (check.streak watch).found (check.finds watch tick)
      else check.streak watch := by
  have apart : check.duty ∉ (Duty.all.dropWhile (· ≠ check.duty)).tail := by
    rcases check with _ | _ | _ <;> decide
  rw [Duty.after_eq watch tick check.duty, Check.streak_foldl_see apart, Duty.left,
    Check.streak_see, Duty.met_timer, Check.met_streak, Check.finds]
  simp

end

/-! ## Distances -/

namespace Check

/-- The time between two checks. -/
def period : Check → Nat
  | .link => linkPeriod
  | .part .modem => modemPeriod
  | .part .daemon => daemonPeriod

/-- A check was last made at this time, or the watch started then. -/
structure Made (check : Check) (last : Nat) (watch : Watch) : Prop where
  timer : check.duty.timer watch = .every check.period last
  sound : (check.streak watch).Sound

variable {check : Check} {last : Nat} {watch : Watch}

/-- A check is due when its period has passed since it was last made. -/
lemma Made.isDue (made : check.Made last watch) {now : Nat} :
    (check.duty.timer watch).isDue now ↔ last + check.period ≤ now := by
  rw [made.timer]
  exact Timer.isDue_every

/-- A check that is not due is not made, and nothing is counted. -/
lemma Made.early (made : check.Made last watch) {tick : Tick}
    (early : ¬ last + check.period ≤ tick.now) :
    check.entry watch tick = none ∧ check.streak (watch.after tick) = check.streak watch ∧
      check.Made last (watch.after tick) := by
  have streak : check.streak (watch.after tick) = check.streak watch := by
    rw [check.after_streak, if_neg (mt made.isDue.1 early)]
  refine ⟨if_neg (mt made.isDue.1 early), streak, ?_, streak ▸ made.sound⟩
  rw [after_timer, made.timer, Timer.ask_every_of_early early]

/-- A check that is due is made, and its finding is counted. -/
lemma Made.due (made : check.Made last watch) {tick : Tick}
    (due : last + check.period ≤ tick.now) :
    ∃ finding, check.entry watch tick =
        some
          { time := tick.now
            finding
            strikes := (check.streak watch).strikes finding } ∧
      check.streak (watch.after tick) = (check.streak watch).found finding ∧
      check.Made tick.now (watch.after tick) := by
  have streak : check.streak (watch.after tick) =
      (check.streak watch).found (check.finds watch tick) := by
    rw [check.after_streak, if_pos (made.isDue.2 due)]
  refine ⟨check.finds watch tick, if_pos (made.isDue.2 due), streak, ?_,
    streak ▸ made.sound.found _⟩
  rw [after_timer, made.timer, Timer.ask_every_of_due due]

/-- A tick that comes too early does not show in the log of a check. -/
lemma Made.log_of_early (made : check.Made last watch) {tick : Tick}
    (early : ¬ last + check.period ≤ tick.now) (ticks : List Tick) :
    check.log watch (tick :: ticks) = check.log (watch.after tick) ticks := by
  rw [log, (made.early early).1]
  rfl

/-- A check that escalates has its distance from the last one. -/
theorem log_distance (made : check.Made last watch) (ticks : List Tick) :
    ∀ entry ∈ check.log watch ticks, entry.strikes →
      last + (check.streak watch).distance * check.period ≤ entry.time := by
  induction ticks generalizing watch last with
  | nil => exact fun _ mem => absurd mem List.not_mem_nil
  | cons tick ticks ih =>
    by_cases due : last + check.period ≤ tick.now
    · obtain ⟨finding, first, streak, made'⟩ := made.due due
      intro entry mem strikes
      rw [log, first, Option.toList_some, List.singleton_append, List.mem_cons] at mem
      obtain rfl | mem := mem
      · rw [Streak.distance_of_strikes made.sound strikes, Nat.one_mul]
        exact due
      · have later := ih made' entry mem strikes
        have near := Streak.distance_found made.sound finding
        rw [streak] at later
        -- A period has passed for a finding that takes at most one off the distance.
        calc last + (check.streak watch).distance * check.period
            ≤ last + (((check.streak watch).found finding).distance + 1) * check.period :=
              Nat.add_le_add_left (Nat.mul_le_mul_right _ near) _
          _ = last + check.period +
                ((check.streak watch).found finding).distance * check.period := by
              rw [Nat.succ_mul]
              omega
          _ ≤ tick.now + ((check.streak watch).found finding).distance * check.period :=
              Nat.add_le_add_right due _
          _ ≤ entry.time := later
    · obtain ⟨-, streak, made'⟩ := made.early due
      rw [made.log_of_early due, ← streak]
      exact ih made'

/-- Escalations keep their distance from successes and from each other. -/
theorem log_apart (made : check.Made last watch) (ticks : List Tick) :
    (check.log watch ticks).Pairwise fun earlier later => later.strikes →
      (earlier.finding = some true →
        earlier.time + (check.streak watch).threshold * check.period ≤ later.time) ∧
      (earlier.strikes →
        earlier.time + ((check.streak watch).threshold + 1) * check.period ≤ later.time) := by
  induction ticks generalizing watch last with
  | nil => exact .nil
  | cons tick ticks ih =>
    by_cases due : last + check.period ≤ tick.now
    · obtain ⟨finding, first, streak, made'⟩ := made.due due
      have rest := ih made'
      rw [streak, Streak.found_threshold] at rest
      rw [log, first, Option.toList_some, List.singleton_append, List.pairwise_cons]
      refine ⟨fun next mem strikes => ?_, rest⟩
      have later := log_distance made' ticks next mem strikes
      rw [streak] at later
      constructor
      · rintro rfl
        rwa [Streak.distance_of_success made.sound] at later
      · intro struck
        rwa [Streak.distance_of_escalation struck] at later
    · obtain ⟨-, streak, made'⟩ := made.early due
      rw [made.log_of_early due, ← streak]
      exact ih made'

end Check

/-! ## What an escalation does -/

/-- A check strikes when it is due and its finding strikes the streak. -/
lemma Check.strikes_eq (check : Check) (watch : Watch) (tick : Tick) :
    check.strikes watch tick = ((check.duty.timer watch).isDue tick.now &&
      (check.streak watch).strikes (check.finds watch tick)) := by
  rw [strikes, entry]
  cases (check.duty.timer watch).isDue tick.now <;> rfl

/-- A part collapses exactly if the finding strikes its streak. -/
lemma strikes_eq_collapses (streak : Streak) (healthy : Bool) :
    streak.strikes (some healthy) = collapses streak healthy := by
  cases healthy <;> rfl

/-- The heaters are set to the safe mode exactly if the check of a part escalates. -/
lemma Part.see_checked (which : Part) (now : Nat) (wall : Int)
    (state : Watch × Station × Switchboard) :
    Checked state.2.1
      (((Check.part which).duty.timer state.1).isDue now &&
        collapses (which.streak state.1) (which.works state.2.1.host.now))
      (Duty.see now wall state (Check.part which).duty).2.1 := by
  obtain ⟨watch, station, board⟩ := state
  rw [Duty.see_eq]
  cases which with
  | modem => exact modemDuty_checked now watch station
  | daemon => exact daemonDuty_checked now watch station

/-- In its turn the duty for a part sets the heaters to the safe mode exactly if its check
strikes. -/
lemma Part.left_checked (which : Part) (watch : Watch) (tick : Tick) :
    Checked ((Check.part which).duty.met watch tick).2.1 ((Check.part which).strikes watch tick)
      ((Check.part which).duty.left watch tick).2.1 := by
  have checked := which.see_checked tick.now tick.wall ((Check.part which).duty.met watch tick)
  have streak : which.streak ((Check.part which).duty.met watch tick).1 =
      (Check.part which).streak watch := (Check.part which).met_streak watch tick
  rw [Duty.met_timer, streak, ← strikes_eq_collapses] at checked
  rwa [Check.strikes_eq]

/-- What a check of the link tells the emergency phone: that the link is lost when its streak
reaches the threshold, and that it is up again after a failure. -/
lemma checkLink_tried (watch : Watch) (station : Station) :
    (watch.checkLink station).2.post.tried = station.post.tried ++
      if watch.link.strikes station.host.now.link.toOption then station.alerts linkLostText
      else if station.host.now.link.toOption = some true ∧ 0 < watch.link.count then
        station.alerts linkRestoredText
      else [] := by
  have told (text : String) : ((station.ask (·.link)).2.alert text).post.tried =
      station.post.tried ++ station.alerts text := Station.alert_tried _ text
  have silent : (station.ask (·.link)).2.post.tried = station.post.tried ++ [] :=
    (List.append_nil _).symm
  have answer : (station.ask (·.link)).1 = station.host.now.link := rfl
  rw [checkLink]
  dsimp only
  rw [answer]
  cases station.host.now.link with
  | error => exact silent
  | ok healthy =>
    cases healthy with
    | true =>
      by_cases failed : 0 < watch.link.count
      · simp [failed, told, Except.toOption, Streak.strikes]
      · simp [failed, silent, Except.toOption, Streak.strikes]
    | false =>
      by_cases reached : watch.link.fail.isReached
      · simp [reached, told, Except.toOption, Streak.strikes]
      · simp [reached, silent, Except.toOption, Streak.strikes]

/-- The loss of the link is reported exactly if its check escalates. -/
lemma link_left_tried (watch : Watch) (tick : Tick) :
    (Duty.link.left watch tick).2.1.post.tried = tick.station.post.tried ++
      if Check.link.strikes watch tick then tick.station.alerts linkLostText
      else if (Check.link.entry watch tick).any (·.finding = some true) ∧ 0 < watch.link.count then
        tick.station.alerts linkRestoredText
      else [] := by
  have seen : Duty.link.left watch tick =
      Duty.see tick.now tick.wall (watch, tick.station, tick.board) .link := rfl
  have finds : Check.link.finds watch tick = tick.station.host.now.link.toOption := rfl
  rw [seen, Duty.see, Check.strikes_eq, Check.entry, finds]
  by_cases due : (Duty.link.timer watch).isDue tick.now
  · simp only [Check.duty, due, Bool.true_and, if_true, Option.any_some, decide_eq_true_iff]
    exact checkLink_tried (Duty.ask tick.now watch .link) tick.station
  · simp [Check.duty, due]

/-- The start is announced exactly if its timer is due: the emergency phone is told the modes in
use. -/
lemma boot_left_tried (watch : Watch) (tick : Tick) :
    (Duty.boot.left watch tick).2.1.post.tried =
      (Duty.boot.met watch tick).2.1.post.tried ++
        if Duty.boot ∈ watch.due tick.now then
          (Duty.boot.met watch tick).2.1.alerts (bootText (Duty.boot.met watch tick).2.1.fleet)
        else [] := by
  have listed : Duty.boot ∈ watch.due tick.now ↔ (Duty.boot.timer watch).isDue tick.now := by
    rw [due, List.mem_filter]
    exact and_iff_right (by decide)
  rw [Duty.left, Duty.see, Duty.met_timer]
  by_cases due : (Duty.boot.timer watch).isDue tick.now
  · rw [if_pos due, if_pos (listed.2 due)]
    exact Station.alert_tried _ _
  · rw [if_neg due, if_neg (mt listed.1 due), List.append_nil]

/-! ## From the start -/

namespace Check

/-- The number of failures in a row at which a check escalates. -/
def threshold : Check → Nat
  | .link => linkThreshold
  | .part which => which.threshold

variable (check : Check) (started : Nat)

/-- A watch that starts has counted no failures. -/
lemma start_streak :
    check.streak (Watch.start started) =
      { threshold := check.threshold
        count := 0 } := by
  rcases check with _ | _ | _ <;> rfl

/-- A watch that starts makes its first checks after their periods. -/
lemma start_made : check.Made started (Watch.start started) where
  timer := by rcases check with _ | _ | _ <;> rfl
  sound := by
    rw [start_streak]
    rcases check with _ | _ | _ <;> exact ⟨by decide, by decide⟩

/-- A watch that starts has all of each threshold before it. -/
lemma start_distance : (check.streak (Watch.start started)).distance = check.threshold := by
  rw [start_streak]
  rcases check with _ | _ | _ <;> rfl

/-- From the start on, it takes as many periods as the threshold says until a check escalates, and
one more until it escalates again. -/
theorem log_spaced (ticks : List Tick) :
    Spaced started (check.threshold * check.period) ((check.threshold + 1) * check.period)
      (check.log (Watch.start started) ticks) where
  start := check.start_distance started ▸ log_distance (check.start_made started) ticks
  apart := by
    have apart := log_apart (check.start_made started) ticks
    rwa [start_streak] at apart

end Check

/-- However the watch is asked, and whatever the host answers: it sets the heaters to the safe mode
for the sake of the modem no sooner than 30 minutes after the start and after every check that found
the modem registered, and no sooner than 35 minutes after it did so the last time; the same holds
for the message daemon. It reports the loss of the link no sooner than 15 minutes after the start,
and 16 minutes after the last report. It announces the start once, as soon as it is asked 30 seconds
after the start or later, and tells the emergency phone the modes in use. Which duties it performs
is settled by the times at which it is asked. -/
theorem escalations_apart (started : Nat) (ticks : List Tick) :
    let first := Watch.start started
    let watch := first.asked ticks
    (∀ which : Part, Spaced started (Duration.minutes 30) (Duration.minutes 35)
      ((Check.part which).log first ticks)) ∧
    Spaced started (Duration.minutes 15) (Duration.minutes 16) (Check.link.log first ticks) ∧
    (∀ tick which, Checked ((Check.part which).duty.met watch tick).2.1
      ((Check.part which).strikes watch tick) ((Check.part which).duty.left watch tick).2.1) ∧
    (∀ tick, (Duty.link.left watch tick).2.1.post.tried = tick.station.post.tried ++
      if Check.link.strikes watch tick then tick.station.alerts linkLostText
      else if (Check.link.entry watch tick).any (·.finding = some true) ∧ 0 < watch.link.count then
        tick.station.alerts linkRestoredText
      else []) ∧
    (∀ now, Duty.boot ∈ watch.due now ↔ started + Duration.seconds 30 ≤ now ∧
      ∀ tick ∈ ticks, tick.now < started + Duration.seconds 30) ∧
    (∀ tick,
      let met := (Duty.boot.met watch tick).2.1
      (Duty.boot.left watch tick).2.1.post.tried = met.post.tried ++
        if Duty.boot ∈ watch.due tick.now then met.alerts (bootText met.fleet) else []) ∧
    (∀ now wall station board, watch.tick now wall station board =
      (watch.due now).foldl (Duty.perform now wall)
        (Duty.all.foldl (Duty.ask now) watch, station, board)) ∧
    ∀ now, watch.due now = Duty.all.filter fun duty =>
      ((duty.timer first).asked (ticks.map (·.now))).isDue now := by
  intro first watch
  have due (now : Nat) : watch.due now = Duty.all.filter fun duty =>
      ((duty.timer first).asked (ticks.map (·.now))).isDue now := by
    refine List.filter_congr fun duty _ => ?_
    rw [asked_timer]
  refine ⟨fun which => ?_, Check.link.log_spaced started ticks,
    fun tick which => which.left_checked watch tick, link_left_tried watch, fun now => ?_,
    boot_left_tried watch, tick_eq_perform watch, due⟩
  · cases which with
    | modem => exact (Check.part .modem).log_spaced started ticks
    | daemon => exact (Check.part .daemon).log_spaced started ticks
  · have once : Duty.boot.timer first = .once bootDelay started := rfl
    rw [due, List.mem_filter, once, Timer.isDue_asked_once]
    simp [Duty.all, bootDelay]

/-- The modem works once in more than an hour. The heaters are set to the safe mode as soon as that
can be, which is half an hour after the start and again half an hour after the modem worked. -/
theorem escalations_apart_of_outage :
    let answers (minute : Nat) : Vitals :=
      { link := .ok true, modem := if minute = 35 then .registered else .absent, daemon := true
        publicIp := .ok "", uptime := .ok "", wifi := .ok "", logs := .ok "", reboot := .ok () }
    let tick (minute : Nat) : Tick :=
      { now := Duration.minutes minute
        wall := 0
        station := { disk := { file := .missing }, host := { answers _ := answers minute } }
        board := {} }
    let before := [5, 10, 15, 20, 25].map tick
    let watch := (Watch.start 0).asked before
    let ticks := before ++ [30, 35, 40, 45, 50, 55, 60, 65].map tick
    let log := (Check.part .modem).log (Watch.start 0) ticks
    (log.filter (·.strikes)).map (·.time) = [Duration.minutes 30, Duration.minutes 65] ∧
      Spaced 0 (Duration.minutes 30) (Duration.minutes 35) log ∧
      Checked ((Check.part .modem).duty.met watch (tick 30)).2.1 true
        ((Check.part .modem).duty.left watch (tick 30)).2.1 ∧
      Duty.boot ∈ (Watch.start 0).due (Duration.minutes 5) ∧
      Duty.boot ∉ watch.due (Duration.minutes 30) := by
  intro answers tick before watch ticks log
  have asked : (Watch.start 0).asked before = watch := rfl
  obtain ⟨-, -, checked, -, boot, -⟩ := escalations_apart 0 before
  rw [asked] at checked boot
  have struck : (Check.part .modem).strikes watch (tick 30) = true := by
    decide +kernel
  refine ⟨by decide +kernel, (escalations_apart 0 ticks).1 .modem, ?_, ?_, fun mem => ?_⟩
  · clear_value watch
    have fell := checked (tick 30) .modem
    rwa [struck] at fell
  · exact ((escalations_apart 0 []).2.2.2.2.1 _).2 ⟨by decide, fun _ mem => by cases mem⟩
  · exact absurd (((boot _).1 mem).2 (tick 5) (.head _)) (by decide)

end Watch

end HeatingHub
