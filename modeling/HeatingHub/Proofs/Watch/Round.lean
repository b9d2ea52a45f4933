import HeatingHub.Proofs.Watch.Timer
import HeatingHub.Watch.Basic

/-!
# Rounds of the watch

Each time the watch is asked, it performs the duties whose timers are due, in a fixed order, and
nothing else (`tick_eq_perform`). No duty touches the timer of another, so that each timer knows of
nothing but the times at which the watch was asked (`asked_timer`), and it is settled by these times
which duties are performed.
-/

namespace HeatingHub.Watch

/-- What the watch is asked with: the clocks, and the station and the connections of this moment. -/
structure Tick where
  now : Nat
  wall : Int
  station : Station
  board : Switchboard

/-- The watch after it was asked. -/
def after (watch : Watch) (tick : Tick) : Watch :=
  (watch.tick tick.now tick.wall tick.station tick.board).1

/-- The watch after it was asked several times. -/
def asked (watch : Watch) (ticks : List Tick) : Watch :=
  ticks.foldl after watch

/-- The duties of the watch. -/
inductive Duty
  | link
  | modem
  | daemon
  | stale
  | lost
  | boot
  deriving DecidableEq

namespace Duty

/-- All duties, in the order in which they are performed. -/
def all : List Duty :=
  [.link, .modem, .daemon, .stale, .lost, .boot]

/-- The timer of a duty. -/
def timer (duty : Duty) (watch : Watch) : Timer :=
  match duty with
  | .link => watch.linkTimer
  | .modem => watch.modemTimer
  | .daemon => watch.daemonTimer
  | .stale => watch.staleTimer
  | .lost => watch.lostTimer
  | .boot => watch.bootTimer

/-- Asks the timer of a duty. -/
def ask (now : Nat) (watch : Watch) (duty : Duty) : Watch :=
  match duty with
  | .link => { watch with linkTimer := watch.linkTimer.ask now }
  | .modem => { watch with modemTimer := watch.modemTimer.ask now }
  | .daemon => { watch with daemonTimer := watch.daemonTimer.ask now }
  | .stale => { watch with staleTimer := watch.staleTimer.ask now }
  | .lost => { watch with lostTimer := watch.lostTimer.ask now }
  | .boot => { watch with bootTimer := watch.bootTimer.ask now }

/-- Performs a duty, whatever its timer says. -/
def perform (now : Nat) (wall : Int) (state : Watch × Station × Switchboard) (duty : Duty) :
    Watch × Station × Switchboard :=
  let (watch, station, board) := state
  match duty with
  | .link => ((watch.checkLink station).1, (watch.checkLink station).2, board)
  | .modem => ((watch.checkModem station).1, (watch.checkModem station).2, board)
  | .daemon => ((watch.checkDaemon station).1, (watch.checkDaemon station).2, board)
  | .stale => (watch, station, board.sweepStale now maxIdle)
  | .lost => (watch, (sweepLost station wall).2, board)
  | .boot => (watch, announce station, board)

/-- Sees to a duty: asks its timer, and performs it if it is due. -/
def see (now : Nat) (wall : Int) (state : Watch × Station × Switchboard) (duty : Duty) :
    Watch × Station × Switchboard :=
  let asked := (ask now state.1 duty, state.2)
  if (duty.timer state.1).isDue now then perform now wall asked duty else asked

end Duty

/-- The duties that are due. -/
def due (watch : Watch) (now : Nat) : List Duty :=
  Duty.all.filter fun duty => (duty.timer watch).isDue now

/-! ## Each duty has its own timer -/

/-- A check of the link has to do with its streak only. -/
lemma checkLink_of_link {watch other : Watch} (same : other.link = watch.link)
    (station : Station) :
    other.checkLink station =
      ({ other with link := (watch.checkLink station).1.link }, (watch.checkLink station).2) := by
  rw [checkLink, checkLink, same]
  dsimp only
  split
  · rw [← same]
  · rfl
  · rfl

namespace Duty

variable {now : Nat} {wall : Int}

/-- To ask the timer of a duty leaves the others alone. -/
lemma timer_ask (duty other : Duty) (watch : Watch) :
    duty.timer (ask now watch other) =
      if duty = other then (duty.timer watch).ask now else duty.timer watch := by
  cases duty <;> cases other <;> rfl

/-- To perform a duty asks no timer. -/
lemma timer_perform (duty other : Duty) (state : Watch × Station × Switchboard) :
    duty.timer (perform now wall state other).1 = duty.timer state.1 := by
  cases other with
  | link =>
    have watch := congrArg Prod.fst (checkLink_of_link (rfl : state.1.link = _) state.2.1)
    rw [perform, watch]
    cases duty <;> rfl
  | _ => cases duty <;> rfl

/-- It does not matter whether a timer is asked before or after a duty is performed. -/
lemma perform_ask (duty other : Duty) (state : Watch × Station × Switchboard) :
    perform now wall (ask now state.1 other, state.2) duty =
      (ask now (perform now wall state duty).1 other, (perform now wall state duty).2) := by
  cases duty with
  | link =>
    have same : (ask now state.1 other).link = state.1.link := by cases other <;> rfl
    have asked := checkLink_of_link same state.2.1
    have unasked := checkLink_of_link (rfl : state.1.link = _) state.2.1
    rw [perform, perform, asked, unasked]
    cases other <;> rfl
  | _ => cases other <;> rfl

/-- It does not matter whether timers are asked before or after a duty is performed. -/
lemma perform_asks (duty : Duty) (others : List Duty) (state : Watch × Station × Switchboard) :
    perform now wall (others.foldl (ask now) state.1, state.2) duty =
      (others.foldl (ask now) (perform now wall state duty).1,
        (perform now wall state duty).2) := by
  induction others generalizing state with
  | nil => rfl
  | cons other others ih =>
    rw [List.foldl_cons, List.foldl_cons, ih (ask now state.1 other, state.2), perform_ask]

/-- To see to a duty leaves the timers of the others alone. -/
lemma timer_see {duty other : Duty} (apart : duty ≠ other)
    (state : Watch × Station × Switchboard) :
    duty.timer (see now wall state other).1 = duty.timer state.1 := by
  rw [see]
  split
  · rw [timer_perform, timer_ask, if_neg apart]
  · rw [timer_ask, if_neg apart]

/-- To see to one duty after the other is to ask all their timers, and to perform those that are
due. -/
lemma foldl_see {duties : List Duty} (distinct : duties.Nodup)
    (state : Watch × Station × Switchboard) :
    duties.foldl (see now wall) state =
      (duties.filter fun duty => (duty.timer state.1).isDue now).foldl (perform now wall)
        (duties.foldl (ask now) state.1, state.2) := by
  induction duties generalizing state with
  | nil => rfl
  | cons duty duties ih =>
    obtain ⟨new, distinct⟩ := List.nodup_cons.1 distinct
    have same : (duties.filter fun other => (other.timer (see now wall state duty).1).isDue now) =
        duties.filter fun other => (other.timer state.1).isDue now := by
      refine List.filter_congr fun other mem => ?_
      rw [timer_see]
      rintro rfl
      exact new mem
    rw [List.foldl_cons, ih distinct, same, List.foldl_cons, see, List.filter_cons]
    cases (duty.timer state.1).isDue now with
    | true =>
      exact congrArg (List.foldl (perform now wall) · _)
        (perform_asks duty duties (ask now state.1 duty, state.2)).symm
    | false => rfl

end Duty

/-! ## What the watch does -/

/-- The watch sees to its duties by functions of their own. -/
lemma Duty.see_eq (now : Nat) (wall : Int) (watch : Watch) (station : Station)
    (board : Switchboard) (duty : Duty) :
    Duty.see now wall (watch, station, board) duty =
      match duty with
      | .link => ((watch.linkDuty now station).1, (watch.linkDuty now station).2, board)
      | .modem => ((watch.modemDuty now station).1, (watch.modemDuty now station).2, board)
      | .daemon => ((watch.daemonDuty now station).1, (watch.daemonDuty now station).2, board)
      | .stale => ((watch.staleDuty now board).1, station, (watch.staleDuty now board).2)
      | .lost => ((watch.lostDuty now wall station).1, (watch.lostDuty now wall station).2, board)
      | .boot => ((watch.bootDuty now station).1, (watch.bootDuty now station).2, board) := by
  cases due : (duty.timer watch).isDue now <;> cases duty <;> rw [Duty.timer] at due <;>
    simp only [Duty.see, Duty.timer, linkDuty, modemDuty, daemonDuty, staleDuty, lostDuty,
      bootDuty, due] <;> rfl

/-- The watch sees to its duties one after the other. -/
lemma tick_eq_see (watch : Watch) (now : Nat) (wall : Int) (station : Station)
    (board : Switchboard) :
    watch.tick now wall station board =
      Duty.all.foldl (Duty.see now wall) (watch, station, board) := by
  simp only [Duty.all, List.foldl_cons, List.foldl_nil, Duty.see_eq]
  rfl

/-- The watch performs the duties that are due, and no others. -/
theorem tick_eq_perform (watch : Watch) (now : Nat) (wall : Int) (station : Station)
    (board : Switchboard) :
    watch.tick now wall station board =
      (watch.due now).foldl (Duty.perform now wall)
        (Duty.all.foldl (Duty.ask now) watch, station, board) := by
  rw [tick_eq_see, Duty.foldl_see (by decide)]
  rfl

/-- When the watch is asked, each of its timers is. -/
lemma after_timer (watch : Watch) (tick : Tick) (duty : Duty) :
    duty.timer (watch.after tick) = (duty.timer watch).ask tick.now := by
  have performed (duties : List Duty) (state : Watch × Station × Switchboard) :
      duty.timer (duties.foldl (Duty.perform tick.now tick.wall) state).1 =
        duty.timer state.1 := by
    induction duties generalizing state with
    | nil => rfl
    | cons other others ih => rw [List.foldl_cons, ih, Duty.timer_perform]
  rw [after, tick_eq_perform, performed]
  cases duty <;> rfl

/-- A timer knows of nothing but the times at which the watch was asked. -/
theorem asked_timer (watch : Watch) (ticks : List Tick) (duty : Duty) :
    duty.timer (watch.asked ticks) = (duty.timer watch).asked (ticks.map (·.now)) := by
  induction ticks generalizing watch with
  | nil => rfl
  | cons tick ticks ih =>
    rw [asked, List.foldl_cons, ← asked, ih, after_timer]
    rfl

end HeatingHub.Watch
