import HeatingHub.Watch.Timer
import Mathlib.Data.List.Basic
import Mathlib.Data.List.Chain

/-!
# When timers fire

A timer that repeats knows of the past only when it last started, and it fires a period or more
after that (`isDue_every`). One that does not repeat fires at the first time at which it is asked
once its delay is over, and never again (`isDue_asked_once`). The times at which it is asked settle
which of them it fires at.

These times may come in any order. Whatever they were, a timer that repeats last started when it
last fired (`asked_every`), so that it fires by the law of `fires_by_history`, and seldom.
-/

namespace HeatingHub.Timer

/-- The timer after it was asked at these times, one after the other. -/
def asked (timer : Timer) (times : List Nat) : Timer :=
  times.foldl ask timer

/-- Those of the times at which the timer fires, when it is asked at one after the other. -/
def firings (timer : Timer) : List Nat → List Nat
  | [] => []
  | time :: times =>
    if timer.isDue time then time :: (timer.ask time).firings times
    else (timer.ask time).firings times

variable {period last now : Nat}

/-- To ask a timer that is not due changes nothing. -/
lemma ask_of_early {timer : Timer} (early : timer.isDue now = false) : timer.ask now = timer := by
  rw [ask, early, if_neg Bool.false_ne_true]

/-! ## Timers that repeat -/

/-- A repeating timer is due when its period has passed since it was started last. -/
lemma isDue_every : (every period last).isDue now ↔ last + period ≤ now := by
  simp [isDue, every]

/-- A repeating timer that is due is started again. -/
lemma ask_every_of_due (due : last + period ≤ now) :
    (every period last).ask now = every period now := by
  rw [ask, if_pos (isDue_every.2 due)]
  rfl

/-- A repeating timer that is not due stays as it is. -/
lemma ask_every_of_early (early : ¬ last + period ≤ now) :
    (every period last).ask now = every period last :=
  ask_of_early (Bool.eq_false_iff.2 (mt isDue_every.1 early))

/-! ## Timers that fire once -/

/-- A timer that is spent stays as it is. -/
lemma ask_of_spent {timer : Timer} (spent : timer.next = none) (time : Nat) :
    timer.ask time = timer := by
  simp [ask, isDue, spent]

/-- A timer that is spent stays as it is, however often it is asked. -/
lemma asked_of_spent {timer : Timer} (spent : timer.next = none) (times : List Nat) :
    timer.asked times = timer := by
  induction times with
  | nil => rfl
  | cons time times ih => rw [asked, List.foldl_cons, ask_of_spent spent, ← asked, ih]

/-- A timer that does not repeat fires when it is asked for the first time after its delay. -/
theorem isDue_asked_once {delay start : Nat} (times : List Nat) :
    ((once delay start).asked times).isDue now ↔
      start + delay ≤ now ∧ ∀ time ∈ times, time < start + delay := by
  induction times with
  | nil => simp [asked, isDue, once]
  | cons time times ih =>
    rw [asked, List.foldl_cons, ← asked, List.forall_mem_cons]
    by_cases fires : start + delay ≤ time
    · have spent : ((once delay start).ask time).next = none := by
        simp [ask, isDue, once, fires]
      rw [asked_of_spent spent, isDue, spent]
      exact iff_of_false Bool.false_ne_true fun early => Nat.not_lt.2 fires early.2.1
    · have waits : (once delay start).ask time = once delay start := by
        simp [ask, isDue, once, fires]
      rw [waits, ih]
      simp [Nat.lt_of_not_le fires]

/-! ## Histories -/

/-- A timer fires at the earlier times, and then goes on to the later ones. -/
lemma firings_append (timer : Timer) (times more : List Nat) :
    timer.firings (times ++ more) = timer.firings times ++ (timer.asked times).firings more := by
  induction times generalizing timer with
  | nil => rfl
  | cons time times ih =>
    rw [List.cons_append, firings, firings, ih, asked, asked, List.foldl_cons]
    split <;> rfl

/-- A timer fires only when it is asked, in the order of asking. -/
lemma firings_sublist (timer : Timer) (times : List Nat) :
    (timer.firings times).Sublist times := by
  induction times generalizing timer with
  | nil => exact .slnil
  | cons time times ih =>
    rw [firings]
    split
    · exact (ih _).cons_cons time
    · exact (ih _).cons time

/-- A repeating timer does not fire before its period has passed. -/
lemma firings_of_early {times : List Nat} (early : ∀ time ∈ times, time < last + period) :
    (every period last).firings times = [] := by
  induction times with
  | nil => rfl
  | cons time times ih =>
    obtain ⟨first, others⟩ := List.forall_mem_cons.1 early
    have waits : ¬ last + period ≤ time := Nat.not_le.2 first
    rw [firings, if_neg (mt isDue_every.1 waits), ask_every_of_early waits, ih others]

section

variable (period start : Nat) (times : List Nat)

/-- A timer that repeats last started when it last fired. -/
lemma asked_every :
    (every period start).asked times =
      every period (((every period start).firings times).getLastD start) := by
  -- By induction on the times, with the start general: a firing is the start of what follows.
  induction times generalizing start with
  | nil => rfl
  | cons time times ih =>
    rw [asked, List.foldl_cons, ← asked, firings]
    by_cases due : start + period ≤ time
    · rw [if_pos (isDue_every.2 due), ask_every_of_due due, List.getLastD_cons, ih]
    · rw [if_neg (mt isDue_every.1 due), ask_every_of_early due, ih]

/-- The firings are a period or more apart, the first one from the start. -/
lemma firings_isChain :
    (start :: (every period start).firings times).IsChain
      fun earlier later => earlier + period ≤ later := by
  induction times generalizing start with
  | nil => exact List.isChain_singleton start
  | cons time times ih =>
    rw [firings]
    by_cases due : start + period ≤ time
    · rw [if_pos (isDue_every.2 due), ask_every_of_due due]
      exact List.isChain_cons_cons.2 ⟨due, ih time⟩
    · rw [if_neg (mt isDue_every.1 due), ask_every_of_early due]
      exact ih start

end

/-- What steps up by a period or more each time has come far in the end. -/
lemma length_mul_le_getLastD {start : Nat} {times : List Nat}
    (apart : (start :: times).IsChain fun earlier later => earlier + period ≤ later) :
    start + times.length * period ≤ times.getLastD start := by
  induction times generalizing start with
  | nil => simp
  | cons time times ih =>
    obtain ⟨step, apart⟩ := List.isChain_cons_cons.1 apart
    have rest := ih apart
    rw [List.getLastD_cons, List.length_cons, Nat.succ_mul]
    omega

/-- The last firing is no later than the latest time. -/
lemma getLastD_firings_le (timer : Timer) (start : Nat) (times : List Nat) :
    (timer.firings times).getLastD start ≤ (start :: times).max (List.cons_ne_nil _ _) :=
  List.le_max_of_mem <|
    ((timer.firings_sublist times).cons_cons start).subset List.getLastD_mem_cons

/-- A timer that repeats is asked at any times, also at earlier ones again. It fires exactly if a
period has gone by since it last fired, or since the start if it never did. So its firings are a
period or more apart; there are no more of them than periods between the start and the latest time;
and when it fires late, it fires once, and not again before another period has gone by. A timer that
does not repeat fires exactly at the first time, of those at which it is asked, that is not before
the end of its delay. -/
theorem fires_by_history (period delay start : Nat) (times : List Nat) :
    let timer := every period start
    let latest := (start :: times).max (List.cons_ne_nil _ _)
    (∀ now, (timer.asked times).isDue now ↔ (timer.firings times).getLastD start + period ≤ now) ∧
    (start :: timer.firings times).IsChain (fun earlier later => earlier + period ≤ later) ∧
    (0 < period → (timer.firings times).length ≤ (latest - start) / period) ∧
    (∀ now later, (timer.asked times).isDue now → (∀ time ∈ later, time < now + period) →
      timer.firings (times ++ now :: later) = timer.firings times ++ [now]) ∧
    ∀ now, ((once delay start).asked times).isDue now ↔
      start + delay ≤ now ∧ ∀ time ∈ times, time < start + delay := by
  intro timer latest
  refine ⟨fun now => ?_, firings_isChain period start times, fun positive => ?_,
    fun now later due early => ?_, fun now => isDue_asked_once times⟩
  · rw [asked_every, isDue_every]
  · have far := length_mul_le_getLastD (firings_isChain period start times)
    have near := timer.getLastD_firings_le start times
    rw [Nat.le_div_iff_mul_le positive]
    exact Nat.le_sub_of_add_le' (far.trans near)
  · have renewed : (timer.asked times).ask now = every period now := by
      rw [asked_every] at due ⊢
      exact ask_every_of_due (isDue_every.1 due)
    rw [firings_append, firings, if_pos due, renewed, firings_of_early early]

/-- A timer of a minute is asked before its start, twice in its second minute, and not again for
seven minutes; then it is asked twice at one time, and once more at an earlier one. -/
theorem fires_by_history_of_missed :
    let timer := every 60 100
    let times := [40, 160, 90, 170]
    timer.firings times = [160] ∧
      (timer.asked times).isDue 590 ∧ timer.firings (times ++ [590, 590, 300]) = [160, 590] ∧
      (timer.firings (times ++ [590, 590, 300])).length ≤ (590 - 100) / 60 := by
  intro timer times
  have due : (timer.asked times).isDue 590 := by decide
  obtain ⟨-, -, -, once, -⟩ := fires_by_history 60 30 100 times
  obtain ⟨-, -, few, -, -⟩ := fires_by_history 60 30 100 (times ++ [590, 590, 300])
  exact ⟨by decide, due, once 590 [590, 300] due (by decide), few (by decide)⟩

end HeatingHub.Timer
