/-!
# Streaks of failures

A single failure of a check is no reason to act; a streak of them is. A streak counts the failures
since the last success, up to a limit, and reports the moment at which it reaches its threshold.
-/

namespace HeatingHub

/-- Consecutive failures of one check. -/
structure Streak where
  threshold : Nat
  count : Nat := 0
  deriving DecidableEq, Repr

namespace Streak

/-- The greatest number of failures that is counted. -/
def limit : Nat := 0xFFFFFFFF

/-- One more failure. -/
def fail (streak : Streak) : Streak :=
  { streak with count := min (streak.count + 1) limit }

/-- The number of failures is the threshold. -/
def isReached (streak : Streak) : Bool :=
  streak.count = streak.threshold

/-- The streak after a success. -/
def reset (streak : Streak) : Streak :=
  { streak with count := 0 }

/-- This many failures are enough to act. -/
def escalates (streak : Streak) (failures : Nat) : Bool :=
  streak.threshold ≤ failures

end Streak

end HeatingHub
